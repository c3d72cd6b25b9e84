import HalBench.Shell.Builtin.Places
import HalBench.Shell.Utility.Paths
/-!
# Utilities for files

Programs that make, copy, move and remove files, directories and links.
-/

namespace HalBench.Shell.Utility

def setFiles (files : Files.Tree) : Action Unit := modify fun s => { s with files }

/-- The rights that a word asks for, given those that are there; none if it asks for none. -/
def rightsOf? (word : Text) (mask rights : Nat) : Option Nat :=
  if word.isEmpty then none
  else if word.all Char.isDigit then
    if word.all (fun c => digitValue c < 8) && (digitsIn 8 word).1 < 4096 then
      some ((digitsIn 8 word).1 % 512)
    else none
  else
    let asks := word.any fun c => ['+', '-', '='].contains c
    let named := (cutAt ',' word).all fun part =>
      match part.dropWhile fun c => ['u', 'g', 'o', 'a'].contains c with
      | c :: _ => ['+', '-', '='].contains c
      | [] => false
    let changed := Builtin.changedRights? (word.length + 1) [] word rights
    if asks && named then
      if (word.head?.map fun c => ['+', '-', '='].contains c).getD false then
        changed.map fun n => (n &&& (511 - mask)) ||| (rights &&& mask)
      else changed
    else none

def octalRights (n : Nat) : Text :=
  let digits := Nat.toDigits 8 n
  List.replicate (4 - digits.length) '0' ++ digits

def letterRights (n : Nat) : Text :=
  let one (n : Nat) : Text :=
    [if n / 4 % 2 = 1 then 'r' else '-', if n / 2 % 2 = 1 then 'w' else '-',
      if n % 2 = 1 then 'x' else '-']
  one (n / 64) ++ one (n / 8) ++ one n

def rightsAt (node : Files.Node) : Nat :=
  match node with
  | .file _ false => 420
  | .device _ => 438
  | .link _ => 511
  | _ => 493

def mkdir : Utility := fun words =>
  withOptions
    { letters := "m:pvZ"
      names := [("mode", 'm', .needed), ("parents", 'p', .none), ("verbose", 'v', .none)] } 1 words
    fun o operands => do
      let s ← get
      match operands, (value? o 'm').map fun m => (rightsOf? m s.mask 511).isSome with
      | [], _ => missingOperand 1
      | _, some false => refuse 1 (ofString "invalid mode " ++ quote ((value? o 'm').getD []))
      | operands, _ =>
        let make (path : Text) : Action (Option SystemFault) := do
          match (← get).files.makeDirectory (toBytes path) with
          | .ok files =>
            setFiles files
            if has o 'v' then Action.print ((← get).program ++ ofString ": created directory "
              ++ inQuotes path ++ ['\n'])
            return none
          | .error fault => return some fault
        let fail (path : Text) (fault : SystemFault) : Action Nat := do
          complainOf (ofString "cannot create directory ") (inQuotes path) fault
          return 1
        operands.foldlM (fun status path => do
          if !has o 'p' then
            match ← make path with
            | none => return status
            | some fault => fail path fault
          else
            let names := (cutAt '/' path).filter (!·.isEmpty)
            let root : Text := if path.head? == some '/' then ['/'] else []
            let steps := (List.range names.length).map fun n =>
              root ++ joinWith ['/'] (names.take (n + 1))
            if steps.isEmpty then if path.isEmpty then fail path .noSuchFile else return status
            else
              let (failed, status) ← steps.foldlM (fun (failed, status) step => do
                if failed || isDirectory (← get) step then return (failed, status)
                else
                  match ← make step with
                  | none => return (false, status)
                  | some fault =>
                    let isLast := step.length = (trimSlashes path).length
                    let fault := if fault = .fileExists && !isLast then .notADirectory else fault
                    return (true, ← fail step fault)) (false, status)
              return if failed then 1 else status) 0

def parentsOf (path : Text) : List Text :=
  let names := (cutAt '/' (trimSlashes path)).filter (!·.isEmpty)
  let root : Text := if path.head? == some '/' then ['/'] else []
  ((List.range names.length).map fun n => root ++ joinWith ['/'] (names.take n)).reverse.filter
    fun p => !p.isEmpty && p != ['/']

/-- Removes empty directories, and those above them if asked for. -/
def rmdir : Utility := fun words =>
  withOptions
    { letters := "pv"
      names := [("parents", 'p', .none), ("verbose", 'v', .none),
        ("ignore-fail-on-non-empty", 'i', .none)] } 1 words
    fun o operands => do
      if operands.isEmpty then missingOperand 1
      else
        let remove (path : Text) : Action (Option SystemFault) := do
          if has o 'v' then
            let program := (← get).program
            Action.print (program ++ ofString ": removing directory, " ++ inQuotes path ++ ['\n'])
          let s ← get
          match s.files.locate false (toBytes path) with
          | .ok (.present names .directory) =>
            if (s.files.children names).isEmpty then
              setFiles (s.files.erase names)
              return none
            else return some .notEmpty
          | .ok (.present ..) => return some .notADirectory
          | .ok (.absent ..) => return some .noSuchFile
          | .error fault => return some fault
        operands.foldlM (fun status path => do
          let paths := path :: (if has o 'p' then parentsOf path else [])
          let (status, _) ← paths.foldlM (fun (status, failed) p => do
            if failed then return (status, true)
            else
              match ← remove p with
              | none => return (status, false)
              | some fault =>
                if fault = .notEmpty && has o 'i' then return (status, true)
                else
                  complainOf (ofString (if p == path then "failed to remove "
                    else "failed to remove directory ")) (inQuotes p) fault
                  return (1, true)) (status, false)
          return status) 0

def allBelow (files : Files.Tree) (names : List Bytes) : List (List Bytes × Files.Node) :=
  let inside := files.nodes.filter fun n => names.isPrefixOf n.1 && n.1 != names
  let key (n : List Bytes × Files.Node) : Text := n.1.flatMap fun b => '\x00' :: ofBytes b
  (inside.mergeSort fun a b =>
    if a.1.isPrefixOf b.1 then false
    else if b.1.isPrefixOf a.1 then true
    else textLe (key a) (key b))

/-- Removes files, and directories with all that is in them if asked for. -/
def rm : Utility := fun words =>
  withOptions
    { letters := "dfiIrRv"
      names := [("dir", 'd', .none), ("force", 'f', .none), ("recursive", 'r', .none),
        ("verbose", 'v', .none), ("interactive", 'y', .possible),
        ("one-file-system", 'x', .none), ("no-preserve-root", 'n', .none),
        ("preserve-root", 'p', .possible)] } 1 words
    fun o operands => do
      let recursive := has o 'r' || has o 'R'
      let force := has o 'f'
      let fail (path : Text) (fault : SystemFault) : Action Nat := do
        complainOf (ofString "cannot remove ") (inQuotes path) fault
        return 1
      if operands.isEmpty then if force then return 0 else missingOperand 1
      else
        operands.foldlM (fun status path => do
          let s ← get
          let last := lastName path
          if recursive && (last == ['.'] || last == ['.', '.']) then
            complain (ofString "refusing to remove '.' or '..' directory: skipping "
              ++ inQuotes path)
            return 1
          else
          match s.files.locate false (toBytes path) with
          | .ok (.present [] _) =>
            if recursive then
              complain (ofString "it is dangerous to operate recursively on '/'")
              complain (ofString "use --no-preserve-root to override this failsafe")
              return 1
            else fail path .isADirectory
          | .ok (.present names .directory) =>
            let inside := allBelow s.files names
            if !recursive then
              if !has o 'd' then fail path .isADirectory
              else if inside.isEmpty then
                setFiles (s.files.erase names)
                if has o 'v' then
                  Action.print (ofString "removed directory " ++ inQuotes path ++ ['\n'])
                return status
              else fail path .notEmpty
            else
              setFiles { s.files with nodes := s.files.nodes.filter fun n => !names.isPrefixOf n.1 }
              if has o 'v' then
                (inside ++ [(names, Files.Node.directory)]).forM fun (n, node) =>
                  let rest := n.drop names.length
                  let name := rest.foldl (fun p b => below p (ofBytes b)) path
                  let kind :=
                    if node == Files.Node.directory then "removed directory " else "removed "
                  Action.print (ofString kind ++ inQuotes name ++ ['\n'])
              return status
          | .ok (.present names _) =>
            if path.getLast? == some '/' then fail path .notADirectory
            else
              setFiles (s.files.erase names)
              if has o 'v' then Action.print (ofString "removed " ++ inQuotes path ++ ['\n'])
              return status
          | .ok (.absent ..) => if force then return status else fail path .noSuchFile
          | .error fault =>
            if force && (fault = .noSuchFile || fault = .notADirectory) then return status
            else fail path fault) 0

def unlink : Utility := fun words =>
  withOptions { letters := "" } 1 words fun _ operands => do
    match operands with
    | [] => missingOperand 1
    | _ :: second :: _ => extraOperand second 1
    | [path] =>
      match (← get).files.remove (toBytes path) with
      | .ok files =>
        setFiles files
        return 0
      | .error fault =>
        complainOf (ofString "cannot unlink ") (inQuotes path) fault
        return 1

/-- What is to be done with each source: its path and the path that it gets. -/
abbrev Pairs := List (Text × Text)

/-- The sources and their new paths, from the operands of a program that copies, moves or links. -/
def pairsOf (o : List Given) (operands : List Text) : Action (Except Nat Pairs) := do
  let s ← get
  let into (dir : Text) (sources : List Text) : Pairs :=
    sources.map fun p => (p, below dir (lastName p))
  match value? o 't', operands with
  | none, [] => return .error (← misused (ofString "missing file operand") 1)
  | none, [a] =>
    return .error (← misused (ofString "missing destination file operand after " ++ inQuotes a) 1)
  | some _, [] => return .error (← misused (ofString "missing file operand") 1)
  | some dir, sources =>
    match s.files.look true (toBytes dir) with
    | .ok .directory => return .ok (into dir sources)
    | .ok _ =>
      complainOf (ofString "target directory ") (inQuotes dir) .notADirectory
      return .error 1
    | .error fault =>
      complainOf (ofString "target directory ") (inQuotes dir) fault
      return .error 1
  | none, operands =>
    let target := (operands.getLast?).getD []
    let sources := operands.dropLast
    if has o 'T' then
      match operands with
      | [a, b] => return .ok [(a, b)]
      | operands => return .error (← extraOperand ((operands.drop 2).headD []) 1)
    else if isDirectory s target then return .ok (into target sources)
    else if sources.length = 1 then return .ok [(sources.headD [], target)]
    else
      let fault := match s.files.look true (toBytes target) with
        | .ok _ => SystemFault.notADirectory
        | .error fault => fault
      complainOf (ofString "target ") (inQuotes target) fault
      return .error 1

def subtree (files : Files.Tree) (names place : List Bytes) : List (List Bytes × Files.Node) :=
  files.nodes.filterMap fun (n, node) =>
    if names.isPrefixOf n then some (place ++ n.drop names.length, node) else none

def overwriteFault (fromDirectory : Bool) (source target : Text) : Option Files.Node → Option Text
  | some .directory =>
    if fromDirectory then none
    else some (ofString "cannot overwrite directory " ++ inQuotes target
      ++ ofString " with non-directory")
  | some _ =>
    if fromDirectory then some (ofString "cannot overwrite non-directory " ++ inQuotes target
      ++ ofString " with directory " ++ inQuotes source)
    else none
  | none => none

def copyOne (o : List Given) (source target : Text) : Action Nat := do
  let s ← get
  let recursive := ['r', 'R', 'a'].any (has o)
  let links := ((o.map (·.1)).filter fun c => ['P', 'L', 'a', 'd'].contains c).getLast?
  let follow := match links with
    | some c => c == 'L'
    | none => !recursive
  let said : Action Unit := if has o 'v' then
      Action.print (inQuotes source ++ ofString " -> " ++ inQuotes target ++ ['\n'])
    else pure ()
  match s.files.locate follow (toBytes source) with
  | .error fault =>
    complainOf (ofString "cannot stat ") (inQuotes source) fault
    return 1
  | .ok (.absent ..) =>
    complainOf (ofString "cannot stat ") (inQuotes source) .noSuchFile
    return 1
  | .ok (.present names node) =>
    let there := s.files.locate true (toBytes target)
    let (present, place) : Option Files.Node × Option (List Bytes) := match there with
      | .ok (.present names node) => (some node, some names)
      | _ => (none, none)
    let isDangling := match nodeAt? s false target with
      | some (.link _) => present.isNone
      | _ => false
    if node == .directory && !recursive then
      refuse 1 (ofString "-r not specified; omitting directory " ++ inQuotes source)
    else if place == some names && node != .directory then
      if has o 'n' then return 0
      else refuse 1 (inQuotes source ++ ofString " and " ++ inQuotes target
        ++ ofString " are the same file")
    else
      match overwriteFault (node == .directory) source target present with
      | some text => refuse 1 text
      | none =>
        if has o 'n' && present.isSome && node != .directory then return 0
        else if isDangling && node != .directory then
          refuse 1 (ofString "not writing through dangling symlink " ++ inQuotes target)
        else
          match node with
          | .directory =>
            let made : Except SystemFault (List Bytes) := match there with
              | .ok (.present place _) => .ok place
              | .ok (.absent dir name) => .ok (dir ++ [name])
              | .error fault => .error fault
            match made with
            | .error fault =>
              complainOf (ofString "cannot create directory ") (inQuotes target) fault
              return 1
            | .ok place =>
              if names.isPrefixOf place then
                refuse 1 (ofString "cannot copy a directory, " ++ inQuotes source
                  ++ ofString ", into itself, " ++ inQuotes target)
              else
                let inside := (subtree s.files names place).filter (·.1 != place)
                let copies := (place, Files.Node.directory) :: inside
                setFiles (copies.foldl (fun t (n, node) => t.put n node) s.files)
                said
                return 0
          | .link path =>
            let files := match s.files.remove (toBytes target) with
              | .ok files => files
              | .error _ => s.files
            match files.makeLink path (toBytes target) with
            | .ok files =>
              setFiles files
              said
              return 0
            | .error fault =>
              complainOf (ofString "cannot create symbolic link ") (inQuotes target) fault
              return 1
          | node =>
            let content := match node with
              | .file content _ => content
              | .program name => toBytes name.toList
              | _ => []
            let runs := match node with
              | .file _ executable => executable
              | .program _ => true
              | _ => false
            match s.files.openWrite (toBytes target) with
            | .error fault =>
              let fault := if fault = .isADirectory && target.getLast? == some '/' then
                SystemFault.notADirectory else fault
              complainOf (ofString "cannot create regular file ") (inQuotes target) fault
              return 1
            | .ok (place, none) =>
              let copy := match node with
                | .program name => .program name
                | _ => .file content runs
              setFiles (s.files.put place copy)
              said
              return 0
            | .ok place =>
              setFiles (s.files.fill place content)
              said
              return 0

def cp : Utility := fun words =>
  withOptions
    { letters := "abdfHiklLnprRst:TuvxPSZ"
      names := [("archive", 'a', .none), ("force", 'f', .none), ("interactive", 'i', .none),
        ("no-clobber", 'n', .none), ("recursive", 'r', .none), ("verbose", 'v', .none),
        ("target-directory", 't', .needed), ("no-target-directory", 'T', .none),
        ("dereference", 'L', .none), ("no-dereference", 'P', .none), ("preserve", 'p', .possible),
        ("update", 'u', .possible), ("parents", 'o', .none)] } 1 words
    fun o operands => do
      if has o 'n' then
        complain (ofString ("warning: behavior of -n is non-portable and may change in future; "
          ++ "use --update=none instead"))
      match ← pairsOf o operands with
      | .error status => return status
      | .ok pairs =>
        pairs.foldlM (fun status (a, b) => do return max status (← copyOne o a b)) 0

def moveOne (o : List Given) (source target : Text) : Action Nat := do
  let s ← get
  let said : Action Unit := if has o 'v' then
      Action.print (ofString "renamed " ++ inQuotes source ++ ofString " -> " ++ inQuotes target
        ++ ['\n'])
    else pure ()
  let cannot (fault : SystemFault) : Action Nat := do
    complain (ofString "cannot move " ++ inQuotes source ++ ofString " to " ++ inQuotes target
      ++ ofString (": " ++ fault.description))
    return 1
  match s.files.locate false (toBytes source) with
  | .error fault =>
    complainOf (ofString "cannot stat ") (inQuotes source) fault
    return 1
  | .ok (.absent ..) =>
    complainOf (ofString "cannot stat ") (inQuotes source) .noSuchFile
    return 1
  | .ok (.present names node) =>
    let path := if node == .directory then trimSlashes target else target
    match s.files.locate false (toBytes path) with
    | .error fault => cannot fault
    | .ok (.absent dir name) =>
      if node != .directory && target.getLast? == some '/' then cannot .notADirectory
      else
        let place := dir ++ [name]
        if node == .directory && names.isPrefixOf place then
          refuse 1 (ofString "cannot move " ++ inQuotes source
            ++ ofString " to a subdirectory of itself, " ++ inQuotes target)
        else
          let moved := subtree s.files names place
          let rest := s.files.nodes.filter fun n => !names.isPrefixOf n.1
          setFiles { s.files with nodes := moved ++ rest }
          said
          return 0
    | .ok (.present place there) =>
      if place == names then
        refuse 1 (inQuotes source ++ ofString " and " ++ inQuotes target
          ++ ofString " are the same file")
      else if has o 'n' then
        refuse 1 (ofString "not replacing " ++ inQuotes target)
      else if node == .directory && names.isPrefixOf place then
        refuse 1 (ofString "cannot move " ++ inQuotes source
          ++ ofString " to a subdirectory of itself, " ++ inQuotes target)
      else
        match overwriteFault (node == .directory) source target (some there) with
        | some text => refuse 1 text
        | none =>
          if there == .directory && !(s.files.children place).isEmpty then
            complainOf (ofString "cannot overwrite ") (inQuotes target) .notEmpty
            return 1
          else
            let moved := subtree s.files names place
            let rest := s.files.nodes.filter fun n => !names.isPrefixOf n.1 && n.1 != place
            setFiles { s.files with nodes := moved ++ rest }
            said
            return 0

def mv : Utility := fun words =>
  withOptions
    { letters := "bfint:TuvSZ"
      names := [("force", 'f', .none), ("interactive", 'i', .none), ("no-clobber", 'n', .none),
        ("verbose", 'v', .none), ("target-directory", 't', .needed),
        ("no-target-directory", 'T', .none), ("update", 'u', .possible)] } 1 words
    fun o operands => do
      match ← pairsOf o operands with
      | .error status => return status
      | .ok pairs =>
        pairs.foldlM (fun status (a, b) => do return max status (← moveOne o a b)) 0

def linkOne (o : List Given) (source target : Text) : Action Nat := do
  let s ← get
  let symbolic := has o 's'
  let kind := if symbolic then "symbolic link " else "hard link "
  let node := s.files.look true (toBytes source)
  let there := s.files.locate false (toBytes target)
  let isSame := match there, s.files.locate false (toBytes source) with
    | .ok (.present a _), .ok (.present b _) => a == b
    | _, _ => false
  match symbolic, node with
  | false, .error fault =>
    complainOf (ofString "failed to access ") (inQuotes source) fault
    return 1
  | false, .ok .directory =>
    refuse 1 (shown source ++ ofString ": hard link not allowed for directory")
  | _, node =>
    if has o 'f' && isSame then
      refuse 1 (inQuotes source ++ ofString " and " ++ inQuotes target
        ++ ofString " are the same file")
    else
      let files := match there with
        | .ok (.present names n) =>
          if has o 'f' && n != Files.Node.directory then s.files.erase names else s.files
        | _ => s.files
      let made := if symbolic then files.makeLink (toBytes source) (toBytes target)
        else do
          let node := node.toOption.getD Files.Node.directory
          return files.put (← files.freeName (toBytes target)) node
      match made with
      | .ok files =>
        setFiles files
        if has o 'v' then
          Action.print (inQuotes target ++ ofString (if symbolic then " -> " else " => ")
            ++ inQuotes source ++ ['\n'])
        return 0
      | .error fault =>
        let more := if symbolic || fault == SystemFault.fileExists then []
          else ofString " => " ++ inQuotes source
        complain (ofString ("failed to create " ++ kind) ++ inQuotes target ++ more
          ++ ofString (": " ++ fault.description))
        return 1

def ln : Utility := fun words =>
  withOptions
    { letters := "bdfFiLnPrst:TvS"
      names := [("symbolic", 's', .none), ("force", 'f', .none), ("no-dereference", 'n', .none),
        ("verbose", 'v', .none), ("target-directory", 't', .needed),
        ("no-target-directory", 'T', .none), ("relative", 'r', .none)] } 1 words
    fun o operands => do
      let s ← get
      let direct := match operands with
        | [_, b] =>
          (has o 'n' && match nodeAt? s false b with
            | some (.link _) => true
            | _ => false)
        | _ => false
      match operands, (value? o 't').isSome || has o 'T' with
      | [a], false => linkOne o a (below ['.'] (lastName a))
      | operands, _ =>
        match ← pairsOf (if direct then ('T', []) :: o else o) operands with
        | .error status => return status
        | .ok pairs =>
          pairs.foldlM (fun status (a, b) => do return max status (← linkOne o a b)) 0

def touch : Utility := fun words =>
  withOptions
    { letters := "acd:fhmr:t:"
      names := [("no-create", 'c', .none), ("date", 'd', .needed), ("reference", 'r', .needed),
        ("time", 'T', .needed), ("no-dereference", 'h', .none)] } 1 words
    fun o operands => do
      let s ← get
      let badTime := (value? o 't').any fun t =>
        !(t.filter (· != '.')).all Char.isDigit || t.length < 8
      let missing := (value? o 'r').bind fun r =>
        match s.files.look true (toBytes r) with
        | .ok _ => none
        | .error fault => some (r, fault)
      if badTime then
        refuse 1 (ofString "invalid date format " ++ quote ((value? o 't').getD []))
      else
        match missing, operands with
        | some (r, fault), _ =>
          complainOf (ofString "failed to get attributes of ") (inQuotes r) fault
          return 1
        | none, [] => misused (ofString "missing file operand") 1
        | none, operands =>
          operands.foldlM (fun status path => do
            let s ← get
            match s.files.look true (toBytes path) with
            | .ok _ => return status
            | .error fault =>
              if has o 'c' && fault = .noSuchFile then return status
              else
                match s.files.append (toBytes path) [] with
                | .ok files =>
                  setFiles files
                  return status
                | .error fault =>
                  complainOf (ofString "cannot touch ") (inQuotes path) fault
                  return 1) 0

def isRightsWord (word : Text) : Bool :=
  match word with
  | '-' :: c :: _ => ['r', 'w', 'x', 'X', 's', 't', 'u', 'g', 'o'].contains c || c.isDigit
  | _ => false

def chmod : Utility := fun words =>
  let marked := match words.findIdx? isRightsWord with
    | some n => (words.take n).filter (fun w => w.head? == some '-')
        ++ ['-', '-'] :: (words.drop n).take 1
        ++ (words.take n).filter (fun w => w.head? != some '-') ++ words.drop (n + 1)
    | none => words
  withOptions
    { letters := "cfRv"
      names := [("changes", 'c', .none), ("quiet", 'f', .none), ("silent", 'f', .none),
        ("recursive", 'R', .none), ("verbose", 'v', .none), ("reference", 'r', .needed)] } 1 marked
    fun o operands => do
      match operands with
      | [] => missingOperand 1
      | [mode] => misused (ofString "missing operand after " ++ quote mode) 1
      | mode :: paths =>
        let mask := (← get).mask
        if (rightsOf? mode mask 420).isNone then
          misused (ofString "invalid mode: " ++ quote mode) 1
        else
          let change (names : List Bytes) (node : Files.Node) : Action Unit := do
            match node with
            | .file content executable =>
              let old := if executable then 493 else 420
              let new := (rightsOf? mode mask old).getD old
              let runs := new &&& 73 != 0
              modify fun s => { s with files := s.files.put names (.file content runs) }
            | _ => return ()
          let say (path : Text) (node : Files.Node) : Action Unit := do
            let old := rightsAt node
            let new := (rightsOf? mode mask old).getD old
            let rights (n : Nat) : Text :=
              octalRights n ++ ofString " (" ++ letterRights n ++ [')']
            if old != new && (has o 'v' || has o 'c') then
              Action.print (ofString "mode of " ++ inQuotes path ++ ofString " changed from "
                ++ rights old ++ ofString " to " ++ rights new ++ ['\n'])
            else if has o 'v' then
              Action.print (ofString "mode of " ++ inQuotes path ++ ofString " retained as "
                ++ rights old ++ ['\n'])
          paths.foldlM (fun status path => do
            let s ← get
            match s.files.locate true (toBytes path) with
            | .ok (.present names node) =>
              say path node
              change names node
              if has o 'R' then
                (allBelow s.files names).forM fun (n, node) => change n node
              return status
            | .ok (.absent ..) =>
              if (nodeAt? s false path).isSome then
                complain (ofString "cannot operate on dangling symlink " ++ inQuotes path)
              else if !has o 'f' then
                complainOf (ofString "cannot access ") (inQuotes path) .noSuchFile
              return 1
            | .error fault =>
              if !has o 'f' then complainOf (ofString "cannot access ") (inQuotes path) fault
              return 1) 0

def mktemp : Utility := fun words =>
  withOptions
    { letters := "dp:qtuV"
      names := [("directory", 'd', .none), ("quiet", 'q', .none), ("dry-run", 'u', .none),
        ("tmpdir", 'p', .possible), ("suffix", 's', .needed)] } 1 words
    fun o operands => do
      let s ← get
      let given := operands.headD (ofString "tmp.XXXXXXXXXX")
      let inTmp := operands.isEmpty || has o 'p' || has o 't'
      let dir := match value? o 'p' with
        | some (c :: r) => c :: r
        | _ => (s.environment.lookup "TMPDIR").getD (ofString "/tmp")
      let front := (given.reverse.dropWhile (· != 'X')).reverse
      let ending := given.drop front.length
      let stem := (front.reverse.dropWhile (· == 'X')).reverse
      let count := front.length - stem.length
      match operands with
      | _ :: _ :: _ => misused (ofString "too many templates") 1
      | _ =>
        if count < 3 then
          refuse 1 (ofString "too few X's in template " ++ quote given)
        else
          let name (n : Nat) : Text :=
            let digits := showNat (n + s.nextProcess * 7919)
            let fill := List.replicate (count - digits.length) 'a' ++ digits
            let path := stem ++ fill.drop (fill.length - count) ++ ending
            if inTmp then below dir path else path
          let free := (List.range 1000).find? fun n => (nodeAt? s false (name n)).isNone
          let path := name (free.getD 0)
          let shownPath := if inTmp then below dir given else given
          let made := if has o 'u' then .ok s.files
            else if has o 'd' then s.files.makeDirectory (toBytes path)
            else s.files.append (toBytes path) []
          match made with
          | .ok files =>
            setFiles files
            Action.print (path ++ ['\n'])
            return 0
          | .error fault =>
            if !has o 'q' then
              complain (ofString ("failed to create " ++ (if has o 'd' then "directory" else "file")
                ++ " via template ") ++ quote shownPath ++ ofString (": " ++ fault.description))
            return 1

def truncate : Utility := fun words =>
  withOptions { letters := "cor:s:", names := [("size", 's', .needed), ("no-create", 'c', .none)] }
    1 words fun o operands => do
      match value? o 's', operands with
      | none, _ => misused (ofString "you must specify either '--size' or '--reference'") 1
      | _, [] => misused (ofString "missing file operand") 1
      | some size, operands =>
        let digits := size.dropWhile fun c => ['+', '-', '<', '>', '/', '%'].contains c
        match natural? digits with
        | none => refuse 1 (ofString "Invalid number: " ++ quote size)
        | some n =>
          operands.foldlM (fun status path => do
            let s ← get
            let old := match nodeAt? s true path with
              | some (.file content _) => content
              | _ => []
            let length := match size.head? with
              | some '+' => old.length + n
              | some '-' => old.length - n
              | some '<' => min old.length n
              | some '>' => max old.length n
              | _ => n
            match s.files.write (toBytes path)
              (old.take length ++ List.replicate (length - old.length) 0) with
            | .ok files =>
              setFiles files
              return status
            | .error fault =>
              complainOf (ofString "cannot open ")
                (inQuotes path ++ ofString " for writing") fault
              return 1) 0

end HalBench.Shell.Utility
