import HalBench.Shell.Pattern
import HalBench.Shell.Utility.Callers
import HalBench.Shell.Utility.Files
/-!
# Search in directories

A program that goes through directories and does something with the files for which an expression
holds.
-/

namespace HalBench.Shell.Utility

namespace Finding

/-- How a number is compared: more than, less than or as much as another one. -/
inductive Bound where
  | more
  | less
  | same
  deriving DecidableEq, Repr

inductive Primary where
  | name (folds : Bool) (pattern : Text)
  | path (folds : Bool) (pattern : Text)
  | kind (letters : List Char)
  | size (b : Bound) (n unit : Nat)
  | empty
  | rights (way : Option Char) (n : Nat)
  | runs
  | always (b : Bool)
  | print (ending : Char)
  | format (text : Text)
  | call (words : List Text) (together : Option Nat)
  | delete
  | prune
  | quit
  deriving Repr

inductive Expression where
  | primary (p : Primary)
  | negated (e : Expression)
  | both (a b : Expression)
  | either (a b : Expression)
  | list (a b : Expression)
  deriving Repr

structure Way where
  least : Nat := 0
  most : Option Nat := none
  deepFirst : Bool := false
  follows : Bool := false
  followsGiven : Bool := false

def isBinary (w : Text) : Bool :=
  ["-a", "-and", "-o", "-or", ","].contains (String.ofList w)

/-- What is read of an expression: the words that are left, how directories are gone through, and
how many calls with many files at once there are. -/
structure Reading where
  words : List Text
  way : Way := {}
  calls : Nat := 0
  acts : Bool := false

abbrev Parse := StateT Reading (Except Text)

def next : Parse (Option Text) := do
  let r ← get
  set { r with words := r.words.drop 1 }
  return r.words.head?

def argument (name : Text) : Parse Text := do
  match ← next with
  | some w => return w
  | none => throw (ofString "missing argument to \x60" ++ name ++ ['\''])

def bound (text : Text) : Bound × Text :=
  match text with
  | '+' :: r => (.more, r)
  | '-' :: r => (.less, r)
  | r => (.same, r)

def unit? : Text → Option Nat
  | [] => some 512
  | ['c'] => some 1
  | ['w'] => some 2
  | ['b'] => some 512
  | ['k'] => some 1024
  | ['M'] => some 1048576
  | ['G'] => some 1073741824
  | _ => none

def acting : Parse Unit := modify fun r => { r with acts := true }

/-- The words of a call up to its end: a semicolon, or a plus sign after the mark for files. -/
def callWords : List Text → Option (List Text × Bool × List Text)
  | [] => none
  | [';'] :: rest => some ([], false, rest)
  | ['\x7b', '\x7d'] :: ['+'] :: rest => some ([['\x7b', '\x7d']], true, rest)
  | w :: rest => (callWords rest).map fun (ws, together, rest) => (w :: ws, together, rest)

def depth (name : Text) : Parse Nat := do
  let w ← argument name
  match natural? w with
  | some n => return n
  | none => throw (ofString "Expected a positive decimal integer argument to " ++ name
      ++ ofString ", but got " ++ quote w)

def primary (name : Text) : Parse Primary := do
  match String.ofList name with
  | "-name" => return .name false (← argument name)
  | "-iname" => return .name true (← argument name)
  | "-path" => return .path false (← argument name)
  | "-wholename" => return .path false (← argument name)
  | "-ipath" => return .path true (← argument name)
  | "-iwholename" => return .path true (← argument name)
  | "-type" => do
    let w ← argument name
    let letters := (cutAt ',' w).flatten
    match letters.find? fun c => !(['b', 'c', 'd', 'p', 'f', 'l', 's', 'D'].contains c) with
    | some _ => throw (ofString "Unknown argument to -type: " ++ w)
    | none => return .kind letters
  | "-size" => do
    let w ← argument name
    let (b, rest) := bound w
    let digits := rest.takeWhile Char.isDigit
    match digits.isEmpty, unit? (rest.drop digits.length) with
    | false, some u => return .size b (natOf digits) u
    | _, _ => throw (ofString "invalid -size type \x60" ++ rest.drop digits.length ++ ['\''])
  | "-perm" => do
    let w ← argument name
    let (way, rest) : Option Char × Text := match w with
      | '-' :: r => (some '-', r)
      | '/' :: r => (some '/', r)
      | r => (none, r)
    match rightsOf? rest 0 0 with
    | some n => return .rights way n
    | none => throw (ofString "invalid mode " ++ quote w)
  | "-empty" => return .empty
  | "-executable" => return .runs
  | "-readable" => return .always true
  | "-writable" => return .always true
  | "-true" => return .always true
  | "-false" => return .always false
  | "-user" => return .always ((← argument name) == ofString "root")
  | "-group" => return .always ((← argument name) == ofString "root")
  | "-uid" => return .always ((← argument name) == ['0'])
  | "-gid" => return .always ((← argument name) == ['0'])
  | "-mtime" => return .always ((bound (← argument name)).1 == .less)
  | "-mmin" => return .always ((bound (← argument name)).1 == .less)
  | "-maxdepth" => do
    let n ← depth name
    modify fun r => { r with way := { r.way with most := some n } }
    return .always true
  | "-mindepth" => do
    let n ← depth name
    modify fun r => { r with way := { r.way with least := n } }
    return .always true
  | "-depth" => do
    modify fun r => { r with way := { r.way with deepFirst := true } }
    return .always true
  | "-follow" => do
    modify fun r => { r with way := { r.way with follows := true } }
    return .always true
  | "-xdev" => return .always true
  | "-mount" => return .always true
  | "-noleaf" => return .always true
  | "-prune" => return .prune
  | "-print" => do
    acting
    return .print '\n'
  | "-print0" => do
    acting
    return .print '\x00'
  | "-printf" => do
    acting
    return .format (← argument name)
  | "-delete" => do
    acting
    modify fun r => { r with way := { r.way with deepFirst := true } }
    return .delete
  | "-quit" => return .quit
  | "-exec" => do
    acting
    let r ← get
    match callWords r.words with
    | some (w :: ws, together, rest) =>
      set { r with words := rest, calls := r.calls + (if together then 1 else 0), acts := true }
      return .call (w :: ws) (if together then some r.calls else none)
    | _ => throw (ofString "missing argument to \x60" ++ name ++ ['\''])
  | _ => throw (ofString "unknown predicate \x60" ++ name ++ ['\''])

def nothingBefore (w : Text) : Text :=
  ofString "invalid expression; you have used a binary operator '" ++ w
    ++ ofString "' with nothing before it."

mutual

def listed (fuel : Nat) : Parse Expression := do
  match fuel with
  | 0 => throw (ofString "invalid expression")
  | fuel + 1 =>
    let a ← alternatives fuel
    match (← get).words with
    | [','] :: _ => do
      let _ ← next
      return .list a (← listed fuel)
    | _ => return a

def alternatives (fuel : Nat) : Parse Expression := do
  match fuel with
  | 0 => throw (ofString "invalid expression")
  | fuel + 1 =>
    let a ← joined fuel
    match (← get).words.head?.map String.ofList with
    | some "-o" => do
      let _ ← next
      return .either a (← alternatives fuel)
    | some "-or" => do
      let _ ← next
      return .either a (← alternatives fuel)
    | _ => return a

def joined (fuel : Nat) : Parse Expression := do
  match fuel with
  | 0 => throw (ofString "invalid expression")
  | fuel + 1 =>
    let a ← part fuel
    match (← get).words.head? with
    | none => return a
    | some [')'] => return a
    | some w =>
      if ["-o", "-or", ","].contains (String.ofList w) then return a
      else
        if ["-a", "-and"].contains (String.ofList w) then
          let _ ← next
        return .both a (← joined fuel)

def part (fuel : Nat) : Parse Expression := do
  match fuel with
  | 0 => throw (ofString "invalid expression")
  | fuel + 1 =>
    match ← next with
    | none => throw (ofString "invalid expression")
    | some ['('] => do
      let e ← listed fuel
      match ← next with
      | some [')'] => return e
      | _ => throw (ofString
          "invalid expression; I was expecting to find a ')' somewhere but did not see one.")
    | some w =>
      if w == ['!'] || w == ofString "-not" then
        if (← get).words.isEmpty then
          throw (ofString "expected an expression after '" ++ w ++ ['\''])
        return .negated (← part fuel)
      else if isBinary w then throw (nothingBefore w)
      else return .primary (← primary w)

end

def expression (words : List Text) : Except Text (Expression × Reading) := do
  match words with
  | [] => return (.primary (.always true), { words })
  | words =>
    let (e, r) ← (listed (8 * words.length + 8)).run { words }
    match r.words with
    | [] => return (e, r)
    | _ => throw (ofString "invalid expression")

/-- A file that was come to: the path, its depth below the one that was given, that one, and what is
there. -/
structure Place where
  path : Text
  depth : Nat
  root : Text
  node : Files.Node

/-- What was noted on the way: whether what is below is left out, whether the search ends, the
status, and the files for calls with many of them. -/
structure Notes where
  pruned : Bool := false
  quits : Bool := false
  status : Nat := 0
  waiting : List (Nat × Text) := []
  calls : List (Nat × List Text) := []

def letterOf : Files.Node → Char
  | .file .. => 'f'
  | .directory => 'd'
  | .link _ => 'l'
  | .socket => 's'
  | .device _ => 'c'
  | .program _ => 'f'

def sizeOf (node : Files.Node) : Nat :=
  match node with
  | .file content _ => content.length
  | .directory => 4096
  | .link target => target.length
  | _ => 0

def stands (folds : Bool) (pattern name : Text) : Bool :=
  let fold (t : Text) : Text := if folds then t.map Char.toLower else t
  Pattern.stands ((fold pattern).map fun c => (false, c)) (fold name)

def formatted (p : Place) : Nat → Text → Text
  | 0, _ => []
  | _ + 1, [] => []
  | fuel + 1, '\\' :: c :: r =>
    (match c with
      | 'n' => ['\n']
      | 't' => ['\t']
      | '0' => ['\x00']
      | '\\' => ['\\']
      | c => ['\\', c]) ++ formatted p fuel r
  | fuel + 1, '%' :: c :: r =>
    let below := p.path.drop p.root.length
    (match c with
      | 'p' => p.path
      | 'f' => lastName p.path
      | 'h' => if p.path.contains '/' then directoryOf p.path else if p.depth = 0 then ['.'] else []
      | 'P' => if below.head? == some '/' then below.drop 1 else below
      | 'H' => p.root
      | 's' => showNat (sizeOf p.node)
      | 'y' => [letterOf p.node]
      | 'd' => showNat p.depth
      | 'm' => (octalRights (rightsAt p.node)).drop 1
      | 'l' => match p.node with
        | .link target => ofBytes target
        | _ => []
      | '%' => ['%']
      | c => ['%', c]) ++ formatted p fuel r
  | fuel + 1, c :: r => c :: formatted p fuel r

def run (c : Caller) (words : List Text) : Action Bool := do
  match ← c.run words with
  | .ok (0, none) => return true
  | .ok _ => return false
  | .error fault =>
    complainOf [] (quote (words.headD [])) fault
    return false

def carryOut (c : Caller) (p : Place) (n : Notes) : Primary → Action (Bool × Notes)
  | .name folds pattern => return (stands folds pattern (lastName p.path), n)
  | .path folds pattern => return (stands folds pattern p.path, n)
  | .kind letters => return (letters.contains (letterOf p.node), n)
  | .size b k unit => do
    let size := (sizeOf p.node + unit - 1) / unit
    return ((match b with
      | .more => k < size
      | .less => size < k
      | .same => size == k), n)
  | .empty => do
    let s ← get
    return ((match p.node with
      | .file content _ => content.isEmpty
      | .directory => ((s.files.list (toBytes p.path)).toOption.getD []).isEmpty
      | _ => false), n)
  | .rights way k =>
    let own := rightsAt p.node
    return ((match way with
      | none => own == k
      | some '-' => own &&& k == k
      | some _ => k == 0 || own &&& k != 0), n)
  | .runs => return (rightsAt p.node &&& 73 != 0, n)
  | .always b => return (b, n)
  | .print ending => do
    Action.print (p.path ++ [ending])
    return (true, n)
  | .format text => do
    Action.print (formatted p (text.length + 1) text)
    return (true, n)
  | .call words none => do
    let mark : Text := ['\x7b', '\x7d']
    let words := words.map fun w => Arguments.fill mark p.path (w.length + 1) w
    return (← run c words, n)
  | .call words (some k) =>
    let calls := if (n.calls.lookup k).isSome then n.calls else n.calls ++ [(k, words.dropLast)]
    return (true, { n with calls, waiting := (k, p.path) :: n.waiting })
  | .delete => do
    let s ← get
    match s.files.locate false (toBytes p.path) with
    | .ok (.present names node) =>
      if p.path == ['.'] then return (true, n)
      else if node == .directory && !(s.files.children names).isEmpty then
        complainOf (ofString "cannot delete ") (inQuotes p.path) .notEmpty
        return (false, { n with status := 1 })
      else
        setFiles (s.files.erase names)
        return (true, n)
    | _ => return (false, { n with status := 1 })
  | .prune => return (true, { n with pruned := true })
  | .quit => return (true, { n with quits := true })

def evaluate (c : Caller) (p : Place) : Expression → Notes → Action (Bool × Notes)
  | .primary x, n => if n.quits then return (false, n) else carryOut c p n x
  | .negated e, n => do
    let (b, n) ← evaluate c p e n
    return (!b, n)
  | .both a b, n => do
    let (x, n) ← evaluate c p a n
    if x then evaluate c p b n else return (false, n)
  | .either a b, n => do
    let (x, n) ← evaluate c p a n
    if x then return (true, n) else evaluate c p b n
  | .list a b, n => do
    let (_, n) ← evaluate c p a n
    evaluate c p b n

def visit (c : Caller) (w : Way) (e : Expression) :
    Nat → Text → Nat → Text → Notes → Action Notes
  | 0, _, _, _, n => return n
  | fuel + 1, root, depth, path, n => do
    if n.quits then return n
    let s ← get
    let follows := w.follows || (w.followsGiven && depth = 0)
    let node := match if follows then nodeAt? s true path else none with
      | some node => some node
      | none => nodeAt? s false path
    match node with
    | none => return n
    | some node =>
      let place : Place := { path, depth, root, node }
      let look (n : Notes) : Action Notes := do
        if depth < w.least then return n else return (← evaluate c place e n).2
      let n ← if w.deepFirst then pure n else look { n with pruned := false }
      let goesDown := node == .directory && !n.pruned && !n.quits
        && w.most.all fun m => depth < m
      let names := if goesDown then
          (((s.files.list (toBytes path)).toOption.getD []).map ofBytes).mergeSort textLe
        else []
      let n ← names.foldlM (fun n name => visit c w e fuel root (depth + 1) (below path name) n) n
      if w.deepFirst then look n else return { n with pruned := false }

end Finding

open Finding in
def find (c : Caller) : Utility := fun words => do
  let isLink (w : Text) : Bool := ["-L", "-H", "-P"].contains (String.ofList w)
  let links := words.takeWhile isLink
  let words := words.drop links.length
  let isStart (w : Text) : Bool := match w with
    | '-' :: _ :: _ => true
    | ['('] => true
    | ['!'] => true
    | _ => false
  let paths := words.takeWhile fun w => !isStart w
  match expression (words.drop paths.length) with
  | .error text => refuse 1 text
  | .ok (e, r) =>
    let e := if r.acts then e else .both e (.primary (.print '\n'))
    let last := links.getLast?
    let way := { r.way with
      follows := r.way.follows || last == some ['-', 'L']
      followsGiven := last == some ['-', 'H'] }
    let n ← (if paths.isEmpty then [['.']] else paths).foldlM (fun (n : Notes) path => do
      match (← get).files.look false (toBytes path) with
      | .error fault =>
        complainOf [] (inQuotes path) fault
        return { n with status := 1 }
      | .ok _ => visit c way e 64 path 0 path n) {}
    n.calls.foldlM (fun status (k, words) => do
      let files := (n.waiting.reverse.filter (·.1 == k)).map (·.2)
      return if ← Finding.run c (words ++ files) then status else 1) n.status

end HalBench.Shell.Utility
