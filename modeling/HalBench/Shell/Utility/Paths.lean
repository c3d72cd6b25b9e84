import HalBench.Shell.Utility.Basic
/-!
# Utilities for paths

Programs that print parts of paths and where they lead.
-/

namespace HalBench.Shell.Utility

/-- A path without the slashes at its end; the root stays as it is. -/
def trimSlashes (path : Text) : Text :=
  let front := (path.reverse.dropWhile (· == '/')).reverse
  if front.isEmpty && !path.isEmpty then ['/'] else front

def lastName (path : Text) : Text :=
  let front := trimSlashes path
  if front == ['/'] then front else ((cutAt '/' front).getLast?).getD []

def directoryOf (path : Text) : Text :=
  let front := trimSlashes path
  let rest := front.take (front.length - (lastName front).length)
  if front == ['/'] then front
  else if rest.isEmpty then ['.']
  else trimSlashes rest

def below (dir name : Text) : Text :=
  if dir.getLast? == some '/' then dir ++ name else dir ++ '/' :: name

def nodeAt? (s : State) (follow : Bool) (path : Text) : Option Files.Node :=
  (s.files.look follow (toBytes path)).toOption

def isDirectory (s : State) (path : Text) : Bool := nodeAt? s true path == some .directory

def basename : Utility := fun words =>
  withOptions
    { letters := "as:z", ordered := true
      names := [("multiple", 'a', .none), ("suffix", 's', .needed), ("zero", 'z', .none)] } 1 words
    fun o operands => do
      let many := has o 'a' || has o 's'
      let lineEnd := if has o 'z' then '\x00' else '\n'
      let shown (ending path : Text) : Text :=
        let name := lastName path
        let name := if ending.isSuffixOf name && ending != name then
          name.take (name.length - ending.length) else name
        name ++ [lineEnd]
      match operands with
      | [] => missingOperand 1
      | path :: rest =>
        if many then
          Action.print (operands.flatMap (shown ((value? o 's').getD [])))
          return 0
        else
          match rest with
          | _ :: third :: _ => extraOperand third 1
          | rest =>
            Action.print (shown (rest.headD []) path)
            return 0

def dirname : Utility := fun words =>
  withOptions { letters := "z", names := [("zero", 'z', .none)] } 1 words
    fun o operands => do
      if operands.isEmpty then missingOperand 1
      else
        let lineEnd := if has o 'z' then '\x00' else '\n'
        Action.print (operands.flatMap fun p => directoryOf p ++ [lineEnd])
        return 0

/-- What has to be there of a path that is resolved: all of it, all but the last name, or
nothing. -/
inductive Presence where
  | all
  | parents
  | none
  deriving DecidableEq, Repr

/-- A path with its names of the directory itself and of the one above resolved by name only. -/
def plainPath (s : State) (path : Text) : Text :=
  let start : List Bytes := if path.head? == some '/' then [] else s.files.current
  let names := (Files.Path.names (toBytes path)).foldl (fun (names : List Bytes) n =>
    if n == Files.here then names
    else if n == Files.above then names.dropLast
    else names ++ [n]) start
  State.pathOf names

def resolvePath (s : State) (p : Presence) (path : Text) : Except SystemFault Text :=
  match s.files.locate true (toBytes path), p with
  | .ok (.present names _), _ => .ok (State.pathOf names)
  | .ok (.absent ..), .all => .error .noSuchFile
  | .ok (.absent dir name), _ => .ok (State.pathOf (dir ++ [name]))
  | .error fault, .none => if path.isEmpty then .error fault else .ok (plainPath s path)
  | .error fault, _ => .error fault

def readlink : Utility := fun words =>
  withOptions
    { letters := "efmnqsvz"
      names := [("canonicalize", 'f', .none), ("canonicalize-existing", 'e', .none),
        ("canonicalize-missing", 'm', .none), ("no-newline", 'n', .none), ("quiet", 'q', .none),
        ("silent", 's', .none), ("verbose", 'v', .none), ("zero", 'z', .none)] } 1 words
    fun o operands => do
      let way := ((o.map (·.1)).filter fun c => ['e', 'f', 'm'].contains c).getLast?
      let single := has o 'n' && operands.length = 1
      let lineEnd : Text := if single then [] else if has o 'z' then ['\x00'] else ['\n']
      if operands.isEmpty then missingOperand 1
      else
        operands.foldlM (fun status path => do
          let s ← get
          let result : Except SystemFault Text := match way with
            | some 'e' => resolvePath s .all path
            | some 'f' => resolvePath s .parents path
            | some _ => resolvePath s .none path
            | none =>
              match s.files.look false (toBytes path) with
              | .ok (.link target) => .ok (ofBytes target)
              | .ok _ => .error .invalidArgument
              | .error fault => .error fault
          match result with
          | .ok text =>
            Action.print (text ++ lineEnd)
            return status
          | .error fault =>
            if has o 'v' then complainOf [] (shown path) fault
            return 1) 0

def relativePath (base path : Text) : Text :=
  let names (p : Text) : List Text := (cutAt '/' p).filter (!·.isEmpty)
  let rec go : List Text → List Text → List Text
    | a :: as, b :: bs =>
      if a == b then go as bs else ((a :: as).map fun _ => ['.', '.']) ++ b :: bs
    | as, bs => (as.map fun _ => ['.', '.']) ++ bs
  match go (names base) (names path) with
  | [] => ['.']
  | parts => joinWith ['/'] parts

def realpath : Utility := fun words =>
  withOptions
    { letters := "eLmPqsz"
      names := [("canonicalize-existing", 'e', .none), ("canonicalize-missing", 'm', .none),
        ("logical", 'L', .none), ("physical", 'P', .none), ("quiet", 'q', .none),
        ("strip", 's', .none), ("no-symlinks", 's', .none), ("zero", 'z', .none),
        ("relative-to", 'r', .needed), ("relative-base", 'b', .needed)] } 1 words
    fun o operands => do
      let lineEnd := if has o 'z' then '\x00' else '\n'
      let presence : Presence := if has o 'e' then .all else if has o 'm' then .none else .parents
      if operands.isEmpty then missingOperand 1
      else
        operands.foldlM (fun status path => do
          let s ← get
          let result := if has o 's' then
              if path.isEmpty then .error .noSuchFile else .ok (plainPath s path)
            else resolvePath s presence path
          match result with
          | .ok text =>
            let text := match value? o 'r' with
              | some base => relativePath ((resolvePath s .none base).toOption.getD base) text
              | none => text
            Action.print (text ++ [lineEnd])
            return status
          | .error fault =>
            if !has o 'q' then complainOf [] (shown path) fault
            return 1) 0

def workingDirectory : Utility := fun words =>
  withOptions { letters := "LP", names := [("logical", 'L', .none), ("physical", 'P', .none)] } 1
    words fun _ _ => do
      Action.print ((← get).directory ++ ['\n'])
      return 0

end HalBench.Shell.Utility
