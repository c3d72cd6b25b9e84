import HalBench.Shell.Grammar
import HalBench.Shell.Pattern
import HalBench.Shell.State
/-!
# What names mean

A name that is called is a function, a command of the shell, or a program, which is looked for in
the directories that a variable lists.
-/

namespace HalBench.Shell

/-- The commands of the shell that do not belong to it as closely as the special ones. -/
def regularCommands : List String :=
  ["[", "alias", "bg", "cd", "chdir", "command", "echo", "false", "fg", "getopts", "hash", "jobs",
    "kill", "printf", "pwd", "read", "test", "true", "type", "ulimit", "umask", "unalias", "wait"]

def isSpecialCommand (name : Text) : Bool :=
  Grammar.specialCommands.contains (String.ofList name)

def isShellCommand (name : Text) : Bool :=
  isSpecialCommand name || regularCommands.contains (String.ofList name)

/-- A text between quotes that a script reads back; quotes in it stand between other quotes. -/
def quoted (text : Text) : Text :=
  go (text.length + 1) text
where
  /-- Goes on after some stretches; `fuel` bounds their number. -/
  go : Nat → Text → Text
    | 0, _ => []
    | fuel + 1, s =>
      let front := s.takeWhile (· != '\'')
      let rest := s.drop front.length
      let quotes := rest.takeWhile (· == '\'')
      let after := rest.drop quotes.length
      let first := '\'' :: front ++ ['\'']
      if quotes.isEmpty then first
      else
        let second := '"' :: quotes ++ ['"']
        first ++ second ++ (if after.isEmpty then [] else go fuel after)

def rowOf (rows : Nat) (name : String) : Nat :=
  let codes := name.toList.map Char.toNat
  (codes.headD 0 * 16 + codes.foldl (· + ·) 0) % rows

def inRows {α : Type} (rows : Nat) (entries : List (String × α)) : List (String × α) :=
  entries.mergeSort fun a b => rowOf rows a.1 ≤ rowOf rows b.1

/-- The options at the front of some words, by their letters, and the other words. An option whose
letter has a colon after it takes a value. -/
def options (known : String) : List Text → Except Text (List (Char × Text) × List Text)
  | ['-', '-'] :: rest => .ok ([], rest)
  | ('-' :: c :: letters) :: rest =>
    let takesValue (c : Char) : Bool := match known.toList.dropWhile (· != c) with
      | _ :: ':' :: _ => true
      | _ => false
    let rec read : List Char → Except Text (List (Char × Text) × Option Char)
      | [] => .ok ([], none)
      | c :: letters =>
        if c == ':' || !known.toList.contains c then .error (ofString "Illegal option -" ++ [c])
        else if takesValue c then
          if letters.isEmpty then .ok ([], some c) else .ok ([(c, letters)], none)
        else do
          let (found, waiting) ← read letters
          return ((c, []) :: found, waiting)
    match read (c :: letters), rest with
    | .error fault, _ => .error fault
    | .ok (found, none), rest => do
      let (later, rest) ← options known rest
      return (found ++ later, rest)
    | .ok (found, some c), value :: rest => do
      let (later, rest) ← options known rest
      return (found ++ (c, value) :: later, rest)
    | .ok (_, some c), [] => .error (ofString "No arg for -" ++ c :: ofString " option")
  | words => .ok ([], words)

def readOptions (known : String) (words : List Text) :
    Action (List (Char × Text) × List Text) := do
  match options known words with
  | .ok r => return r
  | .error text => Action.fail text

/-- The number of a word: digits, which may have blanks around them and a plus sign before. -/
def number? (word : Text) : Option Nat :=
  match integer? (some 10) word with
  | some (n, rest) =>
    if rest.all isSpace && 0 ≤ n && n ≤ 2147483647 then some n.toNat else none
  | none => none

def numberOf (word : Text) : Action Nat := do
  match number? word with
  | some n => return n
  | none => Action.fail (ofString "Illegal number: " ++ word)

def usualPath : Text := ofString "/usr/local/sbin:/usr/local/bin:/usr/sbin:/usr/bin:/sbin:/bin"

def directoriesOf (path : Text) : List Text :=
  cutAt ':' path

/-- What the search for a program comes to: a path, or why there is none. -/
def searchProgram (s : State) (path name : Text) : Except SystemFault Text :=
  go .noSuchFile (directoriesOf path)
where
  /-- Looks into directories; a fault that was met before stays. -/
  go (fault : SystemFault) : List Text → Except SystemFault Text
    | [] => .error fault
    | dir :: dirs =>
      let full := if dir.isEmpty then name else dir ++ '/' :: name
      match s.files.look true (toBytes full) with
      | .ok (.file ..) => .ok full
      | .ok (.program _) => .ok full
      | .ok _ => go .permissionDenied dirs
      | .error .noSuchFile => go fault dirs
      | .error .notADirectory => go fault dirs
      | .error other => go other dirs

def callFault : SystemFault → String
  | .noSuchFile => "not found"
  | .notADirectory => "not found"
  | fault => fault.description

def findProgram (path name : Text) : Action (Except SystemFault Text) := do
  let s ← get
  match s.found.lookup (String.ofList name) with
  | some full => return .ok full
  | none =>
    match searchProgram s path name with
    | .ok full =>
      set { s with found := s.found ++ [(String.ofList name, full)] }
      return .ok full
    | .error fault => return .error fault

def searchPath (s : State) : Text := (s.value? "PATH").getD []

/-- Tells what a name means, in words if asked for; gives a status. -/
def describe (inWords : Bool) (path word : Text) : Action Nat := do
  let s ← get
  let name := String.ofList word
  let tell (short : Text) (words : Text) : Action Nat := do
    Action.print ((if inWords then word ++ words else short) ++ ['\n'])
    return 0
  if Token.reserved.contains name then tell word (ofString " is a shell keyword")
  else
    match s.aliases.lookup name, s.functions.lookup name with
    | some value, _ =>
      tell (ofString "alias " ++ word ++ '=' :: quoted value)
        (ofString " is an alias for " ++ value)
    | none, some _ => tell word (ofString " is a shell function")
    | none, none =>
      if isSpecialCommand word then tell word (ofString " is a special shell builtin")
      else if isShellCommand word then tell word (ofString " is a shell builtin")
      else
        let known := (s.found.lookup name).isSome
        let found : Option Text :=
          if word.contains '/' then
            if (s.files.locate true (toBytes word)).toOption.any fun p =>
              match p with | .present .. => true | .absent .. => false
            then some word else none
          else
            match s.found.lookup name with
            | some full => some full
            | none => (searchProgram s path word).toOption
        match found with
        | some full =>
          tell full (ofString (if known then " is a tracked alias for " else " is ") ++ full)
        | none =>
          if inWords then Action.print (word ++ ofString ": not found\n")
          return 127

end HalBench.Shell
