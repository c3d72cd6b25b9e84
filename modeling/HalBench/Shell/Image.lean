import HalBench.Shell.Lookup
/-!
# Images of programs

A path leads to a program or to a script. A script may name the program that reads it in its first
line; one that does not is read by the shell.
-/

namespace HalBench.Shell

/-- A program that is ready to run: which one it is, the name under which it is called, and its
words. -/
structure Image where
  program : String
  name : Text
  words : List Text
  deriving Repr

namespace Image

/-- The program that a file asks for in its first line, and the word that goes before the path of
the file, if there is one; none if it asks for none. -/
def interpreter? (content : Bytes) : Option (Text × Option Text) :=
  let isBlank (c : Char) : Bool := c == ' ' || c == '\t'
  match content with
  | 35 :: 33 :: r =>
    let line := (ofBytes (r.takeWhile (· != 10))).dropWhile isBlank
    let path := line.takeWhile fun c => !isBlank c
    let option := (line.drop path.length).dropWhile isBlank
    let option := (option.reverse.dropWhile isBlank).reverse
    some (path, if option.isEmpty then none else some option)
  | _ => none

def maxDepth : Nat := 5

def ofPath (files : Files.Tree) : Nat → Text → Text → List Text → Except SystemFault Image
  | 0, _, _, _ => .error .tooManyLinks
  | depth + 1, path, name, words =>
    match files.look true (toBytes path) with
    | .error fault => .error fault
    | .ok (.program program) => .ok ⟨program, name, words⟩
    | .ok (.file _ false) => .error .permissionDenied
    | .ok (.file content true) =>
      match interpreter? content with
      | none => .error .execFormat
      | some (interpreter, option) =>
        if interpreter.isEmpty then .error .execFormat
        else ofPath files depth interpreter interpreter (option.toList ++ path :: words)
    | .ok _ => .error .permissionDenied

/-- What a path leads to; a script that names no program is read by the shell. -/
def load (files : Files.Tree) (path name : Text) (words : List Text) : Except SystemFault Image :=
  match ofPath files maxDepth path name words with
  | .error .execFormat => .ok ⟨"sh", ofString "sh", path :: words⟩
  | other => other

def isShell (i : Image) : Bool := ["sh", "dash", "bash"].contains i.program

/-- What a program finds when its name is looked for as programs do that start others. -/
def find (s : State) (words : List Text) : Except SystemFault Image :=
  match words with
  | [] => .error .noSuchFile
  | name :: rest =>
    if name.contains '/' then load s.files name name rest
    else
      let path := match s.environment.lookup "PATH" with
        | some path => path
        | none => ofString "/bin:/usr/bin"
      let found := (directoriesOf path).filterMap fun dir =>
        match load s.files (dir ++ '/' :: name) name rest with
        | .error .noSuchFile => none
        | .error .notADirectory => none
        | other => some other
      match found.find? Except.isOk, found with
      | some i, _ => i
      | none, fault :: _ => fault
      | none, [] => .error .noSuchFile

end Image

end HalBench.Shell
