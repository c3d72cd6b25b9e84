import HalBench.Shell.Syntax
/-!
# Readers of scripts

A reader stands at a place of a script. The text of an alias is put before what is left, with a
mark after it, so that the reader knows when the alias may be used again.
-/

namespace HalBench.Shell

inductive Token where
  | endOfFile
  | newline
  | sign (s : String)
  | keyword (s : String)
  | redirection (descriptor : Option Nat) (op : String)
  | word (w : Word) (quoted : Bool)

structure Request where
  number : Nat
  mark : Text
  quoted : Bool
  stripsTabs : Bool
  deriving DecidableEq, Repr

structure Reader where
  rest : Text
  line : Nat := 1
  requests : List Request := []
  documents : List (Nat × Word) := []
  nextDocument : Nat := 0
  aliases : List (String × Text) := []
  active : List (List String × Bool) := []
  ended : List String := []
  pushedBack : Option Token := none
  aliasNext : Bool := false
  quoted : Bool := false

abbrev Fault := Nat × SyntaxFault

abbrev Parse := StateT Reader (Except Fault)

namespace Reader

/-- The mark after the text of an alias; no character of a script is like it. -/
def aliasEnd : Char := Char.ofNat 256

/-- Passes over the ends of aliases and, if asked for, over line ends after a backslash. -/
def settle (joins : Bool) (r : Reader) : Reader :=
  go r r.rest
where
  /-- Works on what is left. -/
  go (r : Reader) : Text → Reader
    | '\\' :: '\n' :: rest =>
      if joins then go { r with line := r.line + 1 } rest
      else { r with rest := '\\' :: '\n' :: rest }
    | c :: rest =>
      if c = aliasEnd then
        let (names, blank) := r.active.head?.getD ([], false)
        go { r with
          active := r.active.tail, ended := names ++ r.ended
          aliasNext := r.aliasNext || blank } rest
      else { r with rest := c :: rest }
    | [] => { r with rest := [] }

/-- Passes over one character; aliases with their ends before it may be used again. -/
def bump (r : Reader) : Reader :=
  match r.rest with
  | [] => r
  | c :: rest => { r with rest, ended := [], line := if c = '\n' then r.line + 1 else r.line }

/-- Puts the text of an alias before what is left. Those that end with its name stay in use as long
as it does. -/
def expand (r : Reader) (name : String) (value : Text) : Reader :=
  let blank := match value.getLast? with
    | some c => c == ' ' || c == '\t'
    | none => false
  { r with
    rest := value ++ aliasEnd :: r.rest
    active := (name :: r.ended, blank) :: r.active, ended := [] }

def alias? (r : Reader) (name : Text) : Option Text :=
  let name := String.ofList name
  if r.active.any (·.1.contains name) || r.ended.contains name then none else r.aliases.lookup name

end Reader

namespace Parse

/-- The next character, which stays; line ends after a backslash are passed over if asked for. -/
def peek (joins : Bool) : Parse (Option Char) := do
  modify (Reader.settle joins)
  return (← get).rest.head?

def bump : Parse Unit := modify Reader.bump

def next (joins : Bool) : Parse (Option Char) := do
  let c ← peek joins
  bump
  return c

/-- The longest front of what is left with a property, past line ends after a backslash; `fuel`
bounds its length. -/
def takeWhile (p : Char → Bool) : Nat → Parse Text
  | 0 => return []
  | fuel + 1 => do
    match ← peek true with
    | some c =>
      if p c then
        bump
        return c :: (← takeWhile p fuel)
      else return []
    | none => return []

def fail {α : Type} (fault : SyntaxFault) : Parse α := do
  throw ((← get).line, fault)

def inside {α : Type} (text : Text) (line : Nat) (p : Parse α) : Parse α := do
  let before ← get
  set { before with rest := text, line, active := [], pushedBack := none, requests := [] }
  let x ← p
  modify fun r =>
    { before with documents := r.documents, nextDocument := r.nextDocument, quoted := r.quoted }
  return x

end Parse

namespace Token

def name : Token → String
  | endOfFile => "end of file"
  | newline => "newline"
  | sign s => "\"" ++ s ++ "\""
  | keyword s => "\"" ++ s ++ "\""
  | redirection .. => "redirection"
  | word .. => "word"

def isSign (s : String) : Token → Bool
  | sign t => s == t
  | _ => false

def isKeyword (s : String) : Token → Bool
  | keyword t => s == t
  | _ => false

def reserved : List String :=
  ["!", "case", "do", "done", "elif", "else", "esac", "fi", "for", "if", "in", "then", "until",
    "while", "\x7b", "\x7d"]

def endsList : Token → Bool
  | endOfFile => true
  | sign s => s == ")" || s == ";;"
  | keyword s => ["do", "done", "elif", "else", "esac", "fi", "then", "\x7d"].contains s
  | _ => false

end Token

/-- What is done with the next token: line ends before it are passed over, reserved words and
aliases are looked for. -/
structure Look where
  newlines : Bool := false
  keywords : Bool := false
  aliases : Bool := false
  deriving DecidableEq, Repr

namespace Look

def command : Look := { keywords := true, aliases := true }

def commandBelow : Look := { newlines := true, keywords := true, aliases := true }

end Look

/-- The lines of a document up to its mark, without the tabs before them if asked for, and what
follows the mark. Where a backslash joins lines, the second one is not looked at for the mark; lines
of a backslash only are passed over, but one that comes after tabs stands for itself. `fuel` bounds
the lines. -/
def documentLines (q : Request) : Bool → Nat → Text → Text × Text
  | _, 0, text => ([], text)
  | _, _ + 1, [] => ([], [])
  | joined, fuel + 1, text =>
    let line := text.takeWhile (· != '\n')
    let rest := text.drop line.length
    if !joined && !q.quoted && line == ['\\'] then documentLines q false fuel rest.tail
    else
      let bare := if q.stripsTabs && !joined then line.dropWhile (· == '\t') else line
      if bare == q.mark && !joined then ([], rest.tail)
      else
        let slashes := (bare.reverse.takeWhile (· == '\\')).length
        let (later, after) := documentLines q (!q.quoted && slashes % 2 == 1) fuel rest.tail
        let isOwn := !joined && !q.quoted && bare == ['\\']
        ((if isOwn then '\\' :: bare else bare) ++ rest.take 1 ++ later, after)

end HalBench.Shell
