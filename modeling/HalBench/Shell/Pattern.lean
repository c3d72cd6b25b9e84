import HalBench.Files.Tree
import HalBench.Shell.Text
/-!
# Patterns of shell scripts

A star stands for any text, a question mark for any character, and a list in brackets for one of
its characters. What is quoted stands for itself, as does what follows a backslash.
-/

namespace HalBench.Shell

abbrev Pattern := List (Bool × Char)

/-- A member of a list in brackets: the characters between two, or those of a class. -/
inductive Member where
  | between (low high : Char)
  | ofClass (name : String)
  deriving DecidableEq, Repr

inductive Wildcard where
  | exactly (c : Char)
  | anyCharacter
  | anyText
  | oneOf (negated : Bool) (members : List Member)
  deriving DecidableEq, Repr

/-- Whether a character belongs to a class; none for a name that no class has. -/
def inClass? (name : String) (c : Char) : Option Bool :=
  let isPrint := ' ' ≤ c && c ≤ '~'
  match name with
  | "alpha" => some c.isAlpha
  | "digit" => some c.isDigit
  | "alnum" => some c.isAlphanum
  | "upper" => some c.isUpper
  | "lower" => some c.isLower
  | "space" => some (isSpace c)
  | "blank" => some (c == ' ' || c == '\t')
  | "punct" => some (isPrint && c != ' ' && !c.isAlphanum)
  | "xdigit" => some (digitValue c < 16)
  | "print" => some isPrint
  | "graph" => some (isPrint && c != ' ')
  | "cntrl" => some (c < ' ' || c == '\x7f')
  | _ => none

namespace Member

def holds (c : Char) : Member → Bool
  | between low high => low ≤ c && c ≤ high
  | ofClass name => (inClass? name c).getD false

end Member

namespace Wildcard

def holds (c : Char) : Wildcard → Bool
  | exactly d => c == d
  | anyCharacter => true
  | anyText => true
  | oneOf negated members => members.any (Member.holds c) != negated

def suffixes : Text → List Text
  | [] => [[]]
  | c :: r => (c :: r) :: suffixes r

def stand : List Wildcard → Text → Bool
  | [], s => s.isEmpty
  | anyText :: ws, s => (suffixes s).any (stand ws)
  | w :: ws, c :: r => w.holds c && stand ws r
  | _ :: _, [] => false

end Wildcard

namespace Pattern

def ofText (text : Text) : Pattern := text.map fun c => (true, c)

def text (p : Pattern) : Text := p.map (·.2)

/-- One character with the quotes that a backslash before it gives it, and what follows. -/
def unit? : Pattern → Option ((Bool × Char) × Pattern)
  | (false, '\\') :: (_, c) :: r => some ((true, c), r)
  | c :: r => some (c, r)
  | [] => none

def class? (p : Pattern) : Option (String × Pattern) :=
  match p with
  | (false, ':') :: r =>
    let name := r.takeWhile fun c => c.1 == false && c.2.isAlpha
    match r.drop name.length with
    | (false, ':') :: (false, ']') :: rest =>
      let name := String.ofList (name.map (·.2))
      if (inClass? name 'a').isSome then some (name, rest) else none
    | _ => none
  | _ => none

/-- The members of a list up to the closing bracket, which may come first if it is the `first`
one, and what follows; `fuel` bounds the steps. -/
def members? : Nat → Bool → Pattern → Option (List Member × Pattern)
  | 0, _, _ => none
  | _ + 1, false, (false, ']') :: r => some ([], r)
  | fuel + 1, _, p =>
    match p, p.head? == some (false, '[') , class? p.tail with
    | _, true, some (name, rest) =>
      (members? fuel false rest).map fun (ms, after) => (.ofClass name :: ms, after)
    | p, _, _ => do
      let ((_, low), rest) ← unit? p
      match rest with
      | (false, '-') :: more =>
        if more.head? == some (false, ']') then
          (members? fuel false rest).map fun (ms, after) => (.between low low :: ms, after)
        else
          let ((_, high), rest) ← unit? more
          (members? fuel false rest).map fun (ms, after) => (.between low high :: ms, after)
      | rest => (members? fuel false rest).map fun (ms, after) => (.between low low :: ms, after)

def brackets? (p : Pattern) : Option (Wildcard × Pattern) :=
  let (negated, inside) : Bool × Pattern := match p with
    | (false, '!') :: r => (true, r)
    | (false, '^') :: r => (true, r)
    | r => (false, r)
  (members? (inside.length + 1) true inside).map fun (ms, rest) => (.oneOf negated ms, rest)

def wildcardsLoop : Nat → Pattern → List Wildcard
  | 0, _ => []
  | fuel + 1, p =>
    match unit? p with
    | none => []
    | some ((true, c), rest) => .exactly c :: wildcardsLoop fuel rest
    | some ((false, c), rest) =>
      if c == '*' then .anyText :: wildcardsLoop fuel rest
      else if c == '?' then .anyCharacter :: wildcardsLoop fuel rest
      else if c == '[' then
        match brackets? rest with
        | some (w, after) => w :: wildcardsLoop fuel after
        | none => .exactly c :: wildcardsLoop fuel rest
      else .exactly c :: wildcardsLoop fuel rest

def wildcards (p : Pattern) : List Wildcard := wildcardsLoop (p.length + 1) p

def stands (p : Pattern) (s : Text) : Bool := Wildcard.stand p.wildcards s

def isActive (p : Pattern) : Bool := p.wildcards.any fun w =>
  match w with
  | .exactly _ => false
  | _ => true

def plain (p : Pattern) : Text := p.wildcards.filterMap fun w =>
  match w with
  | .exactly c => some c
  | _ => none

/-- The text without the shortest or the longest front that a pattern stands for. -/
def dropFront (p : Pattern) (longest : Bool) (s : Text) : Text :=
  let lengths := List.range (s.length + 1)
  let lengths := if longest then lengths.reverse else lengths
  let ws := p.wildcards
  match lengths.find? fun n => Wildcard.stand ws (s.take n) with
  | some n => s.drop n
  | none => s

/-- The text without the shortest or the longest end that a pattern stands for. -/
def dropBack (p : Pattern) (longest : Bool) (s : Text) : Text :=
  let lengths := List.range (s.length + 1)
  let lengths := if longest then lengths else lengths.reverse
  let ws := p.wildcards
  match lengths.find? fun n => Wildcard.stand ws (s.drop n) with
  | some n => s.take n
  | none => s

def components : Pattern → List Pattern
  | [] => [[]]
  | (quoted, c) :: r =>
    if c == '/' then [] :: components r
    else
      match components r with
      | [] => [[(quoted, c)]]
      | p :: ps => ((quoted, c) :: p) :: ps

/-- The names in a directory that a pattern stands for, in their order. Names that start with a
dot are meant only by patterns that do. -/
def namesIn (files : Files.Tree) (directory : Text) (p : Pattern) : List Text :=
  let path := if directory.isEmpty then ['.'] else directory
  match files.list (toBytes path) with
  | .error _ => []
  | .ok names =>
    let ws := p.wildcards
    let dotted := ws.head? == some (.exactly '.')
    let names := if dotted then ['.'] :: ['.', '.'] :: names.map ofBytes else names.map ofBytes
    (names.filter fun n => (dotted || n.head? != some '.') && Wildcard.stand ws n).mergeSort textLe

/-- The paths that components stand for below the path read so far. -/
def pathsBelow (files : Files.Tree) (read : Text) : List Pattern → List Text
  | [] => [read]
  | [p] =>
    if p.isActive then (p.namesIn files read).map (read ++ ·)
    else
      let path := read ++ p.plain
      if (files.look false (toBytes path)).isOk then [path] else []
  | p :: q :: r =>
    if p.isActive then
      (p.namesIn files read).flatMap fun n => pathsBelow files (read ++ n ++ ['/']) (q :: r)
    else pathsBelow files (read ++ p.plain ++ ['/']) (q :: r)

/-- The texts that a pattern stands for: the paths among the files, if there are any, or
itself. -/
def paths (files : Files.Tree) (p : Pattern) : List Text :=
  if p.components.any isActive then
    match pathsBelow files [] p.components with
    | [] => [p.text]
    | found => found.mergeSort textLe
  else [p.text]

end Pattern

end HalBench.Shell
