/-!
# Scanning TOML texts

Blanks, newlines and comments, and the digits of numbers and dates.
-/

namespace HalBench.Toml

/-- Takes something off the front of a text. -/
abbrev Scan (α : Type) := StateT (List Char) Option α

namespace Scan

def peek : Scan (Option Char) := fun text => some (text.head?, text)

def one (test : Char → Bool) : Scan Char
  | [] => none
  | c :: r => if test c then some (c, r) else none

def many (test : Char → Bool) : Scan (List Char) := fun text =>
  some (text.takeWhile test, text.dropWhile test)

def several (test : Char → Bool) : Scan (List Char) := do
  let c ← one test
  return c :: (← many test)

def word : List Char → Scan Unit
  | [] => pure ()
  | c :: r => do
    let _ ← one (· == c)
    word r

def optional {α : Type} (s : Scan α) : Scan (Option α) := fun text =>
  match s text with
  | some (x, r) => some (some x, r)
  | none => some (none, text)

def orElse {α : Type} (s t : Scan α) : Scan α := fun text =>
  match s text with
  | some r => some r
  | none => t text

def blanks : Scan Unit := do
  let _ ← many fun c => c == ' ' || c == '\t'
  return ()

def newline : Scan Unit
  | '\n' :: r => some ((), r)
  | '\r' :: '\n' :: r => some ((), r)
  | _ => none

def isCommentChar (c : Char) : Bool := c == '\t' || (' ' ≤ c && c != '\x7f')

def comment : Scan Unit := do
  word ['#']
  let _ ← many isCommentChar
  return ()

def lineEnd : Scan Unit := do
  blanks
  let _ ← optional comment
  match ← peek with
  | none => return ()
  | some _ => newline

/-- Blanks, comments and newlines; `fuel` bounds their number. -/
def spaceLoop : Nat → Scan Unit
  | 0 => pure ()
  | fuel + 1 => do
    blanks
    match ← peek with
    | some '#' => comment; spaceLoop fuel
    | some '\n' => newline; spaceLoop fuel
    | some '\r' => newline; spaceLoop fuel
    | _ => return ()

def space : Scan Unit := fun text => spaceLoop (text.length + 1) text

def digits : Nat → Scan Nat := go 0
where
  /-- Digits after those read. -/
  go (n : Nat) : Nat → Scan Nat
    | 0 => pure n
    | k + 1 => do
      let c ← one Char.isDigit
      go (10 * n + (c.toNat - 48)) k

def pair (low high : Nat) : Scan Nat := do
  let n ← digits 2
  if low ≤ n ∧ n ≤ high then return n else failure

end Scan

end HalBench.Toml
