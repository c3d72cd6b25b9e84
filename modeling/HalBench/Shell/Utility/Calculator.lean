import HalBench.Shell.Regex.Parse
import HalBench.Shell.Utility.Basic
/-!
# Calculating expressions

Expressions of words: numbers and texts joined by operators, each a word of its own. A part whose
value does not matter is read but not worked out.
-/

namespace HalBench.Shell.Utility

namespace Calculator

inductive Value where
  | number (n : Int)
  | text (s : Text)
  deriving DecidableEq, Repr

namespace Value

def toText : Value → Text
  | number n => showInt n
  | text s => s

def integer? (s : Text) : Option Int :=
  let (negative, digits) : Bool × Text := match s with
    | '-' :: r => (true, r)
    | r => (false, r)
  (natural? digits).map fun n => if negative then -(n : Int) else n

def number? : Value → Option Int
  | number n => some n
  | text s => integer? s

def isNull : Value → Bool
  | number n => n == 0
  | text s =>
    match s with
    | [] => true
    | '-' :: [] => false
    | '-' :: r => r.all (· == '0')
    | r => r.all (· == '0')

end Value

/-- Reads a part of an expression off the front of some words; a fault is a text. The word before
this one is kept for faults. -/
abbrev Parse := StateT (Text × List Text) (Except Text)

def skip (word : String) : Parse Bool := do
  match (← get).2 with
  | w :: rest =>
    if w == ofString word then
      set (w, rest)
      return true
    else return false
  | [] => return false

def next : Parse Text := do
  match ← get with
  | (_, w :: rest) =>
    set (w, rest)
    return w
  | (before, []) => throw (ofString "syntax error: missing argument after " ++ quote before)

def numberOf (v : Value) : Parse Int :=
  match v.number? with
  | some n => return n
  | none => throw (ofString "non-integer argument")

/-- What a pattern matches at the start of a text: a group of it, or how many characters. -/
def matched (text pattern : Text) : Except Text Value :=
  match Regex.parse .basicLoose pattern with
  | .error fault => .error (ofString fault.message)
  | .ok (r, groups, _) =>
    let s : Regex.Subject := { text := text.toArray }
    match r.matchAt s 0 with
    | none => .ok (if groups = 0 then .number 0 else .text [])
    | some p =>
      let f : Regex.Found := ⟨0, p.offset, p.groups⟩
      .ok (if groups = 0 then .number p.offset else .text (f.group s 1))

def placeOf (text others : Text) : Nat :=
  match text.findIdx? fun c => others.contains c with
  | some n => n + 1
  | none => 0

def partOf (text : Text) (start length : Value) : Text :=
  match start.number?, length.number? with
  | some n, some m => if 0 < n && 0 < m then (text.drop (n.toNat - 1)).take m.toNat else []
  | _, _ => []

/-- Whether a comparison of two values holds: of numbers if both have the form, else of texts. -/
def compares (op : String) (a b : Value) : Bool :=
  let (less, same) : Bool × Bool := match Value.integer? a.toText, Value.integer? b.toText with
    | some m, some n => (m < n, m == n)
    | _, _ => (textLe a.toText b.toText && a.toText != b.toText, a.toText == b.toText)
  match op with
  | "<" => less
  | "<=" => less || same
  | "=" => same
  | "==" => same
  | "!=" => !same
  | ">=" => !less
  | _ => !less && !same

def arithmetic (op : String) (a b : Value) : Parse Value := do
  let m ← numberOf a
  let n ← numberOf b
  match op with
  | "+" => return .number (m + n)
  | "-" => return .number (m - n)
  | "*" => return .number (m * n)
  | op =>
    if n = 0 then throw (ofString "division by zero")
    else if op == "/" then return .number (m.tdiv n)
    else return .number (m.tmod n)

def levels : List (List String) :=
  [["|"], ["&"], ["<", "<=", "=", "==", "!=", ">=", ">"], ["+", "-"], ["*", "/", "%"], [":"]]

def skipAny : List String → Parse (Option String)
  | [] => return none
  | w :: ws => do if ← skip w then return some w else skipAny ws

mutual

def operand (fuel : Nat) (live : Bool) : Parse Value :=
  match fuel with
  | 0 => throw []
  | fuel + 1 => do
    if ← skip "+" then return .text (← next)
    else if ← skip "length" then
      let v ← operand fuel live
      return .number v.toText.length
    else if ← skip "match" then
      let a ← operand fuel live
      let b ← operand fuel live
      if live then
        match matched a.toText b.toText with
        | .ok v => return v
        | .error fault => throw fault
      else return a
    else if ← skip "index" then
      let a ← operand fuel live
      let b ← operand fuel live
      return .number (placeOf a.toText b.toText)
    else if ← skip "substr" then
      let a ← operand fuel live
      let start ← operand fuel live
      let length ← operand fuel live
      return .text (partOf a.toText start length)
    else if ← skip "(" then
      let v ← joined fuel levels live
      match ← get with
      | (before, []) => throw (ofString "syntax error: expecting ')' after " ++ quote before)
      | (_, w :: _) =>
        if ← skip ")" then return v
        else throw (ofString "syntax error: expecting ')' instead of " ++ quote w)
    else if ← skip ")" then throw (ofString "syntax error: unexpected ')'")
    else return .text (← next)

def joined (fuel : Nat) (levels : List (List String)) (live : Bool) : Parse Value :=
  match fuel with
  | 0 => throw []
  | fuel + 1 => do
    match levels with
    | [] => operand fuel live
    | level :: tighter =>
      let v ← joined fuel tighter live
      rest fuel level tighter live v

def rest (fuel : Nat) (level : List String) (tighter : List (List String)) (live : Bool)
    (a : Value) : Parse Value :=
  match fuel with
  | 0 => throw []
  | fuel + 1 => do
    match ← skipAny level with
    | none => return a
    | some "|" =>
      let b ← joined fuel tighter (live && a.isNull)
      let v := if !a.isNull then a else if b.isNull then Value.number 0 else b
      rest fuel level tighter live v
    | some "&" =>
      let b ← joined fuel tighter (live && !a.isNull)
      rest fuel level tighter live (if a.isNull || b.isNull then .number 0 else a)
    | some op =>
      let b ← joined fuel tighter live
      let v ← if !live then pure a
        else if op == ":" then
          match matched a.toText b.toText with
          | .ok v => pure v
          | .error fault => throw fault
        else if ["+", "-", "*", "/", "%"].contains op then arithmetic op a b
        else pure (Value.number (if compares op a b then 1 else 0))
      rest fuel level tighter live v

end

def evaluate (words : List Text) : Except Text Value := do
  let (v, _, left) ← (joined (40 * words.length + 40) levels true).run ([], words)
  match left with
  | [] => return v
  | w :: _ => throw (ofString "syntax error: unexpected argument " ++ quote w)

end Calculator

def expr : Utility := fun words => do
  let words := match words with
    | ['-', '-'] :: rest => rest
    | words => words
  if words.isEmpty then missingOperand 2
  else
    match Calculator.evaluate words with
    | .error fault => refuse 2 fault
    | .ok v =>
      Action.print (v.toText ++ ['\n'])
      return if v.isNull then 1 else 0

end HalBench.Shell.Utility
