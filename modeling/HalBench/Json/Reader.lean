import HalBench.Json.Fault
import HalBench.Text.Utf8
/-!
# Reading from the left

A reader takes something off the front of a byte string or fails. The readers here know the
blanks, commas, colons and brackets of JSON, and what an unexpected end or byte means at each
place.
-/

namespace HalBench.Json

/-- Takes a value off the front of a byte string, or fails. -/
abbrev Reader (α : Type) := StateT Bytes (Except Fault) α

namespace Reader

def isBlank (b : UInt8) : Bool := b == 32 || b == 9 || b == 10 || b == 13

def skipBlank (input : Bytes) : Bytes := input.dropWhile isBlank

def peek : Reader (Option UInt8) := fun input =>
  let rest := skipBlank input
  .ok (rest.head?, rest)

def advance : Reader Unit := fun input => .ok ((), input.tail)

def fail {α : Type} (fault : Fault) : Reader α := fun _ => .error fault

def literal : Bytes → Reader Unit
  | [], input => .ok ((), input)
  | _ :: _, [] => .error .endOfText
  | a :: word, b :: input => if a = b then literal word input else .error .malformed

/-- Whether another item follows in an array; the closing bracket stays. A comma has to stand
before every item but the first. -/
def nextItem (first : Bool) : Reader Bool := do
  match ← peek with
  | none => fail .endOfText
  | some 93 => return false
  | some 44 =>
    if first then return true
    else
      advance
      match ← peek with
      | none => fail .endOfText
      | some 93 => fail .malformed
      | some _ => return true
  | some _ => if first then return true else fail .malformed

def closeItems : Reader Unit := do
  match ← peek with
  | none => fail .endOfText
  | some 93 => advance
  | some _ => fail .malformed

/-- Whether another member follows in an object; its opening quote is taken, a closing brace
stays. -/
def nextMember (first : Bool) : Reader Bool := do
  match ← peek with
  | none => fail .endOfText
  | some 125 => return false
  | some 34 => if first then do advance; return true else fail .malformed
  | some 44 =>
    if first then fail .malformed
    else
      advance
      match ← peek with
      | none => fail .endOfText
      | some 34 => advance; return true
      | some _ => fail .malformed
  | some _ => fail .malformed

def closeMembers : Reader Unit := do
  match ← peek with
  | none => fail .endOfText
  | some 125 => advance
  | some _ => fail .malformed

def colon : Reader Unit := do
  match ← peek with
  | none => fail .endOfText
  | some 58 => advance
  | some _ => fail .malformed

/-- The items of an array after its opening bracket, up to the closing one. Each item takes a
byte at least, so `fuel` above the length of the text is never used up. -/
def itemsLoop {α : Type} (item : Reader α) : Nat → Bool → Reader (List α)
  | 0, _ => fail .endOfText
  | fuel + 1, first => do
    if ← nextItem first then
      let x ← item
      let r ← itemsLoop item fuel false
      return x :: r
    else return []

def items {α : Type} (item : Reader α) (first : Bool) : Reader (List α) := fun input =>
  (do let xs ← itemsLoop item (input.length + 1) first; closeItems; return xs : Reader _) input

def membersLoop {σ : Type} (key : Reader String) (member : String → σ → Reader σ) :
    Nat → Bool → σ → Reader σ
  | 0, _, _ => fail .endOfText
  | fuel + 1, first, s => do
    if ← nextMember first then
      let k ← key
      let s' ← member k s
      membersLoop key member fuel false s'
    else return s

def members {σ : Type} (key : Reader String) (member : String → σ → Reader σ) (s : σ) :
    Reader σ := fun input =>
  membersLoop key member (input.length + 1) true s input

def nested {α : Type} (depth : Nat) (inner : Nat → Reader α) : Reader α :=
  match depth with
  | 0 => fail .malformed
  | d + 1 => do advance; inner d

def whole {α : Type} (value : Reader α) (input : Bytes) : Except Fault α :=
  match value input with
  | .error e => .error e
  | .ok (x, rest) => if skipBlank rest = [] then .ok x else .error .malformed

end Reader

end HalBench.Json
