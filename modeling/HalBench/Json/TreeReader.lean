import HalBench.Json.Skip
/-!
# Reading trees

A whole JSON value as a tree. Arrays and objects may be nested as deep as the given number of
levels.
-/

namespace HalBench.Json.Reader

def scalar : Reader Tree := do
  match ← peek with
  | none => fail .endOfText
  | some 110 => literal [110, 117, 108, 108]; return .null
  | some 116 => literal [116, 114, 117, 101]; return .bool true
  | some 102 => literal [102, 97, 108, 115, 101]; return .bool false
  | some 34 => advance; return .text (← string)
  | some b => if b = 45 || Numeral.isDigit b then numeral else fail .malformed

/-- A value of another type than asked for: a scalar must still be well-formed. -/
def unexpected {α : Type} : Reader α := do
  match ← peek with
  | some 91 => fail .wrongType
  | some 123 => fail .wrongType
  | _ => let _ ← scalar; fail .wrongType

def treeMember (value : Reader Tree) (key : String) (read : List (String × Tree)) :
    Reader (List (String × Tree)) := do
  colon
  let x ← value
  return read ++ [(key, x)]

def tree : Nat → Reader Tree
  | 0 => do
    match ← peek with
    | some 91 => fail .malformed
    | some 123 => fail .malformed
    | _ => scalar
  | depth + 1 => do
    match ← peek with
    | some 91 =>
      advance
      return .array (← items (tree depth) true)
    | some 123 =>
      advance
      let ms ← members string (treeMember (tree depth)) []
      closeMembers
      return .object ms
    | _ => scalar

end HalBench.Json.Reader
