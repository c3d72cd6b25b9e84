import HalBench.Json.Numeral
import HalBench.Json.Quotation
/-!
# Passing unknown values

The value of an unknown key must look like JSON, but it is only passed over: its numbers may be
out of range, its strings may hold anything, and it may be nested to any depth.
-/

namespace HalBench.Json.Reader

/-- What is open around the place that is read. -/
inductive Enclosure where
  | items
  | members
  deriving DecidableEq, Repr

/-- What comes next while a value is passed over. -/
inductive Skipping where
  | value (enclosing : List Enclosure)
  | opened (inner : Enclosure) (enclosing : List Enclosure)
  | after (enclosing : List Enclosure)
  deriving DecidableEq, Repr

def skipKey : Reader Unit := do
  match ← peek with
  | none => fail .endOfText
  | some 34 => advance; skipString; colon
  | some _ => fail .malformed

def skipTo (inner : Enclosure) (enclosing : List Enclosure) : Reader Skipping := do
  match inner with
  | .items => return .value (inner :: enclosing)
  | .members => skipKey; return .value (inner :: enclosing)

def Enclosure.closing : Enclosure → UInt8
  | .items => 93
  | .members => 125

def skipStep : Skipping → Reader (Option Skipping)
  | .value enclosing => do
    match ← peek with
    | none => fail .endOfText
    | some 110 => literal [110, 117, 108, 108]; return some (.after enclosing)
    | some 116 => literal [116, 114, 117, 101]; return some (.after enclosing)
    | some 102 => literal [102, 97, 108, 115, 101]; return some (.after enclosing)
    | some 34 => advance; skipString; return some (.after enclosing)
    | some 91 => advance; return some (.opened .items enclosing)
    | some 123 => advance; return some (.opened .members enclosing)
    | some b =>
      if b = 45 || Numeral.isDigit b then skipNumeral; return some (.after enclosing)
      else fail .malformed
  | .opened inner enclosing => do
    match ← peek with
    | none => fail .endOfText
    | some b =>
      if b = inner.closing then advance; return some (.after enclosing)
      else return some (← skipTo inner enclosing)
  | .after [] => return none
  | .after (inner :: enclosing) => do
    match ← peek with
    | none => fail .endOfText
    | some b =>
      if b = 44 then advance; return some (← skipTo inner enclosing)
      else if b = inner.closing then advance; return some (.after enclosing)
      else fail .malformed

def skipLoop : Nat → Skipping → Reader Unit
  | 0, _ => fail .endOfText
  | fuel + 1, s => do
    match ← skipStep s with
    | none => return ()
    | some s' => skipLoop fuel s'

/-- Passes over a value. Every step but the last takes a byte, or takes the first byte of an
item after its bracket was opened, so twice as many steps as bytes suffice. -/
def skip : Reader Unit := fun input => skipLoop (2 * input.length + 2) (.value []) input

end HalBench.Json.Reader
