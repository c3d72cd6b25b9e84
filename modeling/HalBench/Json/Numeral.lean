import HalBench.Json.Reader
import HalBench.Json.Tree
/-!
# Numbers in JSON texts

A numeral is scanned into its digits and then evaluated. One without fraction and exponent is an
integer if it fits; every other one becomes a float: as many digits as fit a word of 64 bits make
a significand, which is multiplied or divided by a power of ten in double precision.
-/

namespace HalBench.Json

/-- The parts of a numeral; the exponent has a sign of its own. -/
structure Numeral where
  negative : Bool
  whole : Bytes
  fraction : Option Bytes
  exponent : Option (Bool × Bytes)
  deriving DecidableEq, Repr

namespace Numeral

def isDigit (b : UInt8) : Bool := 48 ≤ b && b ≤ 57

def maxSignificand : Nat := 18446744073709551615

/-- The greatest exponent that is looked at. -/
def maxExponent : Nat := 2147483647

/-- Takes digits into a significand while it fits, and leaves the others. -/
def absorb (significand : Nat) : Bytes → Nat × Bytes
  | [] => (significand, [])
  | b :: r =>
    let next := significand * 10 + (b.toNat - 48)
    if next ≤ maxSignificand then absorb next r else (significand, b :: r)

def power (k : Nat) : Binary := .ofNat .double (tenTo k)

/-- Divides by a power of ten in steps of at most 308 places; `fuel` bounds the steps. -/
def shrink : Nat → Binary → Nat → Binary
  | 0, x, _ => x
  | fuel + 1, x, k =>
    if k ≤ 308 then x.div .double (power k)
    else if x.isZero then x
    else shrink fuel (x.div .double (power 308)) (k - 308)

def scale (significand : Nat) (k : Int) : Option Binary :=
  let x := Binary.ofNat .double significand
  if k < 0 then some (shrink 8 x k.natAbs)
  else if 308 < k then if significand = 0 then some x else none
  else
    let y := x.mul .double (power k.natAbs)
    if y.isFinite then some y else none

def number (digits : Bytes) : Nat := digits.foldl (fun n b => 10 * n + (b.toNat - 48)) 0

/-- A positive float with the given digits; none if it is out of range. -/
def magnitude (n : Numeral) : Option Binary :=
  let (s, beyond) := absorb 0 n.whole
  let fraction := n.fraction.getD []
  let (s, unused) := absorb s fraction
  let k : Int := (beyond.length : Int) - (fraction.length - unused.length : Nat)
  match n.exponent with
  | none => scale s k
  | some (down, digits) =>
    let e := number digits
    if maxExponent < e then
      if s = 0 || down then some (Binary.zero .double false) else none
    else scale s (if down then k - e else k + e)

def signed (negative : Bool) (x : Binary) : Binary := if negative then x.neg else x

/-- The integer that a numeral denotes; none for a fraction, an exponent, a negative zero and
what does not fit. -/
def integer? (n : Numeral) : Option Integer :=
  match n.fraction, n.exponent with
  | none, none =>
    if n.negative && number n.whole == 0 then none
    else Integer.ofInt? (if n.negative then -(number n.whole : Int) else number n.whole)
  | _, _ => none

def tree? (n : Numeral) : Option Tree :=
  match n.integer? with
  | some i => some (.integer i)
  | none => n.magnitude.map fun x => .float .double (signed n.negative x)

def digits (atEnd : Fault) : Reader Bytes
  | [] => .error atEnd
  | b :: r =>
    if isDigit b then .ok (b :: r.takeWhile isDigit, r.dropWhile isDigit)
    else .error .malformed

def wholeDigits (atEnd : Fault) : Reader Bytes
  | 48 :: r =>
    match r with
    | b :: _ => if isDigit b then .error .malformed else .ok ([48], r)
    | [] => .ok ([48], r)
  | input => digits atEnd input

def fractionPart (atEnd : Fault) : Reader (Option Bytes)
  | 46 :: r => (do return some (← digits atEnd) : Reader _) r
  | input => .ok (none, input)

def exponentPart (atEnd : Fault) : Reader (Option (Bool × Bytes))
  | b :: r =>
    if b = 101 || b = 69 then
      match r with
      | 43 :: s => (do return some (false, ← digits atEnd) : Reader _) s
      | 45 :: s => (do return some (true, ← digits atEnd) : Reader _) s
      | s => (do return some (false, ← digits atEnd) : Reader _) s
    else .ok (none, b :: r)
  | [] => .ok (none, [])

/-- A numeral without its sign; `atEnd` is the fault of a text that ends where a digit must
stand. -/
def unsigned (atEnd : Fault) (negative : Bool) : Reader Numeral := do
  let whole ← wholeDigits atEnd
  let fraction ← fractionPart atEnd
  let exponent ← exponentPart atEnd
  return ⟨negative, whole, fraction, exponent⟩

def scan (atEnd : Fault) : Reader Numeral
  | 45 :: r => unsigned atEnd true r
  | input => unsigned atEnd false input

end Numeral

def Reader.numeral : Reader Tree := do
  match (← Numeral.scan .endOfText).tree? with
  | some x => return x
  | none => Reader.fail .malformed

def Reader.skipNumeral : Reader Unit := do
  let _ ← Numeral.scan .malformed
  return ()

end HalBench.Json
