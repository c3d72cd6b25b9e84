import HalBench.Number.Power
/-!
# Binary floating-point numbers

Numbers of the form ± m · 2 ^ e with a bounded significand, in a format given by its precision
and its range of exponents. `Format.round` takes a quotient of naturals to the nearest number of
the format, ties to the even significand; the arithmetic is exact up to that one rounding.
-/

namespace HalBench

/-- Bits of the significand, and the least and greatest weight of its last bit. -/
structure Format where
  precision : Nat
  minExponent : Int
  maxExponent : Int
  deriving DecidableEq, Repr

def Format.single : Format := ⟨24, -149, 104⟩

def Format.double : Format := ⟨53, -1074, 971⟩

def Format.extended : Format := ⟨64, -16445, 16320⟩

/-- A floating-point number; a finite one is `mantissa · 2 ^ exponent`. -/
inductive Binary where
  | finite (negative : Bool) (mantissa : Nat) (exponent : Int)
  | infinite (negative : Bool)
  | nan
  deriving DecidableEq, Repr, Inhabited

namespace Binary

/-- The numerator and denominator of `num / den / 2 ^ e`. -/
def scaled (num den : Nat) (e : Int) : Nat × Nat :=
  if 0 ≤ e then (num, den * twoTo e.toNat) else (num * twoTo (-e).toNat, den)

/-- `num / den` to the nearest natural, ties to even. -/
def divEven (num den : Nat) : Nat :=
  let q := num / den
  let r := num % den
  if 2 * r < den then q
  else if den < 2 * r then q + 1
  else if q % 2 = 0 then q else q + 1

/-- The weight of the last bit of a significand of full length for `num / den`. -/
def unitExponent (f : Format) (num den : Nat) : Int :=
  let low : Int := (num.log2 : Int) - den.log2 - f.precision
  let (n, d) := scaled num den low
  let full := if n / d < twoTo f.precision then low else low + 1
  max full f.minExponent

/-- The number of a format nearest to `num / den`, with a sign. -/
def round (f : Format) (negative : Bool) (num den : Nat) : Binary :=
  if num = 0 then .finite negative 0 f.minExponent
  else
    let e := unitExponent f num den
    let (n, d) := scaled num den e
    let q := divEven n d
    let (q, e) := if q = twoTo f.precision then (twoTo (f.precision - 1), e + 1) else (q, e)
    if q = 0 then .finite negative 0 f.minExponent
    else if f.maxExponent < e then .infinite negative
    else .finite negative q e

def zero (f : Format) (negative : Bool) : Binary := .finite negative 0 f.minExponent

def ofNat (f : Format) (n : Nat) : Binary := round f false n 1

def ofInt (f : Format) (i : Int) : Binary := round f (decide (i < 0)) i.natAbs 1

def ratio (m : Nat) (e : Int) : Nat × Nat :=
  if 0 ≤ e then (m * twoTo e.toNat, 1) else (m, twoTo (-e).toNat)

def convert (f : Format) : Binary → Binary
  | .finite s m e => let (n, d) := ratio m e; round f s n d
  | x => x

def neg : Binary → Binary
  | .finite s m e => .finite (!s) m e
  | .infinite s => .infinite (!s)
  | .nan => .nan

def isZero : Binary → Bool
  | .finite _ m _ => m == 0
  | _ => false

def isFinite : Binary → Bool
  | .finite .. => true
  | _ => false

def mul (f : Format) : Binary → Binary → Binary
  | .finite s m e, .finite t n k =>
    let (a, b) := ratio (m * n) (e + k)
    round f (s != t) a b
  | .infinite s, .infinite t => .infinite (s != t)
  | .infinite s, .finite t n _ => if n = 0 then .nan else .infinite (s != t)
  | .finite s m _, .infinite t => if m = 0 then .nan else .infinite (s != t)
  | _, _ => .nan

def div (f : Format) : Binary → Binary → Binary
  | .finite s m e, .finite t n k =>
    if n = 0 then if m = 0 then .nan else .infinite (s != t)
    else
      let (a, b) := ratio m (e - k)
      round f (s != t) a (b * n)
  | .infinite _, .infinite _ => .nan
  | .infinite s, .finite t _ _ => .infinite (s != t)
  | .finite s _ _, .infinite t => zero f (s != t)
  | _, _ => .nan

/-- A finite number as an integer multiple of `2 ^ e`, for `e` no greater than its exponent. -/
def units (s : Bool) (m : Nat) (k e : Int) : Int :=
  let n : Int := m * twoTo (k - e).toNat
  if s then -n else n

/-- The rounded sum; a sum that vanishes is positive unless both terms are negative. -/
def add (f : Format) : Binary → Binary → Binary
  | .finite s m e, .finite t n k =>
    let low := min e k
    let sum := units s m e low + units t n k low
    if sum = 0 then zero f (s && t)
    else
      let (a, b) := ratio sum.natAbs low
      round f (decide (sum < 0)) a b
  | .infinite s, .infinite t => if s = t then .infinite s else .nan
  | .infinite s, .finite .. => .infinite s
  | .finite .., .infinite t => .infinite t
  | _, _ => .nan

def lt : Binary → Binary → Bool
  | .finite s m e, .finite t n k =>
    let low := min e k
    decide (units s m e low < units t n k low)
  | .infinite s, .infinite t => s && !t
  | .infinite s, .finite .. => s
  | .finite .., .infinite t => !t
  | _, _ => false

/-- Equality of the values: the zeros of both signs are equal, an undefined number equals none. -/
def same : Binary → Binary → Bool
  | .nan, _ => false
  | _, .nan => false
  | x, y => (x.isZero && y.isZero) || x == y

def min (x y : Binary) : Binary := if y.lt x then y else x

def max (x y : Binary) : Binary := if x.lt y then y else x

/-- The number with the given bits of a format whose exponent field has `width` bits. -/
def ofBits (f : Format) (width : Nat) (bits : Nat) : Binary :=
  let fractionBits := f.precision - 1
  let fraction := bits % twoTo fractionBits
  let field := bits / twoTo fractionBits % twoTo width
  let negative := bits / twoTo (fractionBits + width) % 2 == 1
  if field = twoTo width - 1 then
    if fraction = 0 then .infinite negative else .nan
  else if field = 0 then .finite negative fraction f.minExponent
  else .finite negative (fraction + twoTo fractionBits) (f.minExponent + (field - 1))

def toBits (f : Format) (width : Nat) : Binary → Nat
  | .finite s m e =>
    let sign := if s then twoTo (f.precision - 1 + width) else 0
    if m < twoTo (f.precision - 1) then sign + m
    else
      sign + (e - f.minExponent + 1).toNat * twoTo (f.precision - 1)
        + (m - twoTo (f.precision - 1))
  | .infinite s =>
    (if s then twoTo (f.precision - 1 + width) else 0) + (twoTo width - 1) * twoTo (f.precision - 1)
  | .nan => (twoTo width - 1) * twoTo (f.precision - 1) + twoTo (f.precision - 2)

end Binary

def Binary.ofBits32 (bits : UInt32) : Binary := Binary.ofBits .single 8 bits.toNat

def Binary.toBits64 (x : Binary) : Nat := Binary.toBits .double 11 x

end HalBench
