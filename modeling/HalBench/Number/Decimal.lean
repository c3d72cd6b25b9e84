import HalBench.Number.Binary
/-!
# Decimal text of binary numbers

`shortest` finds the fewest decimal digits that lie in the interval of reals rounding to a
number, and of those the nearest; `plain` lays them out, positionally for the magnitudes that
`positional` names and with an exponent elsewhere. `oneDecimal` rounds the exact value to one
place, ties to even.
-/

namespace HalBench.Decimal

def length (n : Nat) : Nat := (Nat.toDigits 10 n).length

/-- The greatest `k` with `10 ^ k ≤ num / den`, for a positive quotient. -/
def magnitude (num den : Nat) : Int :=
  if den ≤ num then (length (num / den) : Int) - 1
  else
    let places := length (den / num)
    if den ≤ num * tenTo (places - 1) then 1 - (places : Int) else -(places : Int)

/-- The interval of reals that round to `m · 2 ^ e`, as numerators over four times the
denominator of `m · 2 ^ e`; its ends belong to it when `m` is even. -/
structure Neighbourhood where
  num : Nat
  den : Nat
  low : Nat
  high : Nat
  closed : Bool

def neighbourhood (f : Format) (m : Nat) (e : Int) : Neighbourhood :=
  let (num, den) := Binary.ratio m e
  let (unit, _) := Binary.ratio 1 e
  let below := if m = twoTo (f.precision - 1) ∧ f.minExponent < e then unit else 2 * unit
  ⟨num, den, 4 * num - below, 4 * num + 2 * unit, m % 2 == 0⟩

def Neighbourhood.holds (h : Neighbourhood) (digits : Nat) (k : Int) : Bool :=
  let left := if 0 ≤ k then 4 * h.den * digits * tenTo k.toNat else 4 * h.den * digits
  let scale := if 0 ≤ k then 1 else tenTo (-k).toNat
  if h.closed then h.low * scale ≤ left && left ≤ h.high * scale
  else h.low * scale < left && left < h.high * scale

/-- Of the two multiples of `10 ^ k` around the number, the nearer one inside the
neighbourhood. -/
def Neighbourhood.pick (h : Neighbourhood) (k : Int) : Option Nat :=
  let num := if 0 ≤ k then h.num else h.num * tenTo (-k).toNat
  let den := if 0 ≤ k then h.den * tenTo k.toNat else h.den
  let lower := num / den
  let rest := num % den
  let near := if 2 * rest < den then lower
    else if den < 2 * rest then lower + 1
    else if lower % 2 = 0 then lower else lower + 1
  let far := if near = lower then lower + 1 else lower
  if h.holds near k then some near
  else if h.holds far k then some far
  else none

/-- The coarsest grid, from `k` down, that has a point in the neighbourhood. -/
def Neighbourhood.search (h : Neighbourhood) (k : Int) : Nat → Nat × Int
  | 0 => ((h.pick k).getD 0, k)
  | more + 1 =>
    match h.pick k with
    | some digits => (digits, k)
    | none => h.search (k - 1) more

/-- The fewest digits that read back as `m · 2 ^ e`, with the weight of the last one. -/
def shortest (f : Format) (m : Nat) (e : Int) : List Char × Int :=
  let h := neighbourhood f m e
  let (digits, k) := h.search (magnitude h.num h.den) 17
  let text := Nat.toDigits 10 digits
  let kept := (text.reverse.dropWhile (· == '0')).reverse
  (kept, k + (text.length - kept.length))

def exponentText (k : Int) : List Char :=
  'e' :: (if k < 0 then '-' else '+') :: Nat.toDigits 10 k.natAbs

structure Positional where
  lowest : Int
  highest : Int
  deriving DecidableEq, Repr

/-- Double precision is positional from 1e-5 to below 1e16, single precision from 1e-6 to below
1e13. -/
def positional (f : Format) : Positional :=
  if f.precision ≤ Format.single.precision then ⟨-6, 13⟩ else ⟨-5, 16⟩

def layout (bounds : Positional) (digits : List Char) (k : Int) : List Char :=
  let point := k + digits.length
  if 0 ≤ k ∧ point ≤ bounds.highest then digits ++ List.replicate k.toNat '0' ++ ['.', '0']
  else if 0 < point ∧ point ≤ bounds.highest then
    digits.take point.toNat ++ '.' :: digits.drop point.toNat
  else if bounds.lowest < point ∧ point ≤ 0 then
    ['0', '.'] ++ List.replicate (-point).toNat '0' ++ digits
  else
    let fraction := digits.drop 1
    digits.take 1 ++ (if fraction.isEmpty then [] else '.' :: fraction) ++ exponentText (point - 1)

def signText (negative : Bool) : List Char := if negative then ['-'] else []

def plain (f : Format) : Binary → Option (List Char)
  | .finite s m e =>
    if m = 0 then some (signText s ++ ['0', '.', '0'])
    else
      let (digits, k) := shortest f m e
      some (signText s ++ layout (positional f) digits k)
  | _ => none

/-- The exact value to one decimal place, ties to even; the sign is kept on a zero. -/
def oneDecimal : Binary → List Char
  | .finite s m e =>
    let (num, den) := Binary.ratio (10 * m) e
    let tenths := Binary.divEven num den
    signText s ++ Nat.toDigits 10 (tenths / 10) ++ '.' :: Nat.toDigits 10 (tenths % 10)
  | .infinite s => signText s ++ ['i', 'n', 'f']
  | .nan => ['N', 'a', 'N']

end HalBench.Decimal
