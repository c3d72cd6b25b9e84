import HalBench.Number.Decimal
import HalBench.Shell.Text
/-!
# Numerals

How numbers are laid out in a given width and precision, and how they are read off the front of a
text. A number that has no exact place among the floating-point numbers of a format is taken to the
nearest one first.
-/

namespace HalBench.Shell

structure Layout where
  left : Bool := false
  zero : Bool := false
  plus : Bool := false
  space : Bool := false
  alternate : Bool := false
  width : Nat := 0
  precision : Option Nat := none
  deriving DecidableEq, Repr, Inhabited

namespace Layout

/-- Puts a sign and a body into the width; zeros may stand between the two. -/
def pad (l : Layout) (sign body : Text) (zeros : Bool) : Text :=
  let missing := l.width - (sign.length + body.length)
  if l.left then sign ++ body ++ List.replicate missing ' '
  else if zeros then sign ++ List.replicate missing '0' ++ body
  else List.replicate missing ' ' ++ sign ++ body

def text (l : Layout) (s : Text) : Text :=
  l.pad [] (match l.precision with | some n => s.take n | none => s) false

def sign (l : Layout) (negative : Bool) : Text :=
  if negative then ['-'] else if l.plus then ['+'] else if l.space then [' '] else []

def digits (l : Layout) (n : Nat) (ds : Text) : Text :=
  let ds := if n = 0 && l.precision == some 0 then [] else ds
  List.replicate (l.precision.getD 0 - ds.length) '0' ++ ds

def integer (l : Layout) (n : Int) : Text :=
  l.pad (l.sign (n < 0)) (l.digits n.natAbs (showNat n.natAbs)) (l.zero && l.precision.isNone)

/-- A natural in a base: octal, decimal or hexadecimal, in large letters if asked for. -/
def natural (l : Layout) (base : Nat) (large : Bool) (n : Nat) : Text :=
  let ds := Nat.toDigits base n
  let ds := l.digits n (if large then ds.map Char.toUpper else ds)
  let mark : Text := if base = 16 && l.alternate && n != 0 then ['0', if large then 'X' else 'x']
    else []
  let ds := if base = 8 && l.alternate && ds.head? != some '0' then '0' :: ds else ds
  l.pad mark ds (l.zero && l.precision.isNone)

def places (l : Layout) (count num den : Nat) : Text :=
  let ds := showNat (Binary.divEven (num * tenTo count) den)
  let ds := List.replicate (count + 1 - ds.length) '0' ++ ds
  let point : Text := if count = 0 && !l.alternate then [] else ['.']
  ds.take (ds.length - count) ++ point ++ ds.drop (ds.length - count)

/-- The digits of a number as one digit, a point and so many places, and the power of ten that goes
with them. -/
def significant (count num den : Nat) : Text × Int :=
  if num = 0 then (List.replicate (count + 1) '0', 0)
  else
    let e := Decimal.magnitude num den
    let shift := (count : Int) - e
    let n := if 0 ≤ shift then Binary.divEven (num * tenTo shift.toNat) den
      else Binary.divEven num (den * tenTo (-shift).toNat)
    let ds := showNat n
    if ds.length = count + 2 then (ds.take (count + 1), e + 1) else (ds, e)

def exponent (large : Bool) (e : Int) : Text :=
  let ds := showNat e.natAbs
  (if large then 'E' else 'e') :: (if e < 0 then '-' else '+')
    :: (List.replicate (2 - ds.length) '0' ++ ds)

def scientific (l : Layout) (large : Bool) (count num den : Nat) : Text :=
  let (ds, e) := significant count num den
  let point : Text := if count = 0 && !l.alternate then [] else ['.']
  ds.take 1 ++ point ++ ds.drop 1 ++ exponent large e

def trimZeros (ds : Text) : Text :=
  if ds.contains '.' then
    let r := ds.reverse.dropWhile (· == '0')
    (if r.head? == some '.' then r.tail else r).reverse
  else ds

def general (l : Layout) (large : Bool) (num den : Nat) : Text :=
  let p := match l.precision with
    | some 0 => 1
    | some p => p
    | none => 6
  let e := (significant (p - 1) num den).2
  if -4 ≤ e && e < p then
    let ds := l.places ((p : Int) - 1 - e).toNat num den
    if l.alternate then ds else trimZeros ds
  else
    let (ds, e) := significant (p - 1) num den
    let body := ds.take 1 ++ (if p = 1 && !l.alternate then [] else ['.']) ++ ds.drop 1
    (if l.alternate then body else trimZeros body) ++ exponent large e

/-- The digits of `m · 2 ^ e` in base 16 with an exponent of two, in small letters. All digits of a
significand of full length but one stand after the point. -/
def hexadecimal (l : Layout) (f : Format) (m : Nat) (e : Int) : Text :=
  let places := (f.precision - 1) / 4
  let count := l.precision.getD places
  let n := if count < places then Binary.divEven m (twoTo (4 * (places - count))) else m
  let ds := Nat.toDigits 16 n
  let kept := min count places
  let ds := List.replicate (kept + 1 - ds.length) '0' ++ ds
  let after := ds.drop (ds.length - kept)
  let after := if l.precision.isSome then after ++ List.replicate (count - kept) '0'
    else (after.reverse.dropWhile (· == '0')).reverse
  let power := if m = 0 then 0 else e + 4 * (places : Int)
  let point : Text := if after.isEmpty && !l.alternate then [] else ['.']
  ds.take (ds.length - kept) ++ point ++ after
    ++ 'p' :: (if power < 0 then '-' else '+') :: showNat power.natAbs

inductive Form where
  | fixed
  | scientific
  | general
  | hexadecimal
  deriving DecidableEq, Repr

def real (l : Layout) (f : Format) (form : Form) (large : Bool) (x : Binary) : Text :=
  let named (s : String) : Text := if large then s.toUpper.toList else s.toList
  match x with
  | .nan => l.pad (l.sign false) (named "nan") false
  | .infinite negative => l.pad (l.sign negative) (named "inf") false
  | .finite negative m e =>
    let (num, den) := Binary.ratio m e
    let count := l.precision.getD 6
    let (mark, body) : Text × Text := match form with
      | .fixed => ([], l.places count num den)
      | .scientific => ([], l.scientific large count num den)
      | .general => ([], l.general large num den)
      | .hexadecimal =>
        let cased (text : Text) : Text := if large then text.map Char.toUpper else text
        (cased ['0', 'x'], cased (l.hexadecimal f m e))
    l.pad (l.sign negative ++ mark) body l.zero

end Layout

namespace Numeral

def dropWord? (word : String) (s : Text) : Option Text :=
  if word.toList.isPrefixOf (s.map Char.toLower) then some (s.drop word.length) else none

/-- The digits of a number in a base around a point: their value, the number of places after the
point, and the rest. None if there are no digits. -/
def pointed? (base : Nat) (s : Text) : Option (Nat × Nat × Text) :=
  let isDigit (c : Char) : Bool := digitValue c < base
  let whole := s.takeWhile isDigit
  let rest := s.drop whole.length
  let (after, rest) : Text × Text := match rest with
    | '.' :: r => (r.takeWhile isDigit, r.dropWhile isDigit)
    | r => ([], r)
  if whole.isEmpty && after.isEmpty then none
  else some ((digitsIn base (whole ++ after)).1, after.length, rest)

/-- The exponent after one of two letters, and the rest; zero if there is none. -/
def exponent (small large : Char) (s : Text) : Int × Text :=
  match s with
  | c :: r =>
    if c == small || c == large then
      let (negative, ds) : Bool × Text := match r with
        | '-' :: ds => (true, ds)
        | '+' :: ds => (false, ds)
        | ds => (false, ds)
      let digits := ds.takeWhile Char.isDigit
      if digits.isEmpty then (0, s)
      else
        let n : Int := min (natOf digits) 20000
        (if negative then -n else n, ds.drop digits.length)
    else (0, s)
  | [] => (0, [])

/-- Whether a quotient other than zero has a number of a format that is near: it is not infinite,
and not less than every number of full precision unless it is exact. -/
def isInRange (f : Format) (num den : Nat) : Bool :=
  match Binary.round f false num den with
  | .finite _ m e =>
    let (n, d) := Binary.ratio m e
    let finer : Format := { f with minExponent := f.minExponent - 1 }
    let isFull := match Binary.round finer false num den with
      | .finite _ m e => f.minExponent + f.precision ≤ (m.log2 : Int) + e + 1 && m != 0
      | _ => true
    isFull || n * den == num * d
  | _ => false

/-- What a front of a text says as a number: the nearest number of a format, whether it is near, and
what follows it. -/
structure Read where
  value : Binary
  isInRange : Bool := true
  rest : Text

def Read.ofRatio (f : Format) (negative : Bool) (num den : Nat) (rest : Text) : Read :=
  ⟨Binary.round f negative num den, num == 0 || Numeral.isInRange f num den, rest⟩

/-- What follows an undefined number: letters and digits in parentheses may belong to it. -/
def afterUndefined (rest : Text) : Text :=
  match rest with
  | '(' :: r =>
    match r.dropWhile fun c => c.isAlphanum || c == '_' with
    | ')' :: after => after
    | _ => rest
  | _ => rest

/-- The longest front of a text that is a number, to the nearest number of a format. None if the
text starts with none. -/
def real? (f : Format) (s : Text) : Option Read :=
  let r := s.dropWhile isSpace
  let (negative, r) : Bool × Text := match r with
    | '-' :: r => (true, r)
    | '+' :: r => (false, r)
    | r => (false, r)
  match dropWord? "infinity" r, dropWord? "inf" r, dropWord? "nan" r, dropWord? "0x" r with
  | some rest, _, _, _ => some { value := .infinite negative, rest }
  | _, some rest, _, _ => some { value := .infinite negative, rest }
  | _, _, some rest, _ => some { value := .nan, rest := afterUndefined rest }
  | _, _, _, hex =>
    match hex.bind (pointed? 16) with
    | some (n, places, rest) =>
      let (e, rest) := exponent 'p' 'P' rest
      let k := e - 4 * (places : Int)
      let (num, den) := if 0 ≤ k then (n * twoTo k.toNat, 1) else (n, twoTo (-k).toNat)
      some (.ofRatio f negative num den rest)
    | none => do
      let (n, places, rest) ← pointed? 10 r
      let (e, rest) := exponent 'e' 'E' rest
      let k := e - (places : Int)
      let (num, den) := if 0 ≤ k then (n * tenTo k.toNat, 1) else (n, tenTo (-k).toNat)
      some (.ofRatio f negative num den rest)

end Numeral

end HalBench.Shell
