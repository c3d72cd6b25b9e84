import HalBench.Number.Power
import HalBench.Toml.Scan
/-!
# Numbers and dates in TOML texts

Integers are words of 64 bits with sign. A float that is too great for double precision is
refused, unless it is negative.
-/

namespace HalBench.Toml.Scan

/-- Digits after the first one, in groups that single underscores separate; `fuel` bounds their
number. -/
def groupsLoop (test : Char → Bool) : Nat → Scan (List Char)
  | 0 => pure []
  | fuel + 1 => do
    match ← peek with
    | some '_' => do
      word ['_']
      let c ← one test
      return c :: (← groupsLoop test fuel)
    | some c =>
      if test c then
        let c ← one test
        return c :: (← groupsLoop test fuel)
      else return []
    | none => return []

def groups (test : Char → Bool) : Scan (List Char) := do
  let c ← one test
  return c :: (← fun text => groupsLoop test text.length text)

def sign : Scan Bool := do
  match ← peek with
  | some '-' => word ['-']; return true
  | some '+' => word ['+']; return false
  | _ => return false

/-- Decimal digits without a leading zero, with a sign. -/
def wholePart : Scan (Bool × List Char) := do
  let negative ← sign
  match ← peek with
  | some '0' => word ['0']; return (negative, ['0'])
  | _ => return (negative, ← groups Char.isDigit)

def digitValue (c : Char) : Nat :=
  if c.isDigit then c.toNat - 48 else c.toLower.toNat - 87

def number (base : Nat) (digits : List Char) : Nat :=
  digits.foldl (fun n c => base * n + digitValue c) 0

def fits (negative : Bool) (n : Nat) : Bool :=
  if negative then n ≤ 9223372036854775808 else n < 9223372036854775808

def isHex (c : Char) : Bool :=
  c.isDigit || ('a' ≤ c && c ≤ 'f') || ('A' ≤ c && c ≤ 'F')

def based (mark : Char) (base : Nat) (test : Char → Bool) : Scan Unit := do
  word ['0', mark]
  let ds ← groups test
  if fits false (number base ds) then return () else failure

def decimal : Scan Unit := do
  let (negative, ds) ← wholePart
  if fits negative (number 10 ds) then return () else failure

def integer : Scan Unit := fun text =>
  match text with
  | '0' :: 'x' :: _ => based 'x' 16 isHex text
  | '0' :: 'o' :: _ => based 'o' 8 (fun c => '0' ≤ c && c ≤ '7') text
  | '0' :: 'b' :: _ => based 'b' 2 (fun c => c == '0' || c == '1') text
  | _ => decimal text

/-- The least number that is rounded to infinity in double precision. -/
def overflowBound : Nat := twoTo 1024 - twoTo 970

/-- Whether `digits · 10 ^ e` is too great for double precision. -/
def overflows (digits : List Char) (e : Int) : Bool :=
  let n := number 10 digits
  if n = 0 then false
  else if 400 < e + digits.length then (400 < e || overflowBound ≤ n * tenTo e.toNat)
  else if e < 0 then overflowBound * tenTo (-e).toNat ≤ n
  else overflowBound ≤ n * tenTo e.toNat

def fraction : Scan (List Char) := do
  word ['.']
  groups Char.isDigit

def exponent : Scan Int := do
  let _ ← one fun c => c == 'e' || c == 'E'
  let negative ← sign
  let n := number 10 (← groups Char.isDigit)
  return if negative then -(n : Int) else n

def pointed : Scan Unit := do
  let (negative, whole) ← wholePart
  let (places, e) ← match ← peek with
    | some '.' => do
      let places ← fraction
      let e ← optional exponent
      pure (places, e.getD 0)
    | _ => do
      let e ← exponent
      pure ([], e)
  let e := max (-100000) (min 100000 e)
  if !negative && overflows (whole ++ places) (e - places.length) then failure else return ()

def special : Scan Unit := do
  let _ ← sign
  orElse (word ['i', 'n', 'f']) (word ['n', 'a', 'n'])

def monthDays (year month : Nat) : Nat :=
  if month = 2 then
    if year % 4 = 0 ∧ (year % 100 ≠ 0 ∨ year % 400 = 0) then 29 else 28
  else if month = 4 ∨ month = 6 ∨ month = 9 ∨ month = 11 then 30
  else 31

def day : Scan Unit := do
  let year ← digits 4
  word ['-']
  let month ← pair 1 12
  word ['-']
  let _ ← pair 1 (monthDays year month)
  return ()

def clock : Scan Unit := do
  let _ ← pair 0 23
  word [':']
  let _ ← pair 0 59
  word [':']
  let _ ← pair 0 60
  match ← peek with
  | some '.' => do
    word ['.']
    let _ ← several Char.isDigit
    return ()
  | _ => return ()

def zone : Scan Unit :=
  orElse (do let _ ← one fun c => c == 'Z' || c == 'z'; return ()) do
    let _ ← one fun c => c == '+' || c == '-'
    let _ ← pair 0 23
    word [':']
    let _ ← pair 0 59
    return ()

def dateTime : Scan Unit :=
  orElse (do
    day
    let _ ← optional do
      let _ ← one fun c => c == 'T' || c == 't' || c == ' '
      clock
      optional zone
    return ()) clock

end HalBench.Toml.Scan
