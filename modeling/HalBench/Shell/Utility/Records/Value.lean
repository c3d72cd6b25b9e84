import HalBench.Shell.Printing
import HalBench.Shell.Utility.Records.Token
/-!
# Values

A value is a number or a text. What was read counts as a number if it looks like one. A number is
written in a format unless it is whole.
-/

namespace HalBench.Shell.Records

/-- What an expression comes to: nothing yet, a number, a text, or a text that was read. -/
inductive Value where
  | unset
  | number (x : Binary)
  | text (s : Text)
  | input (s : Text)
  deriving Repr, Inhabited

def numberAt (s : Text) : Binary :=
  match Numeral.real? .double s with
  | some r => r.value
  | none => Binary.zero .double false

def numeral? (s : Text) : Option Binary :=
  match Numeral.real? .double s with
  | some r => if r.rest.all isSpace then some r.value else none
  | none => none

/-- A number without its fraction; none if it is no finite one. -/
def whole? : Binary → Option Int
  | .finite negative m e =>
    let (num, den) := Binary.ratio m e
    let n : Int := num / den
    some (if negative then -n else n)
  | _ => none

def isWhole (x : Binary) : Bool :=
  match x with
  | .finite _ m e =>
    let (num, den) := Binary.ratio m e
    num % den == 0
  | _ => false

def greatest : Int := 18446744073709551615

def least : Int := -9223372036854775808

/-- A whole number within the bounds of words; what is beyond is taken to a bound. -/
def bounded (x : Binary) : Int :=
  match x with
  | .infinite negative => if negative then least + 1 else greatest
  | .nan => least
  | x =>
    let n := (whole? x).getD 0
    if n < least then least + 1 else min n greatest

/-- A number in a form; what came of a computation without a result has a sign. -/
def realText (l : Layout) (form : Layout.Form) (large : Bool) (x : Binary) : Text :=
  match x with
  | .nan => l.pad (l.sign true) (ofString (if large then "NAN" else "nan")) false
  | x => l.real .double form large x

/-- A number in a format, or without a fraction if it has none. -/
def numberText (form : Text) (x : Binary) : Text :=
  let n := bounded x
  match if isWhole x then whole? x else none with
  | some w => if least ≤ w && w ≤ greatest + 1 then showInt n else formatted
  | none => formatted
where
  /-- The number in the format. -/
  formatted : Text :=
    match form with
    | '%' :: r =>
      match Printing.directive? r with
      | some (d, rest) => body d ++ rest
      | none => form
    | _ => form
  /-- The number by a directive. -/
  body (d : Printing.Directive) : Text :=
    match d.conversion with
    | 'f' => realText d.layout .fixed false x
    | 'e' => realText d.layout .scientific false x
    | 'd' => d.layout.integer (bounded x)
    | _ => realText d.layout .general false x

namespace Value

def ofInt (n : Int) : Value := .number (Binary.ofInt .double n)

def ofBool (b : Bool) : Value := ofInt (if b then 1 else 0)

def toNumber : Value → Binary
  | unset => Binary.zero .double false
  | number x => x
  | text s => numberAt s
  | input s => numberAt s

def toText (form : Text) : Value → Text
  | unset => []
  | number x => numberText form x
  | text s => s
  | input s => s

def asNumber? : Value → Option Binary
  | unset => some (Binary.zero .double false)
  | number x => some x
  | text _ => none
  | input s => numeral? s

def holds : Value → Bool
  | unset => false
  | number x => !x.isZero
  | text s => !s.isEmpty
  | input s =>
    match numeral? s with
    | some x => !x.isZero
    | none => !s.isEmpty

def index (form : Text) : Value → Text
  | number x => numberText form x
  | v => v.toText form

end Value

/-- Whether a comparison holds of two values: of numbers if both count as numbers, and of texts if
not. -/
def Comparison.holds (c : Comparison) (form : Text) (a b : Value) : Bool :=
  let (isLess, isSame) : Bool × Bool := match a.asNumber?, b.asNumber? with
    | some x, some y => (x.lt y, x.same y)
    | _, _ =>
      let (s, t) := (a.toText form, b.toText form)
      (s != t && textLe s t, s == t)
  match c with
  | .less => isLess
  | .atMost => isLess || isSame
  | .equal => isSame
  | .different => !isSame
  | .greater => !isLess && !isSame
  | .atLeast => !isLess

def toMachine (x : Binary) : Float := Float.ofBits (UInt64.ofNat x.toBits64)

def ofMachine (x : Float) : Binary := Binary.ofBits .double 11 x.toBits.toNat

def raised (x y : Binary) : Binary := ofMachine ((toMachine x).pow (toMachine y))

def modulo (x y : Binary) : Binary :=
  match x, y with
  | .finite s m e, .finite _ n k =>
    if n = 0 then .nan
    else
      let (a, b) := Binary.ratio m e
      let (c, d) := Binary.ratio n k
      Binary.round .double s ((a * d) % (c * b)) (b * d)
  | .finite .., .infinite _ => x
  | _, _ => .nan

def Operator.apply (op : Operator) (x y : Binary) : Binary :=
  match op with
  | .add => x.add .double y
  | .subtract => x.add .double y.neg
  | .multiply => x.mul .double y
  | .divide => x.div .double y
  | .remainder => modulo x y
  | .power => raised x y

/-- A value by a directive; none if there is no such conversion. -/
def Value.byDirective? (form : Text) (d : Printing.Directive) (l : Layout) (v : Value) :
    Option Text :=
  let word (base : Nat) (large : Bool) : Text :=
    let n := bounded v.toNumber
    l.natural base large (if n < 0 then n + greatest + 1 else n).toNat
  match d.conversion with
  | 'd' => some (l.integer (bounded v.toNumber))
  | 'i' => some (l.integer (bounded v.toNumber))
  | 'u' => some (word 10 false)
  | 'o' => some (word 8 false)
  | 'x' => some (word 16 false)
  | 'X' => some (word 16 true)
  | 'e' => some (realText l .scientific false v.toNumber)
  | 'E' => some (realText l .scientific true v.toNumber)
  | 'f' => some (realText l .fixed false v.toNumber)
  | 'F' => some (realText l .fixed true v.toNumber)
  | 'g' => some (realText l .general false v.toNumber)
  | 'G' => some (realText l .general true v.toNumber)
  | 'a' => some (realText l .hexadecimal false v.toNumber)
  | 'A' => some (realText l .hexadecimal true v.toNumber)
  | 's' => some (l.text (v.toText form))
  | 'c' =>
    let c : Char := match v with
      | .text s => s.headD '\x00'
      | .input s =>
        match numeral? s with
        | some x => Char.ofNat (bounded x % 256).toNat
        | none => s.headD '\x00'
      | v => Char.ofNat (bounded v.toNumber % 256).toNat
    some (l.pad [] [c] false)
  | _ => none

/-- What a format prints of values, up to a fault, and the fault; numbers among texts have a format
of their own. What was printed so far has the latest part first, and `fuel` bounds the steps. -/
def formatFrom (form : Text) : Nat → Nat → List Text → Text → List Value → Text × Option String
  | 0, _, parts, _, _ => (parts.reverse.flatten, none)
  | _ + 1, _, parts, [], _ => (parts.reverse.flatten, none)
  | fuel + 1, n, parts, '%' :: '%' :: r, vs => formatFrom form fuel n (['%'] :: parts) r vs
  | fuel + 1, n, parts, '%' :: r, vs =>
    let stop (why : String) : Text × Option String := (parts.reverse.flatten, some why)
    match Printing.directive? r with
    | none => stop ("improper conversion(number " ++ toString (n + 1) ++ ") in ")
    | some (d, rest) =>
      let take (l : Layout) (vs : List Value) (set : Layout → Int → Layout) : Layout × List Value :=
        match vs with
        | v :: vs => (set l (bounded v.toNumber), vs)
        | [] => (l, [])
      let (l, vs) := if d.givenWidth then
          take d.layout vs fun l w => { l with left := l.left || w < 0, width := w.natAbs }
        else (d.layout, vs)
      let (l, vs) := if d.givenPrecision then
          take l vs fun l p => { l with precision := if p < 0 then none else some p.toNat }
        else (l, vs)
      match vs with
      | [] => stop "not enough arguments passed to "
      | v :: vs =>
        match v.byDirective? form d l with
        | some text => formatFrom form fuel (n + 1) (text :: parts) rest vs
        | none => stop ("improper conversion(number " ++ toString (n + 1) ++ ") in ")
  | fuel + 1, n, parts, c :: r, vs => formatFrom form fuel n ([c] :: parts) r vs

def format (numbers form : Text) (vs : List Value) : Text × Option String :=
  formatFrom numbers (form.length + 1) 0 [] form vs

end HalBench.Shell.Records
