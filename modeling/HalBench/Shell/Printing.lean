import HalBench.Shell.Numeral
/-!
# Formatted printing

The escapes of printed texts, and formats with their directives.
-/

namespace HalBench.Shell.Printing

def isOctal (c : Char) : Bool := '0' ≤ c && c ≤ '7'

def octalByte (digits : Text) : Char := Char.ofNat ((digitsIn 8 digits).1 % 256)

/-- What an escape stands for, and what follows it, given the text after the backslash. -/
def escape : Text → Text × Text
  | [] => (['\\'], [])
  | 'a' :: r => (['\x07'], r)
  | 'b' :: r => (['\x08'], r)
  | 'e' :: r => (['\x1b'], r)
  | 'f' :: r => (['\x0c'], r)
  | 'n' :: r => (['\n'], r)
  | 'r' :: r => (['\r'], r)
  | 't' :: r => (['\t'], r)
  | 'v' :: r => (['\x0b'], r)
  | '\\' :: r => (['\\'], r)
  | c :: r =>
    if isOctal c then
      let digits := ((c :: r).take 3).takeWhile isOctal
      ([octalByte digits], (c :: r).drop digits.length)
    else (['\\'], c :: r)

def unescapeLoop : Nat → Text → Text × Bool
  | 0, _ => ([], false)
  | _ + 1, [] => ([], false)
  | _ + 1, '\\' :: 'c' :: _ => ([], true)
  | fuel + 1, '\\' :: r =>
    let r := match r with
      | '0' :: c :: s => if isOctal c then c :: s else r
      | _ => r
    let (e, rest) := escape r
    let (s, cut) := unescapeLoop fuel rest
    (e ++ s, cut)
  | fuel + 1, c :: r =>
    let (s, cut) := unescapeLoop fuel r
    (c :: s, cut)

def unescape (text : Text) : Text × Bool := unescapeLoop (text.length + 1) text

def echo (words : List Text) : Text :=
  let (newline, words) := match words with
    | ['-', 'n'] :: r => (false, r)
    | r => (true, r)
  let (text, cut) := unescape (joinWith [' '] words)
  if newline && !cut then text ++ ['\n'] else text

/-- A directive of a format. The width and the precision may be those that arguments give. -/
structure Directive where
  layout : Layout
  givenWidth : Bool := false
  givenPrecision : Bool := false
  conversion : Char
  deriving Repr

def measure (text : Text) : Option Nat × Bool × Text :=
  match text with
  | '*' :: r => (none, true, r)
  | r =>
    let digits := r.takeWhile Char.isDigit
    (if digits.isEmpty then none else some (natOf digits), false, r.drop digits.length)

/-- Reads a directive after the percent sign; none if the format ends before it does. -/
def directive? (text : Text) : Option (Directive × Text) :=
  let flags := text.takeWhile fun c => ['-', '0', '+', ' ', '#'].contains c
  let (width, givenWidth, text) := measure (text.drop flags.length)
  let (precision, givenPrecision, text) : Option Nat × Bool × Text := match text with
    | '.' :: r =>
      let (n, given, rest) := measure r
      (some (n.getD 0), given, rest)
    | r => (none, false, r)
  match text with
  | [] => none
  | c :: r =>
    let layout : Layout :=
      { left := flags.contains '-', zero := flags.contains '0', plus := flags.contains '+'
        space := flags.contains ' ', alternate := flags.contains '#'
        width := width.getD 0, precision }
    some (⟨layout, givenWidth, givenPrecision, c⟩, r)

/-- What a format has printed so far: the parts of the output, with the latest first, the arguments
that are left, what is said of them, why the format is none, and whether the output was cut short.
Floating-point numbers have a precision. -/
structure Pass where
  precision : Format
  parts : List Text := []
  arguments : List Text
  complaints : List Text := []
  refusal : Option Text := none
  cut : Bool := false
  used : Bool := false

namespace Pass

def put (p : Pass) (text : Text) : Pass := { p with parts := text :: p.parts }

def output (p : Pass) : Text := p.parts.reverse.flatten

/-- The next argument; none if there is none left. -/
def next (p : Pass) : Option Text × Pass :=
  (p.arguments.head?, { p with arguments := p.arguments.tail, used := true })

def complain (p : Pass) (argument : Text) (what : String) : Pass :=
  { p with complaints := p.complaints ++ [argument ++ ofString (": " ++ what)] }

def check (p : Pass) (argument rest : Text) (inRange : Bool) : Pass :=
  if !rest.isEmpty then
    p.complain argument
      (if rest.length = argument.length then "expected numeric value"
        else "not completely converted")
  else if inRange then p
  else p.complain argument "Numerical result out of range"

/-- The number of the next argument, between two bounds. A quote before a character gives the
number of the character. -/
def integer (p : Pass) (low high : Int) : Int × Pass :=
  match p.next with
  | (none, p) => (0, p)
  | (some ('\'' :: r), p) => ((r.head?.map fun c => (c.toNat : Int)).getD 0, p)
  | (some ('"' :: r), p) => ((r.head?.map fun c => (c.toNat : Int)).getD 0, p)
  | (some argument, p) =>
    match integer? none argument with
    | none => (0, p.check argument argument true)
    | some (n, rest) =>
      let bounded := max low (min n high)
      (bounded, p.check argument rest (bounded == n))

def real (p : Pass) : Binary × Pass :=
  match p.next with
  | (none, p) => (Binary.zero p.precision false, p)
  | (some ('\'' :: r), p) => (.ofNat p.precision ((r.head?.map Char.toNat).getD 0), p)
  | (some ('"' :: r), p) => (.ofNat p.precision ((r.head?.map Char.toNat).getD 0), p)
  | (some argument, p) =>
    match Numeral.real? p.precision argument with
    | none => (Binary.zero p.precision false, p.check argument argument true)
    | some x => (x.value, p.check argument x.rest x.isInRange)

def greatestWord : Int := 18446744073709551615

def greatestSigned : Int := 9223372036854775807

def layoutOf (p : Pass) (d : Directive) : Layout × Pass :=
  let (l, p) : Layout × Pass :=
    if d.givenWidth then
      let (n, p) := p.integer (-greatestSigned - 1) greatestSigned
      ({ d.layout with left := d.layout.left || n < 0, width := n.natAbs }, p)
    else (d.layout, p)
  if d.givenPrecision then
    let (n, p) := p.integer (-greatestSigned - 1) greatestSigned
    ({ l with precision := if n < 0 then none else some n.toNat }, p)
  else (l, p)

/-- Carries out a directive; `none` if there is no such conversion. -/
def carryOut (p : Pass) (d : Directive) : Option Pass :=
  let (l, q) := p.layoutOf d
  let signed : Option Pass :=
    let (n, q) := q.integer (-greatestSigned - 1) greatestSigned
    some (q.put (l.integer n))
  let unsigned (base : Nat) (large : Bool) : Option Pass :=
    let (n, q) := q.integer (-greatestWord) greatestWord
    some (q.put (l.natural base large (n % (greatestWord + 1)).toNat))
  let floating (form : Layout.Form) (large : Bool) : Option Pass :=
    let (x, q) := q.real
    some (q.put (l.real q.precision form large x))
  match d.conversion with
  | 's' =>
    let (argument, q) := q.next
    some (q.put (l.text (argument.getD [])))
  | 'b' =>
    let (argument, q) := q.next
    let (text, cut) := unescape (argument.getD [])
    some { q.put (l.text text) with cut }
  | 'c' =>
    let (argument, q) := q.next
    some (q.put (l.pad [] [((argument.getD []).head?).getD '\x00'] false))
  | 'd' => signed
  | 'i' => signed
  | 'o' => unsigned 8 false
  | 'u' => unsigned 10 false
  | 'x' => unsigned 16 false
  | 'X' => unsigned 16 true
  | 'f' => floating .fixed false
  | 'F' => floating .fixed true
  | 'e' => floating .scientific false
  | 'E' => floating .scientific true
  | 'g' => floating .general false
  | 'G' => floating .general true
  | 'a' => floating .hexadecimal false
  | 'A' => floating .hexadecimal true
  | _ => none

end Pass

def onePass : Nat → Text → Pass → Pass
  | 0, _, p => p
  | _ + 1, [], p => p
  | fuel + 1, '\\' :: r, p =>
    let (text, rest) := escape r
    onePass fuel rest (p.put text)
  | fuel + 1, '%' :: '%' :: r, p => onePass fuel r (p.put ['%'])
  | fuel + 1, '%' :: r, p =>
    match directive? r with
    | none => { p with refusal := some (ofString "missing format character") }
    | some (d, rest) =>
      match p.carryOut d with
      | none =>
        let text := '%' :: r.take (r.length - rest.length)
        { p with refusal := some (text ++ ofString ": invalid directive") }
      | some p => if p.cut then p else onePass fuel rest p
  | fuel + 1, c :: r, p => onePass fuel r (p.put [c])

def passes : Nat → Text → Pass → Pass
  | 0, _, p => p
  | fuel + 1, form, p =>
    let p := onePass (form.length + 1) form { p with used := false }
    if p.arguments.isEmpty || !p.used || p.cut || p.refusal.isSome then p else passes fuel form p

/-- What a format prints with some arguments, given the precision of floating-point numbers. -/
def format (precision : Format) (form : Text) (arguments : List Text) : Pass :=
  passes (arguments.length + 1) form { precision, arguments }

end HalBench.Shell.Printing
