import HalBench.Log.Pattern
import HalBench.Text.Blank
import HalBench.Text.Cut
/-!
# Log filters

A filter is a list of directives between commas. A directive is a level, a target, or a target
with a level after an equals sign; a span in brackets, with a field in braces, may stand after the
target. The value of a field is a number or a pattern.
-/

namespace HalBench.Log

inductive Level where
  | off
  | error
  | warn
  | info
  | debug
  | trace
  deriving DecidableEq, Repr, Inhabited

def number? (text : List Char) : Option Nat :=
  let digits := match text with
    | '+' :: r => r
    | r => r
  if digits ≠ [] ∧ digits.all Char.isDigit then
    some (digits.foldl (fun n c => 10 * n + (c.toNat - 48)) 0)
  else none

namespace Level

def ofNat? : Nat → Option Level
  | 0 => some off
  | 1 => some error
  | 2 => some warn
  | 3 => some info
  | 4 => some debug
  | 5 => some trace
  | _ => none

/-- The level of a name in any case, or of a number; no text at all means errors only. -/
def ofText? (text : List Char) : Option Level :=
  match (number? text).bind ofNat? with
  | some level => some level
  | none =>
    match String.ofList (text.map Char.toLower) with
    | "" => some error
    | "off" => some off
    | "error" => some error
    | "warn" => some warn
    | "info" => some info
    | "debug" => some debug
    | "trace" => some trace
    | _ => none

end Level

/-- Whether a text is a number with a decimal point, an exponent, or none of them; there are
names for what is not finite. -/
def isNumber (text : List Char) : Bool :=
  let unsigned (text : List Char) : List Char := match text with
    | '+' :: r => r
    | '-' :: r => r
    | r => r
  let body := (unsigned text).map Char.toLower
  let mantissa := body.takeWhile (· != 'e')
  let exponent := (body.dropWhile (· != 'e')).drop 1
  let whole := mantissa.takeWhile (· != '.')
  let fraction := (mantissa.dropWhile (· != '.')).drop 1
  ["inf", "infinity", "nan"].contains (String.ofList body)
    || ((whole ++ fraction).all Char.isDigit && !(whole ++ fraction).isEmpty
      && (mantissa.length == body.length
        || ((unsigned exponent).all Char.isDigit && !(unsigned exponent).isEmpty)))

/-- Whether a text is a field: a name, and maybe a value after an equals sign, which is a number
or a pattern. What stands after a second equals sign is passed over. -/
def isField (text : List Char) : Bool :=
  !text.isEmpty &&
    match Text.splitOn '=' text with
    | _ :: value :: _ => isNumber value || isPattern value
    | _ => true

/-- The part of a text between two places, counted in bytes of UTF-8; none if a place is inside
a character. -/
def slice (text : List Char) (first last : Nat) : Option (List Char) :=
  match text with
  | [] => if first = 0 ∧ last = 0 then some [] else none
  | c :: r =>
    if last = 0 then if first = 0 then some [] else none
    else if last < c.utf8Size then none
    else if first = 0 then (slice r 0 (last - c.utf8Size)).map (c :: ·)
    else if first < c.utf8Size then none
    else slice r (first - c.utf8Size) (last - c.utf8Size)

/-- Where a directive is read; a field and a level know where they began. -/
inductive Place where
  | name
  | span
  | field (first : Nat)
  | afterFields
  | afterSpan
  | level (first : Nat)
  deriving DecidableEq, Repr

namespace Place

def step (text : List Char) (offset : Nat) : Place → Char → Option Place
  | name, '=' => some (level (offset + 1))
  | name, '[' => some span
  | name, _ => some name
  | span, ']' => some afterSpan
  | span, '\x7b' => some (field (offset + 1))
  | span, _ => some span
  | field first, '\x7d' =>
    (slice text first offset).bind fun f => if isField f then some afterFields else none
  | field first, _ => some (field first)
  | afterFields, ']' => some afterSpan
  | afterFields, _ => none
  | afterSpan, '=' => some (level (offset + 1))
  | afterSpan, _ => none
  | level first, _ => some (level first)

def run (text : List Char) (offset : Nat) (p : Place) : List Char → Option Place
  | [] => some p
  | c :: r => (p.step text offset c).bind fun q => q.run text (offset + c.utf8Size) r

end Place

def isNameStart (c : Char) : Bool :=
  c == '-' || c == ':' || c == '_' || Text.isAlphanumeric c

def size (text : List Char) : Nat := text.foldl (fun n c => n + c.utf8Size) 0

/-- Whether a text is a directive. The blanks around it are passed over, but fields and levels are
cut out of the text with its blanks at the places where they stand without them. -/
def isDirective (text : List Char) : Bool :=
  let start : Option Place := match Text.trim text with
    | [] => none
    | '[' :: r => Place.span.run text 1 r
    | c :: r => if isNameStart c then Place.name.run text c.utf8Size r else none
  match start with
  | some .name => true
  | some .afterSpan => true
  | some (.level first) =>
    match slice text first (size text) with
    | some level => level == [] || (Level.ofText? level).isSome
    | none => false
  | _ => false

def isFilter (text : List Char) : Bool :=
  ((Text.splitOn ',' text).filter fun part => !part.isEmpty).all isDirective

end HalBench.Log
