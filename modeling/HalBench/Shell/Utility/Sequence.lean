import HalBench.Shell.Numeral
import HalBench.Shell.Utility.Basic
/-!
# Sequences

Programs that print numbers one after the other, the same line again and again, and the prime
factors of numbers.
-/

namespace HalBench.Shell.Utility

namespace Sequence

/-- A number as it was written: its value, which may be without bound, how wide it was and how many
places it had. -/
structure Operand where
  num : Int
  den : Nat := 1
  isInfinite : Bool := false
  isNegative : Bool := false
  width : Nat := 0
  places : Option Nat := some 0

/-- How wide a decimal number is, and its places, from the parts in which it was written: how long
the text before an exponent is, whether there is a point and a digit before it, how many digits are
behind it, and the exponent if there is one. -/
def shape (length : Nat) (point digitBefore : Bool) (fraction : Nat) (exponent : Option Int) :
    Nat × Nat :=
  let places := if point then fraction else 0
  let width : Int := length
  let width := if !point then width
    else if fraction = 0 then width - 1
    else if digitBefore then width else width + 1
  match exponent with
  | none => (width.toNat, places)
  | some e =>
    if e < 0 then
      let width := if !point then width + 1 else if fraction = 0 then width + 1 else width
      ((width - e).toNat, places + e.natAbs)
    else
      let places' := places - e.natAbs
      let width := if point && places' = 0 && fraction != 0 then width - 1 else width
      ((width + (e.natAbs - fraction : Nat)).toNat, places')

/-- The number of a text; none if it is no number. A number that is none on purpose is refused. -/
def operand? (text : Text) : Option (Except Unit Operand) :=
  let body := text.dropWhile fun c => isSpace c || c == '+'
  let (negative, digits) : Bool × Text := match body with
    | '-' :: r => (true, r)
    | r => (false, r)
  let signed (n : Nat) : Int := if negative then -(n : Int) else n
  let isHex := digits.any fun c => c == 'x' || c == 'X'
  match if isHex then none else Numeral.pointed? 10 digits with
  | some (n, places, rest) =>
    let (e, rest') := Numeral.exponent 'e' 'E' rest
    if !rest'.isEmpty then none
    else
      let front := digits.takeWhile fun c => c != 'e' && c != 'E'
      let point := front.contains '.'
      let exponent : Option Int := if rest.isEmpty then none else some e
      let (width, shown) := shape (front.length + (if negative then 1 else 0)) point
        (front.head? != some '.') places exponent
      let shift : Int := e - places
      let (num, den) := if 0 ≤ shift then (n * tenTo shift.toNat, 1) else (n, tenTo (-shift).toNat)
      some (.ok { num := signed num, den, isNegative := negative, width, places := some shown })
  | none =>
    match Numeral.real? .extended text with
    | some ⟨.nan, _, []⟩ => some (.error ())
    | some ⟨.infinite negative, _, []⟩ =>
      some (.ok { num := if negative then -1 else 1, isInfinite := true, isNegative := negative
                  places := if text.contains '.' then none else some 0 })
    | some ⟨.finite negative m e, _, []⟩ =>
      let (num, den) := Binary.ratio m e
      some (.ok { num := if negative then -(num : Int) else num, den, isNegative := negative
                  places := if text.any fun c => c == '.' || c == 'p' then none else some 0 })
    | _ => none

def toBinary (num : Int) (den : Nat) (isNegativeZero : Bool) : Binary :=
  Binary.round .extended (num < 0 || isNegativeZero) num.natAbs den

/-- How a number is printed: a text before it, its layout and form, and a text behind it. -/
structure Format' where
  before : Text := []
  layout : Layout := {}
  form : Layout.Form := .general
  large : Bool := false
  behind : Text := []

/-- The text up to the first directive, in which two percent signs stand for one; and what follows
its percent sign. -/
def upToDirective : Text → Text × Option Text
  | '%' :: '%' :: r =>
    let (before, rest) := upToDirective r
    ('%' :: before, rest)
  | '%' :: r => ([], some r)
  | c :: r =>
    let (before, rest) := upToDirective r
    (c :: before, rest)
  | [] => ([], none)

def formatOf (text : Text) : Except Text Format' :=
  let fault (reason : String) : Text := ofString "format " ++ quote text ++ ofString (" " ++ reason)
  match upToDirective text with
  | (_, none) => .error (fault "has no % directive")
  | (before, some rest) =>
    let flags := rest.takeWhile fun c => ['-', '+', '#', '0', ' ', '\''].contains c
    let rest := rest.drop flags.length
    let width := rest.takeWhile Char.isDigit
    let rest := rest.drop width.length
    let (precision, rest) : Option Nat × Text := match rest with
      | '.' :: r => (some (natOf (r.takeWhile Char.isDigit)), r.dropWhile Char.isDigit)
      | r => (none, r)
    let rest := if rest.head? == some 'L' then rest.drop 1 else rest
    match rest with
    | [] => .error (fault "ends in %")
    | c :: rest =>
      let form : Option Layout.Form := match c.toLower with
        | 'f' => some .fixed
        | 'e' => some .scientific
        | 'g' => some .general
        | _ => none
      match form, upToDirective rest with
      | none, _ =>
        .error (fault (String.ofList ("has unknown %".toList ++ c :: " directive".toList)))
      | some _, (_, some _) => .error (fault "has too many % directives")
      | some form, (behind, none) =>
        let layout : Layout :=
          { left := flags.contains '-', zero := flags.contains '0' && !flags.contains '-'
            plus := flags.contains '+', space := flags.contains ' '
            alternate := flags.contains '#', width := natOf width, precision }
        .ok { before, layout, form, large := c.isUpper, behind }

def Format'.show (f : Format') (num : Int) (den : Nat) (isNegativeZero : Bool) : Text :=
  f.before ++ f.layout.real .extended f.form f.large (toBinary num den isNegativeZero) ++ f.behind

def decimal (places width : Nat) (num : Int) (den : Nat) (isNegativeZero : Bool) : Text :=
  let l : Layout := { zero := true, width }
  l.pad (if num < 0 || isNegativeZero then ['-'] else []) (l.places places num.natAbs den) true

def usual (first step last : Operand) (equalWidth : Bool) : Int → Nat → Bool → Text :=
  match first.places, step.places, last.places with
  | some p, some q, some r =>
    let places := max p q
    let firstWidth := first.width + (places - p) + (if p = 0 && places != 0 then 1 else 0)
    let lastWidth : Int := (last.width : Int) + ((places : Int) - r)
    let lastWidth := if r != 0 && places = 0 then lastWidth - 1 else lastWidth
    let lastWidth := if r = 0 && places != 0 then lastWidth + 1 else lastWidth
    decimal places (if equalWidth then max firstWidth lastWidth.toNat else 0)
  | _, _, _ => ({} : Format').show

/-- How many numbers there are; none if there is no end of them. -/
def count? (first step last : Operand) : Option Nat :=
  let up := 0 < step.num
  if last.isInfinite then if (0 < last.num) == up then none else some 0
  else
    let gap : Int := last.num * first.den - first.num * last.den
    let gap := if up then gap else -gap
    if gap < 0 then some 0
    else some (gap.toNat * step.den / (first.den * last.den * step.num.natAbs) + 1)

def enough : Nat := 50000

def most : Nat := 400000

def guard : List Text → List Text
  | ('-' :: c :: r) :: rest =>
    if c.isDigit || c == '.' then ['-', '-'] :: ('-' :: c :: r) :: rest
    else if [['s'], ['f']].contains (c :: r) then
      ('-' :: c :: r) :: rest.take 1 ++ guard (rest.drop 1)
    else if c == '-' && r.isEmpty then ('-' :: c :: r) :: rest
    else ('-' :: c :: r) :: guard rest
  | words => words
  termination_by words => words.length

end Sequence

open Sequence in
def seq : Utility := fun words =>
  withOptions
    { letters := "f:s:w", ordered := true
      names := [("equal-width", 'w', .none), ("format", 'f', .needed),
        ("separator", 's', .needed)] } 1 (guard words)
    fun o operands => do
      let invalid (what : String) (word : Text) : Action Nat :=
        misused (ofString ("invalid " ++ what ++ ": ") ++ quote word) 1
      match operands with
      | [] => missingOperand 1
      | _ :: _ :: _ :: fourth :: _ => extraOperand fourth 1
      | operands =>
        let form : Except Text (Option Format') := match value? o 'f' with
          | none => .ok none
          | some text => (formatOf text).map some
        match form, operands.find? fun w => (operand? w).isNone,
          operands.find? fun w => match operand? w with
            | some (.error ()) => true
            | _ => false with
        | .error text, _, _ => refuse 1 text
        | _, some w, _ => invalid "floating point argument" w
        | _, _, some w => invalid "'not-a-number' argument" w
        | .ok form, none, none =>
          let values := operands.filterMap fun w => (operand? w).bind Except.toOption
          let one : Operand := { num := 1, width := 1 }
          let (first, step, last) : Operand × Operand × Operand := match values with
            | [a] => (one, one, a)
            | [a, b] => (a, one, b)
            | a :: b :: c :: _ => (a, b, c)
            | [] => (one, one, one)
          if step.num = 0 then invalid "Zero increment value" ((operands.drop 1).headD [])
          else if form.isSome && has o 'w' then
            misused (ofString
              "format string may not be specified when printing equal width strings") 1
          else
            let show' := match form with
              | some f => f.show
              | none => usual first step last (has o 'w')
            let number (i : Nat) : Text :=
              let num := first.num * step.den + step.num * first.den * (i : Int)
              show' num (first.den * step.den) (i = 0 && first.num = 0 && first.isNegative)
            let mark := (value? o 's').getD ['\n']
            let text (n : Nat) : Text :=
              joinWith mark ((List.range n).map number) ++ (if n = 0 then [] else ['\n'])
            match count? first step last with
            | some n =>
              if n ≤ most then
                Action.print (text n)
                return 0
              else
                Action.print (text enough)
                throw .exhausted
            | none =>
              Action.print (text enough)
              throw .exhausted

def pipeCapacity : Nat := 65536

def yes : Utility := fun words =>
  withOptions { letters := "", ordered := true } 1 words fun _ operands => do
    let line := (if operands.isEmpty then ['y'] else joinWith [' '] operands) ++ ['\n']
    Action.print (List.replicate (4 * pipeCapacity / line.length + 1) line).flatten
    if (← get).writeFault.isSome then return 1 else throw .exhausted

def factorsFrom : Nat → Nat → Nat → List Nat
  | 0, _, n => if n < 2 then [] else [n]
  | fuel + 1, d, n =>
    if n < 2 then []
    else if n < d * d then [n]
    else if n % d = 0 then d :: factorsFrom fuel d (n / d)
    else factorsFrom fuel (if d = 2 then 3 else d + 2) n

def factor : Utility := fun words =>
  withOptions { letters := "h" } 1 words fun _ operands => do
    let operands ← if operands.isEmpty then do
        let text := (← Action.readAll 0).toOption.getD []
        pure ((cutAt ' ' (text.map fun c => if isSpace c then ' ' else c)).filter (!·.isEmpty))
      else pure operands
    operands.foldlM (fun status word => do
      match natural? (if word.head? == some '+' then word.drop 1 else word) with
      | some n =>
        let factors := factorsFrom 2000000 2 n
        Action.print (showNat n ++ ':' :: (factors.flatMap fun p => ' ' :: showNat p) ++ ['\n'])
        return status
      | none =>
        complain (quote word ++ ofString " is not a valid positive integer")
        return 1) 0

end HalBench.Shell.Utility
