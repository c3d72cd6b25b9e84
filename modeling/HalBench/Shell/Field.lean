import HalBench.Shell.Pattern
/-!
# Fields of expanded words

A word whose parts were replaced by their values is a list of marks. It is cut into fields in the
stretches that may be cut: those that come from values outside of quotes, and all arguments between
quotes, which are cut only where one argument ends.
-/

namespace HalBench.Shell

/-- A part of an expanded word: a character, of which it is told whether it is quoted and whether
it belongs to a stretch that may be cut; a sign that there is a field even if it is empty; the
start of a stretch, which may be cut only between arguments if so told; the end of an argument. -/
inductive Mark where
  | char (quoted cuts : Bool) (c : Char)
  | present
  | stretch (betweenArguments : Bool)
  | gap
  deriving DecidableEq, Repr

namespace Mark

def fixed (quoted : Bool) (text : Text) : List Mark := text.map (char quoted false)

/-- The marks of a text that may be cut; nothing for an empty one. -/
def loose (text : Text) : List Mark :=
  if text.isEmpty then [] else stretch false :: text.map (char false true)

def pattern (marks : List Mark) : Pattern :=
  marks.filterMap fun
    | char quoted _ c => some (quoted, c)
    | gap => some (true, ' ')
    | _ => none

def text (marks : List Mark) : Text := (pattern marks).text

def usualSeparators : Text := [' ', '\t', '\n']

/-- A place in the cutting: the fields so far and the one that is read, both with the latest first;
whether blanks that follow a separator are passed over; whether this stretch and the one before it
are cut only between arguments. -/
structure Cutter where
  fields : List Pattern := []
  read : Option Pattern := none
  passing : Bool := false
  only : Bool := false
  afterOnly : Bool := false

namespace Cutter

def finish (k : Cutter) : Cutter :=
  { k with fields := (k.read.getD []).reverse :: k.fields, read := none }

/-- Takes a character of a stretch, which may be a separator, also a blank one. Blanks at the
start of a field are no part of it, and with the blanks around it a separator counts once. -/
def take (k : Cutter) (c : Option (Bool × Char)) (separates isBlank : Bool) : Cutter :=
  let keep (k : Cutter) : Cutter :=
    match c with
    | some c => { k with read := some (c :: k.read.getD []), passing := false }
    | none => { k with passing := false }
  if k.passing then
    if !separates then keep k
    else if isBlank then k
    else { k with passing := false }
  else if separates then
    let passing := !(k.only || k.afterOnly) && isBlank
    if k.read.isNone && passing then k else { k.finish with passing }
  else keep k

def step (separators : Text) (k : Cutter) : Mark → Cutter
  | present => { k with read := some (k.read.getD []) }
  | stretch only => { k with only, afterOnly := k.only, passing := false }
  | gap => k.take none true true
  | char quoted cuts c =>
    if !cuts then { k with read := some ((quoted, c) :: k.read.getD []) }
    else k.take (some (quoted, c)) (!k.only && separators.contains c) (usualSeparators.contains c)

end Cutter

def fields (separators : Text) (marks : List Mark) : List Pattern :=
  let k := marks.foldl (Cutter.step separators) {}
  (if k.only || k.read.isSome then k.finish else k).fields.reverse

end Mark

/-- A place in reading a line into a number of fields: what was read is kept with the latest first.
In the last field `ending` is what is left off if nothing but blanks follows. -/
structure LineCutter where
  fields : List Text := []
  left : Nat
  read : Text := []
  passing : Bool := false
  isLast : Bool := false
  ending : Option Text := none

namespace LineCutter

/-- Goes on with a character; one that is escaped is never a separator. -/
def step (separators : Text) (k : LineCutter) (escaped : Bool) (c : Char) : LineCutter :=
  let separates := !escaped && separators.contains c
  let isBlank := separates && Mark.usualSeparators.contains c
  if k.isLast then
    if isBlank then { k with ending := some (c :: k.ending.getD []) }
    else
      match k.ending, separates && k.passing with
      | some e, true => { k with ending := some (c :: e), passing := false }
      | e, _ => { k with read := c :: (e.getD [] ++ k.read), ending := none, passing := false }
  else if k.passing && separates then { k with passing := isBlank }
  else if separates then
    if k.read.isEmpty && isBlank then k
    else if k.left ≤ 1 then
      { k with isLast := true, passing := isBlank, ending := some [c] }
    else
      { k with
        fields := k.read.reverse :: k.fields, left := k.left - 1, read := [], passing := isBlank }
  else { k with read := c :: k.read, passing := false }

/-- The fields of a line, at most `count`. The last one has the rest of the line without the blanks
at its end, or the one separator there. -/
def cut (separators : Text) (count : Nat) (line : List (Bool × Char)) : List Text :=
  let k := line.foldl (fun k c => step separators k c.1 c.2) { left := count }
  (if k.read.isEmpty && !k.isLast then k.fields else k.read.reverse :: k.fields).reverse

end LineCutter

end HalBench.Shell
