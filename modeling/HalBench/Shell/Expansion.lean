import HalBench.Shell.Arithmetic
import HalBench.Shell.Field
import HalBench.Shell.State
/-!
# Expansion of words

What stands for a value in a word is replaced by it: parameters, the output of commands, numbers
that are worked out, and home directories. The outcome is a list of marks, from which fields, a text
or a pattern is made.
-/

namespace HalBench.Shell

/-- How words are expanded: how the output of a command comes about, whether the outcome is cut into
fields, and whether text of the script itself may be cut. -/
structure Expander where
  output : Command → Action Text
  cuts : Bool := true
  loosens : Bool := false

namespace Expander

def home? (s : State) (name : Text) : Option Text :=
  if name.isEmpty then s.value? "HOME"
  else if name == ofString "root" then some (ofString "/root")
  else none

def endsName (inList : Bool) (rest : Text) (isLast : Bool) : Bool :=
  match rest with
  | [] => isLast
  | c :: _ => c == '/' || (inList && c == ':')

/-- The marks of a text that starts with a tilde if it names a home directory, and what follows. -/
def tilde? (s : State) (inList : Bool) (text : Text) (isLast : Bool) : Option (List Mark × Text) :=
  match text with
  | '~' :: r =>
    let name := r.takeWhile fun c => c != '/' && !(inList && c == ':')
    let rest := r.drop name.length
    if endsName inList rest isLast then
      (home? s name).map fun path => (Mark.fixed true path, rest)
    else none
  | _ => none

/-- The marks of a text of a script outside of quotes. A tilde may stand at its `start`, and in a
list of paths after every colon. -/
def scriptMarks (s : State) (inList : Bool) (plain : Text → List Mark) (isLast : Bool) :
    Nat → Bool → Text → List Mark
  | 0, _, text => plain text
  | fuel + 1, start, text =>
    match if start then tilde? s inList text isLast else none with
    | some (marks, rest) => marks ++ scriptMarks s inList plain isLast fuel false rest
    | none =>
      if inList then
        let front := text.takeWhile (· != ':')
        match text.drop front.length with
        | colon :: rest =>
          plain (front ++ [colon]) ++ scriptMarks s inList plain isLast fuel true rest
        | [] => plain text
      else plain text

def joiner (s : State) : Text :=
  match s.value? "IFS" with
  | some separators => separators.take 1
  | none => [' ']

/-- The value of a parameter; none if it is not set. -/
def value? (s : State) (name : String) : Option Text :=
  match name with
  | "?" => some (showNat s.status)
  | "$" => some (showNat s.processId)
  | "#" => some (showNat s.arguments.length)
  | "!" => s.lastJob.map showNat
  | "-" => some (Setting.letters s.settings)
  | "@" => some (joinWith (joiner s) s.arguments)
  | "*" => some (joinWith (joiner s) s.arguments)
  | name =>
    match name.toList with
    | c :: digits =>
      if c.isDigit then
        match natOf (c :: digits) with
        | 0 => some s.name
        | n + 1 => s.arguments[n]?
      else s.value? name
    | [] => none

def valueMarks (quoted : Bool) (value : Text) : List Mark :=
  if quoted then Mark.fixed true value else Mark.loose value

def argumentMarks (quoted : Bool) (arguments : List Text) : List Mark :=
  if arguments.isEmpty then []
  else .stretch quoted :: [Mark.gap].intercalate (arguments.map fun a => a.map (.char quoted true))

def parameterMarks (k : Expander) (s : State) (quoted : Bool) (name : String) (value : Text) :
    List Mark :=
  if k.cuts && (name == "@" || (name == "*" && !quoted)) then argumentMarks quoted s.arguments
  else valueMarks quoted value

/-- Fails if a parameter has no value although it must have one. -/
def demand (name : String) (value : Option Text) : Action Unit := do
  if value.isNone && (← get).has .nounset then
    Action.fail (ofString (name ++ ": parameter not set"))

/-- The marks of the value of an arithmetic expression; what it assigns is set. -/
def arithmeticMarks (quoted : Bool) (expression : Text) : Action (List Mark) := do
  let s ← get
  match Arithmetic.evaluate s.value? expression with
  | .error fault => Action.fail (fault.message expression)
  | .ok (n, assigned) =>
    assigned.forM fun (name, m) => Action.assign name (showInt m)
    return valueMarks quoted (showInt n)

mutual

/-- The marks of a part of a word; `start` tells that it is the first one, `isLast` that no other
follows, and `inList` that the word is a list of paths. -/
def part (k : Expander) (inList start isLast : Bool) : Part → Action (List Mark)
  | .text true text => return Mark.fixed true text
  | .text false text => do
    let plain : Text → List Mark := if k.loosens then Mark.loose else Mark.fixed false
    return scriptMarks (← get) inList plain isLast (text.length + 1) start text
  | .mark => return [.present]
  | .output quoted body => do
    return valueMarks quoted (trimNewlines ((← k.output body).filter (· != '\x00')))
  | .arithmetic quoted expression => do
    arithmeticMarks quoted (Mark.text (← parts { k with cuts := false } false false expression))
  | .parameter quoted name treatment word => do
    let s ← get
    let value := value? s name
    let isGiven (colon : Bool) : Bool := match value with
      | some v => !(colon && v.isEmpty)
      | none => false
    let whole : Action (List Mark) := do
      demand name value
      return parameterMarks k s quoted name (value.getD [])
    match treatment with
    | .plain => whole
    | .length =>
      demand name value
      return valueMarks quoted (showNat (value.getD []).length)
    | .otherwise colon =>
      if isGiven colon then whole else parts { k with loosens := !quoted } false true word
    | .alternative colon =>
      if isGiven colon then parts { k with loosens := !quoted } false true word else return []
    | .assigned colon =>
      if isGiven colon then whole
      else
        let text := Mark.text (← parts { k with cuts := false } false true word)
        if isName name.toList then
          Action.assign name text
          return valueMarks quoted text
        else Action.fail (ofString (name ++ ": bad variable name"))
    | .required colon =>
      if isGiven colon then whole
      else
        let text := Mark.text (← parts { k with cuts := false } false true word)
        Action.fail (ofString (name ++ ": ")
          ++ (if !word.isEmpty then text
            else ofString (if colon then "parameter not set or null" else "parameter not set")))
    | .withoutFront longest =>
      demand name value
      let p := Mark.pattern (← parts { k with cuts := false } false true word)
      return valueMarks quoted (p.dropFront longest (value.getD []))
    | .withoutBack longest =>
      demand name value
      let p := Mark.pattern (← parts { k with cuts := false } false true word)
      return valueMarks quoted (p.dropBack longest (value.getD []))
    | .bad => Action.fail (ofString "Bad substitution")

def parts (k : Expander) (inList start : Bool) : List Part → Action (List Mark)
  | [] => return []
  | p :: ps => do
    let marks ← part k inList start ps.isEmpty p
    return marks ++ (← parts k inList false ps)

end

/-- The text of a word that is not cut; a tilde may stand at its start. -/
def text (k : Expander) (word : Word) : Action Text :=
  return Mark.text (← parts { k with cuts := false } false true word)

def plainText (k : Expander) (word : Word) : Action Text :=
  return Mark.text (← parts { k with cuts := false } false false word)

def value (k : Expander) (word : Word) : Action Text :=
  return Mark.text (← parts { k with cuts := false } true true word)

def pattern (k : Expander) (word : Word) : Action Pattern :=
  return Mark.pattern (← parts { k with cuts := false } false true word)

/-- The fields of a word; those that are patterns give way to the paths that they stand for. -/
def fields (k : Expander) (word : Word) : Action (List Text) := do
  let marks ← parts k false true word
  let s ← get
  let found := Mark.fields s.separators marks
  return if s.has .noglob then found.map Pattern.text else found.flatMap fun p => p.paths s.files

def assignment? (k : Expander) (word : Word) : Option (Action (List Text)) :=
  word.assignment?.map fun (name, value) => do
    return [name.toList ++ '=' :: (← k.value value)]

end Expander

end HalBench.Shell
