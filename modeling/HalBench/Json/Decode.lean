import HalBench.Json.Check
import HalBench.Json.TreeReader
/-!
# Reading texts by a schema

`Schema.read` reads a value of a schema off the front of a text and reports the first problem
from the left: a wrong type at the value, a repeated key before its second value, missing fields
at the closing brace. The keys and values of tagged values are read whole before they are looked
at, apart from the tag itself.
-/

namespace HalBench.Json

namespace Reader

def require {α : Type} : Except Fault α → Reader α
  | .ok x => pure x
  | .error e => fail e

def textValue : Reader String := do
  match ← peek with
  | some 34 => advance; string
  | _ => unexpected

def truthValue : Reader Bool := do
  match ← peek with
  | some 116 => literal [116, 114, 117, 101]; return true
  | some 102 => literal [102, 97, 108, 115, 101]; return false
  | _ => unexpected

def nothing : Reader Unit := do
  match ← peek with
  | some 110 => literal [110, 117, 108, 108]
  | _ => unexpected

def numberValue {α : Type} (check : Tree → Except Fault α) : Reader α := do
  match ← peek with
  | some b =>
    if b = 45 || Numeral.isDigit b then
      let x ← numeral
      require (check x)
    else unexpected
  | none => unexpected

def listValue {α : Type} (depth : Nat) (item : Nat → Reader α) : Reader (List α) := do
  match ← peek with
  | some 91 => nested depth fun d => items (item d) true
  | _ => unexpected

def nullableValue {α : Type} (inner : Reader α) : Reader (Option α) := do
  match ← peek with
  | some 110 => literal [110, 117, 108, 108]; return none
  | _ => return some (← inner)

def tableValue {α : Type} (depth : Nat) (entry : Nat → Reader α) :
    Reader (Index α) := do
  match ← peek with
  | some 123 => nested depth fun d => do
    let table ← members string (fun k table => do
      colon
      let x ← entry d
      return table.insert k x) .empty
    closeMembers
    return table
  | _ => unexpected

/-- One of some names: a string, or an object whose only key is the name and whose value is
`null`. -/
def choiceValue (names : List String) (depth : Nat) : Reader (Fin names.length) := do
  match ← peek with
  | none => fail .endOfText
  | some 34 =>
    advance
    let s ← string
    require (choose names s)
  | some 123 => nested depth fun _ => do
    let s ← textValue
    let i ← require (choose names s)
    colon
    nothing
    closeMembers
    return i
  | some _ => fail .malformed

/-- One member of a tagged value: its tag, which must be one of the names, or another one. -/
def taggedMember (tag : String) (names : List String) (depth : Nat) (key : String)
    (read : Option String × List (String × Tree)) :
    Reader (Option String × List (String × Tree)) := do
  if key = tag then
    if read.1.isSome then fail (.duplicateField tag)
    else
      colon
      let name ← textValue
      let _ ← require (choose names name)
      return (some name, read.2)
  else
    colon
    let x ← tree depth
    return (read.1, read.2 ++ [(key, x)])

def taggedValue (tag : String) (names : List String) (depth : Nat) : Reader (String × Body) := do
  match ← peek with
  | some 123 => nested depth fun d => do
    let (found, rest) ← members string (taggedMember tag names d) (none, [])
    closeMembers
    match found with
    | none => fail (.missingField tag)
    | some name => return (name, .members rest)
  | some 91 => nested depth fun d => do
    if ← nextItem true then
      let name ← textValue
      let _ ← require (choose names name)
      let rest ← items (tree d) false
      return (name, .items rest)
    else fail (.missingField tag)
  | _ => unexpected

end Reader

open Reader

mutual

def Schema.read : (s : Schema) → Nat → Reader s.Carrier
  | .text, _ => textValue
  | .value, depth => do return .ofTree (← tree depth)
  | .truth, _ => truthValue
  | .float f, _ => numberValue (Tree.asFloat f)
  | .word w, _ => numberValue (Tree.asWord w)
  | .list item, depth => listValue depth item.read
  | .nullable inner, depth => nullableValue (inner.read depth)
  | .table entry, depth => tableValue depth entry.read
  | .choice names, depth => choiceValue names depth
  | .record fields, depth => do
    match ← peek with
    | some 123 => nested depth fun d => do
      let slots ← members string (fields.readMember d) fields.empty
      let x ← require (fields.finish slots)
      closeMembers
      return x
    | some 91 => nested depth fun d => do
      let x ← fields.readItems d true
      closeItems
      return x
    | _ => unexpected
  | .tagged tag variants, depth => do
    let (name, body) ← taggedValue tag variants.names depth
    require (variants.check name body)

/-- One member of an object, put into its slot; a member of an unknown key is passed over. -/
def Fields.readMember : (fields : Fields) → Nat → String → fields.Slots → Reader fields.Slots
  | .done, _, _, () => do
    colon
    skip
  | .required name schema rest, depth, k, (slot, slots) =>
    if k = name then
      if slot.isSome then fail (.duplicateField name)
      else do
        colon
        let x ← schema.read depth
        return (some x, slots)
    else do
      let slots ← rest.readMember depth k slots
      return (slot, slots)
  | .optional name schema rest, depth, k, (slot, slots) =>
    if k = name then
      if slot.isSome then fail (.duplicateField name)
      else do
        colon
        let x ← schema.read depth
        return (some x, slots)
    else do
      let slots ← rest.readMember depth k slots
      return (slot, slots)

def Fields.readItems : (fields : Fields) → Nat → Bool → Reader fields.Carrier
  | .done, _, _ => pure ()
  | .required _ schema rest, depth, first => do
    if ← nextItem first then
      let x ← schema.read depth
      let r ← rest.readItems depth false
      return (x, r)
    else fail .wrongLength
  | .optional _ schema rest, depth, first => do
    if ← nextItem first then
      let x ← schema.read depth
      let r ← rest.readItems depth false
      return (some x, r)
    else
      let r ← rest.readItems depth first
      return (none, r)

end

def maxDepth : Nat := 127

def Schema.decode (s : Schema) (text : Bytes) : Except Fault s.Carrier :=
  whole (s.read maxDepth) text

end HalBench.Json
