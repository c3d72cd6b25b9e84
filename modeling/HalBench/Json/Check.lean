import HalBench.Json.Schema
/-!
# Interpreting trees by a schema

`Schema.check` reads a tree as a value of a schema, `Schema.write` gives the tree of a value.
-/

namespace HalBench.Json

/-- The parts of a tagged value besides its tag: named, or in order. -/
inductive Body where
  | members (list : List (String × Tree))
  | items (list : List Tree)

namespace Tree

def asText : Tree → Except Fault String
  | text s => .ok s
  | _ => .error .wrongType

def asTruth : Tree → Except Fault Bool
  | bool b => .ok b
  | _ => .error .wrongType

def asFloat (f : Format) : Tree → Except Fault Binary
  | integer i => .ok (.ofInt f i.val)
  | float _ x => .ok (x.convert f)
  | _ => .error .wrongType

def asWord (w : Word) : Tree → Except Fault w.Carrier
  | integer i =>
    match w.ofInt? i.val with
    | some x => .ok x
    | none => .error .outOfRange
  | _ => .error .wrongType

def asItems : Tree → Except Fault (List Tree)
  | array items => .ok items
  | _ => .error .wrongType

def asMembers : Tree → Except Fault (List (String × Tree))
  | object members => .ok members
  | _ => .error .wrongType

/-- Nothing: `null`, or an object without members. -/
def asNothing : Tree → Except Fault Unit
  | null => .ok ()
  | object [] => .ok ()
  | _ => .error .wrongType

/-- One of some names: a string, or an object whose only key is the name. -/
def asChoice (names : List String) : Tree → Except Fault (Fin names.length)
  | text s => choose names s
  | object [(k, x)] => do
    let i ← choose names k
    x.asNothing
    return i
  | object _ => .error .outOfRange
  | _ => .error .wrongType

def splitTag (tag : String) (names : List String) :
    List (String × Tree) → Option String → Except Fault (String × List (String × Tree))
  | [], none => .error (.missingField tag)
  | [], some name => .ok (name, [])
  | (k, x) :: r, found => do
    if k = tag then
      if found.isSome then .error (.duplicateField tag)
      else
        let name ← x.asText
        let _ ← choose names name
        splitTag tag names r (some name)
    else
      let (name, rest) ← splitTag tag names r found
      return (name, (k, x) :: rest)

def asTagged (tag : String) (names : List String) : Tree → Except Fault (String × Body)
  | object members => do
    let (name, rest) ← splitTag tag names members none
    return (name, .members rest)
  | array [] => .error (.missingField tag)
  | array (x :: r) => do
    let name ← x.asText
    let _ ← choose names name
    return (name, .items r)
  | _ => .error .wrongType

end Tree

/-- Entries of a table by their keys, from members in any order; the last of a key counts. -/
def tableOf {α : Type} (check : Tree → Except Fault α) :
    List (String × Tree) → Index α → Except Fault (Index α)
  | [], table => .ok table
  | (k, x) :: r, table => do
    let y ← check x
    tableOf check r (table.insert k y)

def listOf {α : Type} (check : Tree → Except Fault α) : List Tree → Except Fault (List α)
  | [] => .ok []
  | x :: r => do
    let y ← check x
    let s ← listOf check r
    return y :: s

def putAll {σ : Type} (put : String → Tree → σ → Except Fault σ) :
    List (String × Tree) → σ → Except Fault σ
  | [], s => .ok s
  | (k, x) :: r, s => do
    let s' ← put k x s
    putAll put r s'

mutual

def Schema.check : (s : Schema) → Tree → Except Fault s.Carrier
  | .text, x => x.asText
  | .value, x => .ok (.ofTree x)
  | .truth, x => x.asTruth
  | .float f, x => x.asFloat f
  | .word w, x => x.asWord w
  | .list item, x => do listOf item.check (← x.asItems)
  | .nullable inner, x =>
    match x with
    | .null => .ok none
    | x => (inner.check x).map some
  | .table entry, x => do tableOf entry.check (← x.asMembers) .empty
  | .choice names, x => x.asChoice names
  | .record fields, x =>
    match x with
    | .object members => do
      let slots ← putAll fields.checkMember members fields.empty
      fields.finish slots
    | .array items => fields.checkItems items
    | _ => .error .wrongType
  | .tagged tag variants, x => do
    let (name, body) ← x.asTagged tag variants.names
    variants.check name body

def Fields.checkMember : (fields : Fields) → String → Tree → fields.Slots →
    Except Fault fields.Slots
  | .done, _, _, () => .ok ()
  | .required name schema rest, k, x, (slot, slots) =>
    if k = name then
      if slot.isSome then .error (.duplicateField name)
      else (schema.check x).map fun y => (some y, slots)
    else (rest.checkMember k x slots).map fun slots => (slot, slots)
  | .optional name schema rest, k, x, (slot, slots) =>
    if k = name then
      if slot.isSome then .error (.duplicateField name)
      else (schema.check x).map fun y => (some y, slots)
    else (rest.checkMember k x slots).map fun slots => (slot, slots)

def Fields.checkItems : (fields : Fields) → List Tree → Except Fault fields.Carrier
  | .done, [] => .ok ()
  | .done, _ :: _ => .error .wrongLength
  | .required _ _ _, [] => .error .wrongLength
  | .required _ schema rest, x :: r => do
    let y ← schema.check x
    let s ← rest.checkItems r
    return (y, s)
  | .optional _ _ rest, [] => (rest.checkItems []).map fun s => (none, s)
  | .optional _ schema rest, x :: r => do
    let y ← schema.check x
    let s ← rest.checkItems r
    return (some y, s)

def Variants.check : (variants : Variants) → String → Body → Except Fault variants.Carrier
  | .done, name, _ => .error (.unknownVariant name)
  | .variant n fields rest, name, body =>
    if n = name then
      match body with
      | .members members => do
        let slots ← putAll fields.checkMember members fields.empty
        let x ← fields.finish slots
        return .inl x
      | .items items => (fields.checkItems items).map .inl
    else (rest.check name body).map .inr

end

mutual

def Schema.write : (s : Schema) → s.Carrier → Tree
  | .text, x => .text x
  | .value, x => Value.tree x
  | .truth, x => .bool x
  | .float f, x => .float f x
  | .word w, x => .integer (w.toInteger x)
  | .list item, x => .array (List.map item.write x)
  | .nullable inner, x =>
    match x with
    | none => .null
    | some y => inner.write y
  | .table entry, x => .object (List.map (fun m => (m.1, entry.write m.2)) (Index.entries x))
  | .choice names, x => .text (names.get x)
  | .record fields, x => .object (fields.write x)
  | .tagged tag variants, x =>
    let (name, members) := variants.write x
    .object ((tag, .text name) :: members)

/-- The members of a record; an optional field that is absent is left out. -/
def Fields.write : (fields : Fields) → fields.Carrier → List (String × Tree)
  | .done, _ => []
  | .required name schema rest, (x, r) => (name, schema.write x) :: rest.write r
  | .optional name schema rest, (x, r) =>
    match x with
    | none => rest.write r
    | some y => (name, schema.write y) :: rest.write r

def Variants.write : (variants : Variants) → variants.Carrier → String × List (String × Tree)
  | .done, x => nomatch x
  | .variant name fields _, .inl x => (name, fields.write x)
  | .variant _ _ rest, .inr x => rest.write x

end

end HalBench.Json
