import HalBench.Json.Fault
import HalBench.Json.Tree
/-!
# Shapes of JSON values

A schema says which JSON values a place admits, and `Schema.Carrier` is the type of what is read
there. The fields of a record come in a fixed order; an optional field may be left out. A tagged
value is a record whose fields depend on the name under its tag.
-/

namespace HalBench.Json

inductive Word where
  | unsigned32
  | signed32
  | unsigned64
  | signed64
  deriving DecidableEq, Repr

namespace Word

def Carrier : Word → Type
  | unsigned32 => UInt32
  | signed32 => Int32
  | unsigned64 => UInt64
  | signed64 => Int64

def lower : Word → Int
  | unsigned32 => 0
  | signed32 => -2147483648
  | unsigned64 => 0
  | signed64 => -9223372036854775808

def upper : Word → Int
  | unsigned32 => 4294967296
  | signed32 => 2147483648
  | unsigned64 => 18446744073709551616
  | signed64 => 9223372036854775808

def ofInt : (w : Word) → Int → w.Carrier
  | unsigned32, i => UInt32.ofInt i
  | signed32, i => Int32.ofInt i
  | unsigned64, i => UInt64.ofInt i
  | signed64, i => Int64.ofInt i

def ofInt? (w : Word) (i : Int) : Option w.Carrier :=
  if w.lower ≤ i ∧ i < w.upper then some (w.ofInt i) else none

def toInt : (w : Word) → w.Carrier → Int
  | unsigned32, x => (UInt32.toNat x : Int)
  | signed32, x => Int32.toInt x
  | unsigned64, x => (UInt64.toNat x : Int)
  | signed64, x => Int64.toInt x

theorem toInt_bounds : (w : Word) → (x : w.Carrier) →
    -9223372036854775808 ≤ w.toInt x ∧ w.toInt x < 18446744073709551616
  | unsigned32, x => by
    have := UInt32.toNat_lt x
    simp only [toInt]
    omega
  | signed32, x => by
    have := Int32.le_toInt x
    have := Int32.toInt_lt x
    simp only [toInt]
    omega
  | unsigned64, x => by
    have := UInt64.toNat_lt x
    simp only [toInt]
    omega
  | signed64, x => by
    have := Int64.le_toInt x
    have := Int64.toInt_lt x
    simp only [toInt]
    omega

def toInteger (w : Word) (x : w.Carrier) : Integer :=
  ⟨w.toInt x, (w.toInt_bounds x).1, (w.toInt_bounds x).2⟩

end Word

mutual

/-- Which JSON values a place admits. -/
inductive Schema where
  | text
  | value
  | truth
  | float (format : Format)
  | word (width : Word)
  | list (item : Schema)
  | nullable (inner : Schema)
  | table (entry : Schema)
  | choice (names : List String)
  | record (fields : Fields)
  | tagged (tag : String) (variants : Variants)

inductive Fields where
  | done
  | required (name : String) (schema : Schema) (rest : Fields)
  | optional (name : String) (schema : Schema) (rest : Fields)

/-- The names that a tag may have, each with its fields. -/
inductive Variants where
  | done
  | variant (name : String) (fields : Fields) (rest : Variants)

end

mutual

def Schema.Carrier : Schema → Type
  | .text => String
  | .value => Value
  | .truth => Bool
  | .float _ => Binary
  | .word w => w.Carrier
  | .list item => List item.Carrier
  | .nullable inner => Option inner.Carrier
  | .table entry => Index entry.Carrier
  | .choice names => Fin names.length
  | .record fields => fields.Carrier
  | .tagged _ variants => variants.Carrier

def Fields.Carrier : Fields → Type
  | .done => Unit
  | .required _ schema rest => schema.Carrier × rest.Carrier
  | .optional _ schema rest => Option schema.Carrier × rest.Carrier

def Variants.Carrier : Variants → Type
  | .done => Empty
  | .variant _ fields rest => fields.Carrier ⊕ rest.Carrier

end

def Variants.names : Variants → List String
  | .done => []
  | .variant name _ rest => name :: rest.names

def Fields.Slots : Fields → Type
  | .done => Unit
  | .required _ schema rest => Option schema.Carrier × rest.Slots
  | .optional _ schema rest => Option schema.Carrier × rest.Slots

def Fields.empty : (fields : Fields) → fields.Slots
  | .done => ()
  | .required _ _ rest => (none, rest.empty)
  | .optional _ _ rest => (none, rest.empty)

/-- The fields of a record that has been read; the first required one that is missing is a
fault. -/
def Fields.finish : (fields : Fields) → fields.Slots → Except Fault fields.Carrier
  | .done, () => .ok ()
  | .required name _ rest, (slot, slots) =>
    match slot with
    | none => .error (.missingField name)
    | some x => (rest.finish slots).map fun r => (x, r)
  | .optional _ _ rest, (slot, slots) => (rest.finish slots).map fun r => (slot, r)

def choose : (names : List String) → String → Except Fault (Fin names.length)
  | [], name => .error (.unknownVariant name)
  | n :: rest, name =>
    if n = name then .ok ⟨0, Nat.succ_pos _⟩
    else (choose rest name).map Fin.succ

end HalBench.Json
