import HalBench.Index
import HalBench.Number.Binary
/-!
# JSON trees

A tree is what a JSON text says, with the members of an object in their order of appearance and
repeated keys kept. A canonical tree has the members of each object in strictly ascending order
of keys; `Tree.canon` sorts members, and of a repeated key keeps the last value. A value is a
canonical tree.
-/

namespace HalBench.Json

/-- An integer between -2 ^ 63 and 2 ^ 64 - 1. -/
structure Integer where
  val : Int
  lower : -9223372036854775808 ≤ val
  upper : val < 18446744073709551616
  deriving DecidableEq, Repr

def Integer.ofInt? (i : Int) : Option Integer :=
  if h : -9223372036854775808 ≤ i ∧ i < 18446744073709551616 then some ⟨i, h.1, h.2⟩ else none

/-- The integer of a count; counts beyond the range are shown as its greatest value. -/
def Integer.ofNat (n : Nat) : Integer :=
  ⟨(min n (18446744073709551615) : Nat), by omega, by omega⟩

inductive Tree where
  | null
  | bool (b : Bool)
  | integer (i : Integer)
  | float (format : Format) (x : Binary)
  | text (s : String)
  | array (items : List Tree)
  | object (members : List (String × Tree))
  deriving Repr, Inhabited

namespace Tree

def count (n : Nat) : Tree := .integer (.ofNat n)

mutual

/-- All objects have strictly ascending keys. -/
def Canonical : Tree → Prop
  | array items => CanonicalItems items
  | object members => Entries.Ascending members ∧ CanonicalMembers members
  | _ => True

def CanonicalItems : List Tree → Prop
  | [] => True
  | x :: r => x.Canonical ∧ CanonicalItems r

def CanonicalMembers : List (String × Tree) → Prop
  | [] => True
  | m :: r => CanonicalMember m ∧ CanonicalMembers r

def CanonicalMember : String × Tree → Prop
  | (_, x) => x.Canonical

end

mutual

def canon : Tree → Tree
  | array items => array (canonItems items)
  | object members => object (Entries.sort (canonMembers members))
  | x => x

def canonItems : List Tree → List Tree
  | [] => []
  | x :: r => x.canon :: canonItems r

def canonMembers : List (String × Tree) → List (String × Tree)
  | [] => []
  | m :: r => canonMember m :: canonMembers r

def canonMember : String × Tree → String × Tree
  | (k, x) => (k, x.canon)

end

theorem canonicalMember_iff {m : String × Tree} : CanonicalMember m ↔ m.2.Canonical := by
  cases m
  simp only [CanonicalMember]

theorem canonicalMembers_iff {members : List (String × Tree)} :
    CanonicalMembers members ↔ ∀ m ∈ members, m.2.Canonical := by
  induction members with
  | nil => simp [CanonicalMembers]
  | cons m r ih => simp only [CanonicalMembers, canonicalMember_iff, ih, List.forall_mem_cons]

theorem canonicalItems_iff {items : List Tree} :
    CanonicalItems items ↔ ∀ x ∈ items, x.Canonical := by
  induction items with
  | nil => simp [CanonicalItems]
  | cons x r ih => simp [CanonicalItems, ih]

mutual

theorem canonical_canon : (x : Tree) → x.canon.Canonical
  | null => trivial
  | bool _ => trivial
  | integer _ => trivial
  | float .. => trivial
  | text _ => trivial
  | array items => by
    simp only [canon, Canonical]
    exact canonicalItems_canon items
  | object members => by
    simp only [canon, Canonical]
    refine ⟨Entries.ascending_sort _, canonicalMembers_iff.2 fun m hm => ?_⟩
    exact canonicalMembers_iff.1 (canonicalMembers_canon members) m (Entries.mem_sort hm)

theorem canonicalItems_canon : (items : List Tree) → CanonicalItems (canonItems items)
  | [] => trivial
  | x :: r => ⟨canonical_canon x, canonicalItems_canon r⟩

theorem canonicalMembers_canon :
    (members : List (String × Tree)) → CanonicalMembers (canonMembers members)
  | [] => trivial
  | (_, x) :: r => ⟨canonical_canon x, canonicalMembers_canon r⟩

end

mutual

/-- Equality of meaning of canonical trees: floats compare as numbers. -/
def same : Tree → Tree → Bool
  | null, null => true
  | bool a, bool b => a == b
  | integer a, integer b => a.val == b.val
  | float _ x, float _ y => x.same y
  | text a, text b => a == b
  | array a, array b => sameItems a b
  | object a, object b => sameMembers a b
  | _, _ => false

def sameItems : List Tree → List Tree → Bool
  | [], [] => true
  | x :: r, y :: s => x.same y && sameItems r s
  | _, _ => false

def sameMembers : List (String × Tree) → List (String × Tree) → Bool
  | [], [] => true
  | m :: r, n :: s => sameMember m n && sameMembers r s
  | _, _ => false

def sameMember : String × Tree → String × Tree → Bool
  | (k, x), (l, y) => k == l && x.same y

end

end Tree

/-- A JSON value: a canonical tree. -/
structure Value where
  tree : Tree
  canonical : tree.Canonical

namespace Value

instance : Inhabited Value := ⟨⟨.null, trivial⟩⟩

def ofTree (x : Tree) : Value := ⟨x.canon, x.canonical_canon⟩

def same (x y : Value) : Bool := x.tree.same y.tree

def sameAll : List Value → List Value → Bool
  | [], [] => true
  | x :: r, y :: s => x.same y && sameAll r s
  | _, _ => false

end Value

end HalBench.Json
