import HalBench.Json.TreeReader
import HalBench.Proofs.Json.Printed

/-! A tree is read back from its text. A float is read as the number that its digits denote in
double precision, and as `null` when it is not finite. -/

namespace HalBench.Json

inductive FloatReads (f : Format) (x : Binary) : Tree → Prop where
  | nothing (text : renderFloat f x = ['n', 'u', 'l', 'l']) : FloatReads f x .null
  | number {n : Numeral} {t : Tree} (spelled : n.Spells (Utf8.encode (renderFloat f x)))
      (value : n.tree? = some t) : FloatReads f x t

namespace Reader

theorem scalar_number {b : UInt8} (first : Numeral.isFirst b = true) (r : Bytes) :
    scalar (b :: r) = numeral (b :: r) := by
  rw [scalar, bind_ok (peek_cons (Numeral.opening_of_isFirst first).visible r)]
  generalize next : some b = found
  have digit : (decide (b = 45) || Numeral.isDigit b) = true := first
  split
  · cases next
  · cases next
    cases first
  · cases next
    cases first
  · cases next
    cases first
  · cases next
    cases first
  · cases next
    rw [if_pos digit]

theorem scalar_null (rest : Bytes) : scalar ([110, 117, 108, 108] ++ rest) = .ok (.null, rest) := by
  rw [scalar]
  exact (bind_ok (peek_cons rfl _)).trans (bind_ok (literal_append _ rest))

theorem scalar_true (rest : Bytes) :
    scalar ([116, 114, 117, 101] ++ rest) = .ok (.bool true, rest) := by
  rw [scalar]
  exact (bind_ok (peek_cons rfl _)).trans (bind_ok (literal_append _ rest))

theorem scalar_false (rest : Bytes) :
    scalar ([102, 97, 108, 115, 101] ++ rest) = .ok (.bool false, rest) := by
  rw [scalar]
  exact (bind_ok (peek_cons rfl _)).trans (bind_ok (literal_append _ rest))

theorem scalar_text (s : String) (rest : Bytes) :
    scalar (quoted s ++ rest) = .ok (.text s, rest) := by
  rw [scalar, quoted, List.cons_append, List.append_assoc]
  apply (bind_ok (peek_cons rfl _)).trans
  apply (bind_ok (advance_cons 34 _)).trans
  exact bind_ok (string_escaped s rest)

theorem scalar_numeral {p : Bytes} {n : Numeral} {t : Tree} (spelled : Numeral.Spells p n)
    (value : n.tree? = some t) : Reads scalar p t := by
  intro rest delimited
  obtain ⟨b, r, rfl, first⟩ := Numeral.isFirst_head spelled
  rw [List.cons_append, scalar_number first]
  exact numeral_reads spelled value rest delimited

theorem scalar_float {f : Format} {x : Binary} {t : Tree} (h : FloatReads f x t) :
    Reads scalar (Utf8.encode (renderFloat f x)) t := by
  cases h with
  | nothing text =>
    intro rest _
    rw [text]
    exact scalar_null rest
  | number spelled value => exact scalar_numeral spelled value

end Reader

namespace Tree

/-- The tree that is read from the text of a float, if one is. -/
def again (f : Format) (x : Binary) : Tree :=
  match Reader.scalar (Utf8.encode (renderFloat f x)) with
  | .ok (t, _) => t
  | .error _ => .null

theorem again_eq {f : Format} {x : Binary} {t : Tree} (h : FloatReads f x t) : again f x = t := by
  have read := Reader.scalar_float h [] delimited_nil
  rw [List.append_nil] at read
  simp only [again, read]

mutual

def reread : Tree → Tree
  | float f x => again f x
  | array items => array (rereadItems items)
  | object members => object (rereadMembers members)
  | x => x

def rereadItems : List Tree → List Tree
  | [] => []
  | x :: r => x.reread :: rereadItems r

def rereadMembers : List (String × Tree) → List (String × Tree)
  | [] => []
  | m :: r => rereadMember m :: rereadMembers r

def rereadMember : String × Tree → String × Tree
  | (k, x) => (k, x.reread)

end

theorem rereadItems_eq (items : List Tree) : rereadItems items = items.map reread := by
  induction items with
  | nil => rfl
  | cons x r ih =>
    show x.reread :: rereadItems r = _
    rw [ih, List.map_cons]

theorem rereadMembers_eq (members : List (String × Tree)) :
    rereadMembers members = members.map fun m => (m.1, m.2.reread) := by
  induction members with
  | nil => rfl
  | cons m r ih =>
    obtain ⟨k, x⟩ := m
    show (k, x.reread) :: rereadMembers r = _
    rw [ih, List.map_cons]

@[simp] theorem reread_null : null.reread = null := rfl

@[simp] theorem reread_bool (b : Bool) : (bool b).reread = bool b := rfl

@[simp] theorem reread_integer (i : Integer) : (integer i).reread = integer i := rfl

@[simp] theorem reread_float (f : Format) (x : Binary) : (float f x).reread = again f x := rfl

@[simp] theorem reread_text (s : String) : (text s).reread = text s := rfl

@[simp] theorem reread_array (items : List Tree) :
    (array items).reread = array (items.map reread) :=
  congrArg array (rereadItems_eq items)

@[simp] theorem reread_object (members : List (String × Tree)) :
    (object members).reread = object (members.map fun m => (m.1, m.2.reread)) :=
  congrArg object (rereadMembers_eq members)

/-- Arrays and objects are nested to some depth at most. -/
inductive Within : Nat → Tree → Prop where
  | null {d : Nat} : Within d null
  | bool {d : Nat} (b : Bool) : Within d (bool b)
  | integer {d : Nat} (i : Integer) : Within d (integer i)
  | float {d : Nat} (f : Format) (x : Binary) : Within d (float f x)
  | text {d : Nat} (s : String) : Within d (text s)
  | array {d : Nat} {items : List Tree} (inner : ∀ x ∈ items, Within d x) :
      Within (d + 1) (array items)
  | object {d : Nat} {members : List (String × Tree)} (inner : ∀ m ∈ members, Within d m.2) :
      Within (d + 1) (object members)

/-- Every float has a text from which something is read. -/
inductive Readable : Tree → Prop where
  | null : Readable null
  | bool (b : Bool) : Readable (bool b)
  | integer (i : Integer) : Readable (integer i)
  | float {f : Format} {x : Binary} {t : Tree} (read : FloatReads f x t) : Readable (float f x)
  | text (s : String) : Readable (text s)
  | array {items : List Tree} (inner : ∀ x ∈ items, Readable x) : Readable (array items)
  | object {members : List (String × Tree)} (inner : ∀ m ∈ members, Readable m.2) :
      Readable (object members)

inductive FloatFree : Tree → Prop where
  | null : FloatFree null
  | bool (b : Bool) : FloatFree (bool b)
  | integer (i : Integer) : FloatFree (integer i)
  | text (s : String) : FloatFree (text s)
  | array {items : List Tree} (inner : ∀ x ∈ items, FloatFree x) : FloatFree (array items)
  | object {members : List (String × Tree)} (inner : ∀ m ∈ members, FloatFree m.2) :
      FloatFree (object members)

variable {x : Tree} {d : Nat}

theorem Within.mono (h : Within d x) {e : Nat} (deeper : d ≤ e) : Within e x := by
  induction h generalizing e with
  | null => exact .null
  | bool b => exact .bool b
  | integer i => exact .integer i
  | float f x => exact .float f x
  | text s => exact .text s
  | array _ ih =>
    cases e with
    | zero => exact absurd deeper (Nat.not_succ_le_zero _)
    | succ e => exact .array fun x hx => ih x hx (Nat.le_of_succ_le_succ deeper)
  | object _ ih =>
    cases e with
    | zero => exact absurd deeper (Nat.not_succ_le_zero _)
    | succ e => exact .object fun m hm => ih m hm (Nat.le_of_succ_le_succ deeper)

theorem FloatFree.readable (h : FloatFree x) : Readable x := by
  induction h with
  | null => exact .null
  | bool b => exact .bool b
  | integer i => exact .integer i
  | text s => exact .text s
  | array _ ih => exact .array ih
  | object _ ih => exact .object ih

theorem FloatFree.reread (h : FloatFree x) : x.reread = x := by
  induction h with
  | null => exact reread_null
  | bool b => exact reread_bool b
  | integer i => exact reread_integer i
  | text s => exact reread_text s
  | @array items _ ih =>
    rw [reread_array, List.map_congr_left ih, List.map_id']
  | @object members _ ih =>
    have same : ∀ m ∈ members, (m.1, m.2.reread) = m := fun m hm => by rw [ih m hm]
    rw [reread_object, List.map_congr_left same, List.map_id']

theorem sameItems_self {items : List Tree} (each : ∀ x ∈ items, x.same x = true) :
    sameItems items items = true := by
  induction items with
  | nil => rw [sameItems]
  | cons x r ih =>
    rw [sameItems, each x List.mem_cons_self, ih fun y hy => each y (List.mem_cons_of_mem _ hy)]
    rfl

theorem sameMembers_self {members : List (String × Tree)}
    (each : ∀ m ∈ members, m.2.same m.2 = true) : sameMembers members members = true := by
  induction members with
  | nil => rw [sameMembers]
  | cons m r ih =>
    obtain ⟨k, x⟩ := m
    rw [sameMembers, sameMember, beq_self_eq_true, each (k, x) List.mem_cons_self,
      ih fun n hn => each n (List.mem_cons_of_mem _ hn)]
    rfl

theorem FloatFree.same_self (h : FloatFree x) : x.same x = true := by
  induction h with
  | null => rw [same]
  | bool b => rw [same, beq_self_eq_true]
  | integer i => rw [same, beq_self_eq_true]
  | text s => rw [same, beq_self_eq_true]
  | array _ ih => rw [same, sameItems_self ih]
  | object _ ih => rw [same, sameMembers_self ih]

theorem Readable.opens (h : Readable x) : x.Opens := by
  have visible {b : UInt8} (blank : Reader.isBlank b = false) (notBracket : b ≠ 93) : Opening b :=
    ⟨blank, notBracket⟩
  cases h with
  | null => exact ⟨110, _, bytes_null, visible rfl (by decide)⟩
  | bool b =>
    cases b with
    | true => exact ⟨116, _, bytes_bool true, visible rfl (by decide)⟩
    | false => exact ⟨102, _, bytes_bool false, visible rfl (by decide)⟩
  | integer i =>
    obtain ⟨b, r, first, opening⟩ := Numeral.isFirst_head (Numeral.spells_ofInt i.val)
    exact ⟨b, r, by rw [bytes, render, first], Numeral.opening_of_isFirst opening⟩
  | @float f x t read =>
    cases read with
    | nothing text => exact ⟨110, _, by rw [bytes, render, text]; rfl, visible rfl (by decide)⟩
    | number spelled value =>
      obtain ⟨b, r, first, opening⟩ := Numeral.isFirst_head spelled
      exact ⟨b, r, by rw [bytes, render, first], Numeral.opening_of_isFirst opening⟩
  | text s => exact ⟨34, _, bytes_text s, visible rfl (by decide)⟩
  | array _ => exact ⟨91, _, bytes_array _, visible rfl (by decide)⟩
  | object _ => exact ⟨123, _, bytes_object _, visible rfl (by decide)⟩

end Tree

theorem Value.sameAll_self {values : List Value} (each : ∀ v ∈ values, v.same v = true) :
    sameAll values values = true := by
  induction values with
  | nil => rfl
  | cons v r ih =>
    rw [sameAll, each v List.mem_cons_self, ih fun w hw => each w (List.mem_cons_of_mem _ hw)]
    rfl

namespace Reader

open HalBench.Json.Tree

variable {d : Nat}

theorem tree_scalar {b : UInt8} (opening : Opening b) (notArray : b ≠ 91) (notObject : b ≠ 123)
    (r : Bytes) : tree d (b :: r) = scalar (b :: r) := by
  cases d
  all_goals
    rw [tree, bind_ok (peek_cons opening.visible r)]
    generalize next : some b = found
    split
    · exact absurd (Option.some.inj next) notArray
    · exact absurd (Option.some.inj next) notObject
    · rfl

theorem tree_leaf {p r : Bytes} {b : UInt8} {t : Tree} (first : p = b :: r) (opening : Opening b)
    (notArray : b ≠ 91) (notObject : b ≠ 123) (read : Reads scalar p t) :
    Reads (tree d) p t := by
  intro rest delimited
  rw [← read rest delimited, first]
  exact tree_scalar opening notArray notObject (r ++ rest)

theorem tree_numeral {p : Bytes} {n : Numeral} {t : Tree} (spelled : Numeral.Spells p n)
    (value : n.tree? = some t) : Reads (tree d) p t := by
  obtain ⟨b, r, first, number⟩ := Numeral.isFirst_head spelled
  refine tree_leaf first (Numeral.opening_of_isFirst number) ?_ ?_ (scalar_numeral spelled value)
  · rintro rfl
    cases number
  · rintro rfl
    cases number

theorem readsItems_map {α : Type} {item : Reader α} {g : Tree → α} {ts : List Tree}
    (opens : ∀ x ∈ ts, x.Opens) (read : ∀ x ∈ ts, Reads item x.bytes (g x)) :
    ReadsItems item ts (ts.map g) := by
  induction ts with
  | nil => exact .nil
  | cons x r ih =>
    exact .cons (opens x List.mem_cons_self) (read x List.mem_cons_self)
      (ih (fun x hx => opens x (List.mem_cons_of_mem _ hx))
        fun x hx => read x (List.mem_cons_of_mem _ hx))

theorem readsMembers_tree {value : Reader Tree} {g : Tree → Tree} {ms : List (String × Tree)}
    (read : ∀ m ∈ ms, Reads value m.2.bytes (g m.2)) (before : List (String × Tree)) :
    ReadsMembers (treeMember value) ms before (before ++ ms.map fun m => (m.1, g m.2)) := by
  induction ms generalizing before with
  | nil =>
    rw [List.map_nil, List.append_nil]
    exact .nil before
  | cons m r ih =>
    obtain ⟨k, x⟩ := m
    have member : Reads (treeMember value k before) (58 :: x.bytes) (before ++ [(k, g x)]) := by
      intro rest delimited
      rw [treeMember, List.cons_append, bind_ok (colon_colon _),
        bind_ok (read (k, x) List.mem_cons_self rest delimited)]
      rfl
    have further := ih (fun m hm => read m (List.mem_cons_of_mem _ hm)) (before ++ [(k, g x)])
    rw [List.append_assoc] at further
    exact .cons member further

theorem tree_reads {x : Tree} (within : Within d x) (readable : Readable x) :
    Reads (tree d) x.bytes x.reread := by
  induction within with
  | null =>
    rw [bytes_null, reread_null]
    exact tree_leaf rfl ⟨rfl, by decide⟩ (by decide) (by decide) fun rest _ => scalar_null rest
  | bool b =>
    rw [bytes_bool, reread_bool]
    cases b with
    | true =>
      exact tree_leaf rfl ⟨rfl, by decide⟩ (by decide) (by decide) fun rest _ => scalar_true rest
    | false =>
      exact tree_leaf rfl ⟨rfl, by decide⟩ (by decide) (by decide) fun rest _ => scalar_false rest
  | integer i =>
    rw [bytes, render, reread_integer]
    exact tree_numeral (Numeral.spells_ofInt i.val) (Numeral.tree?_ofInt i)
  | float f x =>
    rw [bytes, render, reread_float]
    cases readable with
    | float read =>
      rw [again_eq read]
      cases read with
      | nothing text =>
        rw [text]
        exact tree_leaf rfl ⟨rfl, by decide⟩ (by decide) (by decide) fun rest _ => scalar_null rest
      | number spelled value => exact tree_numeral spelled value
  | text s =>
    rw [bytes_text, reread_text]
    exact tree_leaf rfl ⟨rfl, by decide⟩ (by decide) (by decide) fun rest _ => scalar_text s rest
  | @array d items inner ih =>
    cases readable with
    | array readable =>
      intro rest delimited
      have read := items_reads (readsItems_map (fun x hx => (readable x hx).opens)
        fun x hx => ih x hx (readable x hx)) rest
      rw [bytes_array, List.cons_append, tree]
      apply (bind_ok (peek_cons rfl _)).trans
      apply (bind_ok (advance_cons 91 _)).trans
      rw [reread_array]
      exact bind_ok read
  | @object d members inner ih =>
    cases readable with
    | object readable =>
      intro rest delimited
      have read := members_reads (readsMembers_tree (fun m hm => ih m hm (readable m hm)) []) rest
      rw [bytes_object, List.cons_append, tree]
      apply (bind_ok (peek_cons rfl _)).trans
      apply (bind_ok (advance_cons 123 _)).trans
      rw [reread_object]
      apply (bind_ok read).trans
      exact bind_ok (closeMembers_brace rest)

end Reader

end HalBench.Json
