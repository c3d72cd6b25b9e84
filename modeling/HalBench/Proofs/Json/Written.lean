import HalBench.Json.Codec
import HalBench.Proofs.Json.Shapes

/-! A value that is written by a schema is read back by it, when its floats are and when the names
of the schema tell apart what they name. -/

namespace HalBench.Json

open HalBench.Json.Tree

theorem ofInt_toNat32 (x : UInt32) : UInt32.ofInt (x.toNat : Int) = x := by
  have small : ((x.toNat : Int) % 2 ^ 32).toNat = x.toNat := by
    have high := x.toNat_lt
    omega
  rw [UInt32.ofInt, small, UInt32.ofNat_toNat]

theorem ofInt_toNat64 (x : UInt64) : UInt64.ofInt (x.toNat : Int) = x := by
  have small : ((x.toNat : Int) % 2 ^ 64).toNat = x.toNat := by
    have high := x.toNat_lt
    omega
  rw [UInt64.ofInt, small, UInt64.ofNat_toNat]

theorem Word.ofInt?_toInt : (w : Word) → (x : w.Carrier) → w.ofInt? (w.toInt x) = some x
  | .unsigned32, x => by
    have high := UInt32.toNat_lt x
    rw [ofInt?, if_pos (by simp only [toInt, lower, upper]; omega)]
    exact congrArg some (ofInt_toNat32 x)
  | .signed32, x => by
    have low := Int32.le_toInt x
    have high := Int32.toInt_lt x
    rw [ofInt?, if_pos (by simp only [toInt, lower, upper]; omega)]
    exact congrArg some (Int32.ofInt_toInt x)
  | .unsigned64, x => by
    have high := UInt64.toNat_lt x
    rw [ofInt?, if_pos (by simp only [toInt, lower, upper]; omega)]
    exact congrArg some (ofInt_toNat64 x)
  | .signed64, x => by
    have low := Int64.le_toInt x
    have high := Int64.toInt_lt x
    rw [ofInt?, if_pos (by simp only [toInt, lower, upper]; omega)]
    exact congrArg some (Int64.ofInt_toInt x)

theorem asWord_toInteger (w : Word) (x : w.Carrier) :
    asWord w (.integer (w.toInteger x)) = .ok x := by
  simp only [asWord, Word.toInteger, w.ofInt?_toInt x]

theorem choose_get {names : List String} (distinct : names.Nodup) (i : Fin names.length) :
    choose names (names.get i) = .ok i := by
  induction names with
  | nil => exact i.elim0
  | cons n rest ih =>
    obtain ⟨notIn, distinct⟩ := List.nodup_cons.mp distinct
    cases i using Fin.cases with
    | zero => exact if_pos rfl
    | succ i =>
      have other : n ≠ rest.get i := fun same => notIn (same ▸ List.get_mem rest i)
      change (if n = rest.get i then _ else (choose rest (rest.get i)).map Fin.succ) = _
      rw [if_neg other, ih distinct]
      rfl

theorem choose_mem {names : List String} {name : String} (h : name ∈ names) :
    ∃ i, choose names name = .ok i := by
  induction names with
  | nil => cases h
  | cons n rest ih =>
    by_cases same : n = name
    · exact ⟨_, if_pos same⟩
    · have later := (List.mem_cons.mp h).resolve_left fun e => same e.symm
      obtain ⟨i, chosen⟩ := ih later
      exact ⟨i.succ, by rw [choose, if_neg same, chosen]; rfl⟩

theorem listOf_write {α : Type} {check : Tree → Except Fault α} {write : α → Tree} {xs : List α}
    (each : ∀ x ∈ xs, check (write x).reread = .ok x) :
    listOf check ((xs.map write).map reread) = .ok xs := by
  induction xs with
  | nil => rfl
  | cons x r ih =>
    rw [List.map_cons, List.map_cons, listOf, each x List.mem_cons_self,
      ih fun y hy => each y (List.mem_cons_of_mem _ hy)]
    rfl

theorem insert_last {α : Type} {key : String} {value : α} {entries : List (String × α)}
    (last : ∀ m ∈ entries, m.1 < key) :
    Entries.insert key value entries = entries ++ [(key, value)] := by
  induction entries with
  | nil => rfl
  | cons m r ih =>
    obtain ⟨k, v⟩ := m
    have less : k < key := last (k, v) List.mem_cons_self
    have notLess : ¬ key < k := String.not_lt.mpr (Std.le_of_lt less)
    have other : key ≠ k := fun same => String.lt_irrefl k (same ▸ less)
    rw [Entries.insert, if_neg notLess, if_neg other,
      ih fun m hm => last m (List.mem_cons_of_mem _ hm)]
    rfl

/-- Entries in ascending order are put one after another into a table as they are. -/
theorem tableOf_write {α : Type} {check : Tree → Except Fault α} {write : α → Tree}
    {entries : List (String × α)} (each : ∀ m ∈ entries, check (write m.2).reread = .ok m.2)
    {table whole : Index α} (all : table.entries ++ entries = whole.entries) :
    tableOf check ((entries.map fun m => (m.1, write m.2)).map fun m => (m.1, m.2.reread)) table =
      .ok whole := by
  induction entries generalizing table with
  | nil =>
    obtain ⟨entries, ascending⟩ := table
    obtain ⟨entries', ascending'⟩ := whole
    rw [List.append_nil] at all
    simp only at all
    subst all
    rfl
  | cons m r ih =>
    obtain ⟨k, v⟩ := m
    have ascending := whole.ascending
    rw [← all, Entries.Ascending, List.pairwise_append] at ascending
    have inserted : (table.insert k v).entries = table.entries ++ [(k, v)] :=
      insert_last fun m hm => ascending.2.2 m hm (k, v) List.mem_cons_self
    have further : (table.insert k v).entries ++ r = whole.entries := by
      rw [inserted, List.append_assoc]
      exact all
    have rest := ih (fun m hm => each m (List.mem_cons_of_mem _ hm)) further
    rw [List.map_cons, List.map_cons, tableOf, each (k, v) List.mem_cons_self]
    exact rest

theorem splitTag_apart {tag name : String} {names : List String} {ms : List (String × Tree)}
    (apart : ∀ m ∈ ms, m.1 ≠ tag) : splitTag tag names ms (some name) = .ok (name, ms) := by
  induction ms with
  | nil => rfl
  | cons m r ih =>
    obtain ⟨k, x⟩ := m
    rw [splitTag, if_neg (apart (k, x) List.mem_cons_self),
      ih fun m hm => apart m (List.mem_cons_of_mem _ hm)]
    rfl

mutual

/-- What is to be read back from a value is: its floats, and the floats in its trees. -/
def Schema.Legible : (s : Schema) → s.Carrier → Prop
  | .value, x => (Value.tree x).Readable ∧ .ofTree (Value.tree x).reread = x
  | .float f, x => ∃ t, FloatReads f x t ∧ t.asFloat f = .ok x
  | .list item, x => ∀ y ∈ (show List item.Carrier from x), item.Legible y
  | .nullable inner, x => ∀ y ∈ (show Option inner.Carrier from x), inner.Legible y
  | .table entry, x => ∀ m ∈ (show Index entry.Carrier from x).entries, entry.Legible m.2
  | .record fields, x => fields.Legible x
  | .tagged _ variants, x => variants.Legible x
  | _, _ => True

def Fields.Legible : (fields : Fields) → fields.Carrier → Prop
  | .done, _ => True
  | .required _ schema rest, (x, r) => schema.Legible x ∧ rest.Legible r
  | .optional _ schema rest, (x, r) =>
    (∀ y ∈ (show Option schema.Carrier from x), schema.Legible y) ∧ rest.Legible r

def Variants.Legible : (variants : Variants) → variants.Carrier → Prop
  | .done, _ => True
  | .variant _ fields _, .inl x => fields.Legible x
  | .variant _ _ rest, .inr x => rest.Legible x

end

mutual

theorem Schema.readable_write : (s : Schema) → (x : s.Carrier) → s.Legible x →
    (s.write x).Readable
  | .text, x, _ => .text x
  | .value, _, h => h.1
  | .truth, x, _ => .bool x
  | .float _, _, ⟨_, read, _⟩ => .float read
  | .word w, x, _ => .integer (w.toInteger x)
  | .list item, _, h => .array fun t ht => by
    obtain ⟨v, hv, rfl⟩ := List.mem_map.mp ht
    exact item.readable_write v (h v hv)
  | .nullable _, none, _ => .null
  | .nullable inner, some y, h => inner.readable_write y (h y rfl)
  | .table entry, _, h => .object fun m hm => by
    obtain ⟨v, hv, rfl⟩ := List.mem_map.mp hm
    exact entry.readable_write v.2 (h v hv)
  | .choice names, x, _ => .text (names.get x)
  | .record fields, x, h => .object (fields.readable_write x h)
  | .tagged _ variants, x, h => .object fun m hm => by
    cases List.mem_cons.mp hm with
    | inl tag => exact tag ▸ .text _
    | inr member => exact variants.readable_write x h m member

theorem Fields.readable_write : (fields : Fields) → (x : fields.Carrier) → fields.Legible x →
    ∀ m ∈ fields.write x, m.2.Readable
  | .done, _, _ => nofun
  | .required _ schema rest, (v, r), h =>
    Fields.all_required (schema.readable_write v h.1) (rest.readable_write r h.2)
  | .optional _ schema rest, (_, r), h =>
    Fields.all_optional (fun v hv => schema.readable_write v (h.1 v hv))
      (rest.readable_write r h.2)

theorem Variants.readable_write : (variants : Variants) → (x : variants.Carrier) →
    variants.Legible x → ∀ m ∈ (variants.write x).2, m.2.Readable
  | .variant _ fields _, .inl x, h => fields.readable_write x h
  | .variant _ _ rest, .inr x, h => rest.readable_write x h

end

theorem Variants.mem_names : (variants : Variants) → (x : variants.Carrier) →
    (variants.write x).1 ∈ variants.names
  | .variant _ _ _, .inl _ => List.mem_cons_self
  | .variant _ _ rest, .inr x => List.mem_cons_of_mem _ (rest.mem_names x)

theorem Schema.write_ne_null : (s : Schema) → s.NeverNull → (x : s.Carrier) → s.Legible x →
    (s.write x).reread ≠ .null
  | .text, _, x, _ => fun h => nomatch (reread_text x).symm.trans h
  | .truth, _, x, _ => fun h => nomatch (reread_bool x).symm.trans h
  | .float f, _, x, ⟨t, read, accepted⟩ => fun h => by
    have null : t = .null := ((again_eq read).symm.trans (reread_float f x).symm).trans h
    rw [null] at accepted
    cases accepted
  | .word w, _, x, _ => fun h => nomatch (reread_integer (w.toInteger x)).symm.trans h
  | .list _, _, _, _ => fun h => nomatch (reread_array _).symm.trans h
  | .table _, _, _, _ => fun h => nomatch (reread_object _).symm.trans h
  | .choice names, _, x, _ => fun h => nomatch (reread_text (names.get x)).symm.trans h
  | .record _, _, _, _ => fun h => nomatch (reread_object _).symm.trans h
  | .tagged _ _, _, _, _ => fun h => nomatch (reread_object _).symm.trans h

section Slots
variable {α σ : Type} {name : String} {check : Tree → Except Fault α}
  {put : String → Tree → σ → Except Fault σ} {ms : List (String × Tree)} {s s' : σ}

theorem putAll_apart (apart : ∀ m ∈ ms, m.1 ≠ name) (slot : Option α)
    (h : putAll put ms s = .ok s') :
    putAll (putSlot name check put) ms (slot, s) = .ok (slot, s') := by
  induction ms generalizing s with
  | nil =>
    cases h
    rfl
  | cons m r ih =>
    obtain ⟨k, x⟩ := m
    obtain ⟨t, here, further⟩ := ok_of_bind h
    rw [putAll, putSlot, if_neg (apart (k, x) List.mem_cons_self), here]
    exact ih (fun m hm => apart m (List.mem_cons_of_mem _ hm)) further

theorem putAll_here {t : Tree} {v : α} (checked : check t = .ok v)
    (apart : ∀ m ∈ ms, m.1 ≠ name) (h : putAll put ms s = .ok s') :
    putAll (putSlot name check put) ((name, t) :: ms) (none, s) = .ok (some v, s') := by
  rw [putAll, putSlot, if_pos rfl, checked]
  exact putAll_apart apart (some v) h

end Slots

def rereadAll (ms : List (String × Tree)) : List (String × Tree) :=
  ms.map fun m => (m.1, m.2.reread)

theorem rereadAll_apart {ms : List (String × Tree)} {name : String}
    (apart : ∀ m ∈ ms, m.1 ≠ name) : ∀ m ∈ rereadAll ms, m.1 ≠ name := by
  intro m hm
  obtain ⟨m', hm', rfl⟩ := List.mem_map.mp hm
  exact apart m' hm'

theorem Fields.apart {fields : Fields} {name : String} (notIn : name ∉ fields.names)
    (x : fields.Carrier) : ∀ m ∈ rereadAll (fields.write x), m.1 ≠ name :=
  rereadAll_apart (Fields.name_ne notIn)

theorem Variants.apart : (variants : Variants) → {tag : String} → variants.Sound tag →
    (x : variants.Carrier) → ∀ m ∈ rereadAll (variants.write x).2, m.1 ≠ tag
  | .variant _ _ _, _, sound, .inl x => Fields.apart sound.2.1 x
  | .variant _ _ rest, _, sound, .inr x => rest.apart sound.2.2.2 x

theorem asTagged_write {tag name : String} {names : List String} {ms : List (String × Tree)}
    (known : name ∈ names) (apart : ∀ m ∈ rereadAll ms, m.1 ≠ tag) :
    asTagged tag names (.object (rereadAll ((tag, .text name) :: ms))) =
      .ok (name, .members (rereadAll ms)) := by
  obtain ⟨i, chosen⟩ := choose_mem known
  have split : splitTag tag names (rereadAll ((tag, .text name) :: ms)) none =
      .ok (name, rereadAll ms) := by
    rw [rereadAll, List.map_cons, splitTag, if_pos rfl, reread_text]
    change (choose names name >>= fun _ => splitTag tag names (rereadAll ms) (some name)) = _
    rw [chosen]
    exact splitTag_apart apart
  change (splitTag tag names _ none >>= _) = _
  rw [split]
  rfl

mutual

/-- A written value is what the schema makes of its tree, as it is read from its text. -/
theorem Schema.check_write : (s : Schema) → s.Sound → (x : s.Carrier) → s.Legible x →
    s.check (s.write x).reread = .ok x
  | .text, _, x, _ => congrArg asText (reread_text x)
  | .value, _, _, h => congrArg Except.ok h.2
  | .truth, _, x, _ => congrArg asTruth (reread_bool x)
  | .float f, _, x, ⟨t, read, accepted⟩ => by
    have again : (float f x).reread = t := (reread_float f x).trans (again_eq read)
    exact (congrArg (asFloat f) again).trans accepted
  | .word w, _, x, _ => by
    have again := congrArg (asWord w) (reread_integer (w.toInteger x))
    exact again.trans (asWord_toInteger w x)
  | .list item, sound, x, h => by
    have items := listOf_write fun y hy => item.check_write sound y (h y hy)
    exact (congrArg (Schema.list item).check (reread_array _)).trans items
  | .nullable inner, _, none, _ => congrArg (Reader.checkNullable inner.check) reread_null
  | .nullable inner, sound, some y, h => by
    have notNull := inner.write_ne_null sound.2 y (h y rfl)
    apply (Reader.checkNullable_of_ne inner.check notNull).trans
    exact congrArg (Except.map some) (inner.check_write sound.1 y (h y rfl))
  | .table entry, sound, x, h => by
    have all : Index.empty.entries ++ x.entries = x.entries := List.nil_append _
    have entries := tableOf_write (fun m hm => entry.check_write sound m.2 (h m hm)) all
    exact (congrArg (Schema.table entry).check (reread_object _)).trans entries
  | .choice names, sound, x, _ => by
    have again := congrArg (asChoice names) (reread_text (names.get x))
    exact again.trans (choose_get sound x)
  | .record fields, sound, x, h => by
    obtain ⟨slots, put, finish⟩ := fields.check_write sound x h
    apply (congrArg (Schema.record fields).check (reread_object _)).trans
    change (putAll _ (rereadAll (fields.write x)) _ >>= fields.finish) = _
    rw [put]
    exact finish
  | .tagged tag variants, sound, x, h => by
    apply (congrArg (Schema.tagged tag variants).check (reread_object _)).trans
    change (asTagged tag variants.names (.object (rereadAll
      ((tag, .text (variants.write x).1) :: (variants.write x).2))) >>= _) = _
    rw [asTagged_write (variants.mem_names x) (variants.apart sound x)]
    exact variants.check_write sound x h

theorem Fields.check_write : (fields : Fields) → fields.Sound → (x : fields.Carrier) →
    fields.Legible x → ∃ slots,
      putAll fields.checkMember (rereadAll (fields.write x)) fields.empty = .ok slots ∧
        fields.finish slots = .ok x
  | .done, _, _, _ => ⟨(), rfl, rfl⟩
  | .required name schema rest, sound, (v, r), h => by
    obtain ⟨slots, put, finish⟩ := rest.check_write sound.2.2 r h.2
    have here := putAll_here (schema.check_write sound.1 v h.1) (rest.apart sound.2.1 r) put
    exact ⟨(some v, slots), here, congrArg (Except.map fun r => (v, r)) finish⟩
  | .optional name schema rest, sound, (none, r), h => by
    obtain ⟨slots, put, finish⟩ := rest.check_write sound.2.2 r h.2
    have apart : putAll (putSlot name schema.check rest.checkMember) _ _ = _ :=
      putAll_apart (rest.apart sound.2.1 r) none put
    exact ⟨(none, slots), apart, congrArg (Except.map fun r => (none, r)) finish⟩
  | .optional name schema rest, sound, (some v, r), h => by
    obtain ⟨slots, put, finish⟩ := rest.check_write sound.2.2 r h.2
    have here := putAll_here (schema.check_write sound.1 v (h.1 v rfl)) (rest.apart sound.2.1 r) put
    exact ⟨(some v, slots), here, congrArg (Except.map fun r => (some v, r)) finish⟩

theorem Variants.check_write : (variants : Variants) → {tag : String} → variants.Sound tag →
    (x : variants.Carrier) → variants.Legible x →
    variants.check (variants.write x).1 (.members (rereadAll (variants.write x).2)) = .ok x
  | .variant name fields rest, _, sound, .inl x, h => by
    obtain ⟨slots, put, finish⟩ := fields.check_write sound.1 x h
    apply (if_pos rfl).trans
    change (putAll _ (rereadAll (fields.write x)) _ >>= fun slots =>
      fields.finish slots >>= fun x => pure (Sum.inl x)) = _
    rw [put]
    exact congrArg (· >>= fun x => pure (Sum.inl x)) finish
  | .variant name fields rest, _, sound, .inr x, h => by
    have other : name ≠ (rest.write x).1 := fun same => sound.2.2.1 (same ▸ rest.mem_names x)
    have found := rest.check_write sound.2.2.2 x h
    exact (if_neg other).trans (congrArg (Except.map Sum.inr) found)

end

end HalBench.Json
