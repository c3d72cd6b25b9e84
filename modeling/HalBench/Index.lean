/-!
# Entries in ascending order of keys

Inserting puts an entry in its place and replaces one of the same key; an index keeps its entries
in strictly ascending order.
-/

namespace HalBench

namespace Entries

/-- Puts an entry in its place among entries in ascending order; it replaces one of its key. -/
def insert {α : Type} (key : String) (value : α) : List (String × α) → List (String × α)
  | [] => [(key, value)]
  | (k, v) :: r =>
    if key < k then (key, value) :: (k, v) :: r
    else if key = k then (key, value) :: r
    else (k, v) :: insert key value r

/-- Entries in ascending order of keys, the last of each key. -/
def sort {α : Type} (entries : List (String × α)) : List (String × α) :=
  entries.foldl (fun sorted m => insert m.1 m.2 sorted) []

def Ascending {α : Type} (entries : List (String × α)) : Prop :=
  entries.Pairwise (fun a b => a.1 < b.1)

theorem lt_of_not_lt_of_ne {a b : String} (h : ¬ a < b) (ne : a ≠ b) : b < a := by
  by_cases lt : b < a
  · exact lt
  · exact absurd (String.le_antisymm (String.not_lt.1 lt) (String.not_lt.1 h)) ne

theorem mem_insert {α : Type} {key : String} {value : α} {m : String × α} :
    ∀ {entries : List (String × α)}, m ∈ insert key value entries →
      m = (key, value) ∨ m ∈ entries
  | [], h => by simpa [insert] using h
  | (k, v) :: r, h => by
    simp only [insert] at h
    split at h
    · simpa using h
    · split at h
      · cases List.mem_cons.1 h with
        | inl h => exact .inl h
        | inr h => exact .inr (List.mem_cons_of_mem _ h)
      · cases List.mem_cons.1 h with
        | inl h => exact .inr (h ▸ List.mem_cons_self)
        | inr h =>
          cases mem_insert h with
          | inl h => exact .inl h
          | inr h => exact .inr (List.mem_cons_of_mem _ h)

theorem Ascending.insert {α : Type} {key : String} {value : α} :
    ∀ {entries : List (String × α)}, Ascending entries → Ascending (insert key value entries)
  | [], _ => List.pairwise_singleton ..
  | (k, v) :: r, h => by
    obtain ⟨hk, hr⟩ := List.pairwise_cons.1 h
    simp only [Entries.insert]
    split
    · rename_i lt
      refine List.pairwise_cons.2 ⟨fun m hm => ?_, h⟩
      cases List.mem_cons.1 hm with
      | inl e => exact e ▸ lt
      | inr e => exact String.lt_trans lt (hk m e)
    · split
      · rename_i e
        exact List.pairwise_cons.2 ⟨fun m hm => e ▸ hk m hm, hr⟩
      · rename_i nlt ne
        refine List.pairwise_cons.2 ⟨fun m hm => ?_, Ascending.insert hr⟩
        cases mem_insert hm with
        | inl e =>
          subst e
          exact lt_of_not_lt_of_ne nlt ne
        | inr e => exact hk m e

theorem ascending_sort {α : Type} (entries : List (String × α)) : Ascending (sort entries) := by
  suffices ∀ (ms sorted : List (String × α)), Ascending sorted →
      Ascending (ms.foldl (fun s m => insert m.1 m.2 s) sorted) from
    this entries [] .nil
  intro ms
  induction ms with
  | nil => exact fun _ h => h
  | cons m r ih => exact fun _ h => ih _ h.insert

theorem mem_sort {α : Type} {entries : List (String × α)} {m : String × α}
    (h : m ∈ sort entries) : m ∈ entries := by
  suffices ∀ (ms sorted : List (String × α)),
      m ∈ ms.foldl (fun s m => insert m.1 m.2 s) sorted → m ∈ sorted ∨ m ∈ ms from
    (this entries [] h).resolve_left List.not_mem_nil
  intro ms
  induction ms with
  | nil => exact fun _ h => .inl h
  | cons x r ih =>
    intro sorted h
    cases ih _ h with
    | inl h =>
      cases mem_insert h with
      | inl h => exact .inr (h ▸ List.mem_cons_self)
      | inr h => exact .inl h
    | inr h => exact .inr (List.mem_cons_of_mem _ h)

theorem lookup_cons {κ α : Type} [DecidableEq κ] (k : κ) (v : α) (r : List (κ × α)) (key : κ) :
    ((k, v) :: r).lookup key = if key = k then some v else r.lookup key := by
  by_cases same : key = k <;> simp [List.lookup_cons, same, beq_eq_false_iff_ne.mpr]

theorem lookup_insert {α : Type} (key : String) (value : α) (key' : String) :
    ∀ entries : List (String × α),
      (insert key value entries).lookup key' =
        if key' = key then some value else entries.lookup key'
  | [] => lookup_cons ..
  | (k, v) :: r => by
    simp only [insert]
    split
    · exact lookup_cons ..
    · split
      · rename_i e
        subst e
        rw [lookup_cons, lookup_cons]
        split <;> rfl
      · rename_i ne
        rw [lookup_cons, lookup_insert key value key' r, lookup_cons]
        by_cases same : key' = k
        · rw [if_pos same, if_pos same, if_neg fun e => ne (e.symm.trans same)]
        · rw [if_neg same, if_neg same]

end Entries

/-- Entries in strictly ascending order of keys. -/
structure Index (α : Type) where
  entries : List (String × α)
  ascending : Entries.Ascending entries

namespace Index

variable {α : Type}

def empty : Index α := ⟨[], .nil⟩

instance : Inhabited (Index α) := ⟨empty⟩

def insert (x : Index α) (key : String) (value : α) : Index α :=
  ⟨Entries.insert key value x.entries, x.ascending.insert⟩

def get? (x : Index α) (key : String) : Option α := x.entries.lookup key

theorem get?_insert (x : Index α) (key : String) (value : α) (key' : String) :
    (x.insert key value).get? key' = if key' = key then some value else x.get? key' :=
  Entries.lookup_insert key value key' x.entries

def keys (x : Index α) : List String := x.entries.map (·.1)

def ofList (entries : List (String × α)) : Index α :=
  ⟨Entries.sort entries, Entries.ascending_sort entries⟩

end Index

end HalBench
