import HalBench.Index

/-! The keys of an index are those of the entries that it was made of, in ascending order. -/

namespace HalBench

namespace Entries

variable {α : Type} {key name : String} {value : α} {entries : List (String × α)}

theorem mem_keys_insert :
    name ∈ (insert key value entries).map (·.1) ↔ name = key ∨ name ∈ entries.map (·.1) := by
  induction entries with
  | nil => simp [insert]
  | cons m r ih =>
    obtain ⟨k, v⟩ := m
    rw [insert]
    split
    · simp
    · split
      · rename_i same
        simp [same]
      · rw [List.map_cons, List.mem_cons, ih, List.map_cons, List.mem_cons]
        exact or_left_comm

theorem mem_keys_sort : name ∈ (sort entries).map (·.1) ↔ name ∈ entries.map (·.1) := by
  suffices ∀ sorted : List (String × α),
      name ∈ (entries.foldl (fun s m => insert m.1 m.2 s) sorted).map (·.1) ↔
        name ∈ sorted.map (·.1) ∨ name ∈ entries.map (·.1) from
    (this []).trans (or_iff_right List.not_mem_nil)
  induction entries with
  | nil => simp
  | cons m r ih =>
    intro sorted
    rw [List.foldl_cons, ih, mem_keys_insert, List.map_cons, List.mem_cons, or_assoc, or_left_comm]

end Entries

namespace Index

variable {α : Type} {name : String}

theorem mem_keys_ofList {entries : List (String × α)} :
    name ∈ (ofList entries).keys ↔ name ∈ entries.map (·.1) := Entries.mem_keys_sort

theorem ascending_keys (x : Index α) : x.keys.Pairwise (· < ·) := List.pairwise_map.mpr x.ascending

end Index

end HalBench
