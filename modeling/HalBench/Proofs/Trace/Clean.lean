import HalBench.Proofs.Trace.Pairs

/-! Clean traces. They hold calls one after another, each entry with its exit, and nothing of the
client side that another side recorded too. A cleanup always ends in a clean trace, although what
it removes changes which records are neighbours and which interfaces another side recorded; and it
leaves clean traces as they are. -/

namespace HalBench.Trace

inductive Calls : List Record → Prop where
  | nil : Calls []
  | cons {call result : Record} {rest : List Record} (closes : Closes call result)
      (further : Calls rest) : Calls (call :: result :: rest)

/-- A trace in which there is nothing to remove. -/
structure Clean (records : List Record) : Prop where
  calls : Calls records
  single : ∀ r ∈ records, ¬ Duplicated records r

variable {records more : List Record} {r : Record}

theorem calls_keepPairs (records : List Record) : Calls (keepPairs records) := by
  fun_induction keepPairs records with
  | case1 => exact .nil
  | case2 => exact .nil
  | case3 a b r complete ih => exact .cons (isCompleteCall_iff.mp complete) ih
  | case4 a b r incomplete ih => exact ih

theorem Calls.keepPairs_eq (h : Calls records) : keepPairs records = records := by
  induction h with
  | nil => rfl
  | cons closes _ ih => rw [keepPairs, if_pos (isCompleteCall_iff.mpr closes), ih]

theorem Duplicated.mono (h : Duplicated records r) (subset : records ⊆ more) : Duplicated more r := by
  obtain ⟨client, s, mem, provided, same⟩ := h
  exact ⟨client, s, subset mem, provided, same⟩

theorem clean_cleanup (records : List Record) : Clean (cleanup records).1 := by
  rw [cleanup_eq]
  refine ⟨calls_keepPairs _, fun r mem duplicated => ?_⟩
  have subset : keepPairs (unduplicated records) ⊆ unduplicated records :=
    (keepPairs_sublist _).subset
  have stays := mem_unduplicated.mp (subset mem)
  refine stays.2 (duplicated.mono fun s kept => ?_)
  exact (mem_unduplicated.mp (subset kept)).1

theorem Clean.unduplicated_eq (h : Clean records) : unduplicated records = records :=
  List.filter_eq_self.mpr fun r mem => decide_eq_true (h.single r mem)

theorem Clean.cleanup_eq (h : Clean records) :
    cleanup records = (records, ⟨records.length, 0, 0⟩) := by
  rw [Trace.cleanup_eq, h.unduplicated_eq, h.calls.keepPairs_eq, Nat.sub_self]

/-- One cleanup is enough: what it kept is kept again, and nothing is removed from it. -/
theorem cleanup_cleanup (records : List Record) :
    cleanup (cleanup records).1 =
      ((cleanup records).1, { kept := (cleanup records).1.length, duplicates := 0, unpaired := 0 }) :=
  (clean_cleanup records).cleanup_eq

end HalBench.Trace
