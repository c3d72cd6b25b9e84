import HalBench.Stream.Source

/-! Reading depends only on the bytes that are left and on the ending: how the bytes are cut into
stretches and where reads are interrupted does not matter. -/

namespace HalBench.Source

def joined (s : Source) : Source := ⟨stretchOf s.remaining, s.fault⟩

@[simp] theorem remaining_joined (s : Source) : s.joined.remaining = s.remaining :=
  held_stretchOf s.remaining

@[simp] theorem fault_joined (s : Source) : s.joined.fault = s.fault := rfl

theorem held_stretchOf_append (b : Bytes) (r : List Arrival) :
    held (stretchOf b ++ r) = b ++ held r := by
  rw [held_append, held_stretchOf]

theorem nextByte_nil {a : List Arrival} (h : held a = []) : nextByte a = none := by
  induction a with
  | nil => rfl
  | cons x r ih =>
    cases x with
    | interrupted => exact ih h
    | stretch b more => simp [held] at h

theorem nextByte_cons {a : List Arrival} {b : UInt8} {more : Bytes} (h : held a = b :: more) :
    ∃ r, nextByte a = some (b, r) ∧ held r = more := by
  induction a with
  | nil => simp [held] at h
  | cons x r ih =>
    cases x with
    | interrupted => exact ih h
    | stretch c s =>
      simp only [held, List.cons_append, List.cons.injEq] at h
      obtain ⟨rfl, rfl⟩ := h
      exact ⟨_, rfl, held_stretchOf_append s r⟩

theorem readByte_nil {s : Source} (h : s.remaining = []) :
    ∃ t, s.readByte = (match s.fault with | none => .ok none | some f => .error f, t) ∧
      t.remaining = [] ∧ t.fault = s.fault := by
  refine ⟨{ s with arrivals := [] }, ?_, rfl, rfl⟩
  cases fault : s.fault with
  | none => simp only [readByte, nextByte_nil h, fault]
  | some f => simp only [readByte, nextByte_nil h, fault]

theorem readByte_cons {s : Source} {b : UInt8} {more : Bytes} (h : s.remaining = b :: more) :
    ∃ t, s.readByte = (.ok (some b), t) ∧ t.remaining = more ∧ t.fault = s.fault := by
  obtain ⟨r, next, held⟩ := nextByte_cons h
  exact ⟨{ s with arrivals := r }, by simp only [readByte, next], held, rfl⟩

theorem gather_eq (n : Nat) (a : List Arrival) :
    (gather n a).1 = (held a).take n ∧ held (gather n a).2 = (held a).drop n := by
  fun_induction gather n a with
  | case1 a => simp
  | case2 => simp [held]
  | case3 n r ih => simpa [held] using ih
  | case4 n b more r taken left whole further after rest ih =>
    have fits : (b :: more).length ≤ n + 1 := List.drop_eq_nil_iff.mp whole
    have all : taken = b :: more := List.take_of_length_le fits
    rw [rest] at ih
    rw [held, all, List.take_append, List.drop_append, List.take_of_length_le fits,
      List.drop_eq_nil_iff.mpr fits, List.nil_append]
    rw [all] at ih
    exact ⟨congrArg (b :: more ++ ·) ih.1, ih.2⟩
  | case5 n b more r taken left c d cut =>
    have long : n + 1 ≤ (b :: more).length := by
      have := congrArg List.length cut
      simp only [left, List.length_drop, List.length_cons] at this ⊢
      omega
    rw [held, held, ← cut, List.take_append_of_le_length long, List.drop_append_of_le_length long]
    exact ⟨rfl, rfl⟩

theorem readUpTo_eq (n : Nat) (s : Source) :
    ∃ t, s.readUpTo n = (if n ≤ s.remaining.length then .ok (s.remaining.take n)
        else match s.fault with | none => .ok s.remaining | some f => .error f, t) ∧
      t.remaining = s.remaining.drop n ∧ t.fault = s.fault := by
  obtain ⟨taken, left⟩ := gather_eq n s.arrivals
  refine ⟨{ s with arrivals := (gather n s.arrivals).2 }, ?_, left, rfl⟩
  simp only [readUpTo, taken]
  by_cases enough : n ≤ s.remaining.length
  · have full : ((held s.arrivals).take n).length = n := List.length_take_of_le enough
    rw [if_neg (by omega), if_pos enough]
    rfl
  · have all : (held s.arrivals).take n = s.remaining :=
      List.take_of_length_le (Nat.le_of_not_le enough)
    rw [all, if_pos (Nat.lt_of_not_le enough), if_neg enough]
    cases s.fault <;> rfl

end HalBench.Source
