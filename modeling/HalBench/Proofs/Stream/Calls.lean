import HalBench.Proofs.Stream.Source

/-! Read calls. The byte that is read next is the answer to calls for one byte, repeated after
every interruption, and reading some bytes is made of calls for any number of them at a time. -/

namespace HalBench.Source

/-- Calls for one byte, repeated after interruptions, answer with the next byte or the ending. -/
theorem readByte_read (s : Source) :
    s.readByte = match s.read 1 with
      | (.bytes b, t) => (.ok b.head?, t)
      | (.closed, t) => (.ok none, t)
      | (.interrupted, t) => t.readByte
      | (.failed f, t) => (.error f, t) := by
  obtain ⟨arrivals, fault⟩ := s
  cases arrivals with
  | nil => cases fault <;> rfl
  | cons a r =>
    cases a with
    | interrupted => rfl
    | stretch b more => rfl

section Gather
variable {n limit : Nat} {b c : UInt8} {more d : Bytes} {r : List Arrival}

theorem gather_whole (h : (b :: more).length ≤ n) :
    gather n (.stretch b more :: r) =
      (b :: more ++ (gather (n - (b :: more).length) r).1,
        (gather (n - (b :: more).length) r).2) := by
  obtain ⟨m, rfl⟩ := Nat.exists_eq_add_of_le' (Nat.le_trans (Nat.succ_pos more.length) h)
  have left : (b :: more).drop (m + 1) = [] := List.drop_eq_nil_iff.mpr h
  have taken : (b :: more).take (m + 1) = b :: more := List.take_of_length_le h
  rw [gather]
  simp only [left, taken]

theorem gather_part (pos : 0 < n) (left : (b :: more).drop n = c :: d) :
    gather n (.stretch b more :: r) = ((b :: more).take n, .stretch c d :: r) := by
  obtain ⟨m, rfl⟩ := Nat.exists_eq_add_of_le' pos
  rw [gather]
  simp only [left]

/-- What is gathered from a stretch may be taken by a call for less, and the rest after it. -/
theorem gather_read (pos : 0 < limit) (h : limit ≤ n) :
    gather n (.stretch b more :: r) =
      let taken := (b :: more).take limit
      let (further, after) := gather (n - taken.length) (stretchOf ((b :: more).drop limit) ++ r)
      (taken ++ further, after) := by
  cases rest : (b :: more).drop limit with
  | nil =>
    have short := List.drop_eq_nil_iff.mp rest
    rw [gather_whole (Nat.le_trans short h), List.take_of_length_le short]
    rfl
  | cons c d =>
    have long : limit < (b :: more).length := by
      have := congrArg List.length rest
      simp only [List.length_drop, List.length_cons] at this ⊢
      omega
    have count : ((b :: more).take limit).length = limit :=
      List.length_take_of_le (Nat.le_of_lt long)
    have split : b :: more = (b :: more).take limit ++ c :: d := by
      rw [← rest, List.take_append_drop]
    simp only [count, stretchOf, List.singleton_append]
    rcases Nat.eq_or_lt_of_le h with rfl | further
    · rw [gather_part pos rest, Nat.sub_self, gather, List.append_nil]
    · cases last : (c :: d).drop (n - limit) with
      | nil =>
        have fits := List.drop_eq_nil_iff.mp last
        have whole : (b :: more).length ≤ n := by
          rw [split, List.length_append, count]
          omega
        have lengths : n - (b :: more).length = n - limit - (c :: d).length := by
          rw [split, List.length_append, count]
          omega
        rw [gather_whole whole, gather_whole fits, lengths, ← List.append_assoc, ← split]
      | cons e f =>
        have left : (b :: more).drop n = e :: f := by
          rw [← last, ← rest, List.drop_drop, Nat.add_sub_cancel' h]
        have both : (b :: more).take n = (b :: more).take limit ++ (c :: d).take (n - limit) := by
          rw [← rest, ← List.take_add, Nat.add_sub_cancel' h]
        rw [gather_part (Nat.lt_of_lt_of_le pos h) left,
          gather_part (Nat.sub_pos_of_lt further) last, both]

end Gather

/-- Reading is a call for some of the bytes and reading the others, whatever number of bytes is
asked for in the call; after an interruption it starts again. -/
theorem readUpTo_read {n limit : Nat} (pos : 0 < limit) (h : limit ≤ n) (s : Source) :
    s.readUpTo n = match s.read limit with
      | (.bytes b, t) =>
        ((t.readUpTo (n - b.length)).1.map (b ++ ·), (t.readUpTo (n - b.length)).2)
      | (.closed, t) => (.ok [], t)
      | (.interrupted, t) => t.readUpTo n
      | (.failed f, t) => (.error f, t) := by
  obtain ⟨m, rfl⟩ : ∃ m, n = m + 1 := Nat.exists_eq_add_of_le' (Nat.le_trans pos h)
  obtain ⟨arrivals, fault⟩ := s
  cases arrivals with
  | nil => cases fault <;> rfl
  | cons a r =>
    cases a with
    | interrupted =>
      simp only [read, readUpTo, gather]
      rfl
    | stretch b more =>
      have within : ((b :: more).take limit).length ≤ m + 1 := by
        rw [List.length_take]
        omega
      simp only [read, readUpTo, gather_read pos h]
      generalize gather (m + 1 - ((b :: more).take limit).length)
        (stretchOf ((b :: more).drop limit) ++ r) = g
      simp only [List.length_append]
      by_cases short : g.1.length < m + 1 - ((b :: more).take limit).length
      · rw [if_pos (by omega), if_pos short]
        cases fault <;> rfl
      · rw [if_neg (by omega), if_neg short]
        rfl

end HalBench.Source
