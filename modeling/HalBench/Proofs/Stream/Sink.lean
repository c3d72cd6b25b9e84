import HalBench.Stream.Sink

/-! Writing all of some bytes takes those for which there is room, in whatever turns the sink
takes them, and succeeds exactly when there is room for all. -/

namespace HalBench.Sink

variable {s t u : Sink} {b c : Bytes}

/-- Whether there is room for all of some bytes. -/
def Fits (s : Sink) (b : Bytes) : Prop := s.room b.length = b.length

instance (s : Sink) (b : Bytes) : Decidable (s.Fits b) :=
  inferInstanceAs (Decidable (s.room b.length = b.length))

/-- What a write fails with when there is no room. -/
def refusal (s : Sink) : SystemFault :=
  match s.limit with
  | some (_, .fails f) => f
  | _ => .writeZero

/-- A sink that has taken of some bytes those for which another one had room. -/
structure Takes (s : Sink) (b : Bytes) (t : Sink) : Prop where
  written : t.written = s.written ++ b.take (s.room b.length)
  limit : t.limit = s.limit
  flushFault : t.flushFault = s.flushFault

theorem room_le (s : Sink) (n : Nat) : s.room n ≤ n := by
  unfold room
  split <;> omega

theorem room_mono (s : Sink) {n m : Nat} (h : n ≤ m) : s.room n ≤ s.room m := by
  unfold room
  split <;> omega

@[simp] theorem room_zero (s : Sink) : s.room 0 = 0 := Nat.le_zero.mp (s.room_le 0)

theorem room_of_full {n m : Nat} (full : s.room n < n) (h : n ≤ m) : s.room m = s.room n := by
  unfold room at *
  cases hl : s.limit with
  | none => simp [hl] at full
  | some l =>
    simp only [hl] at full ⊢
    omega

theorem room_of_written (limit : t.limit = s.limit) {n : Nat}
    (grown : t.written.length = s.written.length + n) {m : Nat} (enough : n ≤ s.room (n + m)) :
    t.room m = s.room (n + m) - n := by
  unfold room at *
  rw [limit]
  cases h : s.limit with
  | none => simp
  | some l =>
    simp only [h] at enough ⊢
    omega

section Limit
variable {n : Nat} {refusal : Refusal} (limit : s.limit = some (n, refusal))
include limit

theorem room_limit (m : Nat) : s.room m = min m (n - s.written.length) := by
  rw [room, limit]

theorem fits_limit : s.Fits b ↔ b.length ≤ n - s.written.length := by
  rw [Fits, room_limit limit]
  omega

theorem Takes.written_limit (h : s.Takes b t) :
    t.written = s.written ++ b.take (n - s.written.length) := by
  rw [h.written, room_limit limit, Nat.min_comm, ← List.take_eq_take_min]

end Limit

theorem fits_nil (s : Sink) : s.Fits [] := s.room_zero

theorem Takes.nil (s : Sink) : s.Takes [] s := ⟨by simp, rfl, rfl⟩

theorem Takes.length_written (h : s.Takes b t) :
    t.written.length = s.written.length + s.room b.length := by
  rw [h.written, List.length_append, List.length_take, Nat.min_eq_left (s.room_le _)]

theorem Takes.written_of_fits (h : s.Takes b t) (fits : s.Fits b) :
    t.written = s.written ++ b := by
  rw [h.written, fits, List.take_length]

theorem Takes.written_eq_iff (h : s.Takes b t) : t.written = s.written ++ b ↔ s.Fits b := by
  refine ⟨fun whole => ?_, h.written_of_fits⟩
  have length := h.length_written
  rw [whole, List.length_append] at length
  exact (Nat.add_left_cancel length).symm

theorem fits_unlimited (unlimited : s.limit = none) (b : Bytes) : s.Fits b := by
  rw [Fits, room, unlimited]

theorem Takes.refusal_eq (h : s.Takes b t) : t.refusal = s.refusal := by
  rw [refusal, refusal, h.limit]

theorem Takes.room_eq (h : s.Takes b t) (fits : s.Fits b) (n : Nat) :
    t.room n = s.room (b.length + n) - b.length := by
  have enough := s.room_mono (Nat.le_add_right b.length n)
  rw [fits] at enough
  refine room_of_written h.limit ?_ enough
  rw [h.length_written, fits]

theorem Takes.append (hb : s.Takes b t) (fits : s.Fits b) (hc : t.Takes c u) :
    s.Takes (b ++ c) u where
  written := by
    have enough := s.room_mono (Nat.le_add_right b.length c.length)
    rw [fits] at enough
    rw [hc.written, hb.written_of_fits fits, hb.room_eq fits, List.length_append,
      List.take_append, List.take_of_length_le enough, List.append_assoc]
  limit := hc.limit.trans hb.limit
  flushFault := hc.flushFault.trans hb.flushFault

theorem Takes.append_of_not_fits (hb : s.Takes b t) (full : ¬ s.Fits b) (c : Bytes) :
    s.Takes (b ++ c) t where
  written := by
    have less : s.room b.length < b.length := Nat.lt_of_le_of_ne (s.room_le _) full
    rw [hb.written, List.length_append, room_of_full less (Nat.le_add_right _ _),
      List.take_append_of_le_length (Nat.le_of_lt less)]
  limit := hb.limit
  flushFault := hb.flushFault

theorem Takes.fits_append (hb : s.Takes b t) (fits : s.Fits b) :
    s.Fits (b ++ c) ↔ t.Fits c := by
  have enough := s.room_mono (Nat.le_add_right b.length c.length)
  rw [fits] at enough
  rw [Fits, Fits, hb.room_eq fits, List.length_append]
  omega

theorem Fits.of_append (h : s.Fits (b ++ c)) : s.Fits b := by
  refine Classical.byContradiction fun full => ?_
  have less : s.room b.length < b.length := Nat.lt_of_le_of_ne (s.room_le _) full
  rw [Fits, List.length_append, room_of_full less (Nat.le_add_right _ _)] at h
  omega

theorem fits_take {n : Nat} (room : n ≤ s.room b.length) : s.Fits (b.take n) := by
  have inside : n ≤ b.length := Nat.le_trans room (s.room_le _)
  have length : (b.take n).length = n := List.length_take_of_le inside
  rw [Fits, length]
  refine Nat.le_antisymm (s.room_le _) (Nat.le_of_not_lt fun less => ?_)
  have full := room_of_full less inside
  omega

theorem write_of_most {most : Nat} (pos : 0 < most)
    (call : s.write b =
      let count := min most (s.room b.length)
      if count = 0 then
        match s.limit with
        | some (_, .fails f) => (.failed f, s)
        | _ => (.taken 0, s)
      else (.taken count,
        { s with written := s.written ++ b.take count, turns := s.turns.tail })) :
    (s.room b.length = 0 ∧
      (s.write b = (.failed s.refusal, s) ∨ s.write b = (.taken 0, s) ∧ s.refusal = .writeZero)) ∨
    (∃ n, n + 1 ≤ s.room b.length ∧ s.write b = (.taken (n + 1),
      { s with written := s.written ++ b.take (n + 1), turns := s.turns.tail })) := by
  rw [call]
  by_cases none : min most (s.room b.length) = 0
  · refine .inl ⟨by omega, ?_⟩
    simp only [none, if_true, refusal]
    split <;> simp
  · obtain ⟨n, hn⟩ := Nat.exists_eq_succ_of_ne_zero none
    refine .inr ⟨n, by omega, ?_⟩
    simp only [hn, Nat.succ_ne_zero, if_false, Nat.succ_eq_add_one]

/-- What one write call does: it is interrupted, finds no room, or takes some bytes. -/
theorem write_cases (nonempty : b ≠ []) :
    (∃ later, s.turns = .interrupted :: later ∧
      s.write b = (.interrupted, { s with turns := later })) ∨
    (s.room b.length = 0 ∧
      (s.write b = (.failed s.refusal, s) ∨ s.write b = (.taken 0, s) ∧ s.refusal = .writeZero)) ∨
    (∃ n, n + 1 ≤ s.room b.length ∧ s.write b = (.taken (n + 1),
      { s with written := s.written ++ b.take (n + 1), turns := s.turns.tail })) := by
  have long : 0 < b.length := List.length_pos_iff.mpr nonempty
  obtain ⟨written, turns, limit, flushFault⟩ := s
  cases turns with
  | nil => exact .inr (write_of_most long rfl)
  | cons turn later =>
    cases turn with
    | interrupted => exact .inl ⟨later, rfl, rfl⟩
    | upTo n => exact .inr (write_of_most n.succ_pos rfl)

theorem writeLoop_takes {fuel : Nat} (enough : b.length + s.turns.length ≤ fuel) :
    s.Takes b (writeLoop fuel b s).2 ∧
      (writeLoop fuel b s).1 = if s.Fits b then .ok () else .error s.refusal := by
  -- An interruption uses up a turn and any other call takes a byte, so `enough` is kept.
  induction fuel generalizing b s with
  | zero =>
    have empty : b = [] := List.eq_nil_of_length_eq_zero (by omega)
    subst empty
    simp [writeLoop, Takes.nil, fits_nil]
  | succ fuel ih =>
    cases b with
    | nil => simp [writeLoop, Takes.nil, fits_nil]
    | cons x r =>
      have notFits (full : s.room (x :: r).length = 0) : ¬ s.Fits (x :: r) := by
        rw [Fits, full]
        exact (Nat.succ_ne_zero r.length).symm
      have nothing (full : s.room (x :: r).length = 0) : s.Takes (x :: r) s :=
        ⟨by rw [full, List.take_zero, List.append_nil], rfl, rfl⟩
      rcases write_cases (s := s) (List.cons_ne_nil x r) with
        ⟨later, turns, call⟩ | ⟨full, call | ⟨call, zero⟩⟩ | ⟨n, room, call⟩
      · have rest := ih (b := x :: r) (s := { s with turns := later }) (by
          simp only [turns, List.length_cons] at enough ⊢
          omega)
        simp only [writeLoop, call]
        exact ⟨⟨rest.1.written, rest.1.limit, rest.1.flushFault⟩, rest.2⟩
      · simp only [writeLoop, call, notFits full, if_false]
        exact ⟨nothing full, trivial⟩
      · simp only [writeLoop, call, notFits full, if_false, zero]
        exact ⟨nothing full, trivial⟩
      · have fits := fits_take room
        have first : s.Takes ((x :: r).take (n + 1))
            { s with written := s.written ++ (x :: r).take (n + 1), turns := s.turns.tail } :=
          ⟨by rw [fits, List.take_length], rfl, rfl⟩
        have rest := ih (b := (x :: r).drop (n + 1))
          (s := { s with written := s.written ++ (x :: r).take (n + 1), turns := s.turns.tail }) (by
            simp only [List.length_drop, List.length_tail]
            omega)
        have taken := first.append fits rest.1
        have all := first.fits_append (c := (x :: r).drop (n + 1)) fits
        rw [List.take_append_drop] at taken all
        simp only [writeLoop, call]
        exact ⟨taken, rest.2.trans (by simp only [all, first.refusal_eq])⟩

theorem writeAll_takes (b : Bytes) (s : Sink) :
    s.Takes b (s.writeAll b).2 ∧
      (s.writeAll b).1 = if s.Fits b then .ok () else .error s.refusal :=
  writeLoop_takes (Nat.le_refl _)

theorem writeAll_ok (fits : s.Fits b) : ∃ t, s.writeAll b = (.ok (), t) ∧ s.Takes b t := by
  obtain ⟨taken, answer⟩ := s.writeAll_takes b
  exact ⟨(s.writeAll b).2, Prod.ext (answer.trans (if_pos fits)) rfl, taken⟩

theorem writeAll_error (full : ¬ s.Fits b) :
    ∃ t, s.writeAll b = (.error s.refusal, t) ∧ s.Takes b t := by
  obtain ⟨taken, answer⟩ := s.writeAll_takes b
  exact ⟨(s.writeAll b).2, Prod.ext (answer.trans (if_neg full)) rfl, taken⟩

/-! ### Write calls one by one

Each hands over what comes after the bytes that were taken before, so at every moment a sink has
taken a beginning of all the bytes, and none of them twice. -/

section Calls

variable {calls more : List Bytes}

def after (s : Sink) (calls : List Bytes) : Sink := calls.foldl (fun s b => (s.write b).2) s

/-- Write calls for some bytes: before each of them a beginning of the bytes has been taken, and the
call hands over what comes next. -/
def HandsOver (s : Sink) (b : Bytes) (calls : List Bytes) : Prop :=
  ∀ k, ∃ taken left, taken ++ left = b ∧ (s.after (calls.take k)).written = s.written ++ taken ∧
    ∀ call, calls[k]? = some call → call ≠ [] ∧ call <+: left

theorem after_cons (s : Sink) (call : Bytes) (calls : List Bytes) :
    s.after (call :: calls) = (s.write call).2.after calls := rfl

theorem after_append (s : Sink) (calls more : List Bytes) :
    s.after (calls ++ more) = (s.after calls).after more := List.foldl_append

theorem HandsOver.nil (s : Sink) (b : Bytes) : s.HandsOver b [] := fun k =>
  ⟨[], b, rfl, by rw [List.take_nil, List.append_nil]; rfl, by simp⟩

theorem HandsOver.cons {call taken left : Bytes} (all : taken ++ left = b) (nonempty : call ≠ [])
    (offered : call <+: b) (took : (s.write call).2.written = s.written ++ taken)
    (rest : (s.write call).2.HandsOver left calls) : s.HandsOver b (call :: calls) := by
  intro k
  cases k with
  | zero =>
    refine ⟨[], b, rfl, (List.append_nil _).symm, fun call' first => ?_⟩
    obtain rfl := Option.some.inj first
    exact ⟨nonempty, offered⟩
  | succ k =>
    obtain ⟨further, left', split, written, next⟩ := rest k
    refine ⟨taken ++ further, left', by rw [List.append_assoc, split, all], ?_, next⟩
    rw [List.take_succ_cons, after_cons, written, took, List.append_assoc]

theorem HandsOver.extend (h : s.HandsOver b calls) (c : Bytes) : s.HandsOver (b ++ c) calls := by
  intro k
  obtain ⟨taken, left, rfl, written, next⟩ := h k
  refine ⟨taken, left ++ c, (List.append_assoc ..).symm, written, fun call here => ?_⟩
  exact ⟨(next call here).1, (next call here).2.trans (List.prefix_append left c)⟩

theorem HandsOver.append (h : s.HandsOver b calls)
    (all : (s.after calls).written = s.written ++ b) (further : (s.after calls).HandsOver c more) :
    s.HandsOver (b ++ c) (calls ++ more) := by
  intro k
  by_cases first : k < calls.length
  · obtain ⟨taken, left, split, written, next⟩ := h.extend c k
    rw [List.take_append_of_le_length (Nat.le_of_lt first), List.getElem?_append_left first]
    exact ⟨taken, left, split, written, next⟩
  · obtain ⟨m, rfl⟩ := Nat.exists_eq_add_of_le (Nat.le_of_not_lt first)
    obtain ⟨taken, left, rfl, written, next⟩ := further m
    refine ⟨b ++ taken, left, List.append_assoc .., ?_, ?_⟩
    · rw [List.take_length_add_append, after_append, written, all, List.append_assoc]
    · rwa [List.getElem?_append_right (Nat.le_add_right ..), Nat.add_sub_cancel_left]

/-- However many calls are made, they hand over the bytes one after another. -/
theorem writeLoop_handsOver (fuel : Nat) (b : Bytes) (s : Sink) :
    ∃ calls, (writeLoop fuel b s).2 = s.after calls ∧ s.HandsOver b calls := by
  induction fuel generalizing b s with
  | zero => cases b <;> exact ⟨[], rfl, .nil s _⟩
  | succ fuel ih =>
    cases b with
    | nil => exact ⟨[], rfl, .nil s _⟩
    | cons x r =>
      have offered : x :: r <+: x :: r := List.prefix_refl _
      have nonempty : x :: r ≠ [] := List.cons_ne_nil x r
      -- A call that finds no room is the last one, and leaves the sink as it was.
      have refused {turn : Turn} (call : s.write (x :: r) = (turn, s)) :
          s = s.after [x :: r] ∧ s.HandsOver (x :: r) [x :: r] := by
        have same : (s.write (x :: r)).2 = s := by rw [call]
        refine ⟨same.symm, .cons (List.nil_append _) nonempty offered ?_ (.nil _ _)⟩
        rw [same, List.append_nil]
      rcases write_cases (s := s) nonempty with
        ⟨later, -, call⟩ | ⟨-, call | ⟨call, -⟩⟩ | ⟨n, -, call⟩
      · obtain ⟨calls, reached, handed⟩ := ih (x :: r) { s with turns := later }
        refine ⟨(x :: r) :: calls, ?_, .cons (List.nil_append _) nonempty offered ?_ ?_⟩
        · simp only [writeLoop, call, after_cons, reached]
        · rw [call, List.append_nil]
        · rw [call]
          exact handed
      · exact ⟨[x :: r], by simp only [writeLoop, call]; exact (refused call).1, (refused call).2⟩
      · exact ⟨[x :: r], by simp only [writeLoop, call]; exact (refused call).1, (refused call).2⟩
      · obtain ⟨calls, reached, handed⟩ := ih ((x :: r).drop (n + 1))
          { s with written := s.written ++ (x :: r).take (n + 1), turns := s.turns.tail }
        refine ⟨(x :: r) :: calls, ?_,
          .cons (List.take_append_drop (n + 1) _) nonempty offered ?_ ?_⟩
        · simp only [writeLoop, call, after_cons, reached]
        · rw [call]
        · rw [call]
          exact handed

theorem writeAll_handsOver (b : Bytes) (s : Sink) :
    ∃ calls, (s.writeAll b).2 = s.after calls ∧ s.HandsOver b calls ∧
      ((s.writeAll b).1 = .ok () → (s.after calls).written = s.written ++ b) := by
  obtain ⟨calls, reached, handed⟩ := writeLoop_handsOver (b.length + s.turns.length) b s
  refine ⟨calls, reached, handed, fun ok => ?_⟩
  obtain ⟨taken, answer⟩ := s.writeAll_takes b
  rw [answer] at ok
  split at ok
  · rename_i fits
    rw [← reached]
    exact taken.written_of_fits fits
  · cases ok

end Calls

end HalBench.Sink
