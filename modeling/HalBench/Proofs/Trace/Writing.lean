import HalBench.Proofs.Frame.Send
import HalBench.Proofs.Trace.Stored
import HalBench.Trace.Writer

/-! Writing records. What a writer counts are the records whose frames its sink has taken whole,
whether or not records are appended after an error. -/

namespace HalBench.Trace.Writer

variable {w : Writer} {r : Record} {n : Nat} {refusal : Refusal}

theorem append_ok (flush : w.sink.flushFault = none) (fits : w.sink.Fits r.frame) :
    ∃ t, w.append r = (.ok (), ⟨t, w.count + 1⟩) ∧ w.sink.Takes r.frame t := by
  obtain ⟨t, sent, taken⟩ := Frame.send_flushed flush fits
  exact ⟨t, by simp only [append, sent], taken⟩

theorem append_error (full : ¬ w.sink.Fits r.frame) :
    ∃ e t, w.append r = (.error e, ⟨t, w.count⟩) ∧ w.sink.Takes r.frame t := by
  obtain ⟨t, sent, taken⟩ := Frame.send_error full
  exact ⟨.frame w.count (.io w.sink.refusal), t, by simp only [append, sent], taken⟩

/-- Records are appended one after another. After an error any records may be appended. -/
inductive Appends : List Record → Writer → Writer → Prop where
  | done (w : Writer) : Appends [] w w
  | appended {r : Record} {rest : List Record} {w v u : Writer} (call : w.append r = (.ok (), v))
      (further : Appends rest v u) : Appends (r :: rest) w u
  | failed {r : Record} {rest others : List Record} {w v u : Writer} {e : Error}
      (call : w.append r = (.error e, v)) (further : Appends others v u) :
      Appends (r :: rest) w u

theorem appends_appendAll (records : List Record) (w : Writer) :
    Appends records w (w.appendAll records).2 := by
  induction records generalizing w with
  | nil => exact .done w
  | cons r rest ih =>
    cases call : w.append r with
    | mk answer v =>
      cases answer with
      | error e =>
        simp only [appendAll, call]
        exact .failed call (.done v)
      | ok =>
        simp only [appendAll, call]
        exact .appended call (ih v)

theorem appendAll_fits {records : List Record} (flush : w.sink.flushFault = none)
    (fits : w.sink.Fits (bytesOf records)) :
    ∃ v, w.appendAll records = (.ok (), v) ∧ w.sink.Takes (bytesOf records) v.sink ∧
      v.count = w.count + records.length := by
  induction records generalizing w with
  | nil => exact ⟨w, rfl, .nil w.sink, rfl⟩
  | cons r rest ih =>
    rw [bytesOf_cons] at fits ⊢
    have first : w.sink.Fits r.frame := fits.of_append
    obtain ⟨t, call, taken⟩ := append_ok flush first
    obtain ⟨v, calls, further, count⟩ := ih (w := ⟨t, w.count + 1⟩) (taken.flushFault.trans flush)
      ((taken.fits_append first).mp fits)
    refine ⟨v, by simp only [appendAll, call, calls], taken.append first further, ?_⟩
    rw [count, List.length_cons, Nat.add_comm rest.length, Nat.add_assoc]

theorem appendAll_refused {records : List Record} (flush : w.sink.flushFault = none)
    (full : ¬ w.sink.Fits (bytesOf records)) : ∃ e v, w.appendAll records = (.error e, v) := by
  induction records generalizing w with
  | nil => exact absurd w.sink.fits_nil full
  | cons r rest ih =>
    rw [bytesOf_cons] at full
    by_cases first : w.sink.Fits r.frame
    · obtain ⟨t, call, taken⟩ := append_ok flush first
      obtain ⟨e, v, calls⟩ := ih (w := ⟨t, w.count + 1⟩) (taken.flushFault.trans flush)
        (mt (taken.fits_append first).mpr full)
      exact ⟨e, v, by simp only [appendAll, call, calls]⟩
    · obtain ⟨e, t, call, -⟩ := append_error first
      exact ⟨e, ⟨t, w.count⟩, by simp only [appendAll, call]⟩

theorem appendAll_ok {records : List Record} (flush : w.sink.flushFault = none)
    (limit : w.sink.limit = none) :
    ∃ v, w.appendAll records = (.ok (), v) ∧ v.sink.written = w.sink.written ++ bytesOf records ∧
      v.count = w.count + records.length := by
  have fits : w.sink.Fits (bytesOf records) := by rw [Sink.Fits, Sink.room, limit]
  obtain ⟨v, calls, taken, count⟩ := appendAll_fits flush fits
  exact ⟨v, calls, taken.written_of_fits fits, count⟩

section Limited
variable (limit : w.sink.limit = some (n, refusal))
include limit

theorem append_full (full : n ≤ w.sink.written.length) (r : Record) :
    ∃ e t, w.append r = (.error e, ⟨t, w.count⟩) ∧ t.written = w.sink.written ∧
      t.limit = some (n, refusal) := by
  have long := length_frame_pos r
  obtain ⟨e, t, call, taken⟩ := append_error (w := w) (r := r) (by rw [Sink.fits_limit limit]; omega)
  have nothing : w.sink.room r.frame.length = 0 := by
    rw [Sink.room_limit limit]
    omega
  refine ⟨e, t, call, ?_, taken.limit.trans limit⟩
  rw [taken.written, nothing, List.take_zero, List.append_nil]

end Limited

theorem Appends.full {records : List Record} {u : Writer} (run : Appends records w u)
    (limit : w.sink.limit = some (n, refusal)) (full : n ≤ w.sink.written.length) :
    u.sink.written = w.sink.written ∧ u.count = w.count := by
  induction run with
  | done => exact ⟨rfl, rfl⟩
  | @appended r rest w v u call further ih =>
    obtain ⟨e, t, refused, _⟩ := append_full limit full r
    rw [refused] at call
    cases call
  | @failed r rest others w v u e call further ih =>
    obtain ⟨e, t, refused, written, same⟩ := append_full limit full r
    rw [refused] at call
    cases call
    obtain ⟨written', count⟩ := ih same (written ▸ full)
    exact ⟨written'.trans written, count⟩

/-- A sink with a limit takes the bytes of the records up to its limit, and the records that
are counted are those with their frames within them. -/
theorem Appends.taken {records : List Record} {u : Writer} (run : Appends records w u)
    (flush : w.sink.flushFault = none) (limit : w.sink.limit = some (n, refusal)) :
    u.sink.written =
        w.sink.written ++ (bytesOf records).take (n - w.sink.written.length) ∧
      u.count = w.count + wholeFrames (n - w.sink.written.length) records := by
  -- Where a record does not fit the sink is full, and nothing that is appended then changes it.
  induction run with
  | done => exact ⟨by rw [bytesOf_nil, List.take_nil, List.append_nil], rfl⟩
  | @appended r rest w v u call further ih =>
    by_cases fits : w.sink.Fits r.frame
    · obtain ⟨t, call', taken⟩ := append_ok flush fits
      rw [call'] at call
      cases call
      obtain ⟨written, count⟩ := ih (taken.flushFault.trans flush) (taken.limit.trans limit)
      have left : n - t.written.length = n - w.sink.written.length - r.frame.length := by
        rw [taken.written_of_fits fits, List.length_append, Nat.sub_add_eq]
      have inside := (Sink.fits_limit limit).mp fits
      rw [left] at written count
      refine ⟨?_, ?_⟩
      · rw [written, taken.written_of_fits fits, bytesOf_cons, List.take_append,
          List.take_of_length_le inside, List.append_assoc]
      · have counted : u.count = w.count + 1 + _ := count
        rw [counted, wholeFrames_of_le inside]
        omega
    · obtain ⟨e, t, call', _⟩ := append_error fits
      rw [call'] at call
      cases call
  | @failed r rest others w v u e call further ih =>
    by_cases fits : w.sink.Fits r.frame
    · obtain ⟨t, call', _⟩ := append_ok flush fits
      rw [call'] at call
      cases call
    · obtain ⟨e, t, call', taken⟩ := append_error fits
      rw [call'] at call
      cases call
      have outside := Nat.lt_of_not_le (mt (Sink.fits_limit limit).mpr fits)
      have written := taken.written_limit limit
      have full : n ≤ t.written.length := by
        rw [written, List.length_append, List.length_take]
        omega
      obtain ⟨same, count⟩ := further.full (taken.limit.trans limit) full
      refine ⟨?_, ?_⟩
      · rw [same, written, bytesOf_cons, List.take_append_of_le_length (Nat.le_of_lt outside)]
      · rw [count, wholeFrames_of_lt outside]
        rfl

end HalBench.Trace.Writer
