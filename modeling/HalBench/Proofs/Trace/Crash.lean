import HalBench.Proofs.Trace.RoundTrip

/-! A trace whose sink fails at some byte. Whatever is appended afterwards, the records with their
frames before that byte are those that were counted and those that are read. -/

namespace HalBench.Trace

/-- What is read from the first bytes of a trace: the records with their frames within them, then
the end, or one error before it when the bytes end within a frame. -/
theorem requests_cut {records : List Record} (carried : ∀ r ∈ records, r.Carried) (n : Nat)
    {source : Source} (bytes : source.remaining = (bytesOf records).take n)
    (fault : source.fault = none) :
    ∃ broken : List (Except Error (Option Record)),
      ((∃ k, (bytesOf records).take n = bytesOf (records.take k)) → broken = []) ∧
      ((¬ ∃ k, (bytesOf records).take n = bytesOf (records.take k)) → ∃ expected got,
        broken = [.error (.frame (wholeFrames n records) (.truncated expected got))]) ∧
      ∀ k, ∃ reader : Reader, reader.count = wholeFrames n records ∧
        Reader.requests (wholeFrames n records + k) ⟨source, 0⟩ =
          (answersOf (records.take (wholeFrames n records)) ++
            List.take k (broken ++ List.replicate k (.ok none)), reader) := by
  obtain ⟨tail, cut, next⟩ := take_bytesOf n records
  have some_ : (records.take (wholeFrames n records)).length = wholeFrames n records :=
    List.length_take_of_le (wholeFrames_le n records)
  obtain ⟨s, left, same, count, requests⟩ := @requests_bytesOf ⟨source, 0⟩ tail _
    (fun r hr => carried r (List.mem_of_mem_take hr)) (bytes.trans cut)
  rw [some_] at count requests
  have counted : s.count = wholeFrames n records := count.trans (Nat.zero_add _)
  rcases next with ended | ⟨r, next, torn⟩
  · have boundary : ∃ k, (bytesOf records).take n = bytesOf (records.take k) :=
      ⟨wholeFrames n records, by rw [cut, ended, List.append_nil]⟩
    refine ⟨[], fun _ => rfl, fun inside => absurd boundary inside, fun k => ?_⟩
    obtain ⟨answers, kept⟩ := Reader.requests_end (left.trans ended) (same.trans fault) k
    refine ⟨(Reader.requests k s).2, kept.trans counted, ?_⟩
    rw [requests k, answers, List.nil_append, List.take_replicate, Nat.min_self]
  · obtain ⟨expected, got, answers⟩ := requests_torn
      (carried r (List.mem_of_getElem? next)) torn left (same.trans fault)
    refine ⟨[.error (.frame s.count (.truncated expected got))], ?_, ?_, fun k => ?_⟩
    · rintro ⟨k, boundary⟩
      exact absurd (cut.symm.trans boundary) (not_boundary next torn k)
    · intro _
      exact ⟨expected, got, by rw [counted]⟩
    · refine ⟨(Reader.requests k s).2, (answers k).2.trans counted, ?_⟩
      rw [requests k, (answers k).1]
      rfl

/-- A sink that takes `n` bytes and then fails holds the first `n` bytes of the trace, whether or
not records are appended after the first error. The writer counts the records with their frames
within those bytes, and they are what is read from them in any pieces, followed by the end when
the bytes end between two frames, and else by an error that tells their number. -/
theorem crash_consistent {records : List Record} (carried : ∀ r ∈ records, r.Carried) {n : Nat}
    {refusal : Refusal} {turns : List Uptake} {w : Writer}
    (run : Writer.Appends records ⟨{ turns, limit := some (n, refusal) }, 0⟩ w) :
    let trace := (Writer.appendAll records {}).2.sink.written
    let boundary := ∃ k, w.sink.written = bytesOf (records.take k)
    trace = bytesOf records ∧ w.sink.written = trace.take n ∧ w.count = wholeFrames n records ∧
      ∀ source : Source, source.remaining = w.sink.written → source.fault = none →
        ∃ broken : List (Except Error (Option Record)),
          (boundary → broken = []) ∧
          (¬ boundary → ∃ expected got,
            broken = [.error (.frame w.count (.truncated expected got))]) ∧
          ∀ k, ∃ reader : Reader, reader.count = w.count ∧
            Reader.requests (w.count + k) ⟨source, 0⟩ =
              (answersOf (records.take w.count) ++
                List.take k (broken ++ List.replicate k (.ok none)), reader) := by
  intro trace boundary
  obtain ⟨v, calls, whole, _⟩ := @Writer.appendAll_ok {} records rfl rfl
  have bytes : trace = bytesOf records := by
    rw [← List.nil_append (bytesOf records)]
    exact (congrArg (·.2.sink.written) calls).trans whole
  obtain ⟨written, count⟩ := run.taken rfl rfl
  have held : w.sink.written = (bytesOf records).take n := written.trans (List.nil_append _)
  have counted : w.count = wholeFrames n records := count.trans (Nat.zero_add _)
  refine ⟨bytes, bytes ▸ held, counted, fun source same fault => ?_⟩
  obtain ⟨broken, between, within, requests⟩ := requests_cut carried n (same.trans held) fault
  rw [← held, ← counted] at *
  exact ⟨broken, between, within, requests⟩

/-- Of two records the second does not fit: the first is read back, and then an error tells that
there was one. -/
theorem crash_consistent_quoted :
    let records := [Record.quoted, Record.quoted]
    let start : Writer := ⟨{ turns := [.interrupted], limit := some (200, .fails .noSpace) }, 0⟩
    let w := (start.appendAll records).2
    (∀ r ∈ records, r.Carried) ∧ Writer.Appends records start w ∧ w.count = 1 ∧
      ∃ expected got, ∃ reader : Reader, reader.count = 1 ∧
        Reader.requests 3 ⟨.ofBytes w.sink.written, 0⟩ =
          ([.ok (some Record.quoted), .error (.frame 1 (.truncated expected got)), .ok none],
            reader) := by
  intro records start w
  have carried : ∀ r ∈ records, r.Carried := by
    intro r hr
    obtain rfl := List.eq_of_mem_replicate (n := 2) hr
    exact ⟨Record.allocatable_quoted, Record.faithful_quoted.decoded⟩
  have run : Writer.Appends records start w := Writer.appends_appendAll records start
  clear_value w
  obtain ⟨bytes, held, count, read⟩ := crash_consistent carried run
  have one : wholeFrames 200 records = 1 := by decide +kernel
  have inside : ¬ ∃ k, w.sink.written = bytesOf (records.take k) := by
    rintro ⟨k, boundary⟩
    rw [held, bytes] at boundary
    have length := congrArg List.length boundary
    have long : Record.quoted.frame.length = 153 := by decide +kernel
    rcases k with _ | _ | k
    all_goals
      simp only [records, List.take_succ_cons, List.take_zero, List.take_nil, bytesOf_cons,
        bytesOf_nil, List.length_take, List.length_append, List.length_nil, long] at length
      omega
  obtain ⟨broken, -, within, requests⟩ := read _ (Source.remaining_ofBytes _) rfl
  obtain ⟨expected, got, rfl⟩ := within inside
  obtain ⟨reader, total, answers⟩ := requests 2
  rw [count, one] at total answers
  exact ⟨carried, run, count.trans one, expected, got, reader, total, answers⟩

end HalBench.Trace
