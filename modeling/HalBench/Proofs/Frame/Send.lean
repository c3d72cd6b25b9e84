import HalBench.Frame
import HalBench.Proofs.Stream.Sink

/-! A sink takes of a frame what it has room for, as if the frame were written at once. Whatever it
does with the write calls, it has always taken a beginning of the frame, and how it takes the bytes
makes no difference to the answer. -/

namespace HalBench.Frame

open Sink (writeAll_ok writeAll_error)

theorem encode_eq (payload : Bytes) : encode payload = header payload ++ ([10] ++ payload) := rfl

theorem send_ok {payload : Bytes} {s : Sink} (fits : s.Fits (encode payload)) :
    ∃ t, send payload s = (s.flush.mapError .io, t) ∧ s.Takes (encode payload) t := by
  rw [encode_eq] at fits ⊢
  obtain ⟨t, call, took⟩ := writeAll_ok fits.of_append
  have rest := (took.fits_append fits.of_append).mp fits
  obtain ⟨u, call', took'⟩ := writeAll_ok rest.of_append
  obtain ⟨v, call'', took''⟩ := writeAll_ok ((took'.fits_append rest.of_append).mp rest)
  refine ⟨v, ?_, took.append fits.of_append (took'.append rest.of_append took'')⟩
  have flush : v.flush = s.flush := by
    rw [Sink.flush, Sink.flush, took''.flushFault, took'.flushFault, took.flushFault]
  simp only [send, call, call', call'', flush]

theorem send_flushed {payload : Bytes} {s : Sink} (flush : s.flushFault = none)
    (fits : s.Fits (encode payload)) :
    ∃ t, send payload s = (.ok (), t) ∧ s.Takes (encode payload) t := by
  obtain ⟨t, call, took⟩ := send_ok fits
  refine ⟨t, ?_, took⟩
  rw [call, Sink.flush, flush]
  rfl

theorem send_error {payload : Bytes} {s : Sink} (full : ¬ s.Fits (encode payload)) :
    ∃ t, send payload s = (.error (.io s.refusal), t) ∧ s.Takes (encode payload) t := by
  rw [encode_eq] at full ⊢
  by_cases fits : s.Fits (header payload)
  · obtain ⟨t, call, took⟩ := writeAll_ok fits
    have rest := mt (took.fits_append fits).mpr full
    by_cases fits' : t.Fits [10]
    · obtain ⟨u, call', took'⟩ := writeAll_ok fits'
      obtain ⟨v, call'', took''⟩ := writeAll_error (mt (took'.fits_append fits').mpr rest)
      refine ⟨v, ?_, took.append fits (took'.append fits' took'')⟩
      simp only [send, call, call', call'', took'.refusal_eq, took.refusal_eq]
    · obtain ⟨u, call', took'⟩ := writeAll_error fits'
      refine ⟨u, ?_, took.append fits (took'.append_of_not_fits fits' payload)⟩
      simp only [send, call, call', took.refusal_eq]
  · obtain ⟨t, call, took⟩ := writeAll_error fits
    refine ⟨t, ?_, took.append_of_not_fits fits ([10] ++ payload)⟩
    simp only [send, call]

/-- The length, the newline and the payload are handed over as the one frame. -/
theorem send_handsOver (payload : Bytes) (s : Sink) :
    ∃ calls, (send payload s).2 = s.after calls ∧ s.HandsOver (encode payload) calls := by
  rw [encode_eq]
  obtain ⟨first, reached, handed, all⟩ := s.writeAll_handsOver (header payload)
  rcases call : s.writeAll (header payload) with ⟨f | _, t⟩
  · refine ⟨first, ?_, handed.extend _⟩
    rw [← reached]
    simp only [send, call]
  obtain rfl : t = s.after first := by rw [← reached, call]
  replace all := all (by rw [call])
  obtain ⟨second, reached', handed', all'⟩ := (s.after first).writeAll_handsOver [10]
  rcases call' : (s.after first).writeAll [10] with ⟨f | _, u⟩
  · refine ⟨first ++ second, ?_, handed.append all (handed'.extend _)⟩
    rw [Sink.after_append, ← reached']
    simp only [send, call, call']
  obtain rfl : u = (s.after first).after second := by rw [← reached', call']
  replace all' := all' (by rw [call'])
  obtain ⟨third, reached'', handed'', -⟩ :=
    ((s.after first).after second).writeAll_handsOver payload
  refine ⟨first ++ (second ++ third), ?_, handed.append all (handed'.append all' handed'')⟩
  rw [Sink.after_append, Sink.after_append, ← reached'']
  simp only [send, call, call']
  rcases ((s.after first).after second).writeAll payload with ⟨f | _, v⟩ <;> rfl

/-- What is taken of a frame and what is answered: both depend on the room and the flush only. -/
theorem send_eq (payload : Bytes) (s : Sink) :
    (send payload s).1 =
        (if s.Fits (encode payload) then s.flush.mapError .io else .error (.io s.refusal)) ∧
      s.Takes (encode payload) (send payload s).2 := by
  by_cases fits : s.Fits (encode payload)
  · obtain ⟨t, call, took⟩ := send_ok fits
    rw [call, if_pos fits]
    exact ⟨rfl, took⟩
  · obtain ⟨t, call, took⟩ := send_error fits
    rw [call, if_neg fits]
    exact ⟨rfl, took⟩

theorem mapError_eq_ok {flush : Except SystemFault Unit} :
    flush.mapError Error.io = .ok () ↔ flush = .ok () := by
  cases flush with
  | ok sent => exact iff_of_true rfl rfl
  | error fault => exact iff_of_false nofun nofun

/-- Sending a frame is one write of all of it and then a flush. A sink takes what it has room for:
the whole frame if it has no limit, and otherwise a beginning of it that reaches up to the limit. The
frame is sent if and only if all of it is taken and the flush succeeds, and without room the answer
is why the sink takes no more. So it is at every moment: each write call hands over what comes next
in the frame, and no byte that was taken before. In what turns the sink takes the bytes, and how often
it interrupts, makes no difference to the answer and to what is written. -/
theorem send_beginning (payload : Bytes) (s : Sink) :
    let frame := encode payload
    let answer := (send payload s).1
    let t := (send payload s).2
    (s.Takes frame t ∧
      answer = if s.Fits frame then s.flush.mapError .io else .error (.io s.refusal)) ∧
    (answer = .ok () ↔ t.written = s.written ++ frame ∧ s.flush = .ok ()) ∧
    (s.limit = none → t.written = s.written ++ frame ∧ (s.flush = .ok () → answer = .ok ())) ∧
    (∀ total refusal, s.limit = some (total, refusal) →
      t.written = s.written ++ frame.take (total - s.written.length)) ∧
    (t.written = (s.writeAll frame).2.written ∧
      answer = ((s.writeAll frame).1.bind fun () => s.flush).mapError .io) ∧
    (∃ calls, t = s.after calls ∧ s.HandsOver frame calls) ∧
    ∀ turns, (send payload { s with turns }).1 = answer ∧
      (send payload { s with turns }).2.written = t.written := by
  intro frame answer t
  have sent : answer = _ ∧ s.Takes frame t := send_eq payload s
  obtain ⟨answered, took⟩ := sent
  have succeeded : answer = .ok () ↔ t.written = s.written ++ frame ∧ s.flush = .ok () := by
    rw [took.written_eq_iff, answered]
    split
    · rename_i fits
      rw [mapError_eq_ok]
      exact (and_iff_right fits).symm
    · rename_i full
      exact iff_of_false nofun fun whole => full whole.1
  refine ⟨⟨took, answered⟩, succeeded, fun unlimited => ?_, fun total refusal limit => ?_, ?_,
    send_handsOver payload s, fun turns => ?_⟩
  · have whole := took.written_of_fits (Sink.fits_unlimited unlimited frame)
    exact ⟨whole, fun flushed => succeeded.mpr ⟨whole, flushed⟩⟩
  · exact took.written_limit limit
  · obtain ⟨took', answered'⟩ := s.writeAll_takes frame
    refine ⟨took.written.trans took'.written.symm, ?_⟩
    rw [answered, answered']
    split <;> rfl
  · obtain ⟨answered', took'⟩ := send_eq payload { s with turns }
    exact ⟨answered'.trans answered.symm, took'.written.trans took.written.symm⟩

/-- A sink whose only fault is that it interrupts gets the whole frame, and it is sent. -/
theorem send_beginning_interrupted :
    let s : Sink := { turns := [.interrupted, .upTo 0, .interrupted, .interrupted, .upTo 0] }
    s.limit = none ∧ s.flush = .ok () ∧ (send [104, 105] s).1 = .ok () ∧
      (send [104, 105] s).2.written = [50, 10, 104, 105] := by
  intro s
  obtain ⟨-, -, unlimited, -⟩ := send_beginning [104, 105] s
  obtain ⟨whole, sent⟩ := unlimited rfl
  exact ⟨rfl, rfl, sent rfl, whole⟩

end HalBench.Frame
