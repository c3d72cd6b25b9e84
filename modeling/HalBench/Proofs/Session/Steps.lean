import HalBench.Proofs.Frame.Progress
import HalBench.Proofs.Session.Answers
import HalBench.Proofs.Trace.Iteration

/-! Reading ends. A step of a session, like each other reading of a frame, takes two bytes of its
input at least unless it is the last one. -/

namespace HalBench.Session

variable {δ ω : Type} [Driver.Model δ ω] [Host δ ω]

inductive Steps : Nat → Running δ ω → Ending → Running δ ω → Prop
  | last {s t : Running δ ω} {ending : Ending} (call : step s = (some ending, t)) :
      Steps 1 s ending t
  | next {s t u : Running δ ω} {ending : Ending} {n : Nat} (call : step s = (none, t))
      (further : Steps n t ending u) : Steps (n + 1) s ending u

theorem step_shrinks {s t : Running δ ω} (h : step s = (none, t)) :
    t.input.remaining.length + 2 ≤ s.input.remaining.length := by
  unfold step at h
  cases received : Frame.receive s.input with
  | mk answer input =>
    rw [received] at h
    cases answer with
    | error e => cases e <;> cases h
    | ok payload =>
      have smaller := Frame.receive_shrinks received
      simp only at h
      split at h
      · cases h
      · obtain ⟨-, rfl⟩ := Prod.mk.inj h
        exact smaller

theorem runLoop_steps {fuel : Nat} {s : Running δ ω} (enough : s.input.remaining.length < fuel) :
    ∃ n ≤ s.input.remaining.length / 2 + 1, Steps n s (runLoop fuel s).1 (runLoop fuel s).2 := by
  -- There is fuel for more steps than the bytes of the input allow.
  induction fuel generalizing s with
  | zero => exact absurd enough (Nat.not_lt_zero _)
  | succ fuel ih =>
    cases call : step s with
    | mk answer t =>
      cases answer with
      | some ending =>
        rw [runLoop_last call]
        exact ⟨1, by omega, .last call⟩
      | none =>
        have smaller := step_shrinks call
        obtain ⟨n, few, further⟩ := ih (s := t) (by omega)
        rw [runLoop_next call]
        exact ⟨n + 1, by omega, .next call further⟩

/-- However some bytes arrive, and whether or not a fault ends them: an iteration over them as a trace
yields records for half of the bytes at most, then perhaps one error, and then nothing. The frames
that are received one after another are half as many as the bytes at most, and then there is an
error; their headers and payloads are the bytes that were taken. A session that reads these bytes
ends after half as many steps and one more. -/
theorem reading_ends (source : Source) :
    let n := source.remaining.length
    (∃ (records : List Trace.Record) (ending : Option Trace.Error), records.length ≤ n / 2 ∧
      ∀ k, Trace.Iteration.answers k ⟨⟨source, 0⟩, false⟩ =
        (Trace.yields records ending).take k ++
          List.replicate (k - (Trace.yields records ending).length) none) ∧
    (∃ payloads headers : List Bytes,
      let left := Frame.skip payloads.length source
      payloads.length ≤ n / 2 ∧
      (∀ k payload, payloads[k]? = some payload →
        (Frame.receive (Frame.skip k source)).1 = .ok payload) ∧
      (∃ e, (Frame.receive left).1 = .error e) ∧
      List.Forall₂ Frame.Heads payloads headers ∧
      source.remaining = Frame.framed headers payloads ++ left.remaining ∧
      headers.flatten.length + payloads.flatten.length = n - left.remaining.length) ∧
    ∀ (output : Sink) (state : State δ) (world : ω),
      let session : Running δ ω := ⟨source, output, state, world⟩
      ∃ m ≤ n / 2 + 1, Steps m session (run session).1 (run session).2 := by
  intro n
  refine ⟨?_, ?_, fun output state world => ?_⟩
  · let reader : Trace.Reader := ⟨source, 0⟩
    have few : 2 * reader.records.1.length ≤ n := reader.length_records
    exact ⟨reader.records.1, reader.records.2, by omega, Trace.Iteration.answers_eq reader⟩
  · obtain ⟨failed, headers, heads, bytes⟩ := Frame.payloads_framed source
    obtain ⟨sum, long⟩ := Frame.length_framed heads
    have total := congrArg List.length bytes
    rw [List.length_append] at total
    exact ⟨Frame.payloads source, headers, by omega, fun k payload => Frame.receive_payloads,
      failed, heads, bytes, by omega⟩
  · exact runLoop_steps (s := ⟨source, output, state, world⟩) (Nat.lt_succ_self _)

end HalBench.Session
