import HalBench.Proofs.Frame.RoundTrip

/-! One frame and nothing else, in any of the ways of writing it that are read. Receiving it gives
the payload and leaves nothing behind. -/

namespace HalBench.Frame

variable {payload b : Bytes}

/-- Bytes that are one frame with a payload: leading zeros and both terminators are allowed. -/
inductive Whole (payload : Bytes) : Bytes → Prop
  | intro {written : Bytes} {terminator : UInt8} (short : written.length ≤ maxHeader)
      (denotes : lengthOf? written = .ok payload.length)
      (stop : isTerminator terminator = true) (room : Allocatable payload) :
      Whole payload (written ++ terminator :: payload)

/-- Receiving one frame from these bytes leaves none of them. -/
def Spent (b : Bytes) : Prop := (receive (.ofBytes b)).2.remaining = []

theorem whole_encode (room : Allocatable payload) : Whole payload (encode payload) :=
  .intro (length_header room) (lengthOf?_header room) rfl room

theorem Whole.parse_append {ending : Option SystemFault} (h : Whole payload b) (rest : Bytes) :
    parse ending (b ++ rest) = (.ok payload, rest) := by
  cases h with
  | intro short denotes stop room =>
    rw [List.append_assoc, List.cons_append, parse_denoted short denotes stop,
      parsePayload_append room]

theorem Whole.parse_eq {ending : Option SystemFault} (h : Whole payload b) :
    parse ending b = (.ok payload, []) := by
  rw [← List.append_nil b, h.parse_append]

/-- A payload is parsed exactly where the bytes begin with one frame that holds it. -/
theorem parse_ok_iff {ending : Option SystemFault} {rest : Bytes} :
    parse ending b = (.ok payload, rest) ↔ ∃ frame, Whole payload frame ∧ b = frame ++ rest := by
  constructor
  · intro parsed
    obtain ⟨written, terminator, rfl, stop, short, denotes, room⟩ := parse_ok parsed
    refine ⟨written ++ terminator :: payload, .intro short denotes stop (reserve_ok_iff.mp room), ?_⟩
    rw [List.append_assoc, List.cons_append]
  · rintro ⟨frame, whole, rfl⟩
    exact whole.parse_append rest

theorem receive_ok {s t : Source} (received : receive s = (.ok payload, t)) :
    ∃ frame, Whole payload frame ∧ s.remaining = frame ++ t.remaining := by
  obtain ⟨answer, remaining, -⟩ := receive_eq s
  rw [received] at answer remaining
  exact parse_ok_iff.mp (Prod.ext answer.symm remaining.symm)

theorem receive_ofBytes (b : Bytes) : Leaves (.ofBytes b) (receive (.ofBytes b)) (parse none b) := by
  have received := receive_eq (.ofBytes b)
  rw [Source.remaining_ofBytes] at received
  exact received

theorem Whole.received (h : Whole payload b) : (receive (.ofBytes b)).1 = .ok payload := by
  rw [(receive_ofBytes b).answer, h.parse_eq]

theorem Whole.spent (h : Whole payload b) : Spent b := by
  unfold Spent
  rw [(receive_ofBytes b).remaining, h.parse_eq]

end HalBench.Frame
