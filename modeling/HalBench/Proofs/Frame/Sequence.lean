import HalBench.Proofs.Frame.RoundTrip

/-! Frames that stand one after another are received one after another, and none of them takes a
byte of the next one. -/

namespace HalBench.Frame

variable {payloads : List Bytes} {rest : Bytes} {s : Source}

def encodeAll (payloads : List Bytes) : Bytes := payloads.flatMap encode

theorem encodeAll_cons (payload : Bytes) (more : List Bytes) :
    encodeAll (payload :: more) = encode payload ++ encodeAll more := List.flatMap_cons

theorem encodeAll_take_drop (k : Nat) (payloads : List Bytes) :
    encodeAll (payloads.take k) ++ encodeAll (payloads.drop k) = encodeAll payloads := by
  rw [encodeAll, encodeAll, encodeAll, ← List.flatMap_append, List.take_append_drop]

/-- After some frames, what is left are the other frames and what comes after them. -/
theorem skip_encodeAll (allocatable : ∀ p ∈ payloads, Allocatable p)
    (bytes : s.remaining = encodeAll payloads ++ rest) {k : Nat} (h : k ≤ payloads.length) :
    (skip k s).remaining = encodeAll (payloads.drop k) ++ rest := by
  induction k generalizing payloads s with
  | zero => exact bytes
  | succ k ih =>
    cases payloads with
    | nil => cases h
    | cons p more =>
      rw [encodeAll_cons, List.append_assoc] at bytes
      obtain ⟨t, received, left, _⟩ := receive_encode (allocatable p List.mem_cons_self) bytes
      rw [skip_succ received, List.drop_succ_cons]
      exact ih (fun q hq => allocatable q (List.mem_cons_of_mem p hq)) left
        (Nat.le_of_succ_le_succ h)

theorem receive_skip (allocatable : ∀ p ∈ payloads, Allocatable p)
    (bytes : s.remaining = encodeAll payloads ++ rest) {k : Nat} {payload : Bytes}
    (h : payloads[k]? = some payload) : (receive (skip k s)).1 = .ok payload := by
  obtain ⟨inside, rfl⟩ := List.getElem?_eq_some_iff.mp h
  have left := skip_encodeAll allocatable bytes (Nat.le_of_lt inside)
  rw [List.drop_eq_getElem_cons inside, encodeAll_cons, List.append_assoc] at left
  obtain ⟨t, received, _⟩ := receive_encode (allocatable _ (List.getElem_mem inside)) left
  rw [received]

/-- Frames are received as the payloads that they were made of, in order, however the bytes
arrive: in whatever pieces and with whatever interruptions between them. When `k` frames have been
received, the bytes taken are those of the first `k` frames and no others. Where nothing follows
the frames, the clean end comes next. -/
theorem receive_encodeAll (allocatable : ∀ p ∈ payloads, Allocatable p)
    (bytes : s.remaining = encodeAll payloads ++ rest) :
    (∀ k payload, payloads[k]? = some payload → (receive (skip k s)).1 = .ok payload) ∧
    (∀ k ≤ payloads.length,
      s.remaining = encodeAll (payloads.take k) ++ (skip k s).remaining) ∧
    (rest = [] → s.fault = none →
      (receive (skip payloads.length s)).1 = .error .peerClosed) := by
  refine ⟨fun k payload h => receive_skip allocatable bytes h, fun k h => ?_, ?_⟩
  · rw [skip_encodeAll allocatable bytes h, ← List.append_assoc, encodeAll_take_drop, bytes]
  · intro nothing clean
    have left := skip_encodeAll allocatable bytes (Nat.le_refl _)
    rw [List.drop_length, nothing] at left
    exact receive_peerClosed.mpr ⟨left, (skip_fault _ s).trans clean⟩

/-- An empty payload and one that looks like a frame, byte by byte and with interruptions. -/
theorem receive_encodeAll_interrupted :
    let payloads : List Bytes := [[], [49, 10, 50]]
    let s : Source :=
      ⟨[.interrupted, .stretch 48 [], .stretch 10 [51], .interrupted, .interrupted,
        .stretch 10 [49], .stretch 10 [50]], none⟩
    (∀ p ∈ payloads, Allocatable p) ∧ s.remaining = encodeAll payloads ++ [] ∧
      (receive s).1 = .ok [] ∧ (receive (skip 1 s)).1 = .ok [49, 10, 50] ∧
      s.remaining = encode [] ++ (skip 1 s).remaining ∧
      (receive (skip 2 s)).1 = .error .peerClosed := by
  intro payloads s
  have allocatable : ∀ p ∈ payloads, Allocatable p := by
    unfold Allocatable
    decide
  have bytes : s.remaining = encodeAll payloads ++ [] := by decide
  obtain ⟨received, taken, closed⟩ := receive_encodeAll allocatable bytes
  exact ⟨allocatable, bytes, received 0 [] rfl, received 1 _ rfl, taken 1 (by decide),
    closed rfl rfl⟩

end HalBench.Frame
