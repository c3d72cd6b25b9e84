import HalBench.Proofs.Frame.Payloads

/-! A frame is received as the payload that it was made of, whatever follows it. Of a frame that
is cut short nothing is received: the digits of a length are no header without their terminator. -/

namespace HalBench.Frame

variable {payload : Bytes} {ending : Option SystemFault}

/-- A payload for which a buffer can be had. -/
def Allocatable (payload : Bytes) : Prop := payload.length < addressSpace

instance (payload : Bytes) : Decidable (Allocatable payload) :=
  inferInstanceAs (Decidable (payload.length < addressSpace))

theorem isTerminator_digit {b : UInt8} (h : isDigit b = true) : isTerminator b = false := by
  simp only [isDigit, Bool.and_eq_true, decide_eq_true_eq, UInt8.le_iff_toNat_le,
    UInt8.reduceToNat] at h
  simp only [isTerminator, Bool.or_eq_false_iff, beq_eq_false_iff_ne, ne_eq, ← UInt8.toNat_inj,
    UInt8.reduceToNat]
  omega

theorem all_isDigit_header (payload : Bytes) : (header payload).all isDigit = true := by
  rw [List.all_eq_true]
  intro b hb
  have bounds := Digits.bounds_of_mem hb
  simpa [isDigit, UInt8.le_iff_toNat_le] using bounds

theorem length_header (h : Allocatable payload) : (header payload).length ≤ maxHeader := by
  have few : (header payload).length ≤ 15 :=
    Digits.length_ofNat_le (by decide) (Nat.lt_trans h (by decide))
  exact Nat.le_trans few (by decide)

theorem lengthOf?_header (h : Allocatable payload) :
    lengthOf? (header payload) = .ok payload.length := by
  have value : number (header payload) = payload.length := Digits.value_ofNat _
  have bound : number (header payload) < wordLimit :=
    value ▸ Nat.lt_trans h (by decide : addressSpace < wordLimit)
  rw [lengthOf?, if_pos ⟨Digits.ofNat_ne_nil _, all_isDigit_header payload, bound⟩, value]

theorem reserve_ok_iff : reserve payload.length = .ok () ↔ Allocatable payload := by
  unfold Allocatable reserve
  by_cases few : payload.length < addressSpace
  · have within : ¬ maxCapacity < payload.length := by
      unfold addressSpace at few
      unfold maxCapacity
      omega
    simp [few, within]
  · simp only [few, iff_false, Nat.le_of_not_lt few, if_true]
    split <;> exact nofun

theorem reserve_ok (h : Allocatable payload) : reserve payload.length = .ok () :=
  reserve_ok_iff.mpr h

/-- What stands behind a header is read as far as the header says, and not at all if it does not
say a length. -/
theorem parse_written {written : Bytes} {terminator : UInt8} (short : written.length ≤ maxHeader)
    (plain : ∀ b ∈ written, isTerminator b = false) (stop : isTerminator terminator = true)
    (r : Bytes) :
    parse ending (written ++ terminator :: r) =
      match lengthOf? written with
      | .error e => (.error e, r)
      | .ok n => parsePayload ending n r := by
  have until_ : untilTerminator (written ++ terminator :: r) = written := by
    rw [untilTerminator_append plain, untilTerminator_cons stop, List.append_nil]
  have found : parseHeader ending maxHeader [] (written ++ terminator :: r) = (.ok written, r) := by
    simp only [parseHeader, until_]
    rw [if_neg (Nat.not_lt.mpr short), if_neg (by simp), ← List.drop_drop, List.drop_left]
    rfl
  cases denotes : lengthOf? written with
  | error e => simp only [parse, found, denotes]
  | ok n => simp only [parse, found, denotes]

theorem parse_denoted {written : Bytes} {terminator : UInt8} {n : Nat}
    (short : written.length ≤ maxHeader) (denotes : lengthOf? written = .ok n)
    (stop : isTerminator terminator = true) (r : Bytes) :
    parse ending (written ++ terminator :: r) = parsePayload ending n r := by
  have digits := List.all_eq_true.mp (lengthOf?_ok denotes).2.1
  rw [parse_written short (fun b hb => isTerminator_digit (digits b hb)) stop, denotes]

theorem parse_header (h : Allocatable payload) (r : Bytes) :
    parse ending (header payload ++ 10 :: r) = parsePayload ending payload.length r :=
  parse_denoted (length_header h) (lengthOf?_header h) rfl r

theorem parsePayload_append (h : Allocatable payload) (rest : Bytes) :
    parsePayload ending payload.length (payload ++ rest) = (.ok payload, rest) := by
  rw [parsePayload, reserve_ok h]
  simp

theorem parse_encode (h : Allocatable payload) (rest : Bytes) :
    parse ending (encode payload ++ rest) = (.ok payload, rest) := by
  rw [encode, List.append_assoc, List.cons_append, parse_header h, parsePayload_append h]

theorem length_encode (payload : Bytes) :
    (encode payload).length = (header payload).length + 1 + payload.length := by
  rw [encode, List.length_append, List.length_cons]
  omega

theorem parse_take_header (h : Allocatable payload) {n : Nat} (pos : 0 < n)
    (short : n ≤ (header payload).length) :
    parse none ((header payload).take n) = (.error (.truncated (n + 1) n), []) := by
  have plain : ∀ b ∈ (header payload).take n, isTerminator b = false := by
    intro b hb
    have digits := List.all_eq_true.mp (all_isDigit_header payload)
    exact isTerminator_digit (digits b (List.mem_of_mem_take hb))
  have length : ((header payload).take n).length = n := List.length_take_of_le short
  have until_ : untilTerminator ((header payload).take n) = (header payload).take n := by
    simpa [untilTerminator] using untilTerminator_append plain []
  have some_ : (header payload).take n ≠ [] := List.ne_nil_of_length_pos (by omega)
  have room := Nat.le_trans short (length_header h)
  simp only [parse, parseHeader, until_, length, List.nil_append, some_, if_false, if_true]
  rw [if_neg (Nat.not_lt.mpr room)]
  rfl

theorem parse_take_encode (h : Allocatable payload) {n : Nat} (pos : 0 < n)
    (short : n < (encode payload).length) :
    ∃ expected got,
      parse none ((encode payload).take n) = (.error (.truncated expected got), []) := by
  -- Within the header there is no terminator; after it the length asks for more than is left.
  by_cases inHeader : n ≤ (header payload).length
  · refine ⟨n + 1, n, ?_⟩
    rw [encode, List.take_append_of_le_length inHeader]
    exact parse_take_header h pos inHeader
  · obtain ⟨m, rfl⟩ := Nat.exists_eq_add_of_lt (Nat.lt_of_not_le inHeader)
    have few : (payload.take m).length < payload.length := by
      rw [length_encode] at short
      rw [List.length_take]
      omega
    refine ⟨payload.length, (payload.take m).length, ?_⟩
    rw [encode, Nat.add_assoc, List.take_length_add_append, List.take_succ_cons, parse_header h,
      parsePayload, reserve_ok h]
    simp only [Nat.not_le.mpr few, if_false]
    rfl

theorem receive_encode (h : Allocatable payload) {s : Source} {rest : Bytes}
    (bytes : s.remaining = encode payload ++ rest) :
    ∃ t, receive s = (.ok payload, t) ∧ t.remaining = rest ∧ t.fault = s.fault :=
  receive_of_parse (bytes ▸ parse_encode h rest)

end HalBench.Frame
