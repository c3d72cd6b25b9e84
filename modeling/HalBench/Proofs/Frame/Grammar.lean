import HalBench.Proofs.Frame.RoundTrip
import Mathlib.Data.List.Induction
import Mathlib.Data.Nat.Digits.Defs

/-! What is received from any string of bytes. The cases are told apart by the place of the first
terminator, by what stands before it and by how many bytes follow it; each of them fixes the answer
and how many bytes are taken, and every string is in one of them. -/

namespace HalBench.Frame

/-- The first newline or carriage return of some bytes stands at a place. -/
structure EndsAt (b : Bytes) (t : Nat) : Prop where
  stop : b[t]? = some 10 ∨ b[t]? = some 13
  first : ∀ i < t, b[i]? ≠ some 10 ∧ b[i]? ≠ some 13

def Digit (c : UInt8) : Prop := 48 ≤ c.toNat ∧ c.toNat ≤ 57

/-- The number that decimal digits denote, leading zeros included. -/
def decimal (header : Bytes) : Nat :=
  Nat.ofDigits 10 (header.reverse.map fun c => c.toNat - 48)

/-- A header that is no length: it is empty, a byte of it is no digit, or its number does not fit
a word of 64 bits. -/
def Malformed (header : Bytes) : Prop :=
  header = [] ∨ (∃ c ∈ header, ¬ Digit c) ∨ 2 ^ 64 - 1 < decimal header

/-- The first bytes up to a place are a header, and it denotes a length. -/
structure Announces (b : Bytes) (t n : Nat) : Prop where
  near : t ≤ 128
  ends : EndsAt b t
  good : ¬ Malformed (b.take t)
  value : decimal (b.take t) = n

/-- What is received from some bytes that end cleanly, and how many of them are taken. -/
inductive Receives (b : Bytes) : Except Error Bytes → Nat → Prop where
  | closed (empty : b = []) : Receives b (.error .peerClosed) 0
  | overflow (endless : ∀ t ≤ 128, ¬ EndsAt b t) (long : 129 ≤ b.length) :
      Receives b (.error (.headerOverflow 128)) 129
  | cut (some_ : b ≠ []) (endless : ∀ t ≤ 128, ¬ EndsAt b t) (short : b.length < 129) :
      Receives b (.error (.truncated (b.length + 1) b.length)) b.length
  | malformed {t : Nat} (near : t ≤ 128) (ends : EndsAt b t) (bad : Malformed (b.take t)) :
      Receives b (.error (.invalidLength (Utf8.decodeLossy (b.take t)))) (t + 1)
  | refused {t n : Nat} {e : Error} (header : Announces b t n) (room : reserve n = .error e) :
      Receives b (.error e) (t + 1)
  | short {t n : Nat} (header : Announces b t n) (room : reserve n = .ok ())
      (few : (b.drop (t + 1)).length < n) :
      Receives b (.error (.truncated n (b.drop (t + 1)).length)) b.length
  | whole {t n : Nat} (header : Announces b t n) (room : reserve n = .ok ())
      (enough : n ≤ (b.drop (t + 1)).length) :
      Receives b (.ok ((b.drop (t + 1)).take n)) (t + 1 + n)

section Headers
variable {b header : Bytes} {t n : Nat}

theorem isTerminator_iff {c : UInt8} : isTerminator c = true ↔ c = 10 ∨ c = 13 := by
  simp [isTerminator]

theorem isDigit_iff {c : UInt8} : isDigit c = true ↔ Digit c := by
  simp [isDigit, Digit, UInt8.le_iff_toNat_le]

theorem number_append (header : Bytes) (c : UInt8) :
    number (header ++ [c]) = 10 * number header + (c.toNat - 48) := by
  simp [number]

theorem number_eq_decimal (header : Bytes) : number header = decimal header := by
  -- The digits are read from the left and count from the right, so the last one comes off first.
  induction header using List.reverseRecOn with
  | nil => rfl
  | append_singleton header c ih =>
    rw [number_append, ih]
    simp only [decimal, List.reverse_append, List.reverse_singleton, List.singleton_append,
      List.map_cons, Nat.ofDigits_cons]
    omega

theorem not_malformed_iff : ¬ Malformed header ↔
    header ≠ [] ∧ header.all isDigit = true ∧ number header < wordLimit := by
  have fits : ¬ 2 ^ 64 - 1 < decimal header ↔ number header < wordLimit := by
    rw [number_eq_decimal, wordLimit]
    omega
  have digits : (¬ ∃ c ∈ header, ¬ Digit c) ↔ header.all isDigit = true := by
    simp [List.all_eq_true, isDigit_iff]
  rw [Malformed, not_or, not_or, digits, fits]

theorem lengthOf?_malformed (bad : Malformed header) :
    lengthOf? header = .error (.invalidLength (Utf8.decodeLossy header)) := by
  rw [lengthOf?, if_neg]
  exact fun good => not_malformed_iff.mpr good bad

theorem lengthOf?_decimal (good : ¬ Malformed header) : lengthOf? header = .ok (decimal header) := by
  rw [lengthOf?, if_pos (not_malformed_iff.mp good), number_eq_decimal]

theorem not_isTerminator_of_mem_untilTerminator {c : UInt8} (h : c ∈ untilTerminator b) :
    isTerminator c = false := by
  have plain := List.all_eq_true.mp (List.all_takeWhile (l := b)) c h
  simpa using plain

theorem EndsAt.split (h : EndsAt b t) :
    ∃ c, b = b.take t ++ c :: b.drop (t + 1) ∧ isTerminator c = true ∧
      ∀ x ∈ b.take t, isTerminator x = false := by
  obtain ⟨c, at_, stop⟩ : ∃ c, b[t]? = some c ∧ isTerminator c = true := by
    rcases h.stop with at_ | at_
    · exact ⟨10, at_, rfl⟩
    · exact ⟨13, at_, rfl⟩
  obtain ⟨inside, same⟩ := List.getElem?_eq_some_iff.mp at_
  refine ⟨c, ?_, stop, ?_⟩
  · rw [← same, ← List.drop_eq_getElem_cons inside, List.take_append_drop]
  · intro x hx
    obtain ⟨i, hi, rfl⟩ := List.mem_take_iff_getElem.mp hx
    obtain ⟨newline, carriage⟩ := h.first i (by omega)
    rw [List.getElem?_eq_getElem (by omega)] at newline carriage
    rw [Bool.eq_false_iff, ne_eq, isTerminator_iff]
    rintro (eq | eq)
    · exact newline (congrArg some eq)
    · exact carriage (congrArg some eq)

theorem endsAt_untilTerminator (h : (untilTerminator b).length ≠ b.length) :
    EndsAt b (untilTerminator b).length := by
  obtain ⟨c, r, split, stop⟩ := eq_untilTerminator_append h
  have plain : ∀ x ∈ untilTerminator b, isTerminator x = false := fun x =>
    not_isTerminator_of_mem_untilTerminator
  generalize untilTerminator b = header at split plain ⊢
  subst split
  constructor
  · rw [List.getElem?_append_right (Nat.le_refl _), Nat.sub_self]
    rcases isTerminator_iff.mp stop with rfl | rfl
    · exact .inl rfl
    · exact .inr rfl
  · intro i hi
    rw [List.getElem?_append_left hi, List.getElem?_eq_getElem hi]
    have other := plain _ (List.getElem_mem hi)
    constructor
    · intro eq
      rw [Option.some.inj eq] at other
      cases other
    · intro eq
      rw [Option.some.inj eq] at other
      cases other

/-- Where no header ends within reach, there is no terminator in the first 129 bytes. -/
theorem length_untilTerminator (endless : ∀ t ≤ 128, ¬ EndsAt b t) :
    128 < (untilTerminator b).length ∨ (untilTerminator b).length = b.length := by
  by_cases same : (untilTerminator b).length = b.length
  · exact .inr same
  · left
    by_contra near
    exact endless _ (Nat.le_of_not_lt near) (endsAt_untilTerminator same)

end Headers

section Parsing
variable {b : Bytes} {t n : Nat}

theorem parse_overflow (endless : ∀ t ≤ 128, ¬ EndsAt b t) (long : 129 ≤ b.length) :
    parse none b = (.error (.headerOverflow 128), b.drop 129) := by
  have far : maxHeader < (untilTerminator b).length := by
    have either := length_untilTerminator endless
    unfold maxHeader
    omega
  simp only [parse, parseHeader, far, if_true]
  rfl

theorem parse_cut (some_ : b ≠ []) (endless : ∀ t ≤ 128, ¬ EndsAt b t) (short : b.length < 129) :
    parse none b = (.error (.truncated (b.length + 1) b.length), []) := by
  have within : (untilTerminator b).length ≤ b.length := (List.takeWhile_sublist _).length_le
  have length : (untilTerminator b).length = b.length := by
    have either := length_untilTerminator endless
    omega
  have all : untilTerminator b = b := (List.takeWhile_sublist _).eq_of_length length
  have near : ¬ maxHeader < b.length := by
    unfold maxHeader
    omega
  simp only [parse, parseHeader, all, near, if_false, if_true, List.nil_append, some_, endError]

theorem parse_ends (near : t ≤ 128) (ends : EndsAt b t) :
    parse none b = match lengthOf? (b.take t) with
      | .error e => (.error e, b.drop (t + 1))
      | .ok n => parsePayload none n (b.drop (t + 1)) := by
  obtain ⟨c, split, stop, plain⟩ := ends.split
  have short : (b.take t).length ≤ maxHeader := Nat.le_trans (List.length_take_le t b) near
  conv_lhs => rw [split]
  refine (parse_written short plain stop _).trans ?_
  cases lengthOf? (b.take t) with
  | error e => rfl
  | ok n => rfl

theorem parse_malformed (near : t ≤ 128) (ends : EndsAt b t) (bad : Malformed (b.take t)) :
    parse none b =
      (.error (.invalidLength (Utf8.decodeLossy (b.take t))), b.drop (t + 1)) := by
  rw [parse_ends near ends, lengthOf?_malformed bad]

theorem Announces.parse_eq (h : Announces b t n) :
    parse none b = parsePayload none n (b.drop (t + 1)) := by
  rw [parse_ends h.near h.ends, lengthOf?_decimal h.good, h.value]

theorem EndsAt.lt_length (h : EndsAt b t) : t < b.length := by
  rcases h.stop with at_ | at_
  · exact (List.getElem?_eq_some_iff.mp at_).1
  · exact (List.getElem?_eq_some_iff.mp at_).1

theorem Receives.parse_eq {answer : Except Error Bytes} (h : Receives b answer n) :
    parse none b = (answer, b.drop n) ∧ n ≤ b.length := by
  cases h with
  | closed empty =>
    subst empty
    exact ⟨by rw [parse, parseHeader_nil]; rfl, Nat.le_refl _⟩
  | overflow endless long => exact ⟨parse_overflow endless long, long⟩
  | cut some_ endless short =>
    rw [List.drop_length]
    exact ⟨parse_cut some_ endless short, Nat.le_refl _⟩
  | malformed near ends bad => exact ⟨parse_malformed near ends bad, ends.lt_length⟩
  | refused header room =>
    refine ⟨?_, header.ends.lt_length⟩
    rw [header.parse_eq, parsePayload, room]
  | short header room few =>
    refine ⟨?_, Nat.le_refl _⟩
    rw [header.parse_eq, parsePayload, room, List.drop_length]
    simp only [Nat.not_le.mpr few, if_false, endError]
  | whole header room enough =>
    constructor
    · rw [header.parse_eq, parsePayload, room]
      simp only [enough, if_true, List.drop_drop]
    · have inside := header.ends.lt_length
      rw [List.length_drop] at enough
      omega

theorem exists_receives (b : Bytes) : ∃ answer n, Receives b answer n := by
  by_cases empty : b = []
  · exact ⟨_, _, .closed empty⟩
  by_cases ended : ∃ t ≤ 128, EndsAt b t
  · obtain ⟨t, near, ends⟩ := ended
    by_cases bad : Malformed (b.take t)
    · exact ⟨_, _, .malformed near ends bad⟩
    have header : Announces b t (decimal (b.take t)) := ⟨near, ends, bad, rfl⟩
    cases room : reserve (decimal (b.take t)) with
    | error e => exact ⟨_, _, .refused header room⟩
    | ok _ =>
      rcases Nat.lt_or_ge (b.drop (t + 1)).length (decimal (b.take t)) with few | enough
      · exact ⟨_, _, .short header room few⟩
      · exact ⟨_, _, .whole header room enough⟩
  · have endless : ∀ t ≤ 128, ¬ EndsAt b t := fun t near ends => ended ⟨t, near, ends⟩
    rcases Nat.lt_or_ge b.length 129 with short | long
    · exact ⟨_, _, .cut empty endless short⟩
    · exact ⟨_, _, .overflow endless long⟩

end Parsing

section Zeros
variable {payload : Bytes}

theorem number_zeros (zeros : Nat) (header : Bytes) :
    number (List.replicate zeros 48 ++ header) = number header := by
  induction zeros with
  | zero => rfl
  | succ zeros ih => exact ih

theorem lengthOf?_zeros (zeros : Nat) (h : Allocatable payload) :
    lengthOf? (List.replicate zeros 48 ++ header payload) = .ok payload.length := by
  have plain := lengthOf?_header h
  have digits : (List.replicate zeros (48 : UInt8) ++ header payload).all isDigit = true := by
    rw [List.all_append, all_isDigit_header, Bool.and_true, List.all_eq_true]
    intro c hc
    rw [List.eq_of_mem_replicate hc]
    rfl
  have some_ : List.replicate zeros (48 : UInt8) ++ header payload ≠ [] :=
    List.append_ne_nil_of_right_ne_nil _ (Digits.ofNat_ne_nil _)
  have value : number (List.replicate zeros 48 ++ header payload) = payload.length :=
    (number_zeros zeros _).trans (lengthOf?_ok plain).2.2
  have fits : payload.length < wordLimit := Nat.lt_trans h (by decide)
  rw [lengthOf?, if_pos ⟨some_, digits, value ▸ fits⟩, value]

theorem parse_zeros {terminator : UInt8} (stop : terminator = 10 ∨ terminator = 13) {zeros : Nat}
    (h : Allocatable payload) (short : zeros + (header payload).length ≤ 128) (rest : Bytes) :
    parse none (List.replicate zeros 48 ++ header payload ++ terminator :: (payload ++ rest)) =
      (.ok payload, rest) := by
  have length : (List.replicate zeros (48 : UInt8) ++ header payload).length ≤ maxHeader := by
    rw [List.length_append, List.length_replicate]
    exact short
  rw [parse_denoted length (lengthOf?_zeros zeros h) (isTerminator_iff.mpr stop),
    parsePayload_append h]

end Zeros

variable {s : Source}

/-- What is received from bytes that end cleanly, in whatever pieces they arrive: every string of
bytes is in one of the cases, and the case says what is answered and how many bytes are taken. A
payload is received only where a header announces its length, and the header may have as many
leading zeros as there is room for. -/
theorem receive_classified (clean : s.fault = none) :
    (∃ n ≤ s.remaining.length, Receives s.remaining (receive s).1 n ∧
      (receive s).2.remaining = s.remaining.drop n) ∧
    (∀ answer n, Receives s.remaining answer n → (receive s).1 = answer ∧
      n ≤ s.remaining.length ∧ (receive s).2.remaining = s.remaining.drop n) ∧
    (∀ payload, (receive s).1 = .ok payload → ∃ t n, Announces s.remaining t n ∧
      n ≤ (s.remaining.drop (t + 1)).length ∧ payload = (s.remaining.drop (t + 1)).take n) ∧
    (∀ zeros payload terminator rest, Allocatable payload →
      zeros + (header payload).length ≤ 128 → terminator = 10 ∨ terminator = 13 →
      s.remaining =
        List.replicate zeros 48 ++ header payload ++ terminator :: (payload ++ rest) →
      (receive s).1 = .ok payload ∧ (receive s).2.remaining = rest) := by
  have received := receive_eq s
  rw [clean] at received
  have cases_ : ∀ answer n, Receives s.remaining answer n → (receive s).1 = answer ∧
      n ≤ s.remaining.length ∧ (receive s).2.remaining = s.remaining.drop n := by
    intro answer n h
    obtain ⟨parsed, within⟩ := h.parse_eq
    rw [parsed] at received
    exact ⟨received.answer, within, received.remaining⟩
  have whole : ∃ n ≤ s.remaining.length, Receives s.remaining (receive s).1 n ∧
      (receive s).2.remaining = s.remaining.drop n := by
    obtain ⟨answer, n, h⟩ := exists_receives s.remaining
    obtain ⟨rfl, within, left⟩ := cases_ answer n h
    exact ⟨n, within, h, left⟩
  refine ⟨whole, cases_, ?_, ?_⟩
  · intro payload ok
    obtain ⟨n, -, h, -⟩ := whole
    rw [ok] at h
    cases h with
    | whole header room enough => exact ⟨_, _, header, enough, rfl⟩
  · intro zeros payload terminator rest h short stop bytes
    rw [bytes, parse_zeros stop h short] at received
    exact ⟨received.answer, received.remaining⟩

/-- A header of 128 bytes, most of them zeros, that ends with a carriage return. -/
theorem receive_classified_zeros :
    let s : Source :=
      ⟨[.interrupted, .stretch 48 (List.replicate 126 48), .stretch 51 [13, 120], .interrupted,
        .stretch 121 [122, 33]], none⟩
    s.fault = none ∧ (receive s).1 = .ok [120, 121, 122] ∧ (receive s).2.remaining = [33] := by
  intro s
  have clean : s.fault = none := rfl
  obtain ⟨-, -, -, zeros⟩ := receive_classified clean
  exact ⟨clean, zeros 127 [120, 121, 122] 13 [33] (by decide) (by decide) (.inr rfl) rfl⟩

end HalBench.Frame
