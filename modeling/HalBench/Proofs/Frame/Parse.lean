import HalBench.Frame
import HalBench.Proofs.Number.Digits
import HalBench.Proofs.Stream.Source

/-! Receiving a frame is a matter of the bytes alone: a header up to the first terminator, the
length that it denotes, and as many bytes after it. -/

namespace HalBench.Frame

/-- The error at an early end: the fault that ends the bytes, if one does. -/
def endError (ending : Option SystemFault) (e : Error) : Error :=
  match ending with
  | none => e
  | some f => .io f

def untilTerminator (b : Bytes) : Bytes := b.takeWhile fun c => !isTerminator c

/-- The header at the front of some bytes, with `room` bytes at most after those already read,
and the bytes after it. -/
def parseHeader (ending : Option SystemFault) (room : Nat) (read b : Bytes) :
    Except Error Bytes × Bytes :=
  let header := untilTerminator b
  if room < header.length then (.error (.headerOverflow maxHeader), b.drop (room + 1))
  else if header.length = b.length then
    let all := read ++ header
    (.error (endError ending
      (if all = [] then .peerClosed else .truncated (all.length + 1) all.length)), [])
  else (.ok (read ++ header), b.drop (header.length + 1))

/-- A payload of known length at the front of some bytes, and the bytes after it. -/
def parsePayload (ending : Option SystemFault) (length : Nat) (b : Bytes) :
    Except Error Bytes × Bytes :=
  match reserve length with
  | .error e => (.error e, b)
  | .ok () =>
    if length ≤ b.length then (.ok (b.take length), b.drop length)
    else (.error (endError ending (.truncated length b.length)), [])

/-- The frame at the front of some bytes, and the bytes after it. -/
def parse (ending : Option SystemFault) (b : Bytes) : Except Error Bytes × Bytes :=
  match parseHeader ending maxHeader [] b with
  | (.error e, r) => (.error e, r)
  | (.ok header, r) =>
    match lengthOf? header with
    | .error e => (.error e, r)
    | .ok length => parsePayload ending length r

/-- An answer leaves a source with the bytes that another one leaves over. -/
structure Leaves {α : Type} (s : Source) (r : α × Source) (p : α × Bytes) : Prop where
  answer : r.1 = p.1
  remaining : r.2.remaining = p.2
  fault : r.2.fault = s.fault

section Header
variable (ending : Option SystemFault) (room : Nat) (read : Bytes)

theorem parseHeader_nil : parseHeader ending room read [] =
    (.error (endError ending
      (if read = [] then .peerClosed else .truncated (read.length + 1) read.length)), []) := by
  simp [parseHeader, untilTerminator]

theorem parseHeader_terminator {b : UInt8} (h : isTerminator b = true) (r : Bytes) :
    parseHeader ending room read (b :: r) = (.ok read, r) := by
  simp [parseHeader, untilTerminator, h]

theorem parseHeader_full {b : UInt8} (h : isTerminator b = false) (r : Bytes) :
    parseHeader ending 0 read (b :: r) = (.error (.headerOverflow maxHeader), r) := by
  simp [parseHeader, untilTerminator, h]

theorem parseHeader_succ {b : UInt8} (h : isTerminator b = false) (r : Bytes) :
    parseHeader ending (room + 1) read (b :: r) = parseHeader ending room (read ++ [b]) r := by
  have more : untilTerminator (b :: r) = b :: untilTerminator r := by
    simp [untilTerminator, h]
  simp [parseHeader, more]

end Header

theorem receiveHeader_nil (room : Nat) (read : Bytes) {s : Source} (h : s.remaining = []) :
    Leaves s (receiveHeader room read s) (parseHeader s.fault room read []) := by
  obtain ⟨t, call, remaining, fault⟩ := Source.readByte_nil h
  rw [receiveHeader.eq_def, parseHeader_nil]
  simp only [call]
  cases ending : s.fault with
  | none => exact ⟨rfl, remaining, fault⟩
  | some f => exact ⟨rfl, remaining, fault⟩

theorem receiveHeader_terminator (room : Nat) (read : Bytes) {s : Source} {b : UInt8} {r : Bytes}
    (h : s.remaining = b :: r) (stop : isTerminator b = true) :
    Leaves s (receiveHeader room read s) (parseHeader s.fault room read (b :: r)) := by
  obtain ⟨t, call, remaining, fault⟩ := Source.readByte_cons h
  rw [receiveHeader.eq_def, parseHeader_terminator _ _ _ stop]
  simp only [call, stop, if_true]
  exact ⟨rfl, remaining, fault⟩

theorem receiveHeader_eq (room : Nat) (read : Bytes) (s : Source) :
    Leaves s (receiveHeader room read s) (parseHeader s.fault room read s.remaining) := by
  induction room generalizing read s with
  | zero =>
    cases bytes : s.remaining with
    | nil => exact receiveHeader_nil 0 read bytes
    | cons b r =>
      cases stop : isTerminator b with
      | true => exact receiveHeader_terminator 0 read bytes stop
      | false =>
        obtain ⟨t, call, remaining, fault⟩ := Source.readByte_cons bytes
        rw [receiveHeader.eq_def, parseHeader_full _ _ stop]
        simp only [call, stop]
        exact ⟨rfl, remaining, fault⟩
  | succ room ih =>
    cases bytes : s.remaining with
    | nil => exact receiveHeader_nil (room + 1) read bytes
    | cons b r =>
      cases stop : isTerminator b with
      | true => exact receiveHeader_terminator (room + 1) read bytes stop
      | false =>
        obtain ⟨t, call, remaining, fault⟩ := Source.readByte_cons bytes
        obtain ⟨answer, left, same⟩ := ih (read ++ [b]) t
        rw [remaining, fault] at answer left
        rw [receiveHeader.eq_def, parseHeader_succ _ _ _ stop]
        simp only [call, stop]
        exact ⟨answer, left, same.trans fault⟩

theorem receivePayload_eq (length : Nat) (s : Source) :
    Leaves s (receivePayload length s) (parsePayload s.fault length s.remaining) := by
  unfold receivePayload parsePayload
  cases reserve length with
  | error e => exact ⟨rfl, rfl, rfl⟩
  | ok _ =>
    obtain ⟨t, call, remaining, fault⟩ := Source.readUpTo_eq length s
    simp only [call]
    by_cases enough : length ≤ s.remaining.length
    · simp only [enough, if_true, List.length_take_of_le]
      exact ⟨rfl, remaining, fault⟩
    · have nothing : s.remaining.drop length = [] :=
        List.drop_eq_nil_iff.mpr (Nat.le_of_not_le enough)
      have short : s.remaining.length ≠ length := fun same => enough (Nat.le_of_eq same.symm)
      rw [nothing] at remaining
      simp only [enough, if_false]
      cases s.fault with
      | none =>
        simp only [short, if_false]
        exact ⟨rfl, remaining, fault⟩
      | some f => exact ⟨rfl, remaining, fault⟩

theorem receive_eq (s : Source) : Leaves s (receive s) (parse s.fault s.remaining) := by
  obtain ⟨answer, remaining, fault⟩ := receiveHeader_eq maxHeader [] s
  unfold receive parse
  generalize receiveHeader maxHeader [] s = r at answer remaining fault
  generalize parseHeader s.fault maxHeader [] s.remaining = p at answer remaining
  obtain ⟨header, t⟩ := r
  obtain ⟨header', rest⟩ := p
  subst answer
  cases header with
  | error e => exact ⟨rfl, remaining, fault⟩
  | ok header =>
    simp only
    cases lengthOf? header with
    | error e => exact ⟨rfl, remaining, fault⟩
    | ok length =>
      obtain ⟨answer, left, same⟩ := receivePayload_eq length t
      rw [fault] at answer left same
      simp only at remaining
      rw [remaining] at answer left
      exact ⟨answer, left, same⟩

theorem receive_of_parse {s : Source} {answer : Except Error Bytes} {rest : Bytes}
    (h : parse s.fault s.remaining = (answer, rest)) :
    ∃ t, receive s = (answer, t) ∧ t.remaining = rest ∧ t.fault = s.fault := by
  have parsed := receive_eq s
  rw [h] at parsed
  exact ⟨(receive s).2, Prod.ext parsed.answer rfl, parsed.remaining, parsed.fault⟩

theorem untilTerminator_append {header : Bytes} (plain : ∀ c ∈ header, isTerminator c = false)
    (b : Bytes) : untilTerminator (header ++ b) = header ++ untilTerminator b := by
  unfold untilTerminator
  rw [List.takeWhile_append_of_pos]
  intro c hc
  rw [plain c hc]
  rfl

theorem untilTerminator_cons {terminator : UInt8} (stop : isTerminator terminator = true)
    (b : Bytes) : untilTerminator (terminator :: b) = [] := by
  simp [untilTerminator, stop]

theorem eq_untilTerminator_append {b : Bytes} (h : (untilTerminator b).length ≠ b.length) :
    ∃ terminator r, b = untilTerminator b ++ terminator :: r ∧ isTerminator terminator = true := by
  induction b with
  | nil => simp [untilTerminator] at h
  | cons c b ih =>
    cases stop : isTerminator c with
    | true => exact ⟨c, b, by rw [untilTerminator_cons stop, List.nil_append], stop⟩
    | false =>
      have more : untilTerminator (c :: b) = c :: untilTerminator b := by
        simp [untilTerminator, stop]
      rw [more] at h ⊢
      obtain ⟨terminator, r, hr, ht⟩ := ih fun same => h (congrArg (· + 1) same)
      exact ⟨terminator, r, congrArg (c :: ·) hr, ht⟩

theorem lengthOf?_ok {header : Bytes} {n : Nat} (h : lengthOf? header = .ok n) :
    header ≠ [] ∧ header.all isDigit = true ∧ number header = n := by
  unfold lengthOf? at h
  split at h
  · rename_i valid
    exact ⟨valid.1, valid.2.1, Except.ok.inj h⟩
  · simp at h

theorem parseHeader_ok {ending : Option SystemFault} {room : Nat} {b header rest : Bytes}
    (h : parseHeader ending room [] b = (.ok header, rest)) :
    ∃ terminator, b = header ++ terminator :: rest ∧ isTerminator terminator = true ∧
      header.length ≤ room := by
  unfold parseHeader at h
  simp only [List.nil_append] at h
  split at h
  · simp at h
  · rename_i short
    split at h
    · simp at h
    · rename_i found
      obtain ⟨terminator, r, hr, stop⟩ := eq_untilTerminator_append found
      simp only [Prod.mk.injEq, Except.ok.injEq] at h
      obtain ⟨same, left⟩ := h
      rw [same] at hr left short
      subst hr
      refine ⟨terminator, ?_, stop, Nat.le_of_not_lt short⟩
      rw [← left, ← List.drop_drop, List.drop_left, List.drop_one, List.tail_cons]

theorem parsePayload_ok {ending : Option SystemFault} {length : Nat} {b payload rest : Bytes}
    (h : parsePayload ending length b = (.ok payload, rest)) :
    b = payload ++ rest ∧ payload.length = length ∧ reserve length = .ok () := by
  unfold parsePayload at h
  split at h
  · simp at h
  · rename_i room
    split at h
    · rename_i enough
      simp only [Prod.mk.injEq, Except.ok.injEq] at h
      obtain ⟨rfl, rfl⟩ := h
      exact ⟨(List.take_append_drop _ _).symm, List.length_take_of_le enough, room⟩
    · simp at h

theorem parse_ok {ending : Option SystemFault} {b payload rest : Bytes}
    (h : parse ending b = (.ok payload, rest)) :
    ∃ header terminator, b = header ++ terminator :: (payload ++ rest) ∧
      isTerminator terminator = true ∧ header.length ≤ maxHeader ∧
      lengthOf? header = .ok payload.length ∧ reserve payload.length = .ok () := by
  unfold parse at h
  split at h
  · simp at h
  · rename_i header r parsed
    obtain ⟨terminator, hb, stop, short⟩ := parseHeader_ok parsed
    split at h
    · simp at h
    · rename_i length denotes
      obtain ⟨rfl, rfl, room⟩ := parsePayload_ok h
      exact ⟨header, terminator, hb, stop, short, denotes, room⟩

theorem parse_shrinks {ending : Option SystemFault} {b payload rest : Bytes}
    (h : parse ending b = (.ok payload, rest)) : rest.length + 2 ≤ b.length := by
  obtain ⟨header, terminator, rfl, -, -, denotes, -⟩ := parse_ok h
  have long := List.length_pos_iff.mpr (lengthOf?_ok denotes).1
  simp only [List.length_append, List.length_cons]
  omega

theorem endError_eq_peerClosed {ending : Option SystemFault} {e : Error} :
    endError ending e = .peerClosed ↔ ending = none ∧ e = .peerClosed := by
  cases ending <;> simp [endError]

theorem parseHeader_peerClosed {ending : Option SystemFault} {room : Nat} {b : Bytes} :
    (parseHeader ending room [] b).1 = .error .peerClosed ↔ b = [] ∧ ending = none := by
  constructor
  · intro h
    unfold parseHeader at h
    simp only [List.nil_append] at h
    split at h
    · simp at h
    · split at h
      · rename_i all
        simp only [Except.error.injEq, endError_eq_peerClosed] at h
        obtain ⟨none, closed⟩ := h
        split at closed
        · rename_i empty
          rw [empty] at all
          exact ⟨List.eq_nil_of_length_eq_zero all.symm, none⟩
        · simp at closed
      · simp at h
  · rintro ⟨rfl, rfl⟩
    rw [parseHeader_nil]
    rfl

theorem lengthOf?_ne_peerClosed (header : Bytes) : lengthOf? header ≠ .error .peerClosed := by
  unfold lengthOf?
  split <;> simp

theorem parsePayload_ne_peerClosed (ending : Option SystemFault) (length : Nat) (b : Bytes) :
    (parsePayload ending length b).1 ≠ .error .peerClosed := by
  unfold parsePayload
  split
  · rename_i refused
    unfold reserve at refused
    rintro h
    split at refused
    · cases refused; simp at h
    · split at refused
      · cases refused; simp at h
      · simp at refused
  · split <;> simp [endError_eq_peerClosed]

theorem parse_peerClosed {ending : Option SystemFault} {b : Bytes} :
    (parse ending b).1 = .error .peerClosed ↔ b = [] ∧ ending = none := by
  rw [← @parseHeader_peerClosed ending maxHeader b]
  unfold parse
  cases parseHeader ending maxHeader [] b with
  | mk answer r =>
    cases answer with
    | error e => rfl
    | ok header =>
      simp only [reduceCtorEq, iff_false]
      cases denotes : lengthOf? header with
      | error e =>
        intro closed
        cases closed
        exact lengthOf?_ne_peerClosed header denotes
      | ok length => exact parsePayload_ne_peerClosed ending length r

/-- The clean end of a source is met exactly where nothing is left and no fault ends it. -/
theorem receive_peerClosed {s : Source} :
    (receive s).1 = .error .peerClosed ↔ s.remaining = [] ∧ s.fault = none := by
  rw [(receive_eq s).answer]
  exact parse_peerClosed

theorem receive_shrinks {s t : Source} {payload : Bytes} (h : receive s = (.ok payload, t)) :
    t.remaining.length + 2 ≤ s.remaining.length := by
  have parsed := receive_eq s
  rw [h] at parsed
  exact parse_shrinks (Prod.ext parsed.answer.symm parsed.remaining.symm)

end HalBench.Frame
