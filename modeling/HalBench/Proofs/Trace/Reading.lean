import HalBench.Proofs.Frame.Payloads
import HalBench.Trace.Reader

/-! All records of a trace are those that are read one after another: reading one takes bytes of
the trace, so there is always fuel enough. -/

namespace HalBench.Trace.Reader

variable {r s : Reader} {record : Record} {e : Error}

theorem readRecord_shrinks (h : r.readRecord = (.ok (some record), s)) :
    s.source.remaining.length + 2 ≤ r.source.remaining.length := by
  unfold readRecord at h
  cases received : Frame.receive r.source with
  | mk answer source =>
    rw [received] at h
    cases answer with
    | error e => cases e <;> cases h
    | ok payload =>
      have smaller := Frame.receive_shrinks received
      simp only at h
      split at h
      · cases h
      · cases h
        exact smaller

theorem recordsLoop_fuel {n m : Nat} (hn : r.source.remaining.length < n)
    (hm : r.source.remaining.length < m) : recordsLoop n r = recordsLoop m r := by
  induction n generalizing r m with
  | zero => exact absurd hn (Nat.not_lt_zero _)
  | succ n ih =>
    cases m with
    | zero => exact absurd hm (Nat.not_lt_zero _)
    | succ m =>
      simp only [recordsLoop]
      cases read : r.readRecord with
      | mk answer s =>
        match answer with
        | .error e => rfl
        | .ok none => rfl
        | .ok (some record) =>
          have smaller := readRecord_shrinks read
          simp only [ih (r := s) (m := m) (by omega) (by omega)]

theorem records_error (h : r.readRecord = (.error e, s)) : r.records = ([], some e) := by
  rw [records, recordsLoop, h]

theorem records_end (h : r.readRecord = (.ok none, s)) : r.records = ([], none) := by
  rw [records, recordsLoop, h]

theorem records_ok (h : r.readRecord = (.ok (some record), s)) :
    r.records = (record :: s.records.1, s.records.2) := by
  have smaller := readRecord_shrinks h
  rw [records, recordsLoop, h]
  simp only [records, recordsLoop_fuel (r := s) (n := r.source.remaining.length)
    (m := s.source.remaining.length + 1) (by omega) (by omega)]

/-- The answers to requests for the next record, and the reader after them. -/
def requests : Nat → Reader → List (Except Error (Option Record)) × Reader
  | 0, r => ([], r)
  | k + 1, r =>
    let (answer, r) := r.readRecord
    let (answers, r) := requests k r
    (answer :: answers, r)

theorem requests_succ {answer : Except Error (Option Record)} (h : r.readRecord = (answer, s))
    (k : Nat) : requests (k + 1) r = (answer :: (requests k s).1, (requests k s).2) := by
  simp only [requests, h]

theorem requests_end (bytes : r.source.remaining = []) (fault : r.source.fault = none) (k : Nat) :
    (requests k r).1 = List.replicate k (.ok none) ∧ (requests k r).2.count = r.count := by
  induction k generalizing r with
  | zero => exact ⟨rfl, rfl⟩
  | succ k ih =>
    have received := Frame.receive_eq r.source
    rw [bytes, fault] at received
    have closed : Frame.receive r.source = (.error .peerClosed, (Frame.receive r.source).2) :=
      Prod.ext received.answer rfl
    have read : r.readRecord = (.ok none, { r with source := (Frame.receive r.source).2 }) := by
      rw [readRecord, closed]
    obtain ⟨answers, count⟩ := ih (r := { r with source := (Frame.receive r.source).2 })
      received.remaining (received.fault.trans fault)
    rw [requests_succ read, answers, List.replicate_succ]
    exact ⟨rfl, count⟩

/-- Records two by two; one that is left over at the end is in no group. -/
def groups : List Record → List (Record × Record)
  | call :: result :: rest => (call, result) :: groups rest
  | _ => []

theorem length_groups (records : List Record) : (groups records).length = records.length / 2 := by
  fun_induction groups records with
  | case1 call result rest ih =>
    simp only [List.length_cons, ih]
    omega
  | case2 records short =>
    match records with
    | [] => rfl
    | [_] => simp
    | call :: result :: rest => exact absurd rfl (short call result rest)

/-- The next two records are the next group, and where no two records follow there is none. -/
theorem readPair_cases (r : Reader) :
    (∃ e s, r.readPair = (.error e, s) ∧ groups r.records.1 = [] ∧ r.records.2 = some e) ∨
    (∃ s, (r.readPair = (.ok none, s) ∨ ∃ record, r.readPair = (.ok (some (.dangling record)), s)) ∧
      groups r.records.1 = [] ∧ r.records.2 = none) ∨
    (∃ call result s, r.readPair = (.ok (some (.complete call result)), s) ∧
      s.source.remaining.length < r.source.remaining.length ∧
      groups r.records.1 = (call, result) :: groups s.records.1 ∧ r.records.2 = s.records.2) := by
  unfold readPair
  cases first : r.readRecord with
  | mk answer s =>
    match answer with
    | .error e =>
      rw [records_error first]
      exact .inl ⟨e, s, rfl, rfl, rfl⟩
    | .ok none =>
      rw [records_end first]
      exact .inr (.inl ⟨s, .inl rfl, rfl, rfl⟩)
    | .ok (some call) =>
      rw [records_ok first]
      cases second : s.readRecord with
      | mk answer t =>
        match answer with
        | .error e =>
          rw [records_error second]
          exact .inl ⟨e, t, by simp only [second], rfl, rfl⟩
        | .ok none =>
          rw [records_end second]
          exact .inr (.inl ⟨t, .inr ⟨call, by simp only [second]⟩, rfl, rfl⟩)
        | .ok (some result) =>
          rw [records_ok second]
          have shorter := readRecord_shrinks first
          have shortest := readRecord_shrinks second
          exact .inr (.inr ⟨call, result, t, by simp only [second], by omega, rfl, rfl⟩)

end HalBench.Trace.Reader
