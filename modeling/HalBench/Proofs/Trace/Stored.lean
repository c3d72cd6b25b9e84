import HalBench.Proofs.Trace.Payloads

/-! The bytes of a trace. The first bytes of a trace are those of whole records and a part of the
next one, which is nothing or is found to be broken off. -/

namespace HalBench.Trace

def Record.frame (r : Record) : Bytes := Frame.encode (Record.codec.encode r)

/-- A record that can be read back from its frame. -/
structure Record.Carried (r : Record) : Prop where
  allocatable : Frame.Allocatable (Record.codec.encode r)
  decoded : Record.codec.decode (Record.codec.encode r) = .ok r

def bytesOf (records : List Record) : Bytes := records.flatMap Record.frame

/-- How many records have their frames within the first bytes of a trace. -/
def wholeFrames (n : Nat) (records : List Record) : Nat :=
  (List.range records.length).countP fun i => (bytesOf (records.take (i + 1))).length ≤ n

variable {r : Record} {rest : List Record} {n : Nat}

theorem bytesOf_nil : bytesOf [] = [] := rfl

theorem bytesOf_cons (r : Record) (rest : List Record) :
    bytesOf (r :: rest) = r.frame ++ bytesOf rest := List.flatMap_cons

theorem bytesOf_eq (records : List Record) :
    bytesOf records = Frame.encodeAll (records.map Record.codec.encode) := by
  rw [Frame.encodeAll, List.flatMap_map]
  rfl

theorem Record.Carried.recordOf_encode (h : r.Carried) :
    recordOf (Record.codec.encode r) = .ok r := by
  rw [recordOf, h.decoded]
  rfl

section Carried

variable {records : List Record} (carried : ∀ r ∈ records, r.Carried)
include carried

theorem allocatable_encoded : ∀ p ∈ records.map Record.codec.encode, Frame.Allocatable p :=
  List.forall_mem_map.mpr fun r hr => (carried r hr).allocatable

theorem map_recordOf : (records.map Record.codec.encode).map recordOf = records.map .ok := by
  rw [List.map_map]
  refine List.map_congr_left fun r hr => ?_
  rw [Function.comp_apply, (carried r hr).recordOf_encode]

end Carried

theorem length_frame_pos (r : Record) : 0 < r.frame.length := by
  rw [Record.frame, Frame.length_encode]
  omega

theorem wholeFrames_of_le (h : r.frame.length ≤ n) :
    wholeFrames n (r :: rest) = wholeFrames (n - r.frame.length) rest + 1 := by
  have first : decide ((bytesOf ((r :: rest).take 1)).length ≤ n) = true := by
    simpa [bytesOf] using h
  have others : (fun i => decide ((bytesOf ((r :: rest).take (i + 1))).length ≤ n)) ∘ Nat.succ =
      fun i => decide ((bytesOf (rest.take (i + 1))).length ≤ n - r.frame.length) := by
    funext i
    rw [Function.comp_apply, List.take_succ_cons, bytesOf_cons, List.length_append,
      decide_eq_decide]
    omega
  unfold wholeFrames
  rw [List.length_cons, List.range_succ_eq_map, List.countP_cons, List.countP_map, others, first,
    if_pos rfl]

theorem wholeFrames_of_lt (h : n < r.frame.length) : wholeFrames n (r :: rest) = 0 := by
  unfold wholeFrames
  rw [List.countP_eq_zero]
  intro i _
  rw [List.take_succ_cons, bytesOf_cons, List.length_append, decide_eq_true_eq]
  omega

theorem wholeFrames_le (n : Nat) (records : List Record) :
    wholeFrames n records ≤ records.length :=
  Nat.le_trans List.countP_le_length (Nat.le_of_eq List.length_range)

/-- The beginning of a frame, with a byte at least, that is not whole. -/
def Torn (r : Record) (tail : Bytes) : Prop :=
  ∃ m, 0 < m ∧ m < r.frame.length ∧ tail = r.frame.take m

/-- The first bytes of a trace hold the whole frames among them, and end there or within the
frame of the next record. -/
theorem take_bytesOf (n : Nat) (records : List Record) :
    ∃ tail, (bytesOf records).take n = bytesOf (records.take (wholeFrames n records)) ++ tail ∧
      (tail = [] ∨ ∃ r ∈ records[wholeFrames n records]?, Torn r tail) := by
  induction records generalizing n with
  | nil => exact ⟨[], List.take_nil, .inl rfl⟩
  | cons r rest ih =>
    rw [bytesOf_cons]
    by_cases whole : r.frame.length ≤ n
    · obtain ⟨tail, bytes, next⟩ := ih (n - r.frame.length)
      refine ⟨tail, ?_, ?_⟩
      · rw [wholeFrames_of_le whole, List.take_succ_cons, bytesOf_cons, List.take_append,
          List.take_of_length_le whole, bytes, List.append_assoc]
      · rwa [wholeFrames_of_le whole, List.getElem?_cons_succ]
    · have less := Nat.lt_of_not_le whole
      refine ⟨r.frame.take n, ?_, ?_⟩
      · rw [wholeFrames_of_lt less, List.take_append_of_le_length (Nat.le_of_lt less)]
        rfl
      · rcases Nat.eq_zero_or_pos n with rfl | pos
        · exact .inl rfl
        · rw [wholeFrames_of_lt less]
          exact .inr ⟨r, rfl, n, pos, less, rfl⟩

theorem Torn.length {tail : Bytes} (h : Torn r tail) :
    0 < tail.length ∧ tail.length < r.frame.length := by
  obtain ⟨m, pos, less, rfl⟩ := h
  rw [List.length_take]
  omega

/-- Bytes that end within a frame are not those of the first records of the trace. -/
theorem not_boundary {records : List Record} {c : Nat} {tail : Bytes} {r : Record}
    (next : r ∈ records[c]?) (torn : Torn r tail) (k : Nat) :
    bytesOf (records.take c) ++ tail ≠ bytesOf (records.take k) := by
  -- Frames that both sides begin with can be left out, and then the lengths tell them apart.
  induction records generalizing c k with
  | nil => cases next
  | cons first rest ih =>
    intro same
    have length := congrArg List.length same
    obtain ⟨pos, less⟩ := torn.length
    have long := length_frame_pos first
    cases c with
    | zero =>
      cases next
      cases k with
      | zero =>
        simp only [List.take_zero, bytesOf_nil, List.length_append, List.length_nil] at length
        omega
      | succ k =>
        simp only [List.take_zero, List.take_succ_cons, bytesOf_cons, bytesOf_nil,
          List.length_append, List.length_nil] at length
        omega
    | succ c =>
      cases k with
      | zero =>
        simp only [List.take_zero, List.take_succ_cons, bytesOf_cons, bytesOf_nil,
          List.length_append, List.length_nil] at length
        omega
      | succ k =>
        rw [List.take_succ_cons, List.take_succ_cons, bytesOf_cons, bytesOf_cons,
          List.append_assoc] at same
        exact ih next k (List.append_cancel_left same)

section Reading
variable {reader : Reader} {tail : Bytes}

theorem readRecord_torn (carried : r.Carried) (torn : Torn r tail)
    (bytes : reader.source.remaining = tail) (fault : reader.source.fault = none) :
    ∃ expected got s,
      reader.readRecord = (.error (.frame reader.count (.truncated expected got)), s) ∧
      s.source.remaining = [] ∧ s.source.fault = none ∧ s.count = reader.count := by
  obtain ⟨m, pos, less, rfl⟩ := torn
  obtain ⟨expected, got, parsed⟩ := Frame.parse_take_encode carried.allocatable pos less
  change Frame.parse none (r.frame.take m) = _ at parsed
  rw [← bytes, ← fault] at parsed
  obtain ⟨t, received, left, same⟩ := Frame.receive_of_parse parsed
  refine ⟨expected, got, { reader with source := t }, ?_, left, same.trans fault, rfl⟩
  simp only [Reader.readRecord, received]

def answersOf (records : List Record) : List (Except Error (Option Record)) :=
  records.map fun r => .ok (some r)

/-- The records of a trace are read one after another, and then what comes after them. -/
theorem requests_bytesOf {records : List Record} (carried : ∀ r ∈ records, r.Carried)
    (bytes : reader.source.remaining = bytesOf records ++ tail) :
    ∃ s : Reader, s.source.remaining = tail ∧ s.source.fault = reader.source.fault ∧
      s.count = reader.count + records.length ∧ ∀ k,
      Reader.requests (records.length + k) reader =
        (answersOf records ++ (Reader.requests k s).1, (Reader.requests k s).2) := by
  rw [bytesOf_eq] at bytes
  obtain ⟨s, left, same, count, further⟩ :=
    Reader.requests_append (allocatable_encoded carried) bytes
  have all : (records.map Record.codec.encode).countP (fun p => (recordOf p).isOk) =
      records.length := by
    rw [← Function.comp_def, ← List.countP_map, map_recordOf carried, List.countP_map]
    exact List.countP_eq_length.mpr fun _ _ => rfl
  have answers : (records.map Record.codec.encode).map (fun p => (recordOf p).map some) =
      answersOf records := by
    rw [← Function.comp_def, ← List.map_map, map_recordOf carried, List.map_map]
    rfl
  refine ⟨s, left, same, by rw [count, all], fun k => ?_⟩
  rw [← answers, ← further k, List.length_map]

/-- A torn frame is answered with one error, and from then on there is the end. -/
theorem requests_torn (carried : r.Carried) (torn : Torn r tail)
    (bytes : reader.source.remaining = tail) (fault : reader.source.fault = none) :
    ∃ expected got, ∀ k,
      (Reader.requests k reader).1 =
        (.error (.frame reader.count (.truncated expected got)) ::
          List.replicate k (.ok none)).take k ∧
      (Reader.requests k reader).2.count = reader.count := by
  obtain ⟨expected, got, s, read, left, same, count⟩ := readRecord_torn carried torn bytes fault
  refine ⟨expected, got, fun k => ?_⟩
  cases k with
  | zero => exact ⟨rfl, rfl⟩
  | succ k =>
    obtain ⟨answers, counted⟩ := Reader.requests_end left same k
    rw [Reader.requests_succ read, answers, List.take_succ_cons, List.take_replicate,
      Nat.min_eq_left (Nat.le_succ k)]
    exact ⟨rfl, counted.trans count⟩

end Reading

end HalBench.Trace
