import HalBench.Proofs.Files.Replacing
import HalBench.Proofs.Frame.Sequence
import HalBench.Proofs.Index
import HalBench.Proofs.Trace.Reading
import HalBench.Trace.File

/-! Traces whose frames hold any payloads. A frame is taken whole before its payload is decoded, so
what is answered for a payload does not depend on the others, and a reading of the whole trace fails
with the first payload that is no record. -/

namespace HalBench.Trace

/-- What a payload says: a record, or why it is none. -/
def recordOf (payload : Bytes) : Except Error Record :=
  (Record.codec.decode payload).mapError .malformed

/-- The records that come before the first payload that is none, and the error of that payload. -/
def recordsOf : List Bytes → List Record × Option Error
  | [] => ([], none)
  | p :: more =>
    match recordOf p with
    | .error e => ([], some e)
    | .ok record => (record :: (recordsOf more).1, (recordsOf more).2)

variable {payloads more : List Bytes} {payload rest : Bytes} {record : Record} {reader s : Reader}
  {e : Error}

theorem recordsOf_error (h : recordOf payload = .error e) :
    recordsOf (payload :: more) = ([], some e) := by
  rw [recordsOf, h]

theorem recordsOf_ok (h : recordOf payload = .ok record) :
    recordsOf (payload :: more) = (record :: (recordsOf more).1, (recordsOf more).2) := by
  rw [recordsOf, h]

theorem mapM_recordOf (payloads : List Bytes) : payloads.mapM recordOf =
    (recordsOf payloads).2.elim (.ok (recordsOf payloads).1) .error := by
  induction payloads with
  | nil => rfl
  | cons p more ih =>
    rw [List.mapM_cons, ih]
    cases decoded : recordOf p with
    | error e =>
      rw [recordsOf_error decoded]
      rfl
    | ok record =>
      rw [recordsOf_ok decoded]
      cases (recordsOf more).2 <;> rfl

namespace Reader

theorem readRecord_encode (h : Frame.Allocatable payload)
    (bytes : reader.source.remaining = Frame.encode payload ++ rest) :
    ∃ s, reader.readRecord = ((recordOf payload).map some, s) ∧ s.source.remaining = rest ∧
      s.source.fault = reader.source.fault ∧
      s.count = reader.count + if (recordOf payload).isOk then 1 else 0 := by
  obtain ⟨t, received, left, fault⟩ := Frame.receive_encode h bytes
  unfold recordOf
  cases decoded : Record.codec.decode payload with
  | error e =>
    refine ⟨{ reader with source := t }, ?_, left, fault, rfl⟩
    simp only [readRecord, received, decoded]
    rfl
  | ok record =>
    refine ⟨⟨t, reader.count + 1⟩, ?_, left, fault, rfl⟩
    simp only [readRecord, received, decoded]
    rfl

/-- The payloads of a trace are answered one after another, each as if it were alone, and then what
comes after them. -/
theorem requests_append (allocatable : ∀ p ∈ payloads, Frame.Allocatable p)
    (bytes : reader.source.remaining = Frame.encodeAll payloads ++ rest) :
    ∃ s : Reader, s.source.remaining = rest ∧ s.source.fault = reader.source.fault ∧
      s.count = reader.count + payloads.countP (fun p => (recordOf p).isOk) ∧ ∀ k,
      requests (payloads.length + k) reader =
        (payloads.map (fun p => (recordOf p).map some) ++ (requests k s).1, (requests k s).2) := by
  induction payloads generalizing reader with
  | nil => exact ⟨reader, bytes, rfl, rfl, fun k => by rw [List.length_nil, Nat.zero_add]; rfl⟩
  | cons p more ih =>
    rw [Frame.encodeAll_cons, List.append_assoc] at bytes
    obtain ⟨s, read, left, fault, count⟩ :=
      readRecord_encode (allocatable p List.mem_cons_self) bytes
    obtain ⟨t, last, same, total, further⟩ :=
      ih (fun q hq => allocatable q (List.mem_cons_of_mem p hq)) left
    refine ⟨t, last, same.trans fault, ?_, fun k => ?_⟩
    · rw [total, count, List.countP_cons]
      omega
    · rw [List.length_cons, Nat.add_right_comm, requests_succ read, further k]
      rfl

theorem requests_encodeAll (allocatable : ∀ p ∈ payloads, Frame.Allocatable p)
    (bytes : reader.source.remaining = Frame.encodeAll payloads)
    (clean : reader.source.fault = none) (k : Nat) :
    (requests k reader).1 = (payloads.take k).map (fun p => (recordOf p).map some) ++
        List.replicate (k - payloads.length) (.ok none) ∧
      (requests k reader).2.count =
        reader.count + (payloads.take k).countP fun p => (recordOf p).isOk := by
  rw [← Frame.encodeAll_take_drop k] at bytes
  obtain ⟨s, left, same, count, further⟩ :=
    requests_append (fun p hp => allocatable p (List.mem_of_mem_take hp)) bytes
  have whole := further (k - payloads.length)
  rw [show (payloads.take k).length + (k - payloads.length) = k by rw [List.length_take]; omega]
    at whole
  rcases Nat.le_total k payloads.length with within | beyond
  · rw [whole, Nat.sub_eq_zero_of_le within]
    exact ⟨rfl, count⟩
  · rw [List.drop_of_length_le beyond] at left
    obtain ⟨answers, total⟩ := requests_end left (same.trans clean) (k - payloads.length)
    rw [whole, answers]
    exact ⟨rfl, total.trans count⟩

/-- A reading of the whole trace reads its payloads in order, up to the first that is no record. -/
theorem records_encodeAll (allocatable : ∀ p ∈ payloads, Frame.Allocatable p)
    (bytes : reader.source.remaining = Frame.encodeAll payloads)
    (clean : reader.source.fault = none) : reader.records = recordsOf payloads := by
  induction payloads generalizing reader with
  | nil =>
    obtain ⟨answers, -⟩ := requests_end bytes clean 1
    exact records_end (Prod.ext (List.cons.inj answers).1 rfl)
  | cons p more ih =>
    rw [Frame.encodeAll_cons] at bytes
    obtain ⟨s, read, left, fault, -⟩ := readRecord_encode (allocatable p List.mem_cons_self) bytes
    cases decoded : recordOf p with
    | error e =>
      rw [decoded] at read
      rw [records_error read, recordsOf_error decoded]
    | ok record =>
      rw [decoded] at read
      rw [records_ok read, recordsOf_ok decoded,
        ih (fun q hq => allocatable q (List.mem_cons_of_mem p hq)) left (fault.trans clean)]

theorem all_eq (r : Reader) : r.all = r.records.2.elim (.ok r.records.1) .error := by
  rw [all]
  obtain ⟨records, ending⟩ := r.records
  cases ending <;> rfl

theorem all_encodeAll (allocatable : ∀ p ∈ payloads, Frame.Allocatable p)
    (bytes : reader.source.remaining = Frame.encodeAll payloads)
    (clean : reader.source.fault = none) : reader.all = payloads.mapM recordOf := by
  rw [all_eq, records_encodeAll allocatable bytes clean, mapM_recordOf]

end Reader

theorem services_error (h : reader.all = .error e) : services reader = .error e := by
  rw [services, h]
  rfl

/-- The interfaces that are listed are those of the records, in ascending order. -/
theorem services_of_all {records : List Record} (h : reader.all = .ok records) :
    ∃ names, services reader = .ok names ∧ names.Pairwise (· < ·) ∧
      ∀ name, name ∈ names ↔ ∃ r ∈ records, r.qualifiedName = name := by
  refine ⟨_, by rw [services, h]; rfl, Index.ascending_keys _, fun name => ?_⟩
  rw [Index.mem_keys_ofList, List.map_map, List.mem_map]
  rfl

section Files

open Files

variable {files : Tree} {path : Path}

theorem openPath_ok (h : openPath files path = .ok reader) :
    loadPath files path = reader.all ∧ servicesOfPath files path = services reader := by
  rw [loadPath, servicesOfPath, h]
  exact ⟨rfl, rfl⟩

theorem openPath_file {content : Bytes} {executable : Bool}
    (h : files.look true path = .ok (.file content executable)) :
    openPath files path = .ok { source := .ofBytes content } := by
  rw [openPath, Tree.openRead_of_look h]

theorem loadPath_file {content : Bytes} {executable : Bool}
    (h : files.look true path = .ok (.file content executable)) :
    loadPath files path = Reader.all { source := .ofBytes content } :=
  (openPath_ok (openPath_file h)).1

/-- A trace named `t` in a directory of its own. -/
def alone (content : Bytes) : Tree := { nodes := [([[116]], .file content false)] }

theorem proper_name : Tree.Proper [116] := ⟨by decide, by decide, by decide, by decide⟩

theorem look_alone {content : Bytes} :
    (alone content).look true [116] = .ok (.file content false) :=
  Tree.look_of_leads rfl (by decide) (by decide)
    (.stop proper_name rfl (by simp) (by simp)) (Nat.zero_le _)

end Files

/-- Where the frames of a trace hold some payloads (that fit in memory), each of them is answered as
if it were alone, in whatever pieces the bytes arrive: by its record, or by an error if it is none,
and after the last one there is the end. The records are counted. The whole trace is read as all its
records if every payload is one, and otherwise fails as its first payload that is none does. The
interfaces are listed exactly when the whole trace is read, and then they are those of its
records. A file with these frames is read and listed alike, under every path that leads to it. -/
theorem payloads_independent (allocatable : ∀ p ∈ payloads, Frame.Allocatable p) {source : Source}
    (bytes : source.remaining = Frame.encodeAll payloads) (clean : source.fault = none) :
    let reader : Reader := ⟨source, 0⟩
    (∀ k, (Reader.requests k reader).1 = (payloads.take k).map (fun p => (recordOf p).map some) ++
      List.replicate (k - payloads.length) (.ok none)) ∧
    (∀ k, (Reader.requests k reader).2.count =
      (payloads.take k).countP fun p => (recordOf p).isOk) ∧
    (∀ records, payloads.map recordOf = records.map .ok → reader.all = .ok records) ∧
    (∀ before p after e, payloads = before ++ p :: after → (∀ q ∈ before, (recordOf q).isOk) →
      recordOf p = .error e → reader.all = .error e) ∧
    (∀ e, reader.all = .error e → services reader = .error e) ∧
    (∀ records, reader.all = .ok records → ∃ names, services reader = .ok names ∧
      names.Pairwise (· < ·) ∧ ∀ name, name ∈ names ↔ ∃ r ∈ records, r.qualifiedName = name) ∧
    (∀ files path, openPath files path = .ok reader →
      loadPath files path = reader.all ∧ servicesOfPath files path = services reader) ∧
    ∀ files path executable,
      files.look true path = .ok (.file (Frame.encodeAll payloads) executable) →
        loadPath files path = reader.all ∧ servicesOfPath files path = services reader := by
  intro reader
  replace bytes : reader.source.remaining = Frame.encodeAll payloads := bytes
  have requests := Reader.requests_encodeAll allocatable bytes clean
  have all : reader.all = payloads.mapM recordOf := Reader.all_encodeAll allocatable bytes clean
  refine ⟨fun k => (requests k).1, fun k => ?_, fun records good => ?_,
    fun before p after e split good bad => ?_, fun e failed => services_error failed,
    fun records read => services_of_all read, fun files path opened => openPath_ok opened,
    fun files path executable found => ?_⟩
  · rw [(requests k).2]
    exact Nat.zero_add _
  · rw [all]
    exact mapM_eq_ok.mpr good
  · rw [all, split]
    exact mapM_error good bad
  · obtain ⟨loaded, listed⟩ := openPath_ok (openPath_file found)
    have same : Reader.all { source := .ofBytes (Frame.encodeAll payloads) } = reader.all :=
      (Reader.all_encodeAll allocatable (Source.remaining_ofBytes _) rfl).trans all.symm
    rw [loaded, listed, services, services, same]
    exact ⟨rfl, rfl⟩

/-- Between two records stands a payload that is none. It is answered with an error, and both records
are read; the whole trace is not read, and no interfaces are listed, also where it is a file. -/
theorem payloads_independent_broken :
    let record := Utf8.bytes "\x7b\"event\":\"CLIENT_API_ENTRY\",\"package\":\"p\",\"version\":1.0,
      \"interface\":\"I\",\"func_msg\":\x7b\"name\":\"f\"\x7d\x7d"
    let payloads : List Bytes := [record, [123, 125], record]
    let source : Source := .ofBytes (Frame.encodeAll payloads)
    let reader : Reader := ⟨source, 0⟩
    let e : Error := .malformed (.missingField "event")
    (∀ p ∈ payloads, Frame.Allocatable p) ∧ source.remaining = Frame.encodeAll payloads ∧
      (∃ r, r.qualifiedName = "p@1.0::I" ∧
        (Reader.requests 4 reader).1 = [.ok (some r), .error e, .ok (some r), .ok none]) ∧
      (Reader.requests 4 reader).2.count = 2 ∧ reader.all = .error e ∧ services reader = .error e ∧
      loadPath (alone (Frame.encodeAll payloads)) [116] = .error e ∧
      servicesOfPath (alone (Frame.encodeAll payloads)) [116] = .error e := by
  intro record payloads source reader e
  have allocatable : ∀ p ∈ payloads, Frame.Allocatable p := by decide +kernel
  have bytes : source.remaining = Frame.encodeAll payloads := Source.remaining_ofBytes _
  have named : (recordOf record).toOption.map (·.qualifiedName) = some "p@1.0::I" := by
    decide +kernel
  obtain ⟨r, decoded, name⟩ : ∃ r, recordOf record = .ok r ∧ r.qualifiedName = "p@1.0::I" := by
    cases decoded : recordOf record with
    | error e =>
      rw [decoded] at named
      cases named
    | ok r =>
      rw [decoded] at named
      exact ⟨r, rfl, Option.some.inj named⟩
  have broken : recordOf [123, 125] = .error e := rfl
  obtain ⟨answers, count, -, fails, unlisted, -, -, file⟩ :=
    payloads_independent allocatable bytes rfl
  have before : ∀ q ∈ [record], (recordOf q).isOk := by
    intro q hq
    rw [List.mem_singleton.mp hq, decoded]
    rfl
  have failed : reader.all = .error e := fails [record] [123, 125] [record] e rfl before broken
  obtain ⟨loaded, listed⟩ := file _ _ false look_alone
  refine ⟨allocatable, bytes, ⟨r, name, ?_⟩, ?_, failed, unlisted e failed, loaded.trans failed,
    listed.trans (unlisted e failed)⟩
  · rw [answers 4]
    simp only [payloads, List.take_succ_cons, List.take_nil, List.map_cons, List.map_nil, decoded,
      broken]
    rfl
  · rw [count 4]
    simp only [payloads, List.take_succ_cons, List.take_nil, List.countP_cons, List.countP_nil,
      decoded, broken]
    rfl

end HalBench.Trace
