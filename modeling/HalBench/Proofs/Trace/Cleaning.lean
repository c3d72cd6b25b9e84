import HalBench.Proofs.Trace.Decoded
import HalBench.Proofs.Trace.Replacing

/-! Cleaning a trace in its file. Where something was removed, the file holds the frames of the
records that were kept, and it is read as these records exactly when each of them is read back
from its own text. The floats of a record decide that: a version that is too large is infinite,
and it has no text that is read as a number. -/

namespace HalBench.Trace

open Files

section Reading

variable {source : Source} {records kept : List Record} {r : Record}

theorem all_eq_ok {reader : Reader} : reader.all = .ok records ↔ reader.records = (records, none) := by
  unfold Reader.all
  obtain ⟨read, ending⟩ := reader.records
  cases ending <;> simp

/-- What is read off the frame of a record is the record that its text is decoded as. -/
theorem records_eq_iff (allocatable : ∀ r ∈ records, Frame.Allocatable (Record.codec.encode r))
    {reader : Reader} (bytes : reader.source.remaining = bytesOf records)
    (clean : reader.source.fault = none) :
    reader.records = (records, none) ↔
      ∀ r ∈ records, Record.codec.decode (Record.codec.encode r) = .ok r := by
  rw [bytesOf_eq] at bytes
  rw [← all_eq_ok, Reader.all_encodeAll (List.forall_mem_map.mpr allocatable) bytes clean,
    mapM_eq_ok, List.map_map, List.map_inj_left]
  refine forall₂_congr fun r _ => ?_
  rw [Function.comp_apply, recordOf]
  constructor
  · exact ok_of_mapError
  · intro decoded
    rw [decoded]
    rfl

theorem records_bytesOf (carried : ∀ r ∈ records, r.Carried) {reader : Reader}
    (bytes : reader.source.remaining = bytesOf records) (clean : reader.source.fault = none) :
    reader.records = (records, none) :=
  (records_eq_iff (fun r hr => (carried r hr).allocatable) bytes clean).mpr
    fun r hr => (carried r hr).decoded

end Reading

/-! ### What a cleanup counts

Records are counted as they are dropped. The counts are how many records are missing afterwards. -/

section Counting

variable {records : List Record}

/-- The adjacent pairs of a list, from the left. -/
def keepPairs : List Record → List Record
  | [] => []
  | [_] => []
  | a :: b :: r => if isCompleteCall a b then a :: b :: keepPairs r else keepPairs (b :: r)

theorem keepPairs_sublist (records : List Record) : (keepPairs records).Sublist records := by
  fun_induction keepPairs records with
  | case1 => exact .slnil
  | case2 => exact List.nil_sublist _
  | case3 a b r complete ih => exact (ih.cons_cons b).cons_cons a
  | case4 a b r incomplete ih => exact ih.cons a

theorem dropDuplicates_eq (served : List String) (records : List Record) (t : CleanupTally) :
    let remaining := records.filter fun r => !r.isDuplicate served
    ∃ dropped, dropped + remaining.length = records.length ∧
      dropDuplicates served records t =
        (remaining, { t with duplicates := t.duplicates + dropped }) := by
  induction records generalizing t with
  | nil => exact ⟨0, rfl, rfl⟩
  | cons a r ih =>
    cases duplicate : a.isDuplicate served with
    | true =>
      obtain ⟨dropped, count, scan⟩ := ih { t with duplicates := t.duplicates + 1 }
      refine ⟨dropped + 1, ?_, ?_⟩
      · simp only [List.filter_cons, duplicate, Bool.not_true, Bool.false_eq_true, if_false,
          List.length_cons]
        omega
      · simp only [dropDuplicates, List.filter_cons, duplicate, if_true, Bool.not_true,
          Bool.false_eq_true, if_false, scan, Nat.add_assoc, Nat.add_comm 1]
    | false =>
      obtain ⟨dropped, count, scan⟩ := ih t
      refine ⟨dropped, ?_, ?_⟩
      · simp only [List.filter_cons, duplicate, Bool.not_false, if_true, List.length_cons]
        omega
      · simp only [dropDuplicates, List.filter_cons, duplicate, Bool.not_false, if_true,
          Bool.false_eq_true, if_false, scan]

theorem scanPairs_eq (records : List Record) (t : CleanupTally) :
    ∃ dropped, dropped + (keepPairs records).length = records.length ∧
      scanPairs records t = (keepPairs records, { t with unpaired := t.unpaired + dropped }) := by
  fun_induction keepPairs records generalizing t with
  | case1 => exact ⟨0, rfl, rfl⟩
  | case2 a => exact ⟨1, rfl, rfl⟩
  | case3 a b r complete ih =>
    obtain ⟨dropped, count, scan⟩ := ih t
    refine ⟨dropped, ?_, ?_⟩
    · simp only [List.length_cons]
      omega
    · rw [scanPairs, if_pos complete, scan]
  | case4 a b r incomplete ih =>
    obtain ⟨dropped, count, scan⟩ := ih { t with unpaired := t.unpaired + 1 }
    refine ⟨dropped + 1, ?_, ?_⟩
    · simp only [List.length_cons] at count ⊢
      omega
    · rw [scanPairs, if_neg incomplete, scan, Nat.add_assoc, Nat.add_comm 1]

/-- As many records are counted as are missing afterwards. -/
theorem cleanup_counts (records : List Record) :
    let served := (records.filter Record.isServed).map Record.qualifiedName
    let remaining := records.filter fun r => !r.isDuplicate served
    cleanup records = (keepPairs remaining, ⟨(keepPairs remaining).length,
      records.length - remaining.length, remaining.length - (keepPairs remaining).length⟩) := by
  intro served remaining
  obtain ⟨duplicates, fewer, dropped⟩ := dropDuplicates_eq served records {}
  obtain ⟨unpaired, pairs, scanned⟩ := scanPairs_eq remaining { duplicates := 0 + duplicates }
  rw [← Nat.eq_sub_of_add_eq fewer, ← Nat.eq_sub_of_add_eq pairs]
  simp only [cleanup]
  rw [dropped]
  simp only
  rw [scanned]
  simp only [Nat.zero_add]

theorem cleanup_sublist (records : List Record) : (cleanup records).1.Sublist records := by
  rw [cleanup_counts]
  exact (keepPairs_sublist _).trans List.filter_sublist

theorem cleanup_of_removed (nothing : (cleanup records).2.removed = 0) :
    (cleanup records).1 = records := by
  refine (cleanup_sublist records).eq_of_length ?_
  rw [cleanup_counts] at nothing ⊢
  obtain ⟨noDuplicates, noUnpaired⟩ := Nat.add_eq_zero_iff.mp nothing
  exact Nat.le_antisymm ((keepPairs_sublist _).trans List.filter_sublist).length_le
    (Nat.le_trans (Nat.le_of_sub_eq_zero noDuplicates) (Nat.le_of_sub_eq_zero noUnpaired))

end Counting

section Loading

variable {files after : Tree} {path : Path} {records kept : List Record} {report : CleanupTally}

theorem loadPath_ok (h : loadPath files path = .ok records) :
    ∃ node reader, files.look true path = .ok node ∧ node ≠ .directory ∧
      Reader.records reader = (records, none) := by
  obtain ⟨reader, opened, read⟩ := ok_of_bind h
  unfold openPath at opened
  cases source : files.openRead path with
  | error fault =>
    rw [source] at opened
    cases opened
  | ok s =>
    rw [source] at opened
    cases opened
    obtain ⟨node, found, contents⟩ := ok_of_bind source
    refine ⟨node, _, found, ?_, all_eq_ok.mp read⟩
    rintro rfl
    cases contents
    cases read

theorem cleanPath_ok (loaded : loadPath files path = .ok records)
    (cleaned : cleanPath files path = (.ok report, after)) :
    report = (cleanup records).2 ∧
      (report.removed = 0 ∧ after = files ∨
        report.removed ≠ 0 ∧ replacePath files path (cleanup records).1 = (.ok (), after)) := by
  rw [cleanPath, loaded] at cleaned
  simp only at cleaned
  split at cleaned
  · rename_i nothing
    cases cleaned
    exact ⟨rfl, .inl ⟨nothing, rfl⟩⟩
  · rename_i something
    cases replaced : replacePath files path (cleanup records).1 with
    | mk result tree =>
      rw [replaced] at cleaned
      cases result with
      | error e => cases cleaned
      | ok =>
        cases cleaned
        exact ⟨rfl, .inr ⟨something, rfl⟩⟩

/-- A trace that was cleaned is read as the records that were kept exactly when nothing was
removed, or else each of them is read back from its own text. -/
theorem cleanPath_loadPath (loaded : loadPath files path = .ok records)
    (cleaned : cleanPath files path = (.ok report, after))
    (allocatable : ∀ r ∈ (cleanup records).1, Frame.Allocatable (Record.codec.encode r)) :
    report.kept = (cleanup records).1.length ∧
      (loadPath after path = .ok (cleanup records).1 ↔ report.removed = 0 ∨
        ∀ r ∈ (cleanup records).1, Record.codec.decode (Record.codec.encode r) = .ok r) := by
  obtain ⟨rfl, unchanged | replaced⟩ := cleanPath_ok loaded cleaned
  · obtain ⟨nothing, rfl⟩ := unchanged
    refine ⟨rfl, iff_of_true ?_ (.inl nothing)⟩
    rw [cleanup_of_removed nothing, loaded]
  · obtain ⟨something, replaced⟩ := replaced
    obtain ⟨node, _, found, notDirectory, _⟩ := loadPath_ok loaded
    have bytes : (Source.ofBytes (bytesOf (cleanup records).1)).remaining = _ :=
      Source.remaining_ofBytes _
    refine ⟨rfl, ?_⟩
    rw [loadPath_file (look_replacePath replaced found notDirectory), all_eq_ok,
      records_eq_iff allocatable bytes rfl, or_iff_right something]

/-- A trace that was cleaned is read as the records that were kept where these are legible,
however the records of the trace were spelled. The text of a record that is written is in memory,
and so there is room for it when it is read. -/
theorem cleanPath_legible (loaded : loadPath files path = .ok records)
    (cleaned : cleanPath files path = (.ok report, after))
    (legible : ∀ r ∈ (cleanup records).1, r.Legible)
    (allocatable : ∀ r ∈ (cleanup records).1, Frame.Allocatable (Record.codec.encode r)) :
    loadPath after path = .ok (cleanup records).1 ∧ report.kept = (cleanup records).1.length := by
  obtain ⟨length, reads⟩ := cleanPath_loadPath loaded cleaned allocatable
  refine ⟨reads.mpr (.inr fun r hr => ?_), length⟩
  obtain ⟨_, reader, -, -, all⟩ := loadPath_ok loaded
  have mem : r ∈ reader.records.1 := by
    rw [all]
    exact (cleanup_sublist records).subset hr
  obtain ⟨payload, decoded⟩ := reader.records_decoded r mem
  exact decode_again decoded (legible r hr)

end Loading

section Alone

variable {content : Bytes} {records : List Record}

theorem loadPath_alone : loadPath (alone content) [116] = Reader.all { source := .ofBytes content } :=
  loadPath_file look_alone

theorem cleanPath_alone (loaded : Reader.all { source := .ofBytes content } = .ok records)
    (something : (cleanup records).2.removed ≠ 0) :
    cleanPath (alone content) [116] =
      (.ok (cleanup records).2, alone (bytesOf (cleanup records).1)) := by
  have located : (alone content).locate true here = .ok (.present [] .directory) :=
    Tree.locate_of_walk rfl (by decide) (by decide)
      (Tree.walk_of_leads (.stay (.inl rfl) (.done _)) (Nat.zero_le _))
  have fresh : (alone content).freshName [] = Utf8.bytes ".tmp0" := rfl
  have made : makeTemporary (alone content) (directoryOf [116]) =
      .ok ([Utf8.bytes ".tmp0"], (alone content).put [Utf8.bytes ".tmp0"] (.file [] false)) := by
    rw [makeTemporary, if_neg (by decide), show directoryOf [116] = here from rfl, located, ← fresh]
    rfl
  have notDirectory : (alone content).node? [[116]] ≠ some .directory := by
    show some (Node.file content false) ≠ some .directory
    simp
  have place : (alone content).Replaces [116] [] [116] :=
    ⟨rfl, by decide, by decide, rfl, proper_name, ⟨[], 0, rfl, Nat.zero_le _, .done _⟩, notDirectory⟩
  have replaced : replacePath (alone content) [116] (cleanup records).1 = (.ok (), _) :=
    replacePath_iff.mpr ⟨⟨_, _, made⟩, nofun, rfl, [], [116], place, rfl⟩
  rw [cleanPath, loadPath_alone, loaded]
  simp only [if_neg something, replaced]
  rfl

def served (phase : Phase) : Record where
  event := ⟨.server, phase⟩
  package := "p"
  version := .finite false 8388608 (-23)
  interface := "IFoo"
  message := { name := "f" }

theorem faithful_served (phase : Phase) : (served phase).Faithful where
  version := rfl
  arguments := nofun
  returns := nofun

/-- A call and its result are kept, and a call without a result is removed. -/
theorem cleanPath_legible_pair :
    let records := [Phase.entry, .exit, .entry].map served
    let call := [Phase.entry, .exit].map served
    loadPath (alone (bytesOf records)) [116] = .ok records ∧
      cleanPath (alone (bytesOf records)) [116] = (.ok ⟨2, 0, 1⟩, alone (bytesOf call)) ∧
      (∀ r ∈ (cleanup records).1, r.Legible) ∧
      (∀ r ∈ (cleanup records).1, Frame.Allocatable (Record.codec.encode r)) ∧
      loadPath (alone (bytesOf call)) [116] = .ok call ∧ (2 : Nat) = call.length := by
  intro records call
  have kept : (cleanup records).1.Sublist records := cleanup_sublist records
  have faithful : ∀ r ∈ records, r.Faithful :=
    List.forall_mem_map.mpr fun phase _ => faithful_served phase
  have allocatable : ∀ r ∈ records, Frame.Allocatable (Record.codec.encode r) := by decide +kernel
  have carried : ∀ r ∈ records, r.Carried := fun r hr => ⟨allocatable r hr, (faithful r hr).decoded⟩
  have read : Reader.all { source := .ofBytes (bytesOf records) } = .ok records :=
    all_eq_ok.mpr (records_bytesOf carried (Source.remaining_ofBytes _) rfl)
  have loaded := loadPath_alone.trans read
  have cleaned : cleanPath (alone (bytesOf records)) [116] = (.ok ⟨2, 0, 1⟩, _) :=
    cleanPath_alone read nofun
  have legible : ∀ r ∈ (cleanup records).1, r.Legible := fun r hr =>
    (faithful r (kept.subset hr)).legible
  have allocatable' := fun r hr => allocatable r (kept.subset hr)
  exact ⟨loaded, cleaned, legible, allocatable',
    cleanPath_legible loaded cleaned legible allocatable'⟩

def spelling (event function version : String) : Bytes :=
  Utf8.bytes (String.join ["\x7b\"event\":\"", event, "\",\"package\":\"p\",\"version\":", version,
    ",\"interface\":\"IFoo\",\"func_msg\":\x7b\"name\":\"", function, "\"\x7d\x7d"])

def tooLarge : Bytes :=
  [spelling "SERVER_API_ENTRY" "f" "1e39", spelling "SERVER_API_EXIT" "f" "1e39",
    spelling "SERVER_API_ENTRY" "g" "1.0"].flatMap Frame.encode

theorem cleanup_tooLarge : ∃ records,
    Reader.all { source := .ofBytes tooLarge } = .ok records ∧ (cleanup records).2 = ⟨2, 0, 1⟩ ∧
      (∀ r ∈ (cleanup records).1, Frame.Allocatable (Record.codec.encode r)) ∧
      ∃ r ∈ (cleanup records).1, (Record.codec.decode (Record.codec.encode r)).isOk = false := by
  have computed : (match Reader.all { source := .ofBytes tooLarge } with
      | .ok records => decide ((cleanup records).2 = ⟨2, 0, 1⟩ ∧
        (∀ r ∈ (cleanup records).1, Frame.Allocatable (Record.codec.encode r)) ∧
        ∃ r ∈ (cleanup records).1, (Record.codec.decode (Record.codec.encode r)).isOk = false)
      | .error _ => false) = true := by
    decide +kernel
  cases read : Reader.all { source := .ofBytes tooLarge } with
  | error e =>
    rw [read] at computed
    cases computed
  | ok records =>
    rw [read] at computed
    exact ⟨records, rfl, of_decide_eq_true computed⟩

/-- A trace with a version that is too large is read and is cleaned, and then it is not read. -/
theorem cleanPath_tooLarge : ∃ records after,
    loadPath (alone tooLarge) [116] = .ok records ∧
      cleanPath (alone tooLarge) [116] = (.ok ⟨2, 0, 1⟩, after) ∧
      loadPath after [116] ≠ .ok (cleanup records).1 := by
  obtain ⟨records, read, report, allocatable, r, mem, unread⟩ := cleanup_tooLarge
  have loaded : loadPath (alone tooLarge) [116] = .ok records := loadPath_alone.trans read
  have cleaned := cleanPath_alone read (by rw [report]; decide)
  rw [report] at cleaned
  refine ⟨records, _, loaded, cleaned, fun again => ?_⟩
  have either := (cleanPath_loadPath loaded cleaned allocatable).2.mp again
  rcases either with nothing | decoded
  · cases nothing
  · rw [decoded r mem] at unread
    cases unread

end Alone

end HalBench.Trace
