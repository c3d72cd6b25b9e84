import HalBench.Proofs.Json.Printed
import HalBench.Proofs.Text.Cut
import HalBench.Proofs.Trace.Cleaning
import HalBench.Tool.TraceTool
import Mathlib.Algebra.GroupWithZero.Nat

/-! What is printed for a trace: the text of each record and a newline after it. A package and an
interface stand in the text of a record as they are, with their line breaks, and nothing else in it
has one. So the texts are the lines of the output where no name of an interface has a line break. -/

namespace HalBench.Trace

theorem newline_not_mem_toString (i : Int) : '\n' ∉ (toString i).toList := by
  have digits (n : Nat) : '\n' ∉ (toString n).toList := by
    rw [Digits.toList_toString]
    exact Json.newline_not_mem (Json.graphic_of_visible Decimal.visible_toDigits)
  cases i with
  | ofNat n => exact digits n
  | negSucc n =>
    have text : toString (Int.negSucc n) = "-" ++ toString (n + 1) := rfl
    rw [text, String.toList_append, List.mem_append]
    exact not_or.mpr ⟨by decide, digits (n + 1)⟩

theorem Event.newline_not_mem_name (e : Event) : '\n' ∉ e.name.toList := by
  obtain ⟨side, phase⟩ := e
  cases side <;> cases phase <;> decide

namespace Record

/-- How many line breaks the name of the interface of a record has. -/
def breaks (r : Record) : Nat := r.package.toList.count '\n' + r.interface.toList.count '\n'

theorem breaks_eq_zero {r : Record} :
    r.breaks = 0 ↔ '\n' ∉ r.package.toList ∧ '\n' ∉ r.interface.toList := by
  rw [breaks, Nat.add_eq_zero_iff, List.count_eq_zero, List.count_eq_zero]

theorem newline_not_mem_versionText (r : Record) : '\n' ∉ r.versionText.toList := by
  rw [versionText, Trace.versionText, String.toList_ofList]
  exact Json.newline_not_mem (Json.graphic_of_visible (Decimal.visible_oneDecimal _))

/-- The line breaks in the text of a record are those of its package and its interface. -/
theorem count_display (r : Record) : r.display.toList.count '\n' = r.breaks := by
  have timestamp := List.count_eq_zero.mpr (newline_not_mem_toString r.timestamp.toInt)
  have event := List.count_eq_zero.mpr r.event.newline_not_mem_name
  have version := List.count_eq_zero.mpr r.newline_not_mem_versionText
  have message : r.message.toText.toList.count '\n' = 0 :=
    List.count_eq_zero.mpr (Service.Message.codec.newline_not_mem_toText r.message)
  have blank : " ".toList.count '\n' = 0 := by decide
  have at_ : "@".toList.count '\n' = 0 := by decide
  have colons : "::".toList.count '\n' = 0 := by decide
  simp only [display, qualifiedName, Service.qualifiedName, String.toList_append, List.count_append,
    timestamp, event, version, message, blank, at_, colons, breaks]
  omega

theorem newline_mem_display {r : Record} : '\n' ∈ r.display.toList ↔
    '\n' ∈ r.package.toList ∨ '\n' ∈ r.interface.toList := by
  rw [← not_iff_not, ← List.count_eq_zero, count_display, breaks_eq_zero, not_or]

end Record

end HalBench.Trace

namespace HalBench.Tool.TraceTool

open Trace

variable {m : Machine} {path : Files.Path} {records : List Record}

theorem dumpLoop_eq (fuel : Nat) (reader : Reader) : dumpLoop fuel ⟨reader, false⟩ =
    ((reader.recordsLoop fuel).1.map Record.display, (reader.recordsLoop fuel).2) := by
  induction fuel generalizing reader with
  | zero => rfl
  | succ fuel ih =>
    rw [dumpLoop, Reader.recordsLoop, Iteration.next, if_neg (by simp)]
    cases read : reader.readRecord with
    | mk answer s =>
      cases answer with
      | error e => rfl
      | ok found =>
        cases found with
        | none => rfl
        | some record =>
          simp only [ih]
          rfl

theorem dumpTrace_eq (loaded : Trace.loadPath m.files path = .ok records) :
    dumpTrace path m = .printing (records.map Record.display) := by
  obtain ⟨reader, opened, all⟩ := ok_of_bind loaded
  have read : reader.recordsLoop (reader.source.remaining.length + 1) = (records, none) :=
    all_eq_ok.mp all
  rw [dumpTrace, opened]
  simp only [dumpLoop_eq, read]

theorem toList_printing (lines : List String) :
    (Outcome.printing lines).output.toList = (lines.map String.toList).flatMap (· ++ ['\n']) := by
  rw [Outcome.printing, String.toList_join, List.flatMap_map, List.flatMap_map]
  simp only [String.toList_append]
  rfl

/-- The newlines of some printed lines: one after each, and those within them. -/
theorem count_printing (lines : List String) : (Outcome.printing lines).output.toList.count '\n' =
    lines.length + (lines.map fun l => l.toList.count '\n').sum := by
  rw [toList_printing]
  induction lines with
  | nil => rfl
  | cons l lines ih =>
    rw [List.map_cons, List.flatMap_cons, List.count_append, List.count_append, ih, List.map_cons,
      List.sum_cons, List.length_cons]
    have newline : ['\n'].count '\n' = 1 := rfl
    omega

/-- Printed lines are the lines of the output exactly where none has a line break of its own. -/
theorem splitOn_printing (lines : List String) :
    Text.splitOn '\n' (Outcome.printing lines).output.toList = lines.map String.toList ++ [[]] ↔
      ∀ l ∈ lines, '\n' ∉ l.toList := by
  constructor
  · intro same l hl member
    have length := congrArg List.length same
    rw [Text.length_splitOn, count_printing, List.length_append, List.length_map,
      List.length_singleton] at length
    have total : (lines.map fun l => l.toList.count '\n').sum = 0 := by omega
    have none := List.sum_eq_zero_iff_forall_eq_nat.mp total _ (List.mem_map_of_mem hl)
    exact List.count_eq_zero.mp none member
  · intro plain
    rw [toList_printing]
    exact Text.splitOn_lines (List.forall_mem_map.mpr plain)

/-- The trace that was written of faithful records is read from its file. -/
theorem loadPath_written (faithful : ∀ r ∈ records, r.Faithful)
    (allocatable : ∀ r ∈ records, Frame.Allocatable (Record.codec.encode r)) :
    Trace.loadPath (alone (bytesOf records)) [116] = .ok records := by
  have carried : ∀ r ∈ records, r.Carried := by
    intro r hr
    exact (faithful r hr).carried (allocatable r hr)
  rw [loadPath_alone]
  exact all_eq_ok.mpr (records_bytesOf carried (Source.remaining_ofBytes _) rfl)

/-- A readable trace is printed as the texts of its records, each with a newline after it. A text
has the line breaks that the package and the interface of its record have, and no others, and these
are all the newlines that are printed besides. So the lines of the output are the texts of the
records exactly where no package and no interface has a line break. -/
theorem dump_lines (loaded : Trace.loadPath m.files path = .ok records) :
    let o := dumpTrace path m
    o.code = 0 ∧ o.complaints = "" ∧
    o.output = String.join (records.map fun r => r.display ++ "\n") ∧
    (∀ r : Record, r.display.toList.count '\n' =
      r.package.toList.count '\n' + r.interface.toList.count '\n') ∧
    o.output.toList.count '\n' = records.length + (records.map Record.breaks).sum ∧
    (Text.splitOn '\n' o.output.toList = records.map (·.display.toList) ++ [[]] ↔
      ∀ r ∈ records, '\n' ∉ r.package.toList ∧ '\n' ∉ r.interface.toList) := by
  intro o
  have printed : o = .printing (records.map Record.display) := dumpTrace_eq loaded
  rw [printed]
  refine ⟨rfl, rfl, ?_, Record.count_display, ?_, ?_⟩
  · rw [Outcome.printing, List.map_map]
    rfl
  · rw [count_printing, List.length_map, List.map_map]
    simp only [Function.comp_def, Record.count_display]
  · have lines := splitOn_printing (records.map Record.display)
    rw [List.map_map, List.forall_mem_map] at lines
    refine lines.trans (forall₂_congr fun r _ => ?_)
    rw [Record.newline_mem_display, not_or]

/-- A call without line breaks in its names is printed on two lines. -/
theorem dump_lines_call :
    let records := [Phase.entry, .exit].map served
    let m : Machine := { files := alone (bytesOf records) }
    Trace.loadPath m.files [116] = .ok records ∧
      (dumpTrace [116] m).code = 0 ∧ (dumpTrace [116] m).output.toList.count '\n' = 2 ∧
      Text.splitOn '\n' (dumpTrace [116] m).output.toList =
        ["0 SERVER_API_ENTRY p@1.0::IFoo \x7b\"name\":\"f\"\x7d".toList,
          "0 SERVER_API_EXIT p@1.0::IFoo \x7b\"name\":\"f\"\x7d".toList, []] := by
  intro records m
  have loaded : Trace.loadPath m.files [116] = .ok records :=
    loadPath_written (List.forall_mem_map.mpr fun phase _ => faithful_served phase)
      (by decide +kernel)
  obtain ⟨code, -, -, -, count, lines⟩ := dump_lines loaded
  refine ⟨loaded, code, count, ?_⟩
  rw [lines.mpr (by decide)]
  decide +kernel

def broken : Record := { served .entry with package := "a\nb" }

/-- The trace has one record, and two lines are printed for it, neither of them its text. -/
theorem dump_broken :
    let m : Machine := { files := alone (bytesOf [broken]) }
    Trace.loadPath m.files [116] = .ok [broken] ∧ '\n' ∈ broken.display.toList ∧
      (dumpTrace [116] m).output.toList.count '\n' = 2 ∧
      Text.splitOn '\n' (dumpTrace [116] m).output.toList ≠ [broken.display.toList, []] := by
  intro m
  have faithful : broken.Faithful := ⟨rfl, nofun, nofun⟩
  have loaded : Trace.loadPath m.files [116] = .ok [broken] :=
    loadPath_written (List.forall_mem_singleton.mpr faithful) (by decide +kernel)
  have printed := dumpTrace_eq loaded
  have member : '\n' ∈ broken.display.toList := Record.newline_mem_display.mpr (.inl (by decide))
  refine ⟨loaded, member, ?_, ?_⟩
  · rw [printed, count_printing, List.map_singleton, List.map_singleton, Record.count_display]
    rfl
  · rw [printed]
    intro same
    exact (splitOn_printing [broken.display]).mp same _ List.mem_cons_self member

end HalBench.Tool.TraceTool
