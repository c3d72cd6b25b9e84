import HalBench.Proofs.Trace.Reading
import HalBench.Trace.Replay

/-! A replay goes through the groups of its trace. In which pieces the trace arrives does not
matter to it, only which groups there are and how the trace ends; so what holds of every replay is
shown by induction on the groups. -/

namespace HalBench.Trace

open Service

variable {ρ : Type} [Registry ρ]

/-- Replays groups from the one numbered `pair` on, in a trace that has then the given ending. -/
def replayGroups (instances : Index String) (ending : Option Error) :
    Nat → List (Record × Record) → ReplaySummary → ρ → Except ReplayFailure ReplaySummary × ρ
  | _, [], report, registry =>
    match ending with
    | none => (.ok report, registry)
    | some e => (.error (.trace e), registry)
  | pair, (call, expected) :: rest, report, registry =>
    if isPair call expected then
      match repeatCall instances pair call expected registry with
      | (.error e, registry) => (.error e, registry)
      | (.ok mismatch, registry) =>
        let isFallback := (instances.get? call.qualifiedName).isNone
        replayGroups instances ending (pair + 1) rest (report.addPair isFallback mismatch) registry
    else
      replayGroups instances ending (pair + 1) rest { report with skipped := report.skipped + 1 }
        registry

section Groups

variable {instances : Index String} {ending : Option Error} {pair : Nat} {call expected : Record}
  {rest : List (Record × Record)} {report : ReplaySummary} {registry after : ρ}

theorem replayGroups_skipped (unmatched : isPair call expected = false) :
    replayGroups instances ending pair ((call, expected) :: rest) report registry =
      replayGroups instances ending (pair + 1) rest
        { report with skipped := report.skipped + 1 } registry := by
  rw [replayGroups, unmatched]
  rfl

theorem replayGroups_failed {failure : ReplayFailure} (matched : isPair call expected = true)
    (repeated : repeatCall instances pair call expected registry = (.error failure, after)) :
    replayGroups instances ending pair ((call, expected) :: rest) report registry =
      (.error failure, after) := by
  rw [replayGroups, if_pos matched, repeated]

theorem replayGroups_repeated {mismatch : Option Mismatch} (matched : isPair call expected = true)
    (repeated : repeatCall instances pair call expected registry = (.ok mismatch, after)) :
    replayGroups instances ending pair ((call, expected) :: rest) report registry =
      replayGroups instances ending (pair + 1) rest
        (report.addPair (instances.get? call.qualifiedName).isNone mismatch) after := by
  rw [replayGroups, if_pos matched, repeated]

/-- A replay that comes to the end has replayed each group that matches and skipped the others. -/
theorem replayGroups_counts {groups : List (Record × Record)} {summary : ReplaySummary}
    (h : (replayGroups instances ending pair groups report registry).1 = .ok summary) :
    summary.replayed = report.replayed + groups.countP (fun g => isPair g.1 g.2) ∧
      summary.skipped = report.skipped + groups.countP (fun g => !isPair g.1 g.2) := by
  induction groups generalizing pair report registry with
  | nil =>
    cases ending with
    | none =>
      cases h
      exact ⟨rfl, rfl⟩
    | some e => cases h
  | cons group rest ih =>
    obtain ⟨call, expected⟩ := group
    cases matched : isPair call expected with
    | false =>
      rw [replayGroups_skipped matched] at h
      obtain ⟨replayed, skipped⟩ := ih h
      simp only [List.countP_cons, matched, replayed, skipped]
      constructor
      · simp
      · simp only [Bool.not_false, if_true]
        omega
    | true =>
      cases repeated : repeatCall instances pair call expected registry with
      | mk answer after =>
        cases answer with
        | error failure =>
          rw [replayGroups_failed matched repeated] at h
          cases h
        | ok mismatch =>
          rw [replayGroups_repeated matched repeated] at h
          obtain ⟨replayed, skipped⟩ := ih h
          simp only [List.countP_cons, matched, replayed, skipped, ReplaySummary.addPair]
          constructor
          · simp only [if_true]
            omega
          · simp

theorem replayGroups_matched {groups : List (Record × Record)} {summary : ReplaySummary}
    (matched : ∀ g ∈ groups, isPair g.1 g.2 = true)
    (h : (replayGroups instances ending pair groups report registry).1 = .ok summary) :
    summary.replayed = report.replayed + groups.length ∧ summary.skipped = report.skipped := by
  obtain ⟨replayed, skipped⟩ := replayGroups_counts h
  have nothing : groups.countP (fun g => !isPair g.1 g.2) = 0 :=
    List.countP_eq_zero.mpr fun g hg => by simp [matched g hg]
  rw [List.countP_eq_length.mpr matched] at replayed
  rw [nothing] at skipped
  exact ⟨replayed, skipped⟩

end Groups

theorem replayLoop_eq (instances : Index String) {fuel : Nat} (pair : Nat) {reader : Reader}
    (enough : reader.source.remaining.length < fuel) (report : ReplaySummary) (registry : ρ) :
    replayLoop instances fuel pair reader report registry =
      replayGroups instances reader.records.2 pair (Reader.groups reader.records.1) report
        registry := by
  -- A turn takes the first group off the trace, and with it some of the bytes that bound the fuel.
  induction fuel generalizing pair reader report registry with
  | zero => exact absurd enough (Nat.not_lt_zero _)
  | succ fuel ih =>
    rcases reader.readPair_cases with ⟨e, _, read, groups, ending⟩ |
      ⟨_, read | ⟨record, read⟩, groups, ending⟩ | ⟨call, result, later, read, less, groups, ending⟩
    · rw [groups, ending]
      simp only [replayLoop, read, replayGroups]
    · rw [groups, ending]
      simp only [replayLoop, read, replayGroups]
    · rw [groups, ending]
      simp only [replayLoop, read, replayGroups]
    · have shorter : later.source.remaining.length < fuel := by omega
      rw [groups, ending]
      cases matched : isPair call result with
      | false =>
        rw [replayGroups_skipped matched, ← ih (pair + 1) shorter]
        simp only [replayLoop, read, matched]
        rfl
      | true =>
        cases repeated : repeatCall instances pair call result registry with
        | mk answer after =>
          cases answer with
          | error failure =>
            rw [replayGroups_failed matched repeated]
            simp only [replayLoop, read, matched, repeated, if_true]
          | ok mismatch =>
            rw [replayGroups_repeated matched repeated, ← ih (pair + 1) shorter]
            simp only [replayLoop, read, matched, repeated, if_true]

/-- A replay is determined by the groups of its trace and by how the trace ends. -/
theorem replay_eq (instances : Index String) (reader : Reader) (registry : ρ) :
    replay instances reader registry =
      replayGroups instances reader.records.2 0 (Reader.groups reader.records.1) {} registry :=
  replayLoop_eq instances 0 (Nat.lt_succ_self _) {} registry

end HalBench.Trace
