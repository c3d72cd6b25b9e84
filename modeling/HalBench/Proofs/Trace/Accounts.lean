import HalBench.Driver.Scripted
import HalBench.Driver.Table
import HalBench.Proofs.Trace.Cleaning
import HalBench.Proofs.Trace.Groups
import HalBench.Proofs.Trace.Operations

/-! What a replay reports. Each group that matches is one trial: a driver was found and called, its
answer was read and compared. The numbers of a report count groups and trials, and its mismatches
are the trials in which the driver did not agree. -/

namespace HalBench.Trace

open Service

/-- A call that was made again: its group and its number among all groups, the driver, what it
answered, and whether it agreed with the recorded result. -/
structure Trial where
  pair : Nat
  call : Record
  result : Record
  driver : Driver.Id
  output : String
  actual : Message
  agrees : Bool

namespace Trial

def group (t : Trial) : (Record × Record) × Nat := ((t.call, t.result), t.pair)

structure Answered (t : Trial) : Prop where
  word : ¬ (t.output = "void" ∨ t.output = "error")
  read : Message.ofText t.output = .ok t.actual

variable (instances : Index String)

def operations (t : Trial) : List Operation :=
  [.resolve (targetOf instances t.call) (some t.driver), .invoke t.driver t.call.message t.output,
    .verify t.driver t.result.message t.actual t.agrees]

/-- What is reported of a trial in which the driver did not agree. -/
def mismatch (t : Trial) : Mismatch :=
  ⟨t.pair, targetOf instances t.call, t.call.message.name, t.result.message, t.actual⟩

def mismatches (trials : List Trial) : List Mismatch :=
  (trials.filter fun t => !t.agrees).map (mismatch instances)

theorem mismatches_cons (t : Trial) (trials : List Trial) :
    mismatches instances (t :: trials) = mismatches instances [t] ++ mismatches instances trials := by
  rw [mismatches, mismatches, mismatches, ← List.map_append, ← List.filter_append]
  rfl

end Trial

variable {ρ : Type} [Registry ρ] {instances : Index String} {ending : Option Error} {pair : Nat}
  {groups : List (Record × Record)} {report summary : ReplaySummary} {n n' : Noted ρ}

theorem repeatCall_trial {call result : Record} {mismatch : Option Mismatch}
    (h : repeatCall instances pair call result n = (.ok mismatch, n')) :
    ∃ t : Trial, t.group = ((call, result), pair) ∧ t.Answered ∧
      n'.notes = n.notes ++ t.operations instances ∧
      mismatch.toList = Trial.mismatches instances [t] := by
  cases resolved : Registry.resolve (targetOf instances call) n.registry with
  | mk found r =>
    simp only [repeatCall, resolve_noted resolved] at h
    cases found with
    | none => cases h
    | some id =>
      cases invoked : Registry.invoke id call.message r with
      | mk output s =>
        have invoked' := invoke_noted
          (n := ⟨r, n.notes ++ [.resolve (targetOf instances call) (some id)]⟩) invoked
        simp only [invoked'] at h
        by_cases word : output = "void" ∨ output = "error"
        · rcases classify_word word with class_ | class_
          · rw [class_] at h
            cases h
          · rw [class_] at h
            cases h
        · rw [classify_text word] at h
          cases read : Message.ofText output with
          | error fault =>
            simp only [read] at h
            cases h
          | ok actual =>
            cases verified : Registry.verify id result.message actual s with
            | mk agrees t =>
              have verified' := verify_noted
                (n := ⟨s, n.notes ++ [.resolve (targetOf instances call) (some id)] ++
                  [.invoke id call.message output]⟩) verified
              simp only [read, verified'] at h
              cases h
              refine ⟨⟨pair, call, result, id, output, actual, agrees⟩, rfl, ⟨word, read⟩, ?_, ?_⟩
              · simp only [Trial.operations, List.append_assoc, List.cons_append, List.nil_append]
              · cases agrees
                · rfl
                · rfl

/-- The summary after some groups, by the trials that were made of them. -/
structure Accounts (instances : Index String) (groups : List ((Record × Record) × Nat))
    (trials : List Trial) (before after : ReplaySummary) : Prop where
  made : trials.map Trial.group = groups.filter fun g => isPair g.1.1 g.1.2
  answered : ∀ t ∈ trials, t.Answered
  fallbacks : after.fallbacks =
    before.fallbacks + trials.countP fun t => (instances.get? t.call.qualifiedName).isNone
  mismatches : after.mismatches = before.mismatches ++ Trial.mismatches instances trials

/-- A replay that comes to the end has made a trial of each group that matches. -/
theorem replayGroups_trials
    (h : replayGroups instances ending pair groups report n = (.ok summary, n')) :
    ending = none ∧ ∃ trials, Accounts instances (groups.zipIdx pair) trials report summary ∧
      n'.notes = n.notes ++ trials.flatMap (Trial.operations instances) := by
  -- The report, the notes and the number of the next group are those that came before, so that
  -- skipped groups are counted too.
  induction groups generalizing pair report n with
  | nil =>
    cases ending with
    | some e => cases h
    | none =>
      cases h
      refine ⟨rfl, [], ⟨rfl, List.forall_mem_nil _, rfl, ?_⟩, ?_⟩
      · exact (List.append_nil _).symm
      · exact (List.append_nil _).symm
  | cons group rest ih =>
    obtain ⟨call, result⟩ := group
    rw [List.zipIdx_cons]
    cases matched : isPair call result with
    | false =>
      rw [replayGroups_skipped matched] at h
      obtain ⟨clean, trials, accounts, notes⟩ := ih h
      refine ⟨clean, trials, ⟨?_, accounts.answered, accounts.fallbacks, accounts.mismatches⟩, notes⟩
      rw [List.filter_cons_of_neg (by simp [matched])]
      exact accounts.made
    | true =>
      cases repeated : repeatCall instances pair call result n with
      | mk answer after =>
        cases answer with
        | error failure =>
          rw [replayGroups_failed matched repeated] at h
          cases h
        | ok mismatch =>
          rw [replayGroups_repeated matched repeated] at h
          obtain ⟨t, group, answered, noted, told⟩ := repeatCall_trial repeated
          obtain ⟨clean, trials, accounts, notes⟩ := ih h
          refine ⟨clean, t :: trials, ⟨?_, ?_, ?_, ?_⟩, ?_⟩
          · rw [List.filter_cons, if_pos matched, List.map_cons, group, accounts.made]
          · exact List.forall_mem_cons.mpr ⟨answered, accounts.answered⟩
          · have same : t.call = call := congrArg (·.1.1) group
            rw [accounts.fallbacks, List.countP_cons, same]
            simp only [ReplaySummary.addPair]
            omega
          · rw [accounts.mismatches, Trial.mismatches_cons, ← told]
            exact List.append_assoc ..
          · rw [notes, noted, List.append_assoc, List.flatMap_cons]

theorem isPair_eq_decide (call result : Record) :
    isPair call result = decide (call.event.matchingExit = some result.event) := by
  rw [Bool.eq_iff_iff, isPair_iff, decide_eq_true_iff]

theorem length_filter_zipIdx {α : Type} (l : List α) (first : Nat) (p : α → Bool) :
    ((l.zipIdx first).filter fun e => p e.1).length = l.countP p := by
  have elements : (l.zipIdx first).map Prod.fst = l := List.zipIdx_map_fst ..
  rw [← List.countP_eq_length_filter]
  conv => rhs; rw [← elements, List.countP_map]
  rfl

/-- Trials are numbered by their groups, of which some may have been skipped. -/
theorem pairs_ascending {trials : List Trial} {p : (Record × Record) × Nat → Bool}
    (made : trials.map Trial.group = (groups.zipIdx pair).filter p) :
    (trials.map Trial.pair).Pairwise (· < ·) := by
  have numbers : trials.map Trial.pair = ((groups.zipIdx pair).filter p).map Prod.snd := by
    rw [← made, List.map_map]
    rfl
  have among : (((groups.zipIdx pair).filter p).map Prod.snd).Sublist
      (List.range' pair groups.length) := by
    have all : (groups.zipIdx pair).map Prod.snd = List.range' pair groups.length :=
      List.zipIdx_map_snd ..
    rw [← all]
    exact List.filter_sublist.map _
  rw [numbers]
  exact List.Pairwise.sublist among (List.pairwise_lt_range' _)

theorem Trial.mismatches_ascending {trials : List Trial}
    (ascending : (trials.map Trial.pair).Pairwise (· < ·)) :
    ((Trial.mismatches instances trials).map Mismatch.pair).Pairwise (· < ·) := by
  have numbers : (Trial.mismatches instances trials).map Mismatch.pair =
      (trials.filter fun t => !t.agrees).map Trial.pair := by
    rw [Trial.mismatches, List.map_map]
    rfl
  rw [numbers]
  exact ascending.sublist (List.filter_sublist.map _)

theorem Trial.mismatches_isEmpty {trials : List Trial} :
    (Trial.mismatches instances trials).isEmpty = true ↔ ∀ t ∈ trials, t.agrees = true := by
  simp [Trial.mismatches]

/-- The report of a replay that comes to the end. Its trace was read to the end; every two records
were replayed or skipped, and those whose events match were replayed, with the default instance
where none is named for the interface. Each of them was one trial, in their order, and the trials
are all that the registry was asked. The mismatches are the trials in which the driver did not
agree, numbered by their groups, and a report without them is clean. -/
theorem replay_accounts {reader : Reader} {registry : ρ}
    (h : replay instances reader (⟨registry, []⟩ : Noted ρ) = (.ok summary, n')) :
    let records := reader.records.1
    let matching := (Reader.groups records).zipIdx.filter fun g =>
      g.1.1.event.matchingExit = some g.1.2.event
    reader.records.2 = none ∧
    summary.replayed + summary.skipped = records.length / 2 ∧
    summary.replayed = matching.length ∧
    summary.fallbacks =
      matching.countP (fun g => (instances.get? g.1.1.qualifiedName).isNone) ∧
    (∃ trials : List Trial, trials.map Trial.group = matching ∧ (∀ t ∈ trials, t.Answered) ∧
      n'.notes = trials.flatMap (Trial.operations instances) ∧
      summary.mismatches = (trials.filter fun t => !t.agrees).map (Trial.mismatch instances) ∧
      (summary.isClean = true ↔ ∀ t ∈ trials, t.agrees = true)) ∧
    (summary.mismatches.map Mismatch.pair).Pairwise (· < ·) ∧
    Performs registry n'.notes n'.registry ∧
    replay instances reader registry = (.ok summary, n'.registry) := by
  intro records matching
  obtain ⟨performed, same, -⟩ := replay_noted h
  rw [replay_eq] at h
  obtain ⟨clean, trials, accounts, notes⟩ := replayGroups_trials h
  obtain ⟨replayed, skipped⟩ :
      summary.replayed = 0 + (Reader.groups records).countP (fun g => isPair g.1 g.2) ∧
      summary.skipped = 0 + (Reader.groups records).countP (fun g => !isPair g.1 g.2) :=
    replayGroups_counts (congrArg Prod.fst h)
  have made : trials.map Trial.group = matching := by
    rw [accounts.made]
    simp only [isPair_eq_decide]
    rfl
  have mismatches : summary.mismatches = Trial.mismatches instances trials := accounts.mismatches
  refine ⟨clean, ?_, ?_, ?_, ⟨trials, made, accounts.answered, notes, mismatches, ?_⟩, ?_,
    performed, same⟩
  · have both := List.length_eq_countP_add_countP (fun g : Record × Record => isPair g.1 g.2)
      (l := Reader.groups records)
    rw [Reader.length_groups] at both
    simp only [Bool.not_eq_true, Bool.decide_eq_false] at both
    omega
  · have number := length_filter_zipIdx (Reader.groups records) 0 fun g => isPair g.1 g.2
    rw [replayed, ← number, ← accounts.made, made]
    exact Nat.zero_add _
  · rw [accounts.fallbacks, ← made, List.countP_map]
    exact Nat.zero_add _
  · rw [ReplaySummary.isClean, mismatches]
    exact Trial.mismatches_isEmpty
  · rw [mismatches]
    exact Trial.mismatches_ascending (pairs_ascending made)

/-- Of three groups the second is skipped, and the result of the third differs from the recorded
one, which has the name of another function. A record is left over. -/
theorem replay_accounts_other :
    let records := [served .entry, served .exit, served .exit, served .entry, served .entry,
      { served .exit with message := { name := "g" } }, served .entry]
    let echo : Driver.Scripted := { otherwise := some .echo }
    let table : Driver.Table Driver.Scripted × Unit :=
      ((({} : Driver.Table _).register ⟨"p", "1.0", "IFoo", "default"⟩ .hidl echo).2, ())
    ∃ summary noted, replay .empty ⟨.ofBytes (bytesOf records), 0⟩ (⟨table, []⟩ : Noted _) =
        (.ok summary, noted) ∧
      summary.replayed = 2 ∧ summary.skipped = 1 ∧ summary.fallbacks = 2 ∧
      summary.mismatches.map Mismatch.pair = [2] ∧
      ∃ trials : List Trial, trials.map Trial.pair = [0, 2] ∧
        ¬ ∀ t ∈ trials, t.agrees = true := by
  intro records echo table
  have faithful : ∀ r ∈ records, r.Faithful := by
    have plain (phase : Phase) (name : String) :
        Record.Faithful { served phase with message := { name } } := ⟨rfl, nofun, nofun⟩
    intro r mem
    simp only [records, List.mem_cons, List.not_mem_nil, or_false] at mem
    rcases mem with rfl | rfl | rfl | rfl | rfl | rfl | rfl
    all_goals exact plain _ _
  have allocatable : ∀ r ∈ records, Frame.Allocatable (Record.codec.encode r) := by decide +kernel
  have read : Reader.records ⟨.ofBytes (bytesOf records), 0⟩ = (records, none) :=
    records_bytesOf (fun r hr => (faithful r hr).carried (allocatable r hr))
      (Source.remaining_ofBytes _) rfl
  have computed : (match (replayGroups .empty none 0 (Reader.groups records) {}
        (⟨table, []⟩ : Noted _)).1 with
      | .ok summary => decide (summary.mismatches.map Mismatch.pair = [2])
      | .error _ => false) = true := by
    decide +kernel
  cases h : replay .empty ⟨.ofBytes (bytesOf records), 0⟩ (⟨table, []⟩ : Noted _) with
  | mk outcome noted =>
    have groups := h
    rw [replay_eq, read] at groups
    rw [groups] at computed
    cases outcome with
    | error failure => cases computed
    | ok summary =>
      have differs : summary.mismatches.map Mismatch.pair = [2] := of_decide_eq_true computed
      obtain ⟨-, total, replayed, fallbacks, ⟨trials, made, -, -, -, clean⟩, -⟩ := replay_accounts h
      rw [read] at total replayed fallbacks made
      have two : summary.replayed = 2 := replayed
      have three : summary.replayed + summary.skipped = 7 / 2 := total
      have pairs : trials.map Trial.pair = [0, 2] := by
        have numbers := congrArg (List.map Prod.snd) made
        rw [List.map_map] at numbers
        exact numbers
      refine ⟨summary, noted, rfl, two, by omega, fallbacks, differs, trials, pairs, ?_⟩
      intro agree
      have none : summary.mismatches = [] := List.isEmpty_iff.mp (clean.mpr agree)
      rw [none] at differs
      cases differs

end HalBench.Trace
