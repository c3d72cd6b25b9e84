import HalBench.Driver.Scripted
import HalBench.Driver.Table
import HalBench.Proofs.Trace.Cleaning
import HalBench.Proofs.Trace.Groups
import HalBench.Proofs.Trace.Operations

/-! The records that a cleanup keeps are replayed without skips. Taken two by two they are the
entries and exits that belong together, wherever records were removed between them: every group
that the replay comes to is looked up, and when none of them fails all groups are replayed. -/

namespace HalBench.Trace

open Service

/-- The pairs that are kept stand at even places, with nothing before, between or after them. -/
theorem groups_keepPairs (records : List Record) :
    (Reader.groups (keepPairs records)).flatMap (fun g => [g.1, g.2]) = keepPairs records ∧
      ∀ g ∈ Reader.groups (keepPairs records), isCompleteCall g.1 g.2 = true := by
  fun_induction keepPairs records with
  | case1 => simp [Reader.groups]
  | case2 => simp [Reader.groups]
  | case3 a b r complete ih =>
    obtain ⟨whole, matched⟩ := ih
    refine ⟨?_, List.forall_mem_cons.mpr ⟨complete, matched⟩⟩
    rw [Reader.groups, List.flatMap_cons, whole]
    rfl
  | case4 a b r incomplete ih => exact ih

theorem groups_cleanup (records : List Record) :
    let kept := (cleanup records).1
    (Reader.groups kept).flatMap (fun g => [g.1, g.2]) = kept ∧
      ∀ g ∈ Reader.groups kept, isCompleteCall g.1 g.2 = true := by
  rw [cleanup_counts]
  exact groups_keepPairs _

theorem isPair_of_isCompleteCall {call result : Record} (h : isCompleteCall call result = true) :
    isPair call result = true := by
  simp only [isCompleteCall, Bool.and_eq_true] at h
  exact h.1.1

theorem length_groups {records : List Record} {groups : List (Record × Record)}
    (whole : groups.flatMap (fun g => [g.1, g.2]) = records) :
    records.length = 2 * groups.length := by
  rw [← whole]
  clear whole
  induction groups with
  | nil => rfl
  | cons g rest ih =>
    rw [List.flatMap_cons, List.length_append, ih, List.length_cons]
    simp only [List.length_cons, List.length_nil]
    omega

def ReplayFailure.pair? : ReplayFailure → Option Nat
  | trace _ => none
  | unresolved _ pair => some pair
  | invocation _ _ _ pair => some pair
  | result _ pair _ => some pair

/-- The keys that a registry is asked for, in the order of the questions. -/
def lookups (operations : List Operation) : List Key :=
  operations.filterMap fun
    | .resolve key _ => some key
    | _ => none

theorem lookups_append (operations later : List Operation) :
    lookups (operations ++ later) = lookups operations ++ lookups later := List.filterMap_append

/-- The keys of all groups are looked up, or those up to the group at which the replay fails. -/
def LooksUp {α : Type} (instances : Index String) (pair : Nat) (groups : List (Record × Record))
    (operations : List Operation) : Except ReplayFailure α → Prop
  | .ok _ => lookups operations = groups.map fun g => targetOf instances g.1
  | .error failure => ∃ n < groups.length, failure.pair? = some (pair + n) ∧
      lookups operations = (groups.take (n + 1)).map fun g => targetOf instances g.1

section Looking

variable {instances : Index String} {pair : Nat} {call result : Record}
  {operations : List Operation} {outcome : Except ReplayFailure Unit}

theorem Repeats.lookups_eq (h : Repeats instances pair call result operations outcome) :
    lookups operations = [targetOf instances call] := by
  cases h <;> rfl

theorem Repeats.pair?_eq {failure : ReplayFailure}
    (h : Repeats instances pair call result operations (.error failure)) :
    failure.pair? = some pair := by
  cases h <;> rfl

/-- Where all groups match and the trace is whole, no group is passed over. -/
theorem Course.looksUp {groups : List (Record × Record)}
    (course : Course instances none pair groups operations outcome)
    (matched : ∀ g ∈ groups, isPair g.1 g.2 = true) :
    LooksUp instances pair groups operations outcome := by
  induction course with
  | finished => exact rfl
  | broken broken => cases broken
  | skipped unmatched => exact absurd (isPair_iff.mp (matched _ List.mem_cons_self)) unmatched
  | stopped _ repeated =>
    exact ⟨0, Nat.succ_pos _, repeated.pair?_eq, repeated.lookups_eq⟩
  | @goneOn pair call result rest operations later outcome _ repeated _ ih =>
    have further := ih fun g hg => matched g (List.mem_cons_of_mem _ hg)
    cases outcome with
    | ok =>
      show lookups (operations ++ later) = _
      rw [lookups_append, repeated.lookups_eq, show lookups later = _ from further]
      rfl
    | error failure =>
      obtain ⟨n, inside, place, keys⟩ := further
      refine ⟨n + 1, Nat.succ_lt_succ inside, ?_, ?_⟩
      · rw [place, Nat.add_assoc, Nat.add_comm 1 n]
      · rw [lookups_append, repeated.lookups_eq, keys]
        rfl

end Looking

section Replaying

variable {ρ : Type} [Registry ρ] {instances : Index String} {reader : Reader}
  {records : List Record} {registry : ρ} {outcome : Except ReplayFailure ReplaySummary}

theorem looksUp_map {α β : Type} {pair : Nat} {groups : List (Record × Record)}
    {operations : List Operation} {outcome : Except ReplayFailure α} {f : α → β} :
    LooksUp instances pair groups operations (outcome.map f) ↔
      LooksUp instances pair groups operations outcome := by
  cases outcome <;> rfl

theorem looksUp_of_replay {noted : Noted ρ}
    (h : replay instances reader (⟨registry, []⟩ : Noted ρ) = (outcome, noted))
    (read : reader.records = (records, none))
    (matched : ∀ g ∈ Reader.groups records, isPair g.1 g.2 = true) :
    Performs registry noted.notes noted.registry ∧
      replay instances reader registry = (outcome, noted.registry) ∧
      LooksUp instances 0 (Reader.groups records) noted.notes outcome := by
  obtain ⟨performed, same, course⟩ := replay_noted h
  rw [read] at course
  exact ⟨performed, same, looksUp_map.mp (course.looksUp matched)⟩

theorem counts_of_replay {summary : ReplaySummary}
    (h : (replay instances reader registry).1 = .ok summary)
    (read : reader.records = (records, none))
    (matched : ∀ g ∈ Reader.groups records, isPair g.1 g.2 = true) :
    summary.replayed = (Reader.groups records).length ∧ summary.skipped = 0 := by
  rw [replay_eq, read] at h
  obtain ⟨replayed, skipped⟩ := replayGroups_matched matched h
  exact ⟨replayed.trans (Nat.zero_add _), skipped⟩

end Replaying

/-- The records that a cleanup keeps are written, and they are replayed in any pieces with any
registry. They are groups of an entry and its exit with no record left over. The registry is asked
for the key of each group, up to the first one that fails; and if none does, no group was skipped
and every two records that were kept were replayed. -/
theorem replay_cleaned {ρ : Type} [Registry ρ] {records : List Record}
    (carried : ∀ r ∈ records, r.Carried) (instances : Index String) (registry : ρ)
    {turns : List Uptake} :
    let kept := (cleanup records).1
    let groups := Reader.groups kept
    groups.flatMap (fun g => [g.1, g.2]) = kept ∧
    (∀ g ∈ groups, g.1.event.matchingExit = some g.2.event) ∧
    ∃ w, Writer.appendAll kept ⟨{ turns }, 0⟩ = (.ok (), w) ∧
      ∀ source : Source, source.remaining = w.sink.written → source.fault = none →
        let (outcome, noted) := replay instances ⟨source, 0⟩ (⟨registry, []⟩ : Noted ρ)
        Reader.records ⟨source, 0⟩ = (kept, none) ∧
        Performs registry noted.notes noted.registry ∧
        replay instances ⟨source, 0⟩ registry = (outcome, noted.registry) ∧
        LooksUp instances 0 groups noted.notes outcome ∧
        ∀ summary, outcome = .ok summary →
          summary.skipped = 0 ∧ summary.replayed = (cleanup records).2.kept / 2 := by
  intro kept groups
  obtain ⟨whole, complete⟩ : groups.flatMap (fun g => [g.1, g.2]) = kept ∧
    ∀ g ∈ groups, isCompleteCall g.1 g.2 = true := groups_cleanup records
  have matched : ∀ g ∈ groups, isPair g.1 g.2 = true := fun g hg =>
    isPair_of_isCompleteCall (complete g hg)
  obtain ⟨w, calls, written, -⟩ := @Writer.appendAll_ok ⟨{ turns }, 0⟩ kept rfl rfl
  refine ⟨whole, fun g hg => isPair_iff.mp (matched g hg), w, calls, fun source bytes clean => ?_⟩
  have read : Reader.records ⟨source, 0⟩ = (kept, none) :=
    records_bytesOf (fun r hr => carried r ((cleanup_sublist records).subset hr))
      (bytes.trans written) clean
  cases replayed : replay instances ⟨source, 0⟩ (⟨registry, []⟩ : Noted ρ) with
  | mk outcome noted =>
    obtain ⟨performed, same, looked⟩ := looksUp_of_replay replayed read matched
    refine ⟨read, performed, same, looked, fun summary ended => ?_⟩
    have plain : (replay instances ⟨source, 0⟩ registry).1 = .ok summary := by rw [same, ended]
    obtain ⟨count, skipped⟩ := counts_of_replay plain read matched
    have half : (cleanup records).2.kept = 2 * groups.length := length_groups whole
    refine ⟨skipped, ?_⟩
    rw [count, half, Nat.mul_div_cancel_left _ Nat.two_pos]

/-- Before the call that is kept stands an exit, and after it an entry. With a driver that echoes,
the call is replayed. -/
theorem replay_cleaned_stray :
    let records := [Phase.exit, .entry, .exit, .entry].map served
    let echo : Driver.Scripted := { otherwise := some .echo }
    let table : Driver.Table Driver.Scripted × Unit :=
      ((({} : Driver.Table _).register ⟨"p", "1.0", "IFoo", "default"⟩ .hidl echo).2, ())
    (∀ r ∈ records, r.Carried) ∧ (cleanup records).1 = [Phase.entry, .exit].map served ∧
      ∃ w, Writer.appendAll (cleanup records).1 {} = (.ok (), w) ∧
        ∃ summary, (replay .empty ⟨.ofBytes w.sink.written, 0⟩ table).1 = .ok summary ∧
          summary.skipped = 0 ∧ summary.replayed = 1 := by
  intro records echo table
  have faithful : ∀ r ∈ records, r.Faithful :=
    List.forall_mem_map.mpr fun phase _ => faithful_served phase
  have allocatable : ∀ r ∈ records, Frame.Allocatable (Record.codec.encode r) := by decide +kernel
  have carried : ∀ r ∈ records, r.Carried := fun r hr => (faithful r hr).carried (allocatable r hr)
  obtain ⟨-, -, w, calls, replayed⟩ := @replay_cleaned _ _ _ carried .empty table []
  obtain ⟨read, -, same, -, counts⟩ := replayed _ (Source.remaining_ofBytes _) rfl
  have echoed : (replayGroups .empty none 0 (Reader.groups (cleanup records).1) {} table).1.isOk =
      true := by
    decide +kernel
  refine ⟨carried, rfl, w, calls, ?_⟩
  cases outcome : (replay .empty ⟨.ofBytes w.sink.written, 0⟩ table).1 with
  | error failure =>
    rw [replay_eq, read] at outcome
    rw [outcome] at echoed
    cases echoed
  | ok summary =>
    rw [same] at outcome
    have two : (cleanup records).2.kept = 2 := rfl
    rw [two] at counts
    exact ⟨summary, rfl, counts summary outcome⟩

end HalBench.Trace
