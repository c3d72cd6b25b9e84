import HalBench.Proofs.Driver.Table
import HalBench.Proofs.Trace.Cleaning
import HalBench.Proofs.Trace.Groups
import HalBench.Proofs.Trace.Operations

/-! What a driver answered is recorded and replayed with the same driver. It starts in the state in
which the recording found it, and as each call is repeated in the state in which it was answered,
every result comes again. -/

namespace HalBench.Trace

open Json Service

structure Interface where
  package : String
  version : Binary
  name : String

/-- A call and its result, and when and where they were recorded. -/
structure Exchange where
  side : Side
  call : Message
  result : Message
  entered : Int64 := 0
  left : Int64 := 0

namespace Exchange

def entry (i : Interface) (x : Exchange) : Record where
  event := ⟨x.side, .entry⟩
  package := i.package
  version := i.version
  interface := i.name
  message := x.call
  timestamp := x.entered

def exit (i : Interface) (x : Exchange) : Record where
  event := ⟨x.side, .exit⟩
  package := i.package
  version := i.version
  interface := i.name
  message := x.result
  timestamp := x.left

theorem isPair (i : Interface) (x : Exchange) : Trace.isPair (x.entry i) (x.exit i) = true :=
  isPair_iff.mpr rfl

end Exchange

def recording (i : Interface) (exchanges : List Exchange) : List Record :=
  exchanges.flatMap fun x => [x.entry i, x.exit i]

theorem groups_recording (i : Interface) (exchanges : List Exchange) :
    Reader.groups (recording i exchanges) = exchanges.map fun x => (x.entry i, x.exit i) := by
  induction exchanges with
  | nil => rfl
  | cons x rest ih =>
    rw [recording, List.flatMap_cons, List.map_cons, ← ih]
    rfl

/-- The key under which a replay looks for the driver of an interface. -/
def Interface.key (instances : Index String) (i : Interface) : Key :=
  ⟨i.package, versionText i.version, i.name,
    (instances.get? (qualifiedName i.package (versionText i.version) i.name)).getD
      Key.defaultInstance⟩

variable {δ ω : Type} [Driver.Model δ ω]

/-- A driver answers calls with their results, each in the state that the one before it left, and
compares results by their names and values. -/
inductive Answers : δ → ω → List Exchange → Prop where
  | done (d : δ) (w : ω) : Answers d w []
  | answered {d d' : δ} {w w' : ω} {x : Exchange} {rest : List Exchange}
      (answer : Driver.Model.call d x.call w = (.ok (some x.result), d', w'))
      (compares : Driver.Model.verify d' = Driver.agree) (further : Answers d' w' rest) :
      Answers d w (x :: rest)

section Repeating

variable {instances : Index String} {pair : Nat} {t : Driver.Table δ} {id : Driver.Id}
  {e : Driver.Entry δ} {d : δ} {w w' : ω}

/-- A driver that gives the recorded result again agrees with the record. -/
theorem repeatCall_answered {call result : Record}
    (found : t.resolve (targetOf instances call) = some id) (here : t.entry? id = some e)
    (answer : Driver.Model.call e.driver call.message w = (.ok (some result.message), d, w'))
    (compares : Driver.Model.verify d = Driver.agree) (faithful : result.Faithful) :
    repeatCall instances pair call result (t, w) =
      (.ok none, t.setEntry id { e with driver := d }, w') := by
  have resolved : Registry.resolve (targetOf instances call) (t, w) = (some id, (t, w)) :=
    Prod.ext found rfl
  have invoked : Registry.invoke id call.message (t, w) =
      (result.message.toText, t.setEntry id { e with driver := d }, w') := by
    show t.invoke id call.message w = _
    rw [Driver.Table.invoke_known here, answer]
    rfl
  have read : Message.ofText result.message.toText = .ok result.message :=
    Message.ofText_toText (legible_message faithful.arguments faithful.returns)
      ((within_message faithful.arguments faithful.returns).mono (by decide))
  have same : Driver.agree result.message result.message = true :=
    Message.agree_self fun v hv => (faithful.returns v hv).1
  have verified : Registry.verify id result.message result.message
      (t.setEntry id { e with driver := d }, w') =
        (true, t.setEntry id { e with driver := d }, w') := by
    refine Prod.ext ?_ rfl
    show Driver.Table.verify _ id _ _ = true
    rw [Driver.Table.verify, Driver.Table.entry?_setEntry_self here]
    show Driver.Model.verify d _ _ = true
    rw [compares, same]
  simp only [repeatCall, resolved, invoked, Message.classify_toText, read, verified, if_true]

variable {i : Interface} {exchanges : List Exchange}

/-- The driver goes through the states of the recording, and no result differs. -/
theorem replayGroups_answered (faithful : ∀ r ∈ recording i exchanges, r.Faithful)
    (found : t.resolve (i.key instances) = some id) (here : t.entry? id = some e)
    (answers : Answers e.driver w exchanges) (report : ReplaySummary) :
    ∃ summary after, replayGroups instances none pair
        (exchanges.map fun x => (x.entry i, x.exit i)) report (t, w) = (.ok summary, after) ∧
      summary.mismatches = report.mismatches := by
  -- A call puts the next state of the driver into its entry, and the key is found as before.
  induction exchanges generalizing pair t e w report with
  | nil => exact ⟨report, (t, w), rfl, rfl⟩
  | cons x rest ih =>
    cases answers with
    | @answered _ d _ w' _ _ answer compares further =>
      obtain ⟨-, exit, later⟩ : (x.entry i).Faithful ∧ (x.exit i).Faithful ∧
          ∀ r ∈ recording i rest, r.Faithful := by
        simpa only [recording, List.flatMap_cons, List.cons_append, List.nil_append,
          List.forall_mem_cons] using faithful
      have repeated := @repeatCall_answered _ _ _ instances pair t id e d w w' (x.entry i)
        (x.exit i) found here answer compares exit
      rw [List.map_cons, replayGroups_repeated (x.isPair i) repeated]
      obtain ⟨summary, after, replayed, mismatches⟩ := ih (e := { e with driver := d }) later
        (Driver.Table.resolve_setEntry.trans found) (Driver.Table.entry?_setEntry_self here) further
        (report.addPair (instances.get? (x.entry i).qualifiedName).isNone none)
      exact ⟨summary, after, replayed, mismatches.trans (List.append_nil _)⟩

end Repeating

/-- The calls that a driver answered are recorded, and the records are written and replayed, in any
pieces, with a table that has the driver in the state in which the recording began. Every call is
replayed, none is skipped, and no result differs. The text of a record that is written is in memory,
and so there is room for it when it is read. -/
theorem replay_recording {instances : Index String} {i : Interface} {exchanges : List Exchange}
    (faithful : ∀ r ∈ recording i exchanges, r.Faithful)
    (allocatable : ∀ r ∈ recording i exchanges, Frame.Allocatable (Record.codec.encode r))
    {t : Driver.Table δ} {id : Driver.Id} {e : Driver.Entry δ} {w : ω}
    (found : t.resolve (i.key instances) = some id) (here : t.entry? id = some e)
    (answers : Answers e.driver w exchanges) {turns : List Uptake} :
    ∃ v, Writer.appendAll (recording i exchanges) ⟨{ turns }, 0⟩ = (.ok (), v) ∧
      ∀ source : Source, source.remaining = v.sink.written → source.fault = none →
        ∃ summary, (replay instances ⟨source, 0⟩ (t, w)).1 = .ok summary ∧
          summary.replayed = exchanges.length ∧ summary.skipped = 0 ∧ summary.mismatches = [] := by
  obtain ⟨v, calls, written, -⟩ :=
    @Writer.appendAll_ok ⟨{ turns }, 0⟩ (recording i exchanges) rfl rfl
  refine ⟨v, calls, fun source bytes clean => ?_⟩
  have read : Reader.records ⟨source, 0⟩ = (recording i exchanges, none) :=
    records_bytesOf (fun r hr => (faithful r hr).carried (allocatable r hr)) (bytes.trans written)
      clean
  obtain ⟨summary, after, replayed, mismatches⟩ :=
    @replayGroups_answered _ _ _ instances 0 t id e w i exchanges faithful found here answers {}
  rw [replay_eq, read, groups_recording, replayed]
  have matched : ∀ g ∈ exchanges.map fun x => (x.entry i, x.exit i), isPair g.1 g.2 = true :=
    List.forall_mem_map.mpr fun x _ => x.isPair i
  obtain ⟨count, skipped⟩ := replayGroups_matched matched (congrArg Prod.fst replayed)
  rw [List.length_map, Nat.zero_add] at count
  exact ⟨summary, rfl, count, skipped, mismatches⟩

/-- A driver that answers every call with the number of calls before it. -/
structure Tally where
  calls : Nat

def Tally.answer (d : Tally) (call : Message) : Message :=
  ⟨call.name, [], [⟨.integer (.ofNat d.calls), trivial⟩]⟩

instance : Driver.Model Tally Unit where
  call d call w := (.ok (some (d.answer call)), ⟨d.calls + 1⟩, w)

/-- The same call has another result the second time, and it has the same two results again when
it is replayed. -/
theorem replay_recording_tally :
    let i : Interface := ⟨"p", .finite false 8388608 (-23), "IFoo"⟩
    let call : Message := { name := "next" }
    let exchanges : List Exchange :=
      [⟨.client, call, Tally.answer ⟨0⟩ call, 1, 2⟩, ⟨.client, call, Tally.answer ⟨1⟩ call, 3, 4⟩]
    let e : Driver.Entry Tally := ⟨⟨"p", "1.0", "IFoo", "default"⟩, .hidl, ⟨0⟩⟩
    let t := (({} : Driver.Table Tally).register e.key e.category e.driver).2
    (∀ r ∈ recording i exchanges, r.Faithful) ∧
      (∀ r ∈ recording i exchanges, Frame.Allocatable (Record.codec.encode r)) ∧
      t.resolve (i.key .empty) = some 0 ∧ t.entry? 0 = some e ∧ Answers e.driver () exchanges ∧
      ∃ v, Writer.appendAll (recording i exchanges) {} = (.ok (), v) ∧
        ∃ summary, (replay .empty ⟨.ofBytes v.sink.written, 0⟩ (t, ())).1 = .ok summary ∧
          summary.replayed = 2 ∧ summary.skipped = 0 ∧ summary.mismatches = [] := by
  intro i call exchanges e t
  have plain (n : Nat) : Plain (Tally.answer ⟨n⟩ call).returns :=
    List.forall_mem_cons.mpr ⟨⟨.integer _, .integer _⟩, nofun⟩
  have faithful : ∀ r ∈ recording i exchanges, r.Faithful := by
    refine List.forall_mem_cons.mpr ⟨⟨rfl, nofun, nofun⟩, ?_⟩
    refine List.forall_mem_cons.mpr ⟨⟨rfl, nofun, plain 0⟩, ?_⟩
    refine List.forall_mem_cons.mpr ⟨⟨rfl, nofun, nofun⟩, ?_⟩
    exact List.forall_mem_cons.mpr ⟨⟨rfl, nofun, plain 1⟩, List.forall_mem_nil _⟩
  have allocatable : ∀ r ∈ recording i exchanges, Frame.Allocatable (Record.codec.encode r) := by
    decide +kernel
  have found : t.resolve (i.key .empty) = some 0 := by decide +kernel
  have answers : Answers e.driver () exchanges :=
    .answered rfl rfl (.answered rfl rfl (.done _ _))
  obtain ⟨v, calls, replayed⟩ :=
    @replay_recording _ _ _ _ _ _ faithful allocatable t 0 e () found rfl answers []
  exact ⟨faithful, allocatable, found, rfl, answers, v, calls,
    replayed _ (Source.remaining_ofBytes _) rfl⟩

end HalBench.Trace
