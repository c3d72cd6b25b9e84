import HalBench.Driver.Scripted
import HalBench.Driver.Table
import HalBench.Proofs.Trace.Payloads

/-! What a replay asks of its registry. A registry that notes what it is asked answers as it would
without the notes, and its notes are the operations for the groups of the trace, in their order,
up to the one that ends the replay. -/

namespace HalBench.Trace

open Service

/-- What a registry is asked, with its answer. -/
inductive Operation where
  | resolve (key : Key) (found : Option Driver.Id)
  | invoke (id : Driver.Id) (call : Message) (output : String)
  | verify (id : Driver.Id) (expected actual : Message) (agrees : Bool)

/-- A registry with notes of what it was asked. -/
structure Noted (ρ : Type) where
  registry : ρ
  notes : List Operation := []

/-- The operations for one group whose second event ends what the first began, and whether they
go through. -/
inductive Repeats (instances : Index String) (pair : Nat) (call result : Record) :
    List Operation → Except ReplayFailure Unit → Prop where
  | unresolved : Repeats instances pair call result [.resolve (targetOf instances call) none]
      (.error (.unresolved (targetOf instances call) pair))
  | failed {id : Driver.Id} {output : String} (word : output = "void" ∨ output = "error") :
      Repeats instances pair call result
        [.resolve (targetOf instances call) (some id), .invoke id call.message output]
        (.error (.invocation (targetOf instances call) call.message.name output pair))
  | unreadable {id : Driver.Id} {output : String} {fault : Json.Fault}
      (word : ¬ (output = "void" ∨ output = "error"))
      (read : Message.ofText output = .error fault) :
      Repeats instances pair call result
        [.resolve (targetOf instances call) (some id), .invoke id call.message output]
        (.error (.result call.message.name pair fault))
  | compared {id : Driver.Id} {output : String} {actual : Message} {agrees : Bool}
      (word : ¬ (output = "void" ∨ output = "error")) (read : Message.ofText output = .ok actual) :
      Repeats instances pair call result
        [.resolve (targetOf instances call) (some id), .invoke id call.message output,
          .verify id result.message actual agrees]
        (.ok ())

/-- The operations for the groups from the one numbered `pair` on, in a trace that has then the
given ending, and how the replay ends. -/
inductive Course (instances : Index String) (ending : Option Error) :
    Nat → List (Record × Record) → List Operation → Except ReplayFailure Unit → Prop where
  | finished {pair : Nat} (clean : ending = none) : Course instances ending pair [] [] (.ok ())
  | broken {pair : Nat} {e : Error} (broken : ending = some e) :
      Course instances ending pair [] [] (.error (.trace e))
  | skipped {pair : Nat} {call result : Record} {rest : List (Record × Record)}
      {operations : List Operation} {outcome : Except ReplayFailure Unit}
      (unmatched : call.event.matchingExit ≠ some result.event)
      (further : Course instances ending (pair + 1) rest operations outcome) :
      Course instances ending pair ((call, result) :: rest) operations outcome
  | stopped {pair : Nat} {call result : Record} {rest : List (Record × Record)}
      {operations : List Operation} {failure : ReplayFailure}
      (matched : call.event.matchingExit = some result.event)
      (repeated : Repeats instances pair call result operations (.error failure)) :
      Course instances ending pair ((call, result) :: rest) operations (.error failure)
  | goneOn {pair : Nat} {call result : Record} {rest : List (Record × Record)}
      {operations later : List Operation} {outcome : Except ReplayFailure Unit}
      (matched : call.event.matchingExit = some result.event)
      (repeated : Repeats instances pair call result operations (.ok ()))
      (further : Course instances ending (pair + 1) rest later outcome) :
      Course instances ending pair ((call, result) :: rest) (operations ++ later) outcome

/-- A replay that ends with a text that is no message has just asked for the call. -/
theorem Course.unreadable {instances : Index String} {ending : Option Error} {pair k : Nat}
    {groups : List (Record × Record)} {operations : List Operation} {function : String}
    {fault : Json.Fault}
    (h : Course instances ending pair groups operations (.error (.result function k fault))) :
    ∃ before id call output, operations = before ++ [.invoke id call output] ∧
      ¬ (output = "void" ∨ output = "error") ∧ Message.ofText output = .error fault := by
  generalize outcome : Except.error (ReplayFailure.result function k fault) = o at h
  induction h with
  | finished => cases outcome
  | broken => cases outcome
  | skipped _ _ ih => exact ih outcome
  | @stopped _ call _ _ _ _ _ repeated =>
    cases outcome
    cases repeated with
    | unreadable word read => exact ⟨[_], _, call.message, _, rfl, word, read⟩
  | goneOn _ _ _ ih =>
    obtain ⟨before, id, call, output, rfl, word, read⟩ := ih outcome
    exact ⟨_ ++ before, id, call, output, (List.append_assoc ..).symm, word, read⟩

variable {ρ : Type} [Registry ρ]

/-- A registry answers operations one after another, each in the state that the one before it
left. -/
inductive Performs : ρ → List Operation → ρ → Prop where
  | nil (r : ρ) : Performs r [] r
  | resolve {r s t : ρ} {key : Key} {found : Option Driver.Id} {later : List Operation}
      (answer : Registry.resolve key r = (found, s)) (further : Performs s later t) :
      Performs r (.resolve key found :: later) t
  | invoke {r s t : ρ} {id : Driver.Id} {call : Message} {output : String}
      {later : List Operation} (answer : Registry.invoke id call r = (output, s))
      (further : Performs s later t) : Performs r (.invoke id call output :: later) t
  | verify {r s t : ρ} {id : Driver.Id} {expected actual : Message} {agrees : Bool}
      {later : List Operation} (answer : Registry.verify id expected actual r = (agrees, s))
      (further : Performs s later t) : Performs r (.verify id expected actual agrees :: later) t

theorem Performs.append {r s t : ρ} {operations later : List Operation}
    (first : Performs r operations s) (further : Performs s later t) :
    Performs r (operations ++ later) t := by
  induction first with
  | nil => exact further
  | resolve answer _ ih => exact .resolve answer (ih further)
  | invoke answer _ ih => exact .invoke answer (ih further)
  | verify answer _ ih => exact .verify answer (ih further)

theorem Performs.split {r t : ρ} {before later : List Operation}
    (h : Performs r (before ++ later) t) : ∃ s, Performs r before s ∧ Performs s later t := by
  induction before generalizing r with
  | nil => exact ⟨r, .nil r, h⟩
  | cons operation before ih =>
    cases h with
    | resolve answer further =>
      obtain ⟨s, first, second⟩ := ih further
      exact ⟨s, .resolve answer first, second⟩
    | invoke answer further =>
      obtain ⟨s, first, second⟩ := ih further
      exact ⟨s, .invoke answer first, second⟩
    | verify answer further =>
      obtain ⟨s, first, second⟩ := ih further
      exact ⟨s, .verify answer first, second⟩

instance : Registry (Noted ρ) where
  resolve key n :=
    let (found, registry) := Registry.resolve key n.registry
    (found, ⟨registry, n.notes ++ [.resolve key found]⟩)
  invoke id call n :=
    let (output, registry) := Registry.invoke id call n.registry
    (output, ⟨registry, n.notes ++ [.invoke id call output]⟩)
  verify id expected actual n :=
    let (agrees, registry) := Registry.verify id expected actual n.registry
    (agrees, ⟨registry, n.notes ++ [.verify id expected actual agrees]⟩)

theorem resolve_noted {n : Noted ρ} {key : Key} {found : Option Driver.Id} {r : ρ}
    (answer : Registry.resolve key n.registry = (found, r)) :
    Registry.resolve key n = (found, (⟨r, n.notes ++ [.resolve key found]⟩ : Noted ρ)) := by
  simp only [Registry.resolve, answer]

theorem invoke_noted {n : Noted ρ} {id : Driver.Id} {call : Message} {output : String} {r : ρ}
    (answer : Registry.invoke id call n.registry = (output, r)) :
    Registry.invoke id call n = (output, (⟨r, n.notes ++ [.invoke id call output]⟩ : Noted ρ)) := by
  simp only [Registry.invoke, answer]

theorem verify_noted {n : Noted ρ} {id : Driver.Id} {expected actual : Message} {agrees : Bool}
    {r : ρ} (answer : Registry.verify id expected actual n.registry = (agrees, r)) :
    Registry.verify id expected actual n =
      (agrees, (⟨r, n.notes ++ [.verify id expected actual agrees]⟩ : Noted ρ)) := by
  simp only [Registry.verify, answer]

theorem classify_word {output : String} (word : output = "void" ∨ output = "error") :
    Answer.classify output = .nothing ∨ Answer.classify output = .failure := by
  rcases word with rfl | rfl
  · exact .inl rfl
  · exact .inr rfl

theorem classify_text {output : String} (word : ¬ (output = "void" ∨ output = "error")) :
    Answer.classify output = .text output := by
  obtain ⟨notVoid, notError⟩ := not_or.mp word
  unfold Answer.classify Answer.nothingWord Answer.failureWord
  rw [if_neg notVoid, if_neg notError]

/-- A replay, or a part of one, that noted operations, beside the same one without notes. -/
structure Notes {α : Type} (n : Noted ρ) (noted : α × Noted ρ) (plain : α × ρ)
    (operations : List Operation) : Prop where
  notes : noted.2.notes = n.notes ++ operations
  performed : Performs n.registry operations noted.2.registry
  same : plain = (noted.1, noted.2.registry)

/-- A call that is made again asks for the driver, then calls it, then has the result compared,
as far as each of them goes through. -/
theorem repeatCall_notes (instances : Index String) (pair : Nat) (call result : Record)
    (n : Noted ρ) :
    ∃ operations, Notes n (repeatCall instances pair call result n)
        (repeatCall instances pair call result n.registry) operations ∧
      Repeats instances pair call result operations
        ((repeatCall instances pair call result n).1.map fun _ => ()) := by
  cases resolved : Registry.resolve (targetOf instances call) n.registry with
  | mk found r =>
    have resolved' := resolve_noted resolved
    cases found with
    | none =>
      simp only [repeatCall, resolved, resolved']
      exact ⟨_, ⟨rfl, .resolve resolved (.nil r), rfl⟩, .unresolved⟩
    | some id =>
      cases invoked : Registry.invoke id call.message r with
      | mk output s =>
        have invoked' := invoke_noted
          (n := ⟨r, n.notes ++ [.resolve (targetOf instances call) (some id)]⟩) invoked
        by_cases word : output = "void" ∨ output = "error"
        · refine ⟨[.resolve (targetOf instances call) (some id),
            .invoke id call.message output], ?_⟩
          rcases classify_word word with class_ | class_
          all_goals
            simp only [repeatCall, resolved, resolved', invoked, invoked', class_]
            exact ⟨⟨List.append_assoc .., .resolve resolved (.invoke invoked (.nil s)), rfl⟩,
              .failed word⟩
        · have class_ := classify_text word
          cases read : Message.ofText output with
          | error fault =>
            simp only [repeatCall, resolved, resolved', invoked, invoked', class_, read]
            exact ⟨[.resolve (targetOf instances call) (some id), .invoke id call.message output],
              ⟨List.append_assoc .., .resolve resolved (.invoke invoked (.nil s)), rfl⟩,
              .unreadable word read⟩
          | ok actual =>
            cases verified : Registry.verify id result.message actual s with
            | mk agrees t =>
              have verified' := verify_noted
                (n := ⟨s, n.notes ++ [.resolve (targetOf instances call) (some id)] ++
                  [.invoke id call.message output]⟩) verified
              simp only [repeatCall, resolved, resolved', invoked, invoked', class_, read, verified,
                verified']
              refine ⟨[.resolve (targetOf instances call) (some id), .invoke id call.message output,
                .verify id result.message actual agrees], ⟨?_, ?_, rfl⟩, .compared word read⟩
              · simp only [List.append_assoc, List.cons_append, List.nil_append]
              · exact .resolve resolved (.invoke invoked (.verify verified (.nil t)))

theorem isPair_iff {call result : Record} :
    isPair call result = true ↔ call.event.matchingExit = some result.event := beq_iff_eq

theorem replayLoop_notes (instances : Index String) {fuel : Nat} (pair : Nat) {reader : Reader}
    (enough : reader.source.remaining.length < fuel) (report : ReplaySummary) (n : Noted ρ) :
    ∃ operations, Notes n (replayLoop instances fuel pair reader report n)
        (replayLoop instances fuel pair reader report n.registry) operations ∧
      Course instances reader.records.2 pair (Reader.groups reader.records.1) operations
        ((replayLoop instances fuel pair reader report n).1.map fun _ => ()) := by
  -- Each turn takes one group off the front, and the ending of the trace stays the same.
  induction fuel generalizing pair reader report n with
  | zero => exact absurd enough (Nat.not_lt_zero _)
  | succ fuel ih =>
    have nothing {α : Type} (answer : α) : Notes n (answer, n) (answer, n.registry) [] :=
      ⟨(List.append_nil _).symm, .nil _, rfl⟩
    rcases reader.readPair_cases with ⟨e, _, read, groups, ending⟩ |
      ⟨_, read | ⟨record, read⟩, groups, ending⟩ | ⟨call, result, later, read, less, groups, ending⟩
    · simp only [replayLoop, read, groups, ending]
      exact ⟨[], nothing _, .broken rfl⟩
    · simp only [replayLoop, read, groups, ending]
      exact ⟨[], nothing _, .finished rfl⟩
    · simp only [replayLoop, read, groups, ending]
      exact ⟨[], nothing _, .finished rfl⟩
    · have shorter : later.source.remaining.length < fuel := by omega
      rw [groups, ending]
      cases paired : isPair call result with
      | false =>
        simp only [replayLoop, read, paired]
        obtain ⟨operations, notes, course⟩ := ih (pair + 1) shorter _ n
        refine ⟨operations, notes, .skipped (mt isPair_iff.mpr ?_) course⟩
        rw [paired]
        exact Bool.false_ne_true
      | true =>
        have matched := isPair_iff.mp paired
        obtain ⟨operations, first, repeated⟩ := repeatCall_notes instances pair call result n
        simp only [replayLoop, read, paired, if_true, first.same]
        cases answer : repeatCall instances pair call result n with
        | mk outcome n' =>
          rw [answer] at first repeated
          cases outcome with
          | error failure =>
            exact ⟨operations, ⟨first.notes, first.performed, rfl⟩, .stopped matched repeated⟩
          | ok mismatch =>
            obtain ⟨later, rest, course⟩ := ih (pair + 1) shorter _ n'
            refine ⟨operations ++ later, ⟨?_, first.performed.append rest.performed, rest.same⟩,
              .goneOn matched repeated course⟩
            rw [rest.notes, first.notes, List.append_assoc]

theorem replay_noted {instances : Index String} {reader : Reader} {registry : ρ}
    {outcome : Except ReplayFailure ReplaySummary} {noted : Noted ρ}
    (h : replay instances reader (⟨registry, []⟩ : Noted ρ) = (outcome, noted)) :
    Performs registry noted.notes noted.registry ∧
      replay instances reader registry = (outcome, noted.registry) ∧
      Course instances reader.records.2 0 (Reader.groups reader.records.1) noted.notes
        (outcome.map fun _ => ()) := by
  obtain ⟨operations, notes, course⟩ :=
    replayLoop_notes instances 0 (Nat.lt_succ_self _) {} (⟨registry, []⟩ : Noted ρ)
  change Notes _ (replay instances reader (⟨registry, []⟩ : Noted ρ)) _ _ at notes
  change Course _ _ _ _ _ ((replay instances reader (⟨registry, []⟩ : Noted ρ)).1.map _) at course
  rw [h] at notes course
  have same : noted.notes = operations := notes.notes
  rw [same]
  exact ⟨notes.performed, notes.same, course⟩

/-- A replay asks its registry for the driver, the call and the comparison of each group of the
trace that matches, in their order and once each, until one of them does not go through or the
trace ends or cannot be read. What it asks and what comes of it do not depend on the notes. -/
theorem replay_operations (instances : Index String) (reader : Reader) (registry : ρ) :
    let (outcome, noted) := replay instances reader (⟨registry, []⟩ : Noted ρ)
    Course instances reader.records.2 0 (Reader.groups reader.records.1) noted.notes
        (outcome.map fun _ => ()) ∧
      Performs registry noted.notes noted.registry ∧
      replay instances reader registry = (outcome, noted.registry) := by
  obtain ⟨performed, same, course⟩ :=
    replay_noted (rfl : replay instances reader (⟨registry, []⟩ : Noted ρ) = (_, _))
  exact ⟨course, performed, same⟩

/-- Where the frames of a trace hold some payloads (that fit in memory), the groups are those of the
records that come before the first payload that is none, in whatever pieces the bytes arrive. -/
theorem replay_payloads {payloads : List Bytes}
    (allocatable : ∀ p ∈ payloads, Frame.Allocatable p) {reader : Reader}
    (bytes : reader.source.remaining = Frame.encodeAll payloads)
    (clean : reader.source.fault = none) (instances : Index String) (registry : ρ) :
    let (outcome, noted) := replay instances reader (⟨registry, []⟩ : Noted ρ)
    let (records, ending) := recordsOf payloads
    Course instances ending 0 (Reader.groups records) noted.notes (outcome.map fun _ => ()) ∧
      Performs registry noted.notes noted.registry ∧
      replay instances reader registry = (outcome, noted.registry) := by
  obtain ⟨performed, same, course⟩ :=
    replay_noted (rfl : replay instances reader (⟨registry, []⟩ : Noted ρ) = (_, _))
  rw [Reader.records_encodeAll allocatable bytes clean] at course
  exact ⟨course, performed, same⟩

/-- The second group does not match, and the third has no driver. -/
example :
    let record (event interface : String) : Bytes := Utf8.bytes <| String.join
      ["\x7b\"event\":\"SERVER_API_", event, "\",\"package\":\"p\",\"version\":1.0,\"interface\":\"",
        interface, "\",\"func_msg\":\x7b\"name\":\"f\"\x7d\x7d"]
    let trace := [record "ENTRY" "IFoo", record "EXIT" "IFoo", record "EXIT" "IFoo",
      record "ENTRY" "IFoo", record "ENTRY" "IBar", record "EXIT" "IBar", record "ENTRY" "IFoo",
      record "EXIT" "IFoo"]
    let echo : Driver.Scripted := { otherwise := some .echo }
    let table := (({} : Driver.Table _).register ⟨"p", "1.0", "IFoo", "default"⟩ .hidl echo).2
    let answer := replay .empty ⟨.ofBytes (Frame.encodeAll trace), 0⟩
      (⟨(table, ()), []⟩ : Noted (Driver.Table Driver.Scripted × Unit))
    (match answer.1 with
      | .error failure => some failure
      | .ok _ => none) = some (.unresolved ⟨"p", "1.0", "IBar", "default"⟩ 2) ∧
      (answer.2.notes.map fun
        | .resolve key found => (key.interface, found)
        | .invoke id call _ => (call.name, some id)
        | .verify id expected _ _ => (expected.name, some id)) =
        [("IFoo", some 0), ("f", some 0), ("f", some 0), ("IBar", none)] := by
  decide +kernel

end HalBench.Trace
