import HalBench.Proofs.Service.Message
import HalBench.Proofs.Session.Launches
import HalBench.Proofs.Trace.Operations

/-! What a driver made of a call is told by its text. The three outcomes of a call, a result, none
and an error, are kept apart by the text alone, because no message is written as one of the two words
that stand for the others; and a result is read back from its text. A session and a replay rely on
this: one refuses errors only and passes all other texts on, the other reads the results. -/

namespace HalBench

open Service

theorem Service.Answer.classify_eq_failure {text : String} :
    classify text = .failure ↔ text = failureWord := by
  constructor
  · intro failed
    unfold classify at failed
    split at failed
    · cases failed
    · split at failed
      · assumption
      · cases failed
  · rintro rfl
    rfl

namespace Driver.Table

variable {δ ω : Type} [Model δ ω] {t : Table δ} {id : Id} {call m : Message} {w : ω}

/-- What the driver of a number makes of a call; none if no driver has the number. -/
def outcome? (t : Table δ) (id : Id) (call : Message) (w : ω) :
    Option (Except Error (Option Message)) :=
  (t.entry? id).map fun e => (Model.call e.driver call w).1

theorem outcome?_eq_none : t.outcome? id call w = none ↔ t.key? id = none := by
  rw [outcome?, key?, Option.map_eq_none_iff, Option.map_eq_none_iff]

theorem invoke_text : (t.invoke id call w).1 =
    ((t.outcome? id call w).map answerText).getD Answer.failureWord := by
  rw [invoke, outcome?]
  cases t.entry? id <;> rfl

theorem classify_invoke : Answer.classify (t.invoke id call w).1 =
    match t.outcome? id call w with
    | some (.ok (some m)) => .text m.toText
    | some (.ok none) => .nothing
    | _ => .failure := by
  rw [invoke_text]
  cases t.outcome? id call w with
  | none => rfl
  | some outcome =>
    rcases outcome with e | _ | m
    · rfl
    · rfl
    · exact m.classify_toText

theorem outcome?_of_not_word
    (word : ¬ ((t.invoke id call w).1 = "void" ∨ (t.invoke id call w).1 = "error")) :
    ∃ m, t.outcome? id call w = some (.ok (some m)) ∧ (t.invoke id call w).1 = m.toText := by
  have text := Trace.classify_text word
  rw [classify_invoke] at text
  split at text
  · rename_i m outcome
    exact ⟨m, outcome, (Answer.text.inj text).symm⟩
  · cases text
  · cases text

/-- The drivers of a table that performs some operations give plain results to the calls among
them. -/
def AnswersPlainly (r : Table δ × ω) (operations : List Trace.Operation) : Prop :=
  ∀ before id call output later s, operations = before ++ .invoke id call output :: later →
    Trace.Performs r before s → ∀ m, s.1.outcome? id call s.2 = some (.ok (some m)) → m.Plain

section Kept

variable {good : δ → Prop} {r s : Table δ × ω} {operations : List Trace.Operation}

theorem mem_setEntry {e : Entry δ} {d : δ} (all : ∀ e ∈ t.entries, good e.driver) (new : good d) :
    ∀ e' ∈ (t.setEntry id { e with driver := d }).entries, good e'.driver := by
  intro e' mem
  rcases List.mem_or_eq_of_mem_set mem with old | rfl
  · exact all e' old
  · exact new

variable (kept : ∀ d call (w : ω), good d → good (Model.call d call w).2.1)
include kept

/-- What a call keeps of a driver, the operations of a replay keep of all drivers. -/
theorem performs_kept (performed : Trace.Performs r operations s)
    (all : ∀ e ∈ r.1.entries, good e.driver) : ∀ e ∈ s.1.entries, good e.driver := by
  induction performed with
  | nil => exact all
  | resolve answer _ ih =>
    cases answer
    exact ih all
  | @invoke r _ _ id call _ _ answer _ ih =>
    cases answer
    refine ih ?_
    show ∀ e ∈ (r.1.invoke id call r.2).2.1.entries, good e.driver
    unfold invoke
    cases here : entry? r.1 id with
    | none => exact all
    | some e => exact mem_setEntry all (kept _ _ _ (all e (List.mem_of_getElem? here)))
  | verify answer _ ih =>
    cases answer
    exact ih all

theorem answersPlainly (all : ∀ e ∈ r.1.entries, good e.driver)
    (plain : ∀ d call (w : ω) m, good d → (Model.call d call w).1 = .ok (some m) → m.Plain) :
    AnswersPlainly r operations := by
  intro before id call output later s _ performed m outcome
  obtain ⟨e, here, answer⟩ := Option.map_eq_some_iff.mp outcome
  exact plain _ _ _ _ (performs_kept kept performed all e (List.mem_of_getElem? here)) answer

end Kept

end Driver.Table

namespace Trace

/-- A replay on a table whose drivers give plain results can read them all. -/
theorem replay_readable {δ ω : Type} [Driver.Model δ ω] (instances : Index String)
    (reader : Reader) (r : Driver.Table δ × ω)
    (plain : Driver.Table.AnswersPlainly r (replay instances reader (⟨r, []⟩ : Noted _)).2.notes)
    (function : String) (pair : Nat) (fault : Json.Fault) :
    (replay instances reader r).1 ≠ .error (.result function pair fault) := by
  intro failed
  obtain ⟨performed, same, course⟩ :=
    replay_noted (rfl : replay instances reader (⟨r, []⟩ : Noted _) = (_, _))
  rw [same] at failed
  simp only at failed
  rw [failed] at course
  obtain ⟨before, id, call, output, notes, word, read⟩ := course.unreadable
  rw [notes] at performed
  obtain ⟨s, first, second⟩ := performed.split
  cases second with
  | invoke answer further =>
    have text : (s.1.invoke id call s.2).1 = output := congrArg Prod.fst answer
    rw [← text] at word read
    obtain ⟨m, outcome, written⟩ := Driver.Table.outcome?_of_not_word word
    have plain_ : m.Plain := plain before id call output [] s notes first m outcome
    rw [written, plain_.ofText_toText] at read
    cases read

end Trace

namespace Session

variable {δ ω : Type} [Driver.Model δ ω] [Host δ ω]

/-- A call is refused for the word of a failure, and any other text is passed on as it is. -/
theorem call_response (h : State δ) (id : Driver.Id) (call : Message) (w : ω) :
    let text := (h.drivers.invoke id call (Host.clock δ w).2).1
    (text = Answer.failureWord → (h.call id call w).1.isSuccess = false) ∧
      (text ≠ Answer.failureWord → (h.call id call w).1 = .answer (.result text)) := by
  intro text
  rw [State.call]
  cases known : h.drivers.key? id with
  | none =>
    have nothing : h.drivers.outcome? id call (Host.clock δ w).2 = none :=
      Driver.Table.outcome?_eq_none.mpr known
    have failed : text = Answer.failureWord := by
      rw [show text = _ from Driver.Table.invoke_text, nothing]
      rfl
    exact ⟨fun _ => rfl, fun other => absurd failed other⟩
  | some key =>
    constructor
    · intro failed
      exact congrArg Response.isSuccess (if_pos failed)
    · exact fun other => if_neg other

/-- The outcome of a call is told by its text, in every state of a table and of its drivers. The text
stands for no result exactly when the driver returned none, for a failure exactly when it returned an
error or there is no such driver, and is otherwise the text of the result that it returned, which is
read back from it. A session refuses a call exactly for a failure and answers any other with the text
itself. A replay whose calls get plain results never meets a text that it cannot read. -/
theorem outcome_told (δ : Type) {ω : Type} [Driver.Model δ ω] [Host δ ω] :
    (∀ (t : Driver.Table δ) (id : Driver.Id) (call : Message) (w : ω),
      let text := (t.invoke id call w).1
      let outcome := t.outcome? id call w
      (Answer.classify text = .nothing ↔ outcome = some (.ok none)) ∧
      (Answer.classify text = .failure ↔ t.key? id = none ∨ ∃ e, outcome = some (.error e)) ∧
      (Answer.classify text = .text text ↔ ∃ m, outcome = some (.ok (some m))) ∧
      (∀ m, outcome = some (.ok (some m)) → m.Plain → Message.ofText text = .ok m)) ∧
    (∀ (h : State δ) (id : Driver.Id) (call : Message) (w : ω),
      let text := (h.drivers.invoke id call (Host.clock δ w).2).1
      let response := (h.call id call w).1
      (response.isSuccess = false ↔ Answer.classify text = .failure) ∧
      (response.isSuccess = true → response = .answer (.result text))) ∧
    (∀ (instances : Index String) (reader : Trace.Reader) (t : Driver.Table δ) (w : ω),
      let noted := (Trace.replay instances reader
        (⟨(t, w), []⟩ : Trace.Noted (Driver.Table δ × ω))).2
      Driver.Table.AnswersPlainly (t, w) noted.notes →
        ∀ function pair fault, (Trace.replay instances reader (t, w)).1 ≠
          .error (.result function pair fault)) := by
  refine ⟨?_, ?_, ?_⟩
  · intro t id call w text outcome
    have told : Answer.classify text = match outcome with
        | some (.ok (some m)) => .text m.toText
        | some (.ok none) => .nothing
        | _ => .failure := Driver.Table.classify_invoke
    have written : text = (outcome.map Driver.Table.answerText).getD Answer.failureWord :=
      Driver.Table.invoke_text
    have unknown : outcome = none ↔ t.key? id = none := Driver.Table.outcome?_eq_none
    rw [← unknown, told]
    rcases outcome with _ | e | _ | m
    · simp
    · simp
    · simp
    · have same : text = m.toText := written
      refine ⟨by simp, by simp, ?_, ?_⟩
      · simp [same]
      · rintro m' ⟨⟩ plain
        rw [same]
        exact plain.ofText_toText
  · intro h id call w text response
    obtain ⟨failed, passed⟩ := call_response h id call w
    rw [Answer.classify_eq_failure]
    by_cases word : text = Answer.failureWord
    · have refused : response.isSuccess = false := failed word
      simp [refused, word]
    · have answered : response = .answer (.result text) := passed word
      simp [answered, word, Response.isSuccess, Response.answer]
  · intro instances reader t w noted plain
    exact Trace.replay_readable instances reader (t, w) plain

/-- The name and the value of every result are the word of a failure. The result is read back from
its text all the same, and a replay reads it too. -/
theorem outcome_told_error :
    let word : Json.Value := .ofTree (.text "error")
    let driver : Driver.Scripted := { otherwise := some (.returns [word] (some "error")) }
    let t := (({} : Driver.Table _).register ⟨"p", "1.0", "IFoo", "default"⟩ .hidl driver).2
    let call : Message := { name := "f" }
    let result : Message := { name := "error", returns := [word] }
    let record (event : String) : Bytes := Utf8.bytes <| String.join ["\x7b\"event\":\"SERVER_API_",
      event, "\",\"package\":\"p\",\"version\":1.0,\"interface\":\"IFoo\",",
      "\"func_msg\":\x7b\"name\":\"f\"\x7d\x7d"]
    let reader : Trace.Reader := ⟨.ofBytes (Frame.encodeAll [record "ENTRY", record "EXIT"]), 0⟩
    let noted := (Trace.replay .empty reader (⟨(t, ()), []⟩ : Trace.Noted _)).2
    (t.outcome? 0 call () = some (.ok (some result)) ∧ result.Plain ∧
      Message.ofText (t.invoke 0 call ()).1 = .ok result) ∧
      noted.notes.length = 3 ∧ Driver.Table.AnswersPlainly (t, ()) noted.notes ∧
      ∀ function pair fault,
        (Trace.replay .empty reader (t, ())).1 ≠ .error (.result function pair fault) := by
  intro word driver t call result record reader noted
  have plain : result.Plain := ⟨nofun, List.forall_mem_singleton.mpr ⟨.text _, .text _⟩⟩
  have asked : noted.notes.length = 3 := by decide +kernel
  have plainly : Driver.Table.AnswersPlainly (t, ()) noted.notes := by
    refine @Driver.Table.answersPlainly _ _ _ (· = driver) _ _ ?_ ?_ ?_
    · rintro _ call w rfl
      rfl
    · exact List.forall_mem_singleton.mpr rfl
    · rintro _ call w m rfl answer
      obtain rfl : result = m := Option.some.inj (Except.ok.inj answer)
      exact plain
  obtain ⟨told, -, readable⟩ := outcome_told Driver.Scripted
  have outcome : t.outcome? 0 call () = some (.ok (some result)) := rfl
  exact ⟨⟨outcome, plain, (told t 0 call ()).2.2.2 result outcome plain⟩, asked, plainly,
    readable .empty reader t () plainly⟩

end Session

end HalBench
