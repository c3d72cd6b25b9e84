import HalBench.Proofs.Measurement
import HalBench.Proofs.Session.Answers
import HalBench.Proofs.Session.Launches

/-! What a session measures. Its window is changed by starts, stops and calls of drivers that there
are, and so what a stop reports is told by the history of the commands alone: how often each function
was called between the latest start and the first stop after it. -/

namespace HalBench.Session

open Measurement

variable {δ ω : Type}

/-- What a command is to the measurement; a call counts when its number is that of a driver. -/
def State.mark (h : State δ) : Command → Mark
  | .startMeasurement => .start
  | .stopMeasurement => .stop
  | .call id m => if h.drivers.key? id = none then .other else .called m.name
  | _ => .other

theorem State.mark_eq_start {h : State δ} {c : Command} :
    h.mark c = .start ↔ c = .startMeasurement := by
  cases c with
  | call id m =>
    simp only [State.mark]
    split <;> simp
  | _ => simp [State.mark]

variable [Driver.Model δ ω] [Host δ ω] {h : State δ} {w : ω} {c : Command}

/-- What commands are to the measurement, each in the state that the one before it left. -/
def State.marks : State δ → ω → List Command → List Mark
  | _, _, [] => []
  | h, w, c :: rest =>
    let (_, after, world) := h.carryOut w c
    h.mark c :: after.marks world rest

def State.stopped (h : State δ) (w : ω) (commands : List Command) : Response :=
  let (_, after, world) := h.carryOutAll w commands
  (after.carryOut world .stopMeasurement).1.1

theorem carryOut_moves (h : State δ) (w : ω) (c : Command) :
    Window.Moves (h.mark c) h.measurement (h.carryOut w c).2.1.measurement := by
  cases c with
  | startMeasurement => exact .start ..
  | stopMeasurement => exact .stop ..
  | call id m =>
    simp only [State.carryOut, State.mark, State.call]
    cases h.drivers.key? id with
    | none => exact .other _
    | some key => exact .called ..
  | launch l =>
    simp only [State.carryOut]
    rcases launch_cases h l w with ⟨id, -, known⟩ | ⟨reason, w', failed⟩ | ⟨-, driver, w', -, new⟩
    · rw [known]
      exact .other _
    · rw [failed]
      exact .other _
    · rw [new]
      exact .other _
  | listFunctions id =>
    simp only [State.carryOut, State.listFunctions]
    cases h.drivers.key? id with
    | none => exact .other _
    | some key =>
      simp only
      split <;> exact .other _
  | shell commands =>
    simp only [State.carryOut, State.shell]
    split <;> exact .other _
  | _ => exact .other _

theorem carryOutAll_course (h : State δ) (w : ω) (commands : List Command) :
    Window.Course (h.marks w commands) h.measurement (h.carryOutAll w commands).2.1.measurement := by
  induction commands generalizing h w with
  | nil => exact .nil _
  | cons c rest ih => exact .cons (carryOut_moves h w c) (ih _ _)

theorem start_mem_marks {commands : List Command} :
    .start ∈ h.marks w commands ↔ .startMeasurement ∈ commands := by
  induction commands generalizing h w with
  | nil => simp [State.marks]
  | cons c rest ih =>
    simp only [State.marks, List.mem_cons, ih]
    refine or_congr_left ?_
    rw [eq_comm, State.mark_eq_start, eq_comm]

theorem carryOutAll_append (h : State δ) (w : ω) (before after : List Command) :
    (h.carryOutAll w (before ++ after)).2 =
      ((h.carryOutAll w before).2.1.carryOutAll (h.carryOutAll w before).2.2 after).2 := by
  induction before generalizing h w with
  | nil => rfl
  | cons c rest ih => exact ih _ _

theorem stopped_eq (h : State δ) (w : ω) (commands : List Command) : ∃ snapshot : Snapshot,
    h.stopped w commands = .answer (.measurements snapshot) ∧ snapshot.active = false ∧
      snapshot.calls = (h.carryOutAll w commands).2.1.measurement.calls := by
  refine ⟨_, rfl, ?_, ?_⟩
  · exact Window.stop_closed _ _
  · exact Window.stop_calls _ _

/-- A payload that is no command is answered in the state as it is, and any other as its command. -/
theorem serve_commands (payloads : List Bytes) (h : State δ) (w : ω) :
    (serve payloads h w).2 =
      (h.carryOutAll w (payloads.filterMap fun p => (Command.decode p).toOption)).2 := by
  induction payloads generalizing h w with
  | nil => rfl
  | cons p rest ih =>
    rw [serve_cons, respond]
    cases decoded : Command.decode p with
    | error e =>
      rw [List.filterMap_cons_none (by simp [decoded, Except.toOption])]
      exact ih h w
    | ok c =>
      rw [List.filterMap_cons_some (b := c) (by simp [decoded, Except.toOption])]
      exact ih _ _

theorem serve_concat (payloads : List Bytes) (p : Bytes) (h : State δ) (w : ω) :
    (serve (payloads ++ [p]) h w).1 = (serve payloads h w).1 ++
      [(respond p (serve payloads h w).2.1 (serve payloads h w).2.2).1.1] := by
  induction payloads generalizing h w with
  | nil =>
    rw [List.nil_append, serve_cons]
    rfl
  | cons q rest ih =>
    rw [List.cons_append, serve_cons, serve_cons]
    exact congrArg (_ :: ·) (ih _ _)

/-- What a stop reports after any commands, in a session that starts with a closed window. Nothing is
counted before the first start. After it every name has the number of its calls, of drivers that
there are, between the latest start and the first stop that follows it, and a name without such a call
has no entry. Until the next start all further stops report the same. Payloads that are no commands
change nothing of this. -/
theorem stopped_counts (config : Config) (drivers : Driver.Table δ) (w : ω)
    (commands : List Command) :
    let session : State δ := { config, drivers }
    let marks := session.marks w commands
    ∃ snapshot : Snapshot, session.stopped w commands = .answer (.measurements snapshot) ∧
      snapshot.active = false ∧
      (.start ∉ marks → snapshot.calls = .empty) ∧
      (∀ before window, marks = before ++ .start :: window → .start ∉ window → ∀ name,
        countOf snapshot.calls name =
          counter ((window.takeWhile (· ≠ .stop)).count (.called name))) ∧
      (∀ more, .startMeasurement ∉ more → ∃ again : Snapshot,
        session.stopped w (commands ++ .stopMeasurement :: more) =
          .answer (.measurements again) ∧ again.calls = snapshot.calls) ∧
      (∀ payloads stop, Command.decode stop = .ok .stopMeasurement →
        payloads.filterMap (fun p => (Command.decode p).toOption) = commands →
        (serve (payloads ++ [stop]) session w).1.getLast? =
          some (session.stopped w commands)) := by
  intro session marks
  obtain ⟨snapshot, reported, inactive, calls⟩ := stopped_eq session w commands
  have course : Window.Course marks session.measurement _ := carryOutAll_course session w commands
  refine ⟨snapshot, reported, inactive, ?_, ?_, ?_, ?_⟩
  · intro noStart
    rw [calls, course.calls_of_closed rfl noStart]
  · intro before window split noStart name
    rw [split] at course
    obtain ⟨v, -, opened⟩ := course.split
    cases opened with
    | cons first counted =>
      cases first with
      | start _ now =>
        rw [calls, counted.countOf_of_open rfl noStart (Window.countOf_start now name),
          Nat.zero_add]
  · intro more noStart
    obtain ⟨again, reported', -, calls'⟩ :=
      stopped_eq session w (commands ++ .stopMeasurement :: more)
    refine ⟨again, reported', ?_⟩
    rw [calls', calls, carryOutAll_append]
    -- the first of the two stops has closed the window, so the rest of the course is idle
    obtain ⟨_, h, w⟩ := session.carryOutAll w commands
    have idle := carryOutAll_course (h.carryOut w .stopMeasurement).2.1
      (h.carryOut w .stopMeasurement).2.2 more
    have closed := Window.stop_closed h.measurement (Host.clock δ w).1
    exact (idle.calls_of_closed closed (mt start_mem_marks.mp noStart)).trans
      (Window.stop_calls ..)
  · rintro payloads stop decoded rfl
    rw [serve_concat, List.getLast?_concat, serve_commands, respond, decoded]
    rfl

end HalBench.Session
