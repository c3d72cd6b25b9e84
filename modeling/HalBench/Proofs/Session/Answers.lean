import HalBench.Machine
import HalBench.Proofs.Frame.Payloads
import HalBench.Proofs.Frame.Send
import HalBench.Session.Run

/-! A session answers the payloads that can be received one after another, each with one frame,
up to the first exit command. What it answers and how it ends depend on the bytes that the client
sends and not on how they arrive. -/

namespace HalBench.Session

variable {δ ω : Type} [Driver.Model δ ω] [Host δ ω]

def isExit (payload : Bytes) : Bool :=
  match Command.decode payload with
  | .ok .exit => true
  | _ => false

def upToExit : List Bytes → List Bytes
  | [] => []
  | payload :: rest => if isExit payload then [payload] else payload :: upToExit rest

/-- The responses to payloads, each answered in the state that the one before it left. A payload
that is no command leaves the state as it is. -/
def serve : List Bytes → State δ → ω → List Response × State δ × ω
  | [], h, w => ([], h, w)
  | payload :: rest, h, w =>
    match Command.decode payload with
    | .ok command =>
      let ((response, _), h, w) := h.carryOut w command
      let (responses, h, w) := serve rest h w
      (response :: responses, h, w)
    | .error e =>
      let (responses, h, w) := serve rest h w
      (.failure ("malformed command: " ++ e.message) :: responses, h, w)

def framesOf (responses : List Response) : Bytes := responses.flatMap fun r => Frame.encode r.encode

theorem framesOf_cons (r : Response) (rest : List Response) :
    framesOf (r :: rest) = Frame.encode r.encode ++ framesOf rest := List.flatMap_cons

theorem isExit_iff {payload : Bytes} :
    isExit payload = true ↔ Command.decode payload = .ok .exit := by
  unfold isExit
  split <;> simp_all

theorem carryOut_leave (h : State δ) (w : ω) (c : Command) :
    (h.carryOut w c).1.2 = .leave ↔ c = .exit := by
  cases c <;> simp [State.carryOut]

theorem respond_leave (payload : Bytes) (h : State δ) (w : ω) :
    (respond payload h w).1.2 = .leave ↔ isExit payload = true := by
  rw [isExit_iff, respond]
  cases Command.decode payload with
  | error e => simp
  | ok c => simp [carryOut_leave]

theorem serve_cons (payload : Bytes) (rest : List Bytes) (h : State δ) (w : ω) :
    serve (payload :: rest) h w =
      let ((response, _), h, w) := respond payload h w
      let (responses, h, w) := serve rest h w
      (response :: responses, h, w) := by
  rw [serve, respond]
  cases Command.decode payload <;> rfl

/-- How a session ends that has read some payloads and then meets what is left of its input. -/
def endingOf (read : List Bytes) (left : Source) : Ending :=
  if read.any isExit then .exit
  else if left.remaining = [] ∧ left.fault = none then .peerClosed
  else .transportError

theorem endingOf_eq_exit {read : List Bytes} {left : Source} :
    endingOf read left = .exit ↔ read.any isExit = true := by
  unfold endingOf
  by_cases exits : read.any isExit = true <;>
    by_cases exhausted : left.remaining = [] ∧ left.fault = none <;> simp [exits, exhausted]

theorem endingOf_eq_peerClosed {read : List Bytes} {left : Source} :
    endingOf read left = .peerClosed ↔
      ¬ read.any isExit = true ∧ left.remaining = [] ∧ left.fault = none := by
  unfold endingOf
  by_cases exits : read.any isExit = true <;>
    by_cases exhausted : left.remaining = [] ∧ left.fault = none <;> simp [exits, exhausted]

theorem endingOf_eq_transportError {read : List Bytes} {left : Source} :
    endingOf read left = .transportError ↔
      ¬ read.any isExit = true ∧ ¬ (left.remaining = [] ∧ left.fault = none) := by
  unfold endingOf
  by_cases exits : read.any isExit = true <;>
    by_cases exhausted : left.remaining = [] ∧ left.fault = none <;> simp [exits, exhausted]

theorem step_error {s : Running δ ω} {e : Frame.Error} {t : Source}
    (received : Frame.receive s.input = (.error e, t)) :
    step s = (some (endingOf [] s.input), { s with input := t }) := by
  by_cases closed : e = .peerClosed
  · subst closed
    have end_ := Frame.receive_peerClosed.mp (congrArg Prod.fst received)
    simp only [step, received, endingOf, end_]
    rfl
  · have end_ := mt Frame.receive_peerClosed.mpr (by rw [received]; simpa using closed)
    simp only [step, received, endingOf, end_]
    cases e <;> rfl

theorem step_ok {s : Running δ ω} {payload : Bytes} {t : Source}
    (received : Frame.receive s.input = (.ok payload, t)) {out : Sink} {response : Response}
    {flow : Flow} {h : State δ} {w : ω}
    (answered : respond payload s.state s.world = ((response, flow), h, w))
    (sent : Frame.send response.encode s.output = (.ok (), out)) :
    step s = (if isExit payload then some .exit else none, ⟨t, out, h, w⟩) := by
  have leave := respond_leave payload s.state s.world
  rw [answered] at leave
  simp only [step, received, answered, sent, ← leave]
  cases flow <;> rfl

theorem runLoop_last {s t : Running δ ω} {ending : Ending} (last : step s = (some ending, t))
    (fuel : Nat) : runLoop (fuel + 1) s = (ending, t) := by
  rw [runLoop, last]

theorem runLoop_next {s t : Running δ ω} (next : step s = (none, t)) (fuel : Nat) :
    runLoop (fuel + 1) s = runLoop fuel t := by
  rw [runLoop, next]

theorem endingOf_cons (payload : Bytes) (read : List Bytes) (left : Source) :
    endingOf (payload :: read) left = if isExit payload then .exit else endingOf read left := by
  unfold endingOf
  cases exit : isExit payload <;> simp [exit]

/-- A session that has gone on from another one by answering some payloads. -/
structure Answered (s : Running δ ω) (read : List Bytes) (t : Running δ ω) : Prop where
  output : s.output.Takes (framesOf (serve read s.state s.world).1) t.output
  state : t.state = (serve read s.state s.world).2.1
  world : t.world = (serve read s.state s.world).2.2

theorem Answered.nil {s t : Running δ ω} (output : t.output = s.output) (state : t.state = s.state)
    (world : t.world = s.world) : Answered s [] t :=
  ⟨output ▸ Sink.Takes.nil s.output, state, world⟩

theorem Answered.cons {s t u : Running δ ω} {payload : Bytes} {read : List Bytes}
    {response : Response} {flow : Flow}
    (answered : respond payload s.state s.world = ((response, flow), t.state, t.world))
    (sent : s.output.Takes (Frame.encode response.encode) t.output)
    (fits : s.output.Fits (Frame.encode response.encode)) (rest : Answered t read u) :
    Answered s (payload :: read) u where
  output := by
    rw [serve_cons, answered]
    exact sent.append fits rest.output
  state := by
    rw [serve_cons, answered]
    exact rest.state
  world := by
    rw [serve_cons, answered]
    exact rest.world

theorem runLoop_answers {fuel : Nat} {s : Running δ ω}
    (enough : s.input.remaining.length < fuel) (flush : s.output.flushFault = none)
    (fits : s.output.Fits
      (framesOf (serve (upToExit (Frame.payloads s.input)) s.state s.world).1)) :
    let read := upToExit (Frame.payloads s.input)
    let left := Frame.skip read.length s.input
    (runLoop fuel s).1 = endingOf read left ∧ Answered s read (runLoop fuel s).2 ∧
      (read.any isExit = true → (runLoop fuel s).2.input = left) := by
  -- Every frame takes bytes of the input, so what is left of it stays below the fuel.
  induction fuel generalizing s with
  | zero => exact absurd enough (Nat.not_lt_zero _)
  | succ fuel ih =>
    cases received : Frame.receive s.input with
    | mk answer input =>
      cases answer with
      | error e =>
        rw [Frame.payloads_error received]
        rw [runLoop_last (step_error received)]
        exact ⟨rfl, .nil rfl rfl rfl, nofun⟩
      | ok payload =>
        rw [Frame.payloads_ok received] at fits ⊢
        cases answered : respond payload s.state s.world with
        | mk answer after =>
          obtain ⟨response, flow⟩ := answer
          obtain ⟨h, w⟩ := after
          cases exit : isExit payload with
          | true =>
            simp only [upToExit, exit, if_true, serve_cons, answered, serve, framesOf_cons]
              at fits ⊢
            obtain ⟨out, sent, taken⟩ := Frame.send_flushed flush fits.of_append
            have stop := step_ok received answered sent
            simp only [exit, if_true] at stop
            rw [runLoop_last stop]
            refine ⟨?_, .cons answered taken fits.of_append (.nil rfl rfl rfl), fun _ => ?_⟩
            · simp [endingOf, exit]
            · rw [List.length_singleton, Frame.skip_succ received]
              rfl
          | false =>
            have first : upToExit (payload :: Frame.payloads input) =
                payload :: upToExit (Frame.payloads input) := by simp [upToExit, exit]
            rw [first, serve_cons, answered] at fits
            simp only [framesOf_cons] at fits
            obtain ⟨out, sent, taken⟩ := Frame.send_flushed flush fits.of_append
            have goOn := step_ok received answered sent
            have smaller := Frame.receive_shrinks received
            simp only [exit] at goOn
            obtain ⟨ending, answers, left⟩ := ih (s := ⟨input, out, h, w⟩)
              (show input.remaining.length < fuel by omega) (taken.flushFault.trans flush)
              ((taken.fits_append fits.of_append).mp fits)
            rw [first]
            rw [runLoop_next goOn]
            simp only [List.length_cons, Frame.skip_succ received, endingOf_cons, exit]
            refine ⟨ending, .cons answered taken fits.of_append answers, fun found => left ?_⟩
            simpa [exit] using found

theorem length_serve (read : List Bytes) (h : State δ) (w : ω) :
    (serve read h w).1.length = read.length := by
  induction read generalizing h w with
  | nil => rfl
  | cons payload read ih =>
    rw [serve_cons]
    exact congrArg (· + 1) (ih _ _)

theorem any_isExit_upToExit (payloads : List Bytes) :
    (upToExit payloads).any isExit = true ↔
      ∃ last, (upToExit payloads).getLast? = some last ∧ Command.decode last = .ok .exit := by
  induction payloads with
  | nil => simp [upToExit]
  | cons payload rest ih =>
    cases exit : isExit payload with
    | true => simp [upToExit, exit, isExit_iff.mp exit]
    | false =>
      have notExit : Command.decode payload ≠ .ok .exit := mt isExit_iff.mpr (by simp [exit])
      simp only [upToExit, exit]
      cases more : upToExit rest with
      | nil => simp [exit, notExit]
      | cons next others =>
        rw [more] at ih
        simpa [exit] using ih

/-- Every payload that can be received before the first exit command is answered by one frame, in
order, when no write fails. The session ends with the exit command, or else at the end of the
client's bytes when they end there without a fault, or else with the frame that is broken. -/
theorem run_answers (s : Running δ ω) (flush : s.output.flushFault = none)
    (fits : s.output.Fits
      (framesOf (serve (upToExit (Frame.payloads s.input.joined)) s.state s.world).1)) :
    let read := upToExit (Frame.payloads s.input.joined)
    let left := Frame.skip read.length s.input.joined
    let answers := serve read s.state s.world
    let exits := ∃ last, read.getLast? = some last ∧ Command.decode last = .ok .exit
    let exhausted := left.remaining = [] ∧ s.input.fault = none
    let (ending, t) := run s
    answers.1.length = read.length ∧
      t.output.written = s.output.written ++ framesOf answers.1 ∧
      t.state = answers.2.1 ∧ t.world = answers.2.2 ∧
      (ending = .exit ↔ exits) ∧ (exits → t.input.remaining = left.remaining) ∧
      (ending = .peerClosed ↔ ¬ exits ∧ exhausted) ∧
      (ending = .transportError ↔ ¬ exits ∧ ¬ exhausted) := by
  have alike := Source.Alike.joined s.input
  rw [← Frame.payloads_alike alike] at fits ⊢
  obtain ⟨ending, answers, left⟩ := runLoop_answers (Nat.lt_succ_self _) flush fits
  have ends : (run s).1 = _ := ending
  have same := Frame.skip_alike alike (upToExit (Frame.payloads s.input)).length
  have fault := Frame.skip_fault (upToExit (Frame.payloads s.input)).length s.input
  refine ⟨length_serve _ _ _, answers.output.written_of_fits fits, answers.state, answers.world,
    ?_, fun exits => ?_, ?_, ?_⟩
  · rw [← any_isExit_upToExit, ← endingOf_eq_exit, ← ends]
    rfl
  · rw [← same.remaining, ← left ((any_isExit_upToExit _).mpr exits)]
    rfl
  · rw [← any_isExit_upToExit, ← same.remaining, ← fault, ← endingOf_eq_peerClosed, ← ends]
    rfl
  · rw [← any_isExit_upToExit, ← same.remaining, ← fault, ← endingOf_eq_transportError, ← ends]
    rfl

/-- An empty frame is answered with a failure, and the frame that breaks off is not answered. -/
theorem run_answers_emptyFrame :
    let s : Running Attached Machine :=
      { input := .ofBytes [48, 10, 51, 10, 65], state := ⟨default, {}, {}⟩
        world := ⟨{}, fun _ => ⟨[], false⟩, [], []⟩ }
    let response := Response.failure "malformed command: Invalid message format: empty command"
    s.output.flushFault = none ∧ s.output.Fits (Frame.encode response.encode) ∧
      (run s).1 = .transportError ∧ (run s).2.output.written = Frame.encode response.encode := by
  intro s response
  have first : Frame.receive s.input.joined = (.ok [], .ofBytes [51, 10, 65]) := rfl
  have second : Frame.receive (.ofBytes [51, 10, 65]) = (.error (.truncated 3 1), ⟨[], none⟩) := rfl
  have payloads : Frame.payloads s.input.joined = [[]] := by
    rw [Frame.payloads_ok first, Frame.payloads_error second]
  have served : (serve (upToExit [[]]) s.state s.world).1 = [response] := rfl
  have left : (Frame.skip (upToExit [[]]).length s.input.joined).remaining = [51, 10, 65] := rfl
  have answers := run_answers s rfl rfl
  simp only [payloads, served, left] at answers
  obtain ⟨-, written, -, -, -, -, -, broken⟩ := answers
  refine ⟨rfl, rfl, broken.mpr ⟨?_, nofun⟩, written.trans ?_⟩
  · rintro ⟨last, lasts, exits⟩
    cases lasts
    cases exits
  · exact List.append_nil _

end HalBench.Session
