import HalBench.Proofs.Session.Answers

/-! A session whose answers are refused at some byte. It writes what it would have written up to that
byte, and ends with the first answer that is not taken whole: no later command is received. -/

namespace HalBench.Session

variable {δ ω : Type} [Driver.Model δ ω] [Host δ ω]

theorem serve_answered {payload : Bytes} {response : Response} {flow : Flow} {h h' : State δ}
    {w w' : ω} (answered : respond payload h w = ((response, flow), h', w')) (rest : List Bytes) :
    serve (payload :: rest) h w =
      (response :: (serve rest h' w').1, (serve rest h' w').2.1, (serve rest h' w').2.2) := by
  rw [serve_cons, answered]

theorem take_serve (k : Nat) (read : List Bytes) (h : State δ) (w : ω) :
    (serve (read.take k) h w).1 = (serve read h w).1.take k := by
  induction read generalizing k h w with
  | nil =>
    rw [List.take_nil]
    exact List.take_nil.symm
  | cons payload rest ih =>
    cases k with
    | zero => rfl
    | succ k =>
      rw [List.take_succ_cons, serve_cons, serve_cons]
      exact congrArg (_ :: ·) (ih k _ _)

theorem upToExit_cons (payload : Bytes) (rest : List Bytes) :
    upToExit (payload :: rest) = payload :: if isExit payload then [] else upToExit rest := by
  rw [upToExit]
  split <;> rfl

theorem framesOf_singleton (r : Response) : framesOf [r] = Frame.encode r.encode :=
  List.flatMap_singleton ..

theorem framesOf_take_drop (k : Nat) (responses : List Response) :
    framesOf (responses.take k) ++ framesOf (responses.drop k) = framesOf responses := by
  rw [framesOf, framesOf, framesOf, ← List.flatMap_append, List.take_append_drop]

theorem framesOf_take_succ (k : Nat) (r : Response) (rest : List Response) :
    framesOf ((r :: rest).take (k + 1)) = Frame.encode r.encode ++ framesOf (rest.take k) :=
  framesOf_cons r (rest.take k)

/-- An answer that is not taken whole ends the session, whatever the command was. -/
theorem step_refused {s : Running δ ω} {payload : Bytes} {t : Source}
    (received : Frame.receive s.input = (.ok payload, t)) {response : Response} {flow : Flow}
    {h : State δ} {w : ω} (answered : respond payload s.state s.world = ((response, flow), h, w))
    (full : ¬ s.output.Fits (Frame.encode response.encode)) :
    ∃ out, step s = (some .transportError, ⟨t, out, h, w⟩) ∧
      s.output.Takes (Frame.encode response.encode) out := by
  obtain ⟨out, sent, taken⟩ := Frame.send_error full
  refine ⟨out, ?_, taken⟩
  simp only [step, received, answered, sent]

theorem Answered.single {s t : Running δ ω} {payload : Bytes} {response : Response} {flow : Flow}
    (answered : respond payload s.state s.world = ((response, flow), t.state, t.world))
    (taken : s.output.Takes (Frame.encode response.encode) t.output) : Answered s [payload] t := by
  have served := serve_answered answered []
  refine ⟨?_, ?_, ?_⟩
  · rw [served]
    exact (framesOf_singleton response).symm ▸ taken
  · rw [served]
    rfl
  · rw [served]
    rfl

/-- A session of which not all answers are taken ends at the first one that is not. -/
theorem runLoop_refused {fuel : Nat} {s : Running δ ω}
    (enough : s.input.remaining.length < fuel) (flush : s.output.flushFault = none)
    (full : ¬ s.output.Fits
      (framesOf (serve (upToExit (Frame.payloads s.input)) s.state s.world).1)) :
    ∃ k < (upToExit (Frame.payloads s.input)).length,
      let read := (upToExit (Frame.payloads s.input)).take (k + 1)
      let answers := (serve (upToExit (Frame.payloads s.input)) s.state s.world).1
      s.output.Fits (framesOf (answers.take k)) ∧
        ¬ s.output.Fits (framesOf (answers.take (k + 1))) ∧
        (runLoop fuel s).1 = .transportError ∧ Answered s read (runLoop fuel s).2 ∧
        (runLoop fuel s).2.input = Frame.skip (k + 1) s.input := by
  -- As long as answers are taken whole the session goes on, with less room for those that follow.
  induction fuel generalizing s with
  | zero => exact absurd enough (Nat.not_lt_zero _)
  | succ fuel ih =>
    cases received : Frame.receive s.input with
    | mk answer input =>
      cases answer with
      | error e =>
        rw [Frame.payloads_error received] at full
        exact absurd s.output.fits_nil full
      | ok payload =>
        cases answered : respond payload s.state s.world with
        | mk answer after =>
          obtain ⟨response, flow⟩ := answer
          obtain ⟨h, w⟩ := after
          rw [Frame.payloads_ok received, upToExit_cons, serve_answered answered] at full ⊢
          simp only [framesOf_cons] at full
          by_cases fits : s.output.Fits (Frame.encode response.encode)
          · cases exit : isExit payload with
            | true =>
              rw [exit] at full
              exact absurd ((List.append_nil _).symm ▸ fits) full
            | false =>
              obtain ⟨out, sent, taken⟩ := Frame.send_flushed flush fits
              have goOn := step_ok received answered sent
              have smaller := Frame.receive_shrinks received
              rw [exit] at goOn full
              simp only [Bool.false_eq_true, if_false] at goOn full ⊢
              obtain ⟨k, inside, before, after, ending, answers, left⟩ := ih (s := ⟨input, out, h, w⟩)
                (show input.remaining.length < fuel by omega) (taken.flushFault.trans flush)
                (mt (taken.fits_append fits).mpr full)
              rw [runLoop_next goOn]
              refine ⟨k + 1, Nat.succ_lt_succ inside, ?_, ?_, ending,
                .cons answered taken fits answers, ?_⟩
              · rw [framesOf_take_succ]
                exact (taken.fits_append fits).mpr before
              · rw [framesOf_take_succ]
                exact mt (taken.fits_append fits).mp after
              · rw [left, Frame.skip_succ received]
          · obtain ⟨out, call, taken⟩ := step_refused received answered fits
            rw [runLoop_last call]
            refine ⟨0, Nat.succ_pos _, s.output.fits_nil, ?_, rfl, .single answered taken, ?_⟩
            · rw [List.take_succ_cons, List.take_zero, framesOf_singleton]
              exact fits
            · exact (Frame.skip_succ received 0).symm

/-- What a session writes to a sink that takes `n` bytes are the first `n` bytes of what it writes to
one that takes all. If all fits, nothing else is different either. If not, the session ends with an
error of transport, and it has carried out the commands up to the first one whose answer did not
fit, and has received no other. -/
theorem run_cut (input : Source) (h : State δ) (w : ω) (turns turns' : List Uptake) (n : Nat)
    (refusal : Refusal) :
    let read := upToExit (Frame.payloads input)
    let answers := (serve read h w).1
    let whole := run (⟨input, { turns }, h, w⟩ : Running δ ω)
    let cut := run (⟨input, { turns := turns', limit := some (n, refusal) }, h, w⟩ : Running δ ω)
    let sent := whole.2.output.written
    sent = framesOf answers ∧ cut.2.output.written = sent.take n ∧
      (sent.length ≤ n →
        cut.1 = whole.1 ∧ cut.2.state = whole.2.state ∧ cut.2.world = whole.2.world) ∧
      (n < sent.length → cut.1 = .transportError ∧ ∃ k < read.length,
        (framesOf (answers.take k)).length ≤ n ∧ n < (framesOf (answers.take (k + 1))).length ∧
        cut.2.state = (serve (read.take (k + 1)) h w).2.1 ∧
        cut.2.world = (serve (read.take (k + 1)) h w).2.2 ∧
        cut.2.input = Frame.skip (k + 1) input) := by
  intro read answers whole cut sent
  obtain ⟨ending, answered, -⟩ := runLoop_answers (s := ⟨input, { turns }, h, w⟩)
    (Nat.lt_succ_self _) rfl rfl
  have all : sent = framesOf answers := answered.output.written_of_fits rfl
  refine ⟨all, ?_⟩
  rw [all]
  let output : Sink := { turns := turns', limit := some (n, refusal) }
  have fits (b : Bytes) : output.Fits b ↔ b.length ≤ n := Sink.fits_limit rfl
  by_cases enough : (framesOf answers).length ≤ n
  · obtain ⟨ending', answered', -⟩ := runLoop_answers (s := ⟨input, output, h, w⟩)
      (Nat.lt_succ_self _) rfl ((fits _).mpr enough)
    refine ⟨?_, fun _ => ⟨ending'.trans ending.symm, ?_, ?_⟩, fun less => absurd enough (by omega)⟩
    · rw [List.take_of_length_le enough]
      exact answered'.output.written_of_fits ((fits _).mpr enough)
    · exact answered'.state.trans answered.state.symm
    · exact answered'.world.trans answered.world.symm
  · obtain ⟨k, inside, before, after, ending', answered', left⟩ := runLoop_refused
      (s := ⟨input, output, h, w⟩) (Nat.lt_succ_self _) rfl (mt (fits _).mp enough)
    have beyond := Nat.lt_of_not_le (mt (fits _).mpr after)
    refine ⟨?_, fun less => absurd less enough, fun _ => ⟨ending', k, inside, (fits _).mp before,
      beyond, answered'.state, answered'.world, left⟩⟩
    have written := answered'.output.written_limit rfl
    rw [take_serve] at written
    rw [← framesOf_take_drop (k + 1) answers, List.take_append_of_le_length (Nat.le_of_lt beyond)]
    exact written

end HalBench.Session
