import HalBench.Session.State
/-!
# Running a session

Each frame that a client sends is a command, and each is answered with one frame. A payload that
is no command is answered with a failure. The session ends with the exit command, with the end of
the client's frames, or with a frame that cannot be received or sent.
-/

namespace HalBench.Session

inductive Ending where
  | exit
  | peerClosed
  | transportError
  deriving DecidableEq, Repr

def Ending.exitCode : Ending → Nat
  | exit => 0
  | _ => 1

/-- A session under way: what it reads, what it writes, its state and its world. -/
structure Running (δ ω : Type) where
  input : Source
  output : Sink := {}
  state : State δ
  world : ω

variable {δ ω : Type} [Driver.Model δ ω] [Host δ ω]

def respond (payload : Bytes) (h : State δ) (w : ω) : (Response × Flow) × State δ × ω :=
  match Command.decode payload with
  | .ok command => h.carryOut w command
  | .error e => ((.failure ("malformed command: " ++ e.message), .goOn), h, w)

/-- One frame received, and answered if it could be. -/
def step (s : Running δ ω) : Option Ending × Running δ ω :=
  match Frame.receive s.input with
  | (.error .peerClosed, input) => (some .peerClosed, { s with input })
  | (.error _, input) => (some .transportError, { s with input })
  | (.ok payload, input) =>
    let ((response, flow), state, world) := respond payload s.state s.world
    match Frame.send response.encode s.output with
    | (.error _, output) => (some .transportError, ⟨input, output, state, world⟩)
    | (.ok (), output) =>
      (match flow with | .goOn => none | .leave => some .exit, ⟨input, output, state, world⟩)

/-- Steps until the session ends. A frame takes two bytes at least, so `fuel` above the number of
bytes is never used up. -/
def runLoop : Nat → Running δ ω → Ending × Running δ ω
  | 0, s => (.transportError, s)
  | fuel + 1, s =>
    match step s with
    | (some ending, s) => (ending, s)
    | (none, s) => runLoop fuel s

def run (s : Running δ ω) : Ending × Running δ ω :=
  runLoop (s.input.remaining.length + 1) s

end HalBench.Session
