import HalBench.Session.Run
/-!
# Serving clients

An agent listens on a port and serves each connection with a session of its own, which starts
without drivers and lets those that it launched go when it ends.
-/

namespace HalBench

structure Network where
  reachable : Bool := true
  busyPorts : List Nat := []
  deriving DecidableEq, Repr

namespace Network

def dial (n : Network) : Except SystemFault Unit :=
  if n.reachable then .ok () else .error .networkUnreachable

end Network

namespace Agent

inductive Error where
  | notBound (port : Nat) (fault : SystemFault)
  | notAccepted (fault : SystemFault)
  | notForked (fault : SystemFault)
  deriving DecidableEq, Repr

def Error.message : Error → String
  | notBound port fault =>
    "Failed to listen on port " ++ toString port ++ ": " ++ fault.message
  | notAccepted fault => "Accept failed: " ++ fault.message
  | notForked fault => "Fork failed: " ++ fault.message

def listen (n : Network) (port : Nat) : Except Error Unit :=
  if n.busyPorts.contains port then .error (.notBound port .addressInUse) else .ok ()

def sessionConfig (s : Settings) : Session.Config := ⟨s.drivers, s.socketDir, s.readyTimeout⟩

structure Served where
  ending : Session.Ending
  output : Sink

variable (δ : Type) {ω : Type} [Driver.Model δ ω] [Session.Host δ ω]

def serveOne (config : Session.Config) (input : Source) (w : ω) : Served × ω :=
  let (ending, s) := Session.run ⟨input, {}, ({ config } : Session.State δ), w⟩
  (⟨ending, s.output⟩, s.state.release s.world)

def serve (config : Session.Config) : List Source → ω → List Served × ω
  | [], w => ([], w)
  | input :: rest, w =>
    let (first, w) := serveOne δ config input w
    let (later, w) := serve config rest w
    (first :: later, w)

def run (s : Settings) (n : Network) (connections : List Source) (w : ω) :
    Except Error (List Served) × ω :=
  match listen n s.port with
  | .error e => (.error e, w)
  | .ok () =>
    let (served, w) := serve δ (sessionConfig s) connections w
    (.ok served, w)

end Agent

end HalBench
