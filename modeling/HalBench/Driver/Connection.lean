import HalBench.Frame
/-!
# Connections to driver processes

A peer is the other end of a connection: after each frame that it receives it sends some bytes
and may close the connection. What it does may depend on all frames that it has received so far.
-/

namespace HalBench.Driver

structure Reply where
  bytes : Bytes
  closes : Bool := false
  deriving DecidableEq, Repr

/-- What a peer does, given the payloads of all frames received, the latest last. -/
abbrev Peer := List Bytes → Reply

/-- A connection to a peer: what was sent to it, and what came back and was not read yet. -/
structure Connection where
  peer : Peer
  sent : List Bytes := []
  inbox : Bytes := []
  closed : Bool := false

namespace Connection

/-- Sends a frame; the peer answers at once. -/
def send (payload : Bytes) (c : Connection) : Except Frame.Error Unit × Connection :=
  if c.closed then (.error (.io .brokenPipe), c)
  else
    let sent := c.sent ++ [payload]
    let reply := c.peer sent
    (.ok (), { c with sent, inbox := c.inbox ++ reply.bytes, closed := reply.closes })

def receive (c : Connection) : Except Frame.Error Bytes × Connection :=
  let (result, s) := Frame.receive (.ofBytes c.inbox)
  (result, { c with inbox := s.remaining })

def exchange (payload : Bytes) (c : Connection) : Except Frame.Error Bytes × Connection :=
  match c.send payload with
  | (.error e, c) => (.error e, c)
  | (.ok (), c) => c.receive

end Connection

end HalBench.Driver
