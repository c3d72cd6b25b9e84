import HalBench.Driver.Connection
import HalBench.Driver.Model
import HalBench.Driver.Request
import HalBench.Files.Path
/-!
# Drivers in processes of their own

Each question to a remote driver is one frame, and so is the answer, which is read as text with
ill-formed bytes replaced.
-/

namespace HalBench.Driver

open Service

/-- A driver at the other end of a connection. A driver that was launched has a socket of its
own, which goes with it. -/
structure Remote where
  service : String
  connection : Connection
  socketPath : Option Files.Path := none

namespace Remote

def ask (question : Request) (r : Remote) : Except Error String × Remote :=
  let (result, connection) := r.connection.exchange (Request.codec.encode question)
  (result.mapError .transport |>.map Utf8.stringLossy, { r with connection })

def interpret (service function text : String) : Except Error (Option Message) :=
  match Answer.classify text with
  | .nothing => .ok none
  | .failure => .error (.failed (service ++ " reported an error for " ++ function))
  | .text body => ((Message.ofText body).mapError .protocol).map some

def call (m : Message) (r : Remote) : Except Error (Option Message) × Remote :=
  let (answer, r) := r.ask (.call m)
  (answer.bind (interpret r.service m.name), r)

def functions (r : Remote) : List String × Remote :=
  let (answer, r) := r.ask .listFunctions
  let names := answer.bind fun text =>
    (Json.Codec.textList.decodeText text).mapError .protocol
  (names.toOption.getD [], r)

end Remote

end HalBench.Driver
