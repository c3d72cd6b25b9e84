import HalBench.Service.Key
import HalBench.Service.Message
import HalBench.Trace.Event
/-!
# Records of a trace

A record tells which function of which interface was entered or left. The version of the
interface is a number of single precision, and the interface is named with that number to one
decimal place.
-/

namespace HalBench.Trace

/-- The text of a version: one decimal place. -/
def versionText (version : Binary) : String := String.ofList (Decimal.oneDecimal version)

structure Record where
  event : Event
  package : String
  version : Binary
  interface : String
  message : Service.Message
  timestamp : Int64 := 0
  deriving Inhabited

namespace Record

def codec : Json.Codec Record where
  schema := .record <| .required "event" Event.codec.schema <| .required "package" .text <|
    .required "version" (.float .single) <| .required "interface" .text <|
    .required "func_msg" Service.Message.codec.schema <|
    .optional "timestamp" (.word .signed64) .done
  pack r := (Event.codec.pack r.event, r.package, r.version, r.interface,
    Service.Message.codec.pack r.message, some r.timestamp, ())
  unpack := fun (event, package, version, interface, message, timestamp, ()) =>
    ⟨Event.codec.unpack event, package, version, interface,
      Service.Message.codec.unpack message, Option.getD timestamp 0⟩
  unpack_pack r := by
    cases r
    simp only [Event.codec.unpack_pack, Service.Message.codec.unpack_pack]
    rfl

def versionText (r : Record) : String := Trace.versionText r.version

def qualifiedName (r : Record) : String :=
  Service.qualifiedName r.package r.versionText r.interface

def display (r : Record) : String :=
  toString r.timestamp.toInt ++ " " ++ r.event.name ++ " " ++ r.qualifiedName ++ " "
    ++ r.message.toText

def same (r s : Record) : Bool :=
  r.event == s.event && r.package == s.package && r.version.same s.version
    && r.interface == s.interface && r.message.same s.message && r.timestamp == s.timestamp

end Record

end HalBench.Trace
