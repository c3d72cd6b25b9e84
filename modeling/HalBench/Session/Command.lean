import HalBench.Driver.Id
import HalBench.Json.Case
import HalBench.Service.Category
import HalBench.Service.Key
import HalBench.Service.Message
/-!
# Commands of a session

What a client asks for, and the JSON form of it.
-/

namespace HalBench.Session

inductive Bitness where
  | bits32
  | bits64
  deriving DecidableEq, Repr

namespace Bitness

instance : Inhabited Bitness := ⟨bits64⟩

def codec : Json.Codec Bitness where
  schema := .choice ["32", "64"]
  pack
    | bits32 => (0 : Fin 2)
    | bits64 => (1 : Fin 2)
  unpack := fun (i : Fin 2) => if i = 0 then bits32 else bits64
  unpack_pack b := by cases b <;> rfl

end Bitness

/-- A driver that is to be launched, and the name by which it will be asked for. -/
structure Launch where
  serviceName : String
  key : Service.Key
  category : Service.Category := default
  bitness : Bitness := default
  driverPath : Option String := none
  deriving DecidableEq, Repr, Inhabited

inductive Command where
  | capability
  | listServices (paths : List String)
  | checkService (name : String)
  | launch (request : Launch)
  | listFunctions (driver : Driver.Id)
  | call (driver : Driver.Id) (message : Service.Message)
  | shell (commands : List String)
  | startMeasurement
  | stopMeasurement
  | exit
  deriving Inhabited

namespace Command

open Json

def launchFields : Fields :=
  .required "service_name" .text <| .required "package" .text <| .required "version" .text <|
  .required "interface" .text <| .optional "instance" .text <|
  .optional "category" Service.Category.codec.schema <|
  .optional "bitness" Bitness.codec.schema <| .optional "driver_path" (.nullable .text) .done

def packLaunch (l : Launch) : launchFields.Carrier :=
  (l.serviceName, l.key.package, l.key.version, l.key.interface, some l.key.instanceName,
    some (Service.Category.codec.pack l.category), some (Bitness.codec.pack l.bitness),
    some l.driverPath, ())

def unpackLaunch : launchFields.Carrier → Launch
  | (name, package, version, interface, instanceName, category, bitness, path, ()) =>
    { serviceName := name
      key := ⟨package, version, interface, Option.getD instanceName Service.Key.defaultInstance⟩
      category := (Option.map Service.Category.codec.unpack category).getD default
      bitness := (Option.map Bitness.codec.unpack bitness).getD default
      driverPath := Option.join path }

def variants : Variants :=
  .variant "capability" .done <|
  .variant "list_hals" (.optional "paths" (.list .text) .done) <|
  .variant "check_driver_service" (.required "service_name" .text .done) <|
  .variant "launch_driver_service" launchFields <|
  .variant "list_apis" (.required "driver_id" (.word .unsigned32) .done) <|
  .variant "call_api"
    (.required "driver_id" (.word .unsigned32) <|
      .required "call" Service.Message.codec.schema .done) <|
  .variant "execute_shell_command" (.required "commands" (.list .text) .done) <|
  .variant "start_measurement" .done <|
  .variant "stop_measurement" .done <|
  .variant "exit" .done <|
  .done

def names : List String := variants.names

def pack : Command → variants.Carrier
  | capability => Case.first ()
  | listServices paths => Case.second (some paths, ())
  | checkService name => Case.third (name, ())
  | launch l => Case.fourth (packLaunch l)
  | listFunctions id => Case.fifth (id, ())
  | call id m => Case.sixth (id, Service.Message.codec.pack m, ())
  | shell commands => Case.seventh (commands, ())
  | startMeasurement => Case.eighth ()
  | stopMeasurement => Case.ninth ()
  | exit => Case.tenth ()

def unpack : variants.Carrier → Command
  | Case.first () => capability
  | Case.second (paths, ()) => listServices (Option.getD paths [])
  | Case.third (name, ()) => checkService name
  | Case.fourth l => launch (unpackLaunch l)
  | Case.fifth (id, ()) => listFunctions id
  | Case.sixth (id, m, ()) => call id (Service.Message.codec.unpack m)
  | Case.seventh (commands, ()) => shell commands
  | Case.eighth () => startMeasurement
  | Case.ninth () => stopMeasurement
  | Case.tenth () => exit

theorem unpackLaunch_packLaunch (l : Launch) : unpackLaunch (packLaunch l) = l := by
  obtain ⟨name, key, category, bitness, path⟩ := l
  simp only [packLaunch, unpackLaunch, Option.map_some, Option.getD_some,
    Service.Category.codec.unpack_pack, Bitness.codec.unpack_pack]
  rfl

def codec : Codec Command where
  schema := .tagged "command" variants
  pack := pack
  unpack := unpack
  unpack_pack c := by
    cases c with
    | launch l => simp only [pack, unpack, unpackLaunch_packLaunch]
    | call id m => simp only [pack, unpack, Service.Message.codec.unpack_pack]
    | _ => rfl

def name (c : Command) : String := (variants.write c.pack).1

inductive Error where
  | empty
  | malformed (fault : Fault)
  deriving DecidableEq, Repr

def Error.message : Error → String
  | empty => "Invalid message format: empty command"
  | malformed fault => "Serialization error: " ++ fault.message

def decode (payload : Bytes) : Except Error Command :=
  if payload = [] then .error .empty else (codec.decode payload).mapError .malformed

def encode (c : Command) : Bytes := codec.encode c

end Command

end HalBench.Session
