import HalBench.Driver.Id
import HalBench.Json.Case
import HalBench.Measurement
/-!
# Responses of a session

What a session answers to a command, and the JSON form of it.
-/

namespace HalBench.Session

inductive Code where
  | success
  | failure
  deriving DecidableEq, Repr, Inhabited

namespace Code

def codec : Json.Codec Code where
  schema := .choice ["success", "fail"]
  pack
    | success => (⟨0, by decide⟩ : Fin 2)
    | failure => (⟨1, by decide⟩ : Fin 2)
  unpack := fun (i : Fin 2) => if i.val = 0 then success else failure
  unpack_pack c := by cases c <;> rfl

end Code

/-- What an agent tells about itself. -/
structure Capability where
  agentVersion : String
  processId : UInt32
  hostName : String
  commands : List String
  deriving DecidableEq, Repr, Inhabited

/-- What some shell commands printed and how they ended. -/
structure CommandOutput where
  printed : List String := []
  complained : List String := []
  exitCodes : List Int32 := []
  deriving DecidableEq, Repr, Inhabited

inductive Payload where
  | capability (about : Capability)
  | services (names : List String)
  | driver (id : Driver.Id)
  | functions (names : List String)
  | result (text : String)
  | shell (output : CommandOutput)
  | measurements (snapshot : Measurement.Snapshot)
  deriving Inhabited

namespace Payload

open Json

def variants : Variants :=
  .variant "capability"
    (.required "agent_version" .text <| .required "pid" (.word .unsigned32) <|
      .required "hostname" .text <| .required "commands" (.list .text) .done) <|
  .variant "hals" (.required "hals" (.list .text) .done) <|
  .variant "driver" (.required "driver_id" (.word .unsigned32) .done) <|
  .variant "apis" (.required "apis" (.list .text) .done) <|
  .variant "call_result" (.required "result" .text .done) <|
  .variant "shell"
    (.required "stdout" (.list .text) <| .required "stderr" (.list .text) <|
      .required "exit_codes" (.list (.word .signed32)) .done) <|
  .variant "measurements"
    (.required "active" .truth <| .required "window_ms" (.word .unsigned64) <|
      .required "calls" (.table Measurement.Summary.codec.schema) .done) <|
  .done

def packCalls (calls : Index Measurement.Summary) :
    Index Measurement.Summary.codec.schema.Carrier :=
  ⟨calls.entries.map fun m => (m.1, Measurement.Summary.codec.pack m.2), by
    simpa only [Entries.Ascending, List.pairwise_map] using calls.ascending⟩

def unpackCalls (calls : Index Measurement.Summary.codec.schema.Carrier) :
    Index Measurement.Summary :=
  ⟨calls.entries.map fun m => (m.1, Measurement.Summary.codec.unpack m.2), by
    simpa only [Entries.Ascending, List.pairwise_map] using calls.ascending⟩

theorem unpackCalls_packCalls (calls : Index Measurement.Summary) :
    unpackCalls (packCalls calls) = calls := by
  obtain ⟨entries, ascending⟩ := calls
  simp only [packCalls, unpackCalls, List.map_map, Index.mk.injEq]
  conv => rhs; rw [← List.map_id entries]
  exact List.map_congr_left fun m _ => rfl

def pack : Payload → variants.Carrier
  | capability c => Case.first (c.agentVersion, c.processId, c.hostName, c.commands, ())
  | services names => Case.second (names, ())
  | driver id => Case.third (id, ())
  | functions names => Case.fourth (names, ())
  | result text => Case.fifth (text, ())
  | shell o => Case.sixth (o.printed, o.complained, o.exitCodes, ())
  | measurements s => Case.seventh (s.active, s.window, packCalls s.calls, ())

def unpack : variants.Carrier → Payload
  | Case.first (version, pid, host, commands, ()) => capability ⟨version, pid, host, commands⟩
  | Case.second (names, ()) => services names
  | Case.third (id, ()) => driver id
  | Case.fourth (names, ()) => functions names
  | Case.fifth (text, ()) => result text
  | Case.sixth (printed, complained, codes, ()) => shell ⟨printed, complained, codes⟩
  | Case.seventh (active, window, calls, ()) => measurements ⟨active, window, unpackCalls calls⟩

def codec : Codec Payload where
  schema := .tagged "type" variants
  pack := pack
  unpack := unpack
  unpack_pack p := by
    cases p with
    | measurements s => simp only [pack, unpack, unpackCalls_packCalls]
    | _ => rfl

end Payload

structure Response where
  code : Code
  reason : Option String := none
  payload : Option Payload := none
  deriving Inhabited

namespace Response

open Json

def success : Response := ⟨.success, none, none⟩

def answer (payload : Payload) : Response := ⟨.success, none, some payload⟩

def failure (reason : String) : Response := ⟨.failure, some reason, none⟩

def isSuccess (r : Response) : Bool := r.code == .success

def packOptional {α β : Type} (pack : α → β) (x : Option α) : Option (Option β) :=
  x.map fun y => some (pack y)

def codec : Codec Response where
  schema := .record <| .required "code" Code.codec.schema <|
    .optional "reason" (.nullable .text) <|
    .optional "payload" (.nullable Payload.codec.schema) .done
  pack r := (Code.codec.pack r.code, packOptional id r.reason,
    packOptional Payload.codec.pack r.payload, ())
  unpack := fun (code, reason, payload, ()) =>
    ⟨Code.codec.unpack code, Option.join reason,
      (Option.join payload).map Payload.codec.unpack⟩
  unpack_pack r := by
    obtain ⟨code, reason, payload⟩ := r
    cases reason <;> cases payload <;>
      simp only [packOptional, Code.codec.unpack_pack, Option.map_some, Option.map_none,
        Option.join_some, Option.join_none, Payload.codec.unpack_pack] <;>
      rfl

def decode (payload : Bytes) : Except Fault Response := codec.decode payload

def encode (r : Response) : Bytes := codec.encode r

end Response

end HalBench.Session
