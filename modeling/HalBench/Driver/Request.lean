import HalBench.Json.Case
import HalBench.Service.Message
/-!
# Requests to driver processes

What is sent to a driver process: a call, or the question which functions it has.
-/

namespace HalBench.Driver

inductive Request where
  | call (message : Service.Message)
  | listFunctions
  deriving Inhabited

namespace Request

open Json

def variants : Variants :=
  .variant "call" (.required "call" Service.Message.codec.schema .done) <|
  .variant "list_apis" .done <|
  .done

def pack : Request → variants.Carrier
  | call m => Case.first (Service.Message.codec.pack m, ())
  | listFunctions => Case.second ()

def unpack : variants.Carrier → Request
  | Case.first (m, ()) => call (Service.Message.codec.unpack m)
  | Case.second () => listFunctions

def codec : Codec Request where
  schema := .tagged "request" variants
  pack := pack
  unpack := unpack
  unpack_pack r := by
    cases r with
    | call m => simp only [pack, unpack, Service.Message.codec.unpack_pack]
    | listFunctions => rfl

def name : Request → String
  | call _ => "call"
  | listFunctions => "list_apis"

end Request

end HalBench.Driver
