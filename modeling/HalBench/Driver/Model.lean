import HalBench.Driver.Id
import HalBench.Frame
import HalBench.Json.Fault
import HalBench.Service.Message
/-!
# Drivers

A driver answers calls with a result, with none, or with an error, compares results, and tells
which functions it has. It may keep a state and may act on the world around it.
-/

namespace HalBench.Driver

open Service

inductive Error where
  | transport (error : Frame.Error)
  | protocol (fault : Json.Fault)
  | unsupported (function : String)
  | failed (reason : String)
  deriving DecidableEq, Repr

def Error.message : Error → String
  | transport error => "Driver transport error: " ++ error.message
  | protocol fault => "Driver protocol error: " ++ fault.message
  | unsupported function => "Unsupported function: " ++ function
  | failed reason => "Driver call failed: " ++ reason

def agree (expected actual : Message) : Bool :=
  expected.name == actual.name && Json.Value.sameAll expected.returns actual.returns

/-- The types of drivers, and the world that they act on. -/
class Model (δ : Type) (ω : outParam Type) where
  call : δ → Message → ω → Except Error (Option Message) × δ × ω
  verify : δ → Message → Message → Bool := fun _ => agree
  functions : δ → ω → List String × δ × ω := fun d w => ([], d, w)

end HalBench.Driver
