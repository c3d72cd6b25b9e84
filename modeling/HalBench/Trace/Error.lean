import HalBench.Files.Path
import HalBench.Frame
import HalBench.Json.Fault
/-!
# Faults of traces
-/

namespace HalBench.Trace

inductive Error where
  | notOpened (path : Files.Path) (fault : SystemFault)
  | frame (records : Nat) (error : Frame.Error)
  | malformed (fault : Json.Fault)
  | notReplaced (path : Files.Path) (fault : SystemFault)
  | io (fault : SystemFault)
  deriving DecidableEq, Repr

def Error.message : Error → String
  | notOpened path fault => "Failed to open trace " ++ path.display ++ ": " ++ fault.message
  | frame records error =>
    "Trace framing error after " ++ toString records ++ " records: " ++ error.message
  | malformed fault => "Malformed trace record: " ++ fault.message
  | notReplaced path fault => "Failed to replace " ++ path.display ++ ": " ++ fault.message
  | io fault => "IO error: " ++ fault.message

end HalBench.Trace
