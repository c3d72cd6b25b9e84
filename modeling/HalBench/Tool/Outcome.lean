import HalBench.Agent
import HalBench.Machine
import HalBench.Settings
/-!
# What a program leaves

A program prints lines to its output and complaints to its error output, and ends with a code.
-/

namespace HalBench.Tool

def version : String := Session.agentVersion

structure Outcome where
  code : Nat := 0
  output : String := ""
  complaints : String := ""
  deriving DecidableEq, Repr, Inhabited

namespace Outcome

def printing (lines : List String) : Outcome :=
  { output := String.join (lines.map (· ++ "\n")) }

def failing (code : Nat) (lines : List String) : Outcome :=
  { code, complaints := String.join (lines.map (· ++ "\n")) }

end Outcome

structure Invocation where
  program : String
  arguments : List String
  environment : Environment

/-- Sets logging up; when that fails, so does the program. -/
def setUpLogging (log : Log.Settings) (m : Machine) : Except Outcome Unit × Machine :=
  match Log.setUp m.files false log with
  | (.error e, files) =>
    (.error (.failing 1 ["Failed to initialize logging: " ++ e.message]), { m with files })
  | (.ok (), files) => (.ok (), { m with files })

end HalBench.Tool
