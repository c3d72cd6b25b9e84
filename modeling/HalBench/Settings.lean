import HalBench.Duration
import HalBench.Log.Settings
import HalBench.Session.Command
/-!
# Settings of an agent

Settings come from positional arguments and from the environment. A variable that is not text or
not a number in range counts as missing.
-/

namespace HalBench

open Files

/-- The values of variables. -/
abbrev Environment := List (String × Bytes)

namespace Environment

def bytes? (e : Environment) (name : String) : Option Bytes := e.lookup name

def text? (e : Environment) (name : String) : Option String :=
  (e.bytes? name).bind Utf8.string?

def number? (e : Environment) (name : String) (bound : Nat) : Option Nat :=
  ((e.text? name).bind fun s => Log.number? s.toList).filter (· < bound)

end Environment

structure Installation where
  driver32 : Path := .ofString "/data/local/tmp/32/hal_driver32"
  driver64 : Path := .ofString "/data/local/tmp/64/hal_driver64"
  specs : Path := .ofString "/data/local/tmp/spec"
  deriving DecidableEq, Repr, Inhabited

namespace Installation

def maxArguments : Nat := 3

structure TooMany where
  got : Nat
  deriving DecidableEq, Repr

def TooMany.message (e : TooMany) : String :=
  "Too many arguments: got " ++ toString e.got ++ ", at most " ++ toString maxArguments
    ++ " accepted"

/-- The paths of positional arguments, which come in the order of the fields. -/
def ofArguments : List String → Except TooMany Installation
  | [] => .ok {}
  | [a] => .ok { driver32 := .ofString a }
  | [a, b] => .ok { driver32 := .ofString a, driver64 := .ofString b }
  | [a, b, c] => .ok ⟨.ofString a, .ofString b, .ofString c⟩
  | args => .error ⟨args.length⟩

def binaryFor (p : Installation) : Session.Bitness → Path
  | .bits32 => p.driver32
  | .bits64 => p.driver64

end Installation

structure Settings where
  port : Nat
  drivers : Installation
  socketDir : Path
  readyTimeout : Duration
  log : Log.Settings
  deriving DecidableEq, Repr, Inhabited

namespace Settings

def defaultPort : Nat := 5001

/-- The longest time, in seconds, that a driver may take to get ready. -/
def maxReadySeconds : Nat := 3600

def logOf (e : Environment) : Log.Settings :=
  { form := ((e.text? "HAL_AGENT_LOG_FORMAT").bind Log.Form.ofText?).getD default
    filter := ((e.text? "HAL_AGENT_LOG").filter fun s => !Text.allBlank s.toList).getD "info"
    path := e.bytes? "HAL_AGENT_LOG_FILE" }

def temporaryDir (e : Environment) : Path := (e.bytes? "TMPDIR").getD (Path.ofString "/tmp")

def ofEnvironment (e : Environment) : Settings :=
  let port := (e.number? "HAL_AGENT_PORT" (65536)).getD defaultPort
  let seconds := (e.number? "HAL_AGENT_DRIVER_READY_TIMEOUT" (18446744073709551616)).getD 10
  { port := if port = 0 then defaultPort else port
    drivers := {}
    socketDir := (e.bytes? "HAL_AGENT_SOCKET_DIR").getD (temporaryDir e)
    readyTimeout := min (max seconds 1) maxReadySeconds * Duration.second
    log := logOf e }

end Settings

end HalBench
