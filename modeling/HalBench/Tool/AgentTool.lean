import HalBench.Tool.Outcome
/-!
# The agent as a program

The program takes the paths of the drivers and of the specifications as arguments and the rest of
its settings from the environment.
-/

namespace HalBench.Tool.AgentTool

def usage (program : String) : String :=
  let paths : Installation := {}
  "HAL test agent v" ++ version ++ "

USAGE:
    " ++ program ++ " [<driver32> [<driver64>] [<spec-dir>]]

ARGUMENTS:
    driver32   32-bit driver binary (default: " ++ paths.driver32.display ++ ")
    driver64   64-bit driver binary (default: " ++ paths.driver64.display ++ ")
    spec-dir   Interface spec directory (default: " ++ paths.specs.display ++ ")

ENVIRONMENT:
    HAL_AGENT_PORT                  Listening port (default: "
    ++ toString Settings.defaultPort ++ ")
    HAL_AGENT_SOCKET_DIR            Directory for driver sockets
    HAL_AGENT_DRIVER_READY_TIMEOUT  Seconds to wait for a launched driver
    HAL_AGENT_LOG                   Log filter (debug, info, warn, error)
    HAL_AGENT_LOG_FORMAT            pretty or json
    HAL_AGENT_LOG_FILE              Log to this file instead of stderr"

/-- The settings that the program starts with; it may also end before it serves anyone. -/
def start (i : Invocation) (m : Machine) : Except Outcome Settings × Machine :=
  let first := i.arguments.headD ""
  if ["help", "--help", "-h"].contains first then (.error (.failing 0 [usage i.program]), m)
  else if ["version", "--version", "-V"].contains first then
    (.error (.printing ["hal-test-agent " ++ version]), m)
  else
    match Installation.ofArguments i.arguments with
    | .error e => (.error (.failing 1 [e.message, usage i.program]), m)
    | .ok drivers =>
      let settings := { Settings.ofEnvironment i.environment with drivers }
      match setUpLogging settings.log m with
      | (.error outcome, m) => (.error outcome, m)
      | (.ok (), m) => (.ok settings, m)

/-- Listens and serves clients over a network; the program ends by itself only when that fails. -/
def serve (settings : Settings) (n : Network) (connections : List Source) (m : Machine) :
    Except Outcome (List Agent.Served) × Machine :=
  let (result, m) := Agent.run Attached settings n connections m
  (result.mapError fun e => .failing 1 ["Agent error: " ++ e.message], m)

end HalBench.Tool.AgentTool
