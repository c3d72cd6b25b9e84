import HalBench.Tool.Replay
/-!
# The trace tool

Replays a trace, lists its interfaces, cleans it, or prints its records.
-/

namespace HalBench.Tool.TraceTool

open Trace

def usage : String :=
  "hal-trace - HAL call trace tool v" ++ version ++ "

USAGE:
    hal-trace <COMMAND> <TRACE> [OPTIONS]

COMMANDS:
    replay     Replay a trace against freshly launched drivers
    services   List the interfaces a trace exercises
    cleanup    Drop duplicate and unpaired records in place
    dump       Print one line per record
    version    Show version information
    help       Show this help message

REPLAY OPTIONS:
    --driver PATH              Driver binary (default: "
    ++ ({} : Installation).driver64.display ++ ")
    --spec-dir DIR             Interface spec directory (default: "
    ++ ({} : Installation).specs.display ++ ")
    --service FQNAME=SERVICE   Service instance for an interface (repeatable)

EXIT CODES:
    0  Success (verification mismatches are reported, not failures)
    1  Failure
    2  Usage error"

def cleanupLine (r : CleanupTally) : String :=
  "kept " ++ toString r.kept ++ " record(s), removed " ++ toString r.duplicates
    ++ " client duplicate(s) and " ++ toString r.unpaired ++ " unpaired"

def listInterfaces (path : Files.Path) (m : Machine) : Outcome :=
  match servicesOfPath m.files path with
  | .ok names => .printing names
  | .error e => .failing 1 ["Failed to scan trace: " ++ e.message]

def cleanTrace (path : Files.Path) (m : Machine) : Outcome × Machine :=
  match cleanPath m.files path with
  | (.ok report, files) => (.printing [cleanupLine report], { m with files })
  | (.error e, files) => (.failing 1 ["Cleanup failed: " ++ e.message], { m with files })

/-- The lines for the records that an iteration yields, and the error that ends it. The number of
records is less than that of the bytes, so `fuel` above that is never used up. -/
def dumpLoop : Nat → Iteration → List String × Option Error
  | 0, _ => ([], none)
  | fuel + 1, i =>
    match i.next with
    | (none, _) => ([], none)
    | (some (.error e), _) => ([], some e)
    | (some (.ok record), i) =>
      let (lines, e) := dumpLoop fuel i
      (record.display :: lines, e)

def dumpTrace (path : Files.Path) (m : Machine) : Outcome :=
  match openPath m.files path with
  | .error e => .failing 1 [e.message]
  | .ok reader =>
    match dumpLoop (reader.source.remaining.length + 1) ⟨reader, false⟩ with
    | (lines, none) => .printing lines
    | (lines, some e) =>
      { Outcome.printing lines with code := 1, complaints := e.message ++ "\n" }

def dispatch (i : Invocation) (command : String) (path : Files.Path) (rest : List String)
    (m : Machine) : Outcome × Machine :=
  match command, rest with
  | "replay", rest =>
    match ReplayChoice.parse rest with
    | .ok options => replayTrace options (Settings.ofEnvironment i.environment) path m
    | .error e => (.failing 2 [e.message, usage], m)
  | "services", [] => (listInterfaces path m, m)
  | "cleanup", [] => cleanTrace path m
  | "dump", [] => (dumpTrace path m, m)
  | command, rest =>
    match ["services", "cleanup", "dump"].contains command, rest with
    | true, argument :: _ => (.failing 2 ["Unexpected argument: " ++ argument], m)
    | _, _ => (.failing 2 ["Unknown command: " ++ command, usage], m)

def run (i : Invocation) (m : Machine) : Outcome × Machine :=
  let command := i.arguments.headD "help"
  if ["help", "--help", "-h"].contains command then (.failing 0 [usage], m)
  else if ["version", "--version", "-V"].contains command then
    (.printing ["hal-trace " ++ version], m)
  else
    match i.arguments with
    | _ :: trace :: rest =>
      match setUpLogging (Settings.logOf i.environment) m with
      | (.error outcome, m) => (outcome, m)
      | (.ok (), m) => dispatch i command (.ofString trace) rest m
    | _ => (.failing 2 ["Missing trace file for '" ++ command ++ "'", usage], m)

end HalBench.Tool.TraceTool
