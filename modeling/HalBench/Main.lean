import HalBench.Tool.AgentTool
import HalBench.Tool.TraceTool
/-!
# The programs

The program's own name says which one it is. The files that the arguments name are put on a
machine, the program runs there, and what it changed is written back. An agent serves the client
on its standard input and output.
-/

namespace HalBench.Tool

def variableNames : List String :=
  ["HAL_AGENT_PORT", "HAL_AGENT_SOCKET_DIR", "HAL_AGENT_DRIVER_READY_TIMEOUT", "HAL_AGENT_LOG",
    "HAL_AGENT_LOG_FORMAT", "HAL_AGENT_LOG_FILE", "TMPDIR"]

def readEnvironment : IO Environment := do
  let found ← variableNames.mapM fun name => do
    return (name, ← IO.getEnv name)
  return found.filterMap fun (name, value) => value.map fun v => (name, Utf8.bytes v)

def readNode (path : String) : IO (Option Files.Node) := do
  let file := (← IO.currentDir) / path
  try
    if ← file.isDir then return some .directory
    else return some (.file (← IO.FS.readBinFile file).toList true)
  catch _ => return none

def namesOf (files : Files.Tree) (path : String) : List Bytes :=
  files.start (Utf8.bytes path) ++ Files.Path.names (Utf8.bytes path)

/-- Puts what stands under a path on a machine, with the directories around it. -/
def loadPath (files : Files.Tree) (path : String) : IO Files.Tree := do
  match ← readNode path with
  | none => return files
  | some node =>
    let names := namesOf files path
    let around := (List.range names.length).map names.take
    let files := around.foldl
      (fun f dir => if (f.node? dir).isSome then f else f.put dir .directory) files
    return files.put names node

def storePath (before after : Files.Tree) (path : String) : IO Unit := do
  let names := namesOf before path
  match after.node? names with
  | some (.file content executable) =>
    if before.node? names != some (.file content executable) then
      IO.FS.writeBinFile path ⟨content.toArray⟩
  | _ => return ()

def report (o : Outcome) (m : Machine) : IO UInt32 := do
  (← IO.getStdout).putStr o.output
  (← IO.getStderr).putStr (Utf8.stringLossy m.complaints ++ o.complaints)
  return UInt32.ofNat o.code

def runAgent (i : Invocation) (m : Machine) : IO (UInt32 × Machine) := do
  match AgentTool.start i m with
  | (.error outcome, m) => return (← report outcome m, m)
  | (.ok settings, m) =>
    let input ← (← IO.getStdin).readBinToEnd
    match AgentTool.serve settings {} [.ofBytes input.toList] m with
    | (.error outcome, m) => return (← report outcome m, m)
    | (.ok sessions, m) =>
      for s in sessions do
        (← IO.getStdout).write ⟨s.output.written.toArray⟩
      return (← report {} m, m)

def runProgram (program : String) (arguments : List String) : IO UInt32 := do
  let environment ← readEnvironment
  let current := Files.Path.names (Utf8.bytes (← IO.currentDir).toString)
  let bare : Files.Tree := { current }
  let bare := ((List.range (current.length + 1)).map current.take).foldl
    (fun f dir => f.put dir .directory) bare
  let log := (environment.lookup "HAL_AGENT_LOG_FILE").bind Utf8.string?
  let paths := arguments ++ log.toList
  let files ← paths.foldlM loadPath bare
  let i : Invocation := ⟨program, arguments, environment⟩
  let (code, m) ← if program == "hal-test-agent" then runAgent i { files } else do
    let (outcome, m) := TraceTool.run i { files }
    pure (← report outcome m, m)
  paths.forM (storePath files m.files)
  return code

end HalBench.Tool

def main (arguments : List String) : IO UInt32 := do
  let path ← IO.appPath
  HalBench.Tool.runProgram (path.fileName.getD "hal-trace") arguments
