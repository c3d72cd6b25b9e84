import HalBench.Shell.Lookup
/-!
# Commands about processes

Signals and what is done about them, commands in the background, and bounds on processes.
-/

namespace HalBench.Shell.Builtin

/-- Ends a process in the background that still runs; what it would have printed later is not
printed. -/
def endJob (j : Job) (signal : Nat) : Action Unit :=
  modify fun s =>
    let early (c : Chunk) : Bool := c.job != j.processId || c.time ≤ s.clock
    let ended : Job := { j with status := 128 + signal, signal := some signal, finish := s.clock }
    { s with
      printed := s.printed.filter early
      complained := s.complained.filter early
      processes := s.processes.map fun k => if k.processId = j.processId then ended else k }

def process? (s : State) (processId : Nat) : Option Job :=
  s.processes.find? fun j => j.processId == processId

/-- Sends a signal to a process; tells whether there is such a process. -/
def send (signal processId : Nat) : Action Bool := do
  let s ← get
  if processId = s.ownId then
    Action.receive signal
    return true
  else if s.callers.contains processId then
    if processId != 1 then
      modify fun s => { s with sent := s.sent ++ [⟨processId, signal, s.clock⟩] }
    return true
  else
    match process? s processId with
    | some j =>
      if j.finish ≤ s.clock then return false
      if Signal.isDeadly signal then endJob j signal
      return true
    | none => return false

def killUsage : String :=
  "Usage: kill [-s sigspec | -signum | -sigspec] [pid | job]... or\nkill -l [exitstatus]"

/-- The names of all signals, or that of one, given its number or the status that it leaves. -/
def nameSignals (words : List Text) : Action Nat := do
  match words with
  | [] =>
    Action.print (ofString "0\n")
    ((List.range Signal.limit).drop 1).forM fun n =>
      Action.print ((Signal.nameOf n).toList ++ ['\n'])
  | word :: _ =>
    let n ← numberOf word
    let n := if 128 < n then n - 128 else n
    if 0 < n && n < Signal.limit then Action.print ((Signal.nameOf n).toList ++ ['\n'])
    else Action.fail (ofString "invalid signal number or exit status: " ++ word)
  return 0

def jobOf (word : Text) : Action Nat := do
  let jobs := (← get).jobs
  let found := match word with
    | ['%'] => jobs.getLast?
    | ['%', '%'] => jobs.getLast?
    | ['%', '+'] => jobs.getLast?
    | ['%', '-'] => jobs.dropLast.getLast?
    | _ :: digits => (number? digits).bind fun n => jobs.find? fun j => j.1 == n
    | [] => none
  match found with
  | some (_, processId) => return processId
  | none => Action.fail (ofString "No such job: " ++ word)

def sendAll (signal : Nat) (words : List Text) : Action Nat :=
  words.foldlM (fun status word => do
    let reached ← match word with
      | '%' :: _ => do
        let _ ← jobOf word
        pure false
      | '-' :: digits => do
        let _ ← numberOf digits
        pure false
      | word => send signal (← numberOf word)
    if reached then return status
    Action.warn (ofString "No such process\n")
    return 1) 0

def kill (words : List Text) : Action Nat := do
  let usage {α : Type} : Action α := Action.fail (ofString killUsage)
  let sendTo (signal : Nat) (words : List Text) : Action Nat :=
    if words.isEmpty then usage else sendAll signal words
  match words with
  | [] => usage
  | ('-' :: text) :: rest =>
    match Signal.ofText? 1 text with
    | some signal => sendTo signal rest
    | none =>
      let (flags, rest) ← readOptions "ls:" words
      let signal ← match flags.lookup 's' with
        | none => pure none
        | some text =>
          match Signal.ofText? 1 text with
          | some n => pure (some n)
          | none => Action.fail (ofString "invalid signal number or name: " ++ text)
      if (flags.lookup 'l').isSome then
        if signal.isSome then usage else nameSignals rest
      else sendTo (signal.getD 15) rest
  | words => sendTo 15 words

/-- Sets what is done about a signal; the number zero stands for the end of the shell. -/
def setTrap (action : Option Text) (n : Nat) : Action Unit :=
  modify fun s =>
    let others := s.traps.filter (·.1 != n)
    { s with traps := match action with | some a => (n, a) :: others | none => others }

/-- Sets what is done about signals, up to a word that names none. -/
def setTraps (action : Option Text) : List Text → Action Nat
  | [] => return 0
  | word :: words => do
    match Signal.ofText? 0 word with
    | some n =>
      setTrap action n
      setTraps action words
    | none =>
      Action.complain (ofString "trap: " ++ word ++ ofString ": bad trap")
      return 1

def trap (words : List Text) : Action Nat := do
  let (_, words) ← readOptions "" words
  let isNumber (word : Text) : Bool := !word.isEmpty && word.all Char.isDigit
  match words with
  | [] =>
    let traps := (← get).traps.mergeSort fun a b => a.1 ≤ b.1
    traps.forM fun (n, action) =>
      let name := (Signal.nameOf n).toList
      Action.print (ofString "trap -- " ++ quoted action ++ ' ' :: name ++ ['\n'])
    return 0
  | [word] => setTraps none [word]
  | action :: rest =>
    if isNumber action && (Signal.ofText? 0 action).isSome then setTraps none words
    else setTraps (if action == ['-'] then none else some action) rest

def waitUntil (time : Nat) : Action Unit := do
  Action.pass (time - (← get).clock)

/-- Waits for the end of a process; gives its status. A signal that ended it is told of once. -/
def waitFor (processId : Nat) : Action Nat := do
  match process? (← get) processId with
  | none => return 127
  | some j =>
    waitUntil j.finish
    match if j.isTold then none else j.signal with
    | some signal =>
      modify fun s =>
        let told := s.processes.map fun k =>
          if k.processId = j.processId then { k with isTold := true } else k
        ({ s with processes := told }.write 2 (ofString (Signal.obituary signal))).1
    | none => pure ()
    return j.status

def noteAwaited (processIds : List Nat) : Action Unit :=
  modify fun s =>
    { s with processes := s.processes.map fun j =>
        if processIds.contains j.processId then { j with isAwaited := true } else j }

def wait (words : List Text) : Action Nat := do
  let (_, words) ← readOptions "" words
  let own := (← get).jobs.map (·.2)
  if words.isEmpty then
    let s ← get
    waitUntil ((own.filterMap (process? s)).foldl (fun t j => max t j.finish) s.clock)
    noteAwaited own
    return 0
  words.foldlM (fun _ word => do
    match word with
    | '%' :: _ => awaitOne (← jobOf word)
    | word =>
      let n ← numberOf word
      if own.contains n then awaitOne n else return 127) 0
where
  /-- Waits for a process, and takes note of it. -/
  awaitOne (n : Nat) : Action Nat := do
    let status ← waitFor n
    noteAwaited [n]
    return status

def jobLine (s : State) (n : Nat) (mark : Char) (j : Job) : Text :=
  let state : Text :=
    if s.clock < j.finish then ofString "Running"
    else
      match j.signal with
      | some signal => ((Signal.ofNumber? signal).map fun x => x.words.toList).getD []
      | none => ofString "Done" ++ (if j.status = 0 then [] else '(' :: showNat j.status ++ [')'])
  padRight 33 ('[' :: showNat n ++ ofString "] " ++ mark :: ' ' :: state)
    ++ (List.replicate (j.stages - 1) (ofString " | ")).flatten ++ ['\n']

/-- The lines that tell of jobs, and the jobs that have not ended; so many of these have lines
already. -/
def jobLines (s : State) (onlyIds : Bool) : Nat → List (Nat × Nat) → Text × List (Nat × Nat)
  | _, [] => ([], [])
  | before, (n, processId) :: rest =>
    match process? s processId with
    | none => jobLines s onlyIds before rest
    | some j =>
      let mark := if before = 0 then '+' else if before = 1 then '-' else ' '
      let line := if onlyIds then showNat processId ++ ['\n'] else jobLine s n mark j
      let isRunning := s.clock < j.finish
      let (lines, running) := jobLines s onlyIds (if isRunning then before + 1 else before) rest
      (line ++ lines, if isRunning then (n, processId) :: running else running)

/-- Shows the jobs, the latest first; those that have ended are forgotten. -/
def jobs (words : List Text) : Action Nat := do
  let (flags, _) ← readOptions "lp" words
  let s ← get
  let (lines, running) := jobLines s (flags.lookup 'p').isSome 0 s.jobs.reverse
  Action.print lines
  modify fun t => { t with jobs := running.reverse }
  return 0

def moveJob (_ : List Text) : Action Nat := do
  if (← get).jobs.isEmpty then Action.fail (ofString "No current job")
  else Action.fail (ofString "job not created under job control")

def times (_ : List Text) : Action Nat := do
  let none := ofString "0m0.000000s 0m0.000000s\n"
  Action.print (none ++ none)
  return 0

def ulimit (words : List Text) : Action Nat := do
  let (flags, words) ← readOptions "HSatfdscmlpnvwr" words
  match words with
  | [] =>
    Action.print (match flags.getLast? with
      | some ('c', _) => ofString "0\n"
      | some ('n', _) => ofString "1024\n"
      | some ('s', _) => ofString "8192\n"
      | _ => ofString "unlimited\n")
    return 0
  | word :: _ =>
    if word == ofString "unlimited" || word.all Char.isDigit then return 0
    else Action.fail (ofString "bad number")

end HalBench.Shell.Builtin
