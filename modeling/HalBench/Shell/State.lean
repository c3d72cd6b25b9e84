import HalBench.Driver.Launch
import HalBench.Files.Tree
import HalBench.Shell.Setting
import HalBench.Shell.Signal
import HalBench.Shell.Syntax
/-!
# The state of a shell

A shell has files, descriptors, variables, functions, aliases and arguments. A clock tells when
output was printed; only sleeping takes time. Descriptors lead to channels, which a shell shares
with the shells within it.
-/

namespace HalBench.Shell

/-- What a descriptor leads to: the output or the complaints of the machine, what is collected for
another command with the latest byte first, what another command left and was complete at a time,
a place in a file, or a device. -/
inductive Channel where
  | printed
  | complained
  | collector (text : Text)
  | supply (text : Text) (ready : Nat)
  | file (names : List Bytes) (place : Nat) (reads writes appends : Bool)
  | null
  | full
  | directory
  deriving Repr, Inhabited

/-- Some output, with the time at which it was printed and the job that printed it. -/
structure Chunk where
  time : Nat
  job : Nat
  text : Text
  deriving Repr

/-- What is known of a variable; it may be declared without having a value. -/
structure Binding where
  value : Option Text := none
  isExported : Bool := false
  isConstant : Bool := false
  deriving DecidableEq, Repr, Inhabited

/-- A command that runs in the background: the status it ends with, the signal that ends it, and
when; how many processes it has, whether the signal was told of, and whether its end was waited
for. -/
structure Job where
  processId : Nat
  status : Nat
  signal : Option Nat
  finish : Nat
  stages : Nat := 1
  isTold : Bool := false
  isAwaited : Bool := false
  deriving Repr

structure Sent where
  processId : Nat
  signal : Nat
  time : Nat
  deriving Repr

/-- What is brought back at the end of a function: what was known of variables, and the settings if
they are its own. -/
structure Frame where
  bindings : List (String × Option Binding) := []
  settings : Option (List Setting) := none
  deriving Repr

/-- The state of a shell. The first fields are shared with the shells within it, and the others
are its own. Output is kept with the latest chunk first. -/
structure State where
  files : Files.Tree
  channels : Array Channel := #[.null, .printed, .complained]
  printed : List Chunk := []
  complained : List Chunk := []
  clock : Nat := 0
  limit : Option Nat := none
  nextProcess : Nat := 3
  heldUntil : Nat := 0
  nextDocument : Nat := 0
  sent : List Sent := []
  processes : List Job := []
  name : Text := ['s', 'h']
  commandName : Option Text := none
  program : Text := []
  line : Nat := 1
  arguments : List Text := []
  bindings : List (String × Binding) := []
  frames : List Frame := []
  functions : List (String × Command) := []
  aliases : List (String × Text) := []
  settings : List Setting := []
  documents : List (Nat × Word) := []
  directoryName : Text := []
  descriptors : List (Nat × Nat) := [(0, 0), (1, 1), (2, 2)]
  processId : Nat := 2
  ownId : Nat := 2
  callers : List Nat := [1]
  job : Nat := 0
  jobs : List (Nat × Nat) := []
  lastJob : Option Nat := none
  status : Nat := 0
  substitution : Nat := 0
  savedStatus : Option Nat := none
  traps : List (Nat × Text) := []
  caught : List Nat := []
  ignored : List Nat := []
  loops : Nat := 0
  mask : Nat := 18
  optionIndex : Nat := 1
  optionPlace : Option Nat := none
  feedsPipe : Bool := false
  writeFault : Option SystemFault := none
  found : List (String × Text) := []

/-- Why a shell does not go on with the next command: it ends, a command of it has failed in a way
that ends a script, a process is killed, the time is up, too much was done, or a loop or a function
is left. -/
inductive Flow where
  | leave
  | failed
  | killed (processId signal : Nat)
  | stopped
  | exhausted
  | leaveLoop (depth : Nat)
  | nextRound (depth : Nat)
  | leaveFunction
  deriving DecidableEq, Repr

abbrev Action (α : Type) := ExceptT Flow (StateM State) α

namespace State

def has (s : State) (x : Setting) : Bool := s.settings.contains x

def channel? (s : State) (descriptor : Nat) : Option (Nat × Channel) := do
  let n ← s.descriptors.lookup descriptor
  let c ← s.channels[n]?
  return (n, c)

def point (s : State) (descriptor channel : Nat) : State :=
  { s with descriptors := (descriptor, channel) :: s.descriptors.filter (·.1 != descriptor) }

def close (s : State) (descriptor : Nat) : State :=
  { s with descriptors := s.descriptors.filter (·.1 != descriptor) }

def newChannel (s : State) (c : Channel) : Nat × State :=
  (s.channels.size, { s with channels := s.channels.push c })

def connect (s : State) (descriptor : Nat) (c : Channel) : State :=
  let (n, s) := s.newChannel c
  s.point descriptor n

def overwrite (content : Bytes) (offset : Nat) (more : Bytes) : Bytes :=
  content.take offset ++ List.replicate (offset - content.length) 0 ++ more
    ++ content.drop (offset + more.length)

def writeChannel (s : State) (n : Nat) (text : Text) : State × Option SystemFault :=
  match s.channels[n]? with
  | some .printed => ({ s with printed := ⟨s.clock, s.job, text⟩ :: s.printed }, none)
  | some .complained => ({ s with complained := ⟨s.clock, s.job, text⟩ :: s.complained }, none)
  | some (.collector before) =>
    ({ s with channels := s.channels.setIfInBounds n (.collector (text.reverse ++ before)) }, none)
  | some (.file names place reads true appends) =>
    match s.files.node? names with
    | some (.file content executable) =>
      let offset := if appends then content.length else place
      let content := if offset = content.length then content ++ toBytes text
        else overwrite content offset (toBytes text)
      let channel : Channel := .file names (offset + text.length) reads true appends
      ({ s with
          files := s.files.put names (.file content executable)
          channels := s.channels.setIfInBounds n channel }, none)
    | _ => (s, none)
  | some .null => (s, none)
  | some .full => (s, if text.isEmpty then none else some .noSpace)
  | _ => (s, some .badDescriptor)

def write (s : State) (descriptor : Nat) (text : Text) : State × Option SystemFault :=
  match s.descriptors.lookup descriptor with
  | none => (s, some .badDescriptor)
  | some n => s.writeChannel n text

def put (s : State) (descriptor : Nat) (text : Text) : State :=
  if text.isEmpty then s
  else
    match s.write descriptor text with
    | (s, none) => s
    | (s, some fault) => { s with writeFault := s.writeFault.or (some fault) }

def print (s : State) (text : Text) : State := s.put 1 text

def complain (s : State) (text : Text) : State := (s.write 2 (text ++ ['\n'])).1

/-- What a channel still has to read, up to a stop; it goes on behind it. -/
def readChannel (s : State) (n : Nat) (stop : Text → Nat) : Except SystemFault Text × State :=
  match s.channels[n]? with
  | some (.supply text ready) =>
    let count := stop text
    let left := text.drop count
    let clock := if left.isEmpty then max s.clock ready else s.clock
    (.ok (text.take count),
      { s with clock, channels := s.channels.setIfInBounds n (.supply left ready) })
  | some (.file names place reads writes appends) =>
    if !reads then (.error .badDescriptor, s)
    else
      match s.files.node? names with
      | some (.file content _) =>
        let text := ofBytes (content.drop place)
        let count := min (stop text) text.length
        let channel : Channel := .file names (place + count) reads writes appends
        (.ok (text.take count), { s with channels := s.channels.setIfInBounds n channel })
      | _ => (.ok [], s)
  | some .null => (.ok [], s)
  | some .full => (.ok [], s)
  | some .directory => (.error .isADirectory, s)
  | _ => (.error .badDescriptor, s)

/-- What a descriptor still has to read, up to a stop; the descriptor goes on behind it. -/
def readUpTo (s : State) (descriptor : Nat) (stop : Text → Nat) :
    Except SystemFault Text × State :=
  match s.descriptors.lookup descriptor with
  | some n => s.readChannel n stop
  | none => (.error .badDescriptor, s)

def readAll (s : State) (descriptor : Nat) : Except SystemFault Text × State :=
  s.readUpTo descriptor List.length

def complaintStart (s : State) : Text :=
  s.name ++ ofString ": " ++ showNat s.line ++ ofString ": "
    ++ (match s.commandName with | some name => name ++ ofString ": " | none => [])

def warn (s : State) (text : Text) : State := s.complain (s.complaintStart ++ text)

def binding? (s : State) (name : String) : Option Binding := s.bindings.lookup name

def value? (s : State) (name : String) : Option Text := (s.binding? name).bind (·.value)

/-- Changes what is known of a variable; with none, nothing is. The variables that tell where
programs are and how many options were read change what the shell remembers of these. -/
def bind (s : State) (name : String) (b : Option Binding) : State :=
  let others := s.bindings.filter (·.1 != name)
  let value := (b.bind (·.value)).getD []
  let s := if name == "OPTIND" then
      let n := match integer? (some 10) value with
        | some (n, _) => n.toNat
        | none => 0
      { s with optionPlace := none, optionIndex := max n 1 }
    else if name == "PATH" then { s with found := [] }
    else s
  match b with
  | some b => { s with bindings := (name, b) :: others }
  | none => { s with bindings := others }

def set (s : State) (name : String) (value : Text) : State :=
  let b := (s.binding? name).getD {}
  s.bind name (some { b with value := some value, isExported := b.isExported || s.has .allexport })

def hide (s : State) (name : String) : State :=
  match s.frames with
  | frame :: rest =>
    if frame.bindings.any (·.1 == name) then s
    else
      let frame := { frame with bindings := (name, s.binding? name) :: frame.bindings }
      { s with frames := frame :: rest }
  | [] => s

def hideSettings (s : State) : State :=
  match s.frames with
  | frame :: rest =>
    { s with frames := { frame with settings := frame.settings.or (some s.settings) } :: rest }
  | [] => s

def pushFrame (s : State) : State := { s with frames := {} :: s.frames }

def popFrame (s : State) : State :=
  match s.frames with
  | frame :: rest =>
    let s := { s with frames := rest, settings := frame.settings.getD s.settings }
    frame.bindings.foldl (fun s (name, b) => s.bind name b) s
  | [] => s

def environment (s : State) : List (String × Text) :=
  let exported := s.bindings.filterMap fun (name, b) =>
    if b.isExported then b.value.map fun v => (name, v) else none
  exported.mergeSort fun a b => textLe a.1.toList b.1.toList

def separators (s : State) : Text := (s.value? "IFS").getD [' ', '\t', '\n']

def pathOf (names : List Bytes) : Text :=
  match names with
  | [] => ['/']
  | names => names.flatMap fun n => '/' :: ofBytes n

def directory (s : State) : Text := pathOf s.files.current

/-- A free place among the jobs. A job whose end was waited for gives up its place. -/
def freePlace (s : State) : Nat × State :=
  let isAwaited (processId : Nat) : Bool :=
    s.processes.any fun j => j.processId == processId && j.isAwaited
  let isFree (n : Nat) : Bool := (s.jobs.lookup n).all isAwaited
  let n := ((List.range (s.jobs.length + 1)).find? fun k => isFree (k + 1)).getD s.jobs.length + 1
  (n, { s with jobs := s.jobs.filter (·.1 != n) })

def rejoin (s inner : State) : State :=
  { s with
    files := { inner.files with current := s.files.current }
    channels := inner.channels
    printed := inner.printed
    complained := inner.complained
    clock := inner.clock
    nextProcess := inner.nextProcess
    heldUntil := inner.heldUntil
    sent := inner.sent
    processes := inner.processes
    nextDocument := inner.nextDocument }

end State

namespace Action

def attempt {α : Type} (action : Action α) : Action (Except Flow α) := ExceptT.mk fun s =>
  let (result, t) := action.run s
  (.ok result, t)

def resume {α : Type} : Except Flow α → Action α
  | .ok x => return x
  | .error flow => throw flow

def fail {α : Type} (text : Text) : Action α := do
  modify fun s => { s.warn text with status := 2 }
  throw .failed

def assign (name : String) (value : Text) : Action Unit := do
  match (← get).binding? name with
  | some b => if b.isConstant then fail (ofString (name ++ ": is read only"))
  | none => pure ()
  modify fun s => s.set name value

def pass (time : Nat) : Action Unit := do
  let s ← get
  let clock := s.clock + time
  match s.limit with
  | some limit => if limit < clock then throw .stopped
  | none => pure ()
  modify fun s => { s with clock }

def print (text : Text) : Action Unit := modify fun s => s.print text

def warn (text : Text) : Action Unit := modify fun s => s.warn text

def complain (text : Text) : Action Unit := modify fun s => s.complain text

def readAll (descriptor : Nat) : Action (Except SystemFault Text) := do
  let (r, s) := (← get).readAll descriptor
  set s
  return r

def arrived (s : State) : List Sent × List Sent :=
  s.sent.partition fun x => x.processId == s.ownId && x.time ≤ s.clock

/-- Runs rounds, each on what the one before it left, until one says that it was the last; `fuel`
bounds their number. -/
def iterate {α : Type} (round : α → Action (α × Bool)) : Nat → α → Action α
  | 0, _ => throw .exhausted
  | fuel + 1, x => do
    let (y, goesOn) ← round x
    if goesOn then iterate round fuel y else return y

/-- A signal reaches this process: it is passed over, caught, or ends the process. -/
def receive (signal : Nat) : Action Unit := do
  let s ← get
  if Signal.isCertain signal then
    if Signal.isDeadly signal then throw (.killed s.ownId signal)
  else if !s.ignored.contains signal then
    match s.traps.lookup signal with
    | some [] => return ()
    | some _ => set { s with caught := s.caught ++ [signal] }
    | none => if Signal.isDeadly signal then throw (.killed s.ownId signal)

/-- The signals reach this process that were sent to it by processes within it. -/
def receiveSent : Action Unit := do
  let s ← get
  if !s.sent.isEmpty then
    let (mine, others) := arrived s
    set { s with sent := others }
    mine.forM fun x => receive x.signal

/-- Runs an action in a process of its own, within this one. What ends the process does not end
this one, unless the signal was for this one. The result is the status of the process and the
signal that ended it. -/
def within (action : Action Nat) : Action (Nat × Option Nat) := do
  let s ← get
  let (result, inner) := action.run
    { s with
      ownId := s.nextProcess, callers := s.ownId :: s.callers
      nextProcess := s.nextProcess + 1, jobs := [], caught := [], writeFault := none }
  set (s.rejoin inner)
  let ending : Nat × Option Nat ← match result with
    | .ok status => pure (status % 256, none)
    | .error (.killed target signal) =>
      if target = inner.ownId then pure (128 + signal, some signal)
      else throw (.killed target signal)
    | .error .stopped => throw .stopped
    | .error .exhausted =>
      if inner.feedsPipe then pure (141, some 13) else throw .exhausted
    | .error _ => pure (inner.status % 256, none)
  receiveSent
  return ending

/-- Runs an action whose output is collected; gives what it printed. -/
def collect (action : Action Nat) : Action (Text × Nat × Option Nat) := do
  let before ← get
  let (n, s) := before.newChannel (.collector [])
  set (s.point 1 n)
  let result ← attempt (within action)
  modify fun s => { s with descriptors := before.descriptors }
  let (status, signal) ← resume result
  match (← get).channels[n]? with
  | some (.collector text) =>
    modify fun s => { s with channels := s.channels.setIfInBounds n .null }
    return (text.reverse, status, signal)
  | _ => return ([], status, signal)

end Action

end HalBench.Shell
