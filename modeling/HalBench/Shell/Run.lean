import HalBench.Shell.Builtin.Basic
import HalBench.Shell.Expansion
import HalBench.Shell.Image
import HalBench.Shell.Opening
import HalBench.Shell.Utility.Table
/-!
# Running scripts

Commands are carried out one by one. Utilities do their work at once; sleeping lets time pass, and
a shell with a time limit stops when it is reached.
-/

namespace HalBench.Shell

/-- How a command is carried out: whether its failure is looked at, so that it does not end the
shell, and whether it is the last one of its process. -/
structure Mode where
  tested : Bool := false
  isLast : Bool := false

namespace Run

def finish (status : Nat) : Action Nat := do
  modify fun s => { s with status }
  return status

/-- Takes note of the status of a command, and leaves a shell that stops on failures. -/
def check (m : Mode) (status : Nat) : Action Nat := do
  let _ ← finish status
  if status != 0 && !m.tested && (← get).has .errexit then throw .leave
  return status

/-- How a part of a round of a loop ended: with a status, or so that the loop goes on with the next
round, or so that it does not. -/
inductive Turn where
  | ended (status : Nat)
  | next
  | out

def turn (action : Action Nat) : Action Turn := do
  match ← Action.attempt action with
  | .ok status => return .ended status
  | .error (.leaveLoop n) => if n ≤ 1 then return .out else throw (.leaveLoop (n - 1))
  | .error (.nextRound n) => if n ≤ 1 then return .next else throw (.nextRound (n - 1))
  | .error flow => throw flow

/-- How many rounds a loop has at most; a loop whose output is read by another command that may have
enough of it has fewer. -/
def roundLimit (s : State) : Nat := if s.feedsPipe then 30000 else 2000000

def whileLoop (untilTrue : Bool) (test body : Action Nat) : Action Nat := do
  let round (status : Nat) : Action (Nat × Bool) := do
    match ← turn test with
    | .out => return (status, false)
    | .next => return (status, true)
    | .ended t =>
      if (t == 0) == untilTrue then return (status, false)
      else
        match ← turn body with
        | .ended n => return (n, true)
        | .next => return ((← get).status, true)
        | .out => return ((← get).status, false)
  Action.iterate round (roundLimit (← get)) 0

def eachLoop (name : String) (values : List Text) (body : Action Nat) : Action Nat := do
  let round (x : Nat × List Text) : Action ((Nat × List Text) × Bool) := do
    match x with
    | (status, []) => return ((status, []), false)
    | (_, value :: rest) =>
      Action.assign name value
      match ← turn body with
      | .ended n => return ((n, rest), true)
      | .next => return (((← get).status, rest), true)
      | .out => return (((← get).status, rest), false)
  return (← Action.iterate round (values.length + 1) (0, values)).1

def inLoop (loop : Action Nat) : Action Nat := do
  let loops := (← get).loops
  modify fun s => { s with loops := loops + 1 }
  let result ← Action.attempt loop
  modify fun s => { s with loops }
  Action.resume result

/-- What is left of a state in a process of its own: actions for signals are forgotten. -/
def forked (s : State) : State :=
  { s with traps := s.traps.filter (·.2.isEmpty), caught := [] }

def hasTraps (s : State) : Bool := s.traps.any fun t => !t.2.isEmpty

def tell (signal : Option Nat) : Action Unit :=
  match signal with
  | some n => modify fun s => (s.write 2 (ofString (Signal.obituary n))).1
  | none => return ()

def await (action : Action Nat) : Action Nat := do
  modify fun s => s.freePlace.2
  let (status, signal) ← Action.within action
  tell signal
  return status

def replace {α : Type} (action : Action Nat) : Action α := do
  let ignored (s : State) : List Nat := s.ignored ++ (s.traps.filter (·.2.isEmpty)).map (·.1)
  modify fun s => { s with ignored := ignored s, traps := [] }
  let status ← action
  let _ ← finish status
  throw .leave

/-- The first fields among those of some words, and the words that are left. -/
def firstFields (k : Expander) : List Word → Action (List Text × List Word)
  | [] => return ([], [])
  | w :: ws => do
    match ← k.fields w with
    | [] => firstFields k ws
    | fields => return (fields, ws)

/-- A command that is called: its fields so far and the words that are left, what was passed over
before them, and whether functions count and programs are looked for in the usual places only. -/
structure Called where
  fields : List Text
  rest : List Word
  passed : List Text := []
  skipsFunctions : Bool := false
  usualPlaces : Bool := false

/-- What comes after a word that calls another command, if it does; `fuel` bounds the words. -/
def afterCommand (k : Expander) : Nat → Called → Action (Option Called)
  | 0, _ => return none
  | fuel + 1, c => do
    let c ← if c.fields.isEmpty then do
        let (fields, rest) ← firstFields k c.rest
        pure { c with fields, rest }
      else pure c
    let found : Option Called := some { c with skipsFunctions := true }
    match c.fields with
    | [] => return none
    | ['-', '-'] :: fields =>
      let c := { c with fields, passed := c.passed ++ [['-', '-']], skipsFunctions := true }
      if fields.isEmpty then
        let (fields, rest) ← firstFields k c.rest
        return if fields.isEmpty then none else some { c with fields, rest }
      else return some c
    | ('-' :: l :: ls) :: fields =>
      if (l :: ls).all (· == 'p') then
        let passed := c.passed ++ ['-' :: l :: ls]
        afterCommand k fuel { c with fields, passed, usualPlaces := true }
      else return none
    | _ => return found

inductive Meaning where
  | function (body : Command)
  | special
  | regular
  | program

def meaning (s : State) (skipsFunctions : Bool) (name : Text) : Meaning :=
  if isSpecialCommand name then .special
  else
    match skipsFunctions, s.functions.lookup (String.ofList name) with
    | false, some body => .function body
    | _, _ => if isShellCommand name then .regular else .program

/-- A command without the words that only say how it is called; whether those make its failures
harmless. `fuel` bounds their number. -/
def strip (k : Expander) : Nat → Called → Bool → Action (Called × Bool)
  | 0, c, harmless => return (c, harmless)
  | fuel + 1, c, harmless => do
    match c.fields with
    | name :: fields =>
      match name == ofString "command", meaning (← get) c.skipsFunctions name with
      | true, .regular =>
        let after := { c with fields, passed := c.passed ++ [name] }
        match ← afterCommand k (fields.length + c.rest.length + 2) after with
        | some d => strip k fuel d true
        | none => return (c, harmless)
      | _, _ => return (c, harmless)
    | [] => return (c, harmless)

def takesAssignments (name : Text) : Bool :=
  ["alias", "export", "readonly", "local"].contains (String.ofList name)

/-- The fields of words, of which those with the form of an assignment have one if so told. -/
def allFields (k : Expander) (assigns : Bool) : List Word → Action (List Text)
  | [] => return []
  | w :: ws => do
    let fields ← match if assigns then k.assignment? w else none with
      | some action => action
      | none => k.fields w
    return fields ++ (← allFields k assigns ws)

def targets (k : Expander) : List Redirection → Action (List Opened)
  | [] => return []
  | .of d kind word :: rest => do
    let o ← match kind with
      | .document n => pure (Opened.document d (((← get).documents.lookup n).getD []))
      | .copyOutput => pure (Opened.copy d (← Opening.descriptorOf (← k.text word)))
      | .copyInput => pure (Opened.copy d (← Opening.descriptorOf (← k.text word)))
      | kind => pure (Opened.file d kind (← k.text word))
    return o :: (← targets k rest)

/-- Carries out redirections; tells whether all of them could be. -/
def carryAll (k : Expander) (os : List Opened) : Action Bool := do
  match ← Action.attempt (os.forM (Opened.carryOut k.plainText)) with
  | .ok () => return true
  | .error .failed => return false
  | .error flow => throw flow

def restore (before : State) (os : List Opened) : Action Unit :=
  modify fun s => os.foldl (fun s o =>
    match before.descriptors.lookup o.descriptor with
    | some n => s.point o.descriptor n
    | none => s.close o.descriptor) s

/-- Runs an action with redirections, which are taken back after it, or another one when they
fail. -/
def redirecting (k : Expander) (rs : List Redirection) (refused action : Action Nat) :
    Action Nat := do
  if rs.isEmpty then action
  else
    let os ← targets k rs
    let before ← get
    if ← carryAll k os then
      let result ← Action.attempt action
      restore before os
      Action.resume result
    else
      restore before os
      refused

/-- Carries out assignments, which are handed on to programs and taken back at the end of the frame
if they are local. Gives the words that show them. -/
def assignAll (k : Expander) (isLocal exports : Bool) :
    List (String × Word) → Action (List Text)
  | [] => return []
  | (name, word) :: rest => do
    let value ← k.value word
    if isLocal then modify fun s => s.hide name
    Action.assign name value
    if isLocal || exports then
      modify fun s => s.bind name ((s.binding? name).map fun b => { b with isExported := true })
    return (name.toList ++ '=' :: value) :: (← assignAll k isLocal exports rest)

def traceMark (k : Expander) : Action Text := do
  let s ← get
  let text := (s.value? "PS4").getD []
  if text.any fun c => c == '$' || c == '\x60' || c == '\\' then
    let parse := Parse.inside text s.line (Grammar.parts Grammar.maxDepth .document)
    match parse.run { rest := [] } with
    | .ok (w, _) =>
      set { s with settings := Setting.turn .xtrace false s.settings }
      let result ← Action.attempt (k.plainText w)
      modify fun s => { s with settings := Setting.turn .xtrace true s.settings }
      Action.resume result
    | .error _ => return text
  else return text

def trace (k : Expander) (before : State) (words : List Text) : Action Unit := do
  if (← get).has .xtrace then
    let mark ← traceMark k
    match before.descriptors.lookup 2 with
    | some n => modify fun s => (s.writeChannel n (mark ++ joinWith [' '] words ++ ['\n'])).1
    | none => return ()

def faultStatus (fault : SystemFault) : Nat :=
  if [SystemFault.noSuchFile, .notADirectory, .nameTooLong, .tooManyLinks].contains fault then 127
  else 126

/-- Runs a command of the shell under its name. What fails in one that does not belong closely to
the shell is over with it. -/
def underName (name : Text) (isFatal : Bool) (action : Action Nat) : Action Nat := do
  let before ← get
  set { before with commandName := some name, writeFault := none }
  let result ← Action.attempt action
  let fault := (← get).writeFault
  if fault.isSome then Action.warn (name ++ ofString ": I/O error")
  modify fun s => { s with commandName := before.commandName, writeFault := none }
  match result with
  | .ok status => return if fault.isSome then status ||| 1 else status
  | .error .failed =>
    if isFatal then throw .failed
    modify fun s =>
      (List.range (s.frames.length - before.frames.length)).foldl (fun s _ => s.popFrame) s
    return (← get).status
  | .error flow => throw flow

def asProgram (i : Image) (utility : Utility) : Action Nat := do
  modify fun s => { s with program := i.name, writeFault := none }
  let status ← utility i.words
  match (← get).writeFault with
  | some fault =>
    modify fun s => { s with writeFault := none }
    let (texts, status) := Utility.writeRefusal i.program.toList fault
    texts.forM Utility.complain
    return status
  | none => return status

def chosen (k : Expander) (subject : Text) : List (List Word × Command) → Action Command
  | [] => return .nothing
  | (words, body) :: rest => do
    if ← words.anyM fun w => return (← k.pattern w).stands subject then return body
    else chosen k subject rest

/-- The options of a shell that is started: whether its script is a word, and the words that are
left; `fuel` bounds the words. -/
def startOptions : Nat → List Text → Bool → Action (Bool × List Text)
  | 0, words, isWord => return (isWord, words)
  | _ + 1, [], isWord => return (isWord, [])
  | fuel + 1, word :: rest, isWord =>
    match word with
    | ['-'] => return (isWord, rest)
    | ['-', '-'] => return (isWord, rest)
    | '-' :: letters => do
      let others := letters.filter fun c => c != 'c' && c != 'l'
      startOptions fuel (← Builtin.turnLetters true others rest) (isWord || letters.contains 'c')
    | '+' :: letters => do
      startOptions fuel (← Builtin.turnLetters false letters rest) isWord
    | _ => return (isWord, word :: rest)

/-- The state of a shell that is started under a name with the variables that it gets; the
directory keeps its name if that leads to it. -/
def started (s : State) (name : Text) : State :=
  let given := s.environment.map fun (n, v) =>
    (n, ({ value := some v, isExported := true } : Binding))
  let own (n : String) (v : Text) (s : State) : State := s.bind n (some { value := some v })
  let byDefault (n : String) (v : Text) (s : State) : State :=
    if (given.lookup n).isSome then s else own n v s
  let current := match (given.lookup "PWD").bind (·.value) with
    | some path =>
      match s.files.locate true (toBytes path) with
      | .ok (.present names .directory) =>
        if path.head? == some '/' && names == s.files.current then path else s.directory
      | _ => s.directory
    | none => s.directory
  let fresh : State :=
    { files := s.files, channels := s.channels, printed := s.printed, complained := s.complained
      clock := s.clock, limit := s.limit, nextProcess := s.nextProcess, heldUntil := s.heldUntil
      nextDocument := s.nextDocument, sent := s.sent, processes := s.processes
      descriptors := s.descriptors, ownId := s.ownId, callers := s.callers, job := s.job
      feedsPipe := s.feedsPipe, mask := s.mask, ignored := s.ignored, processId := s.ownId
      directoryName := current, bindings := given, name, line := 0 }
  let fresh := own "IFS" [' ', '\t', '\n'] (own "OPTIND" ['1'] fresh)
  let fresh := own "PPID" (showNat (s.callers.headD 1)) fresh
  let fresh := byDefault "PATH" usualPath (byDefault "PS1" ['#', ' '] fresh)
  let fresh := byDefault "PS2" ['>', ' '] (byDefault "PS4" ['+', ' '] fresh)
  fresh.bind "PWD" (some { value := some current, isExported := true })

mutual

def output (fuel : Nat) (body : Command) : Action Text :=
  match fuel with
  | 0 => throw .exhausted
  | fuel + 1 => do
    match body with
    | .nothing => return []
    | body =>
      modify fun s => s.freePlace.2
      let (text, status, signal) ← Action.collect do
        modify forked
        toTheEnd fuel (eval fuel { isLast := true } body)
      tell signal
      modify fun s => { s with substitution := status }
      return text

/-- Runs an action that ends a shell, and then what is to be done at the end. -/
def toTheEnd (fuel : Nat) (action : Action Nat) : Action Nat :=
  match fuel with
  | 0 => throw .exhausted
  | fuel + 1 => do
    match ← Action.attempt action with
    | .error (.killed processId signal) => throw (.killed processId signal)
    | .error .stopped => throw .stopped
    | .error .exhausted => throw .exhausted
    | _ =>
      let s ← get
      match s.traps.lookup 0 with
      | none => return s.status
      | some script =>
        set { s with traps := s.traps.filter (·.1 != 0), savedStatus := some s.status }
        match ← Action.attempt (lines fuel false {} script) with
        | .error .leave => return (← get).status
        | .error .failed => return (← get).status
        | .error .leaveFunction => return s.status
        | .error flow => throw flow
        | .ok _ => finish s.status

def runCaught (fuel : Nat) : Action Unit :=
  match fuel with
  | 0 => throw .exhausted
  | fuel + 1 => do
    Action.receiveSent
    let s ← get
    if !s.caught.isEmpty then
      let status := s.savedStatus.getD s.status
      set { s with caught := [], savedStatus := some status }
      let signals := (s.caught.mergeSort fun a b => a ≤ b).eraseDups
      let result ← Action.attempt (signals.forM fun n => do
        match (← get).traps.lookup n with
        | none => return ()
        | some script =>
          let _ ← lines fuel false {} script
          let _ ← finish status)
      modify fun t => { t with savedStatus := s.savedStatus }
      Action.resume result

/-- Runs the lines of a script; those of a file are shown before if so set. -/
def lines (fuel : Nat) (isFile : Bool) (m : Mode) (script : Text) : Action Nat :=
  match fuel with
  | 0 => throw .exhausted
  | fuel + 1 => remaining fuel isFile m 0 { rest := script }

/-- Runs the lines that are left of a script; the status is that of the last command. -/
def remaining (fuel : Nat) (isFile : Bool) (m : Mode) (status : Nat) (r : Reader) : Action Nat :=
  match fuel with
  | 0 => throw .exhausted
  | fuel + 1 => do
    let s ← get
    let r := { r with aliases := s.aliases, nextDocument := s.nextDocument, documents := [] }
    let echo (count : Nat) : Action Unit :=
      if isFile then modify fun s => if s.has .verbose then (s.write 2 (r.rest.take count)).1 else s
      else return ()
    match Grammar.nextLine r with
    | .error (line, fault) =>
      echo r.rest.length
      modify fun s => { s with line }
      Action.fail (ofString fault.message)
    | .ok (none, _) => return status
    | .ok (some c, next) =>
      echo (r.rest.length - next.rest.length)
      modify fun s =>
        { s with nextDocument := next.nextDocument, documents := next.documents ++ s.documents }
      match c with
      | .nothing => remaining fuel isFile m status next
      | c =>
        let atEnd := match next.pushedBack with
          | some .endOfFile => true
          | _ => false
        let status ← eval fuel { m with isLast := m.isLast && atEnd } c
        remaining fuel isFile m status next

def eval (fuel : Nat) (m : Mode) (c : Command) : Action Nat :=
  match fuel with
  | 0 => throw .exhausted
  | fuel + 1 => do
    if (← get).has .noexec then return 0
    runCaught fuel
    let status ← carryOut fuel m c
    runCaught fuel
    return status

def carryOut (fuel : Nat) (m : Mode) (c : Command) : Action Nat :=
  match fuel with
  | 0 => throw .exhausted
  | fuel + 1 => do
    let k : Expander := { output := output fuel }
    let kept : Mode := { tested := m.tested }
    match c with
    | .nothing => return 0
    | .simple line assignments words redirections => do
      check m (← simple fuel m line assignments words redirections)
    | .pipeline stages => do
      modify fun s => s.freePlace.2
      let s ← get
      let status ← pipeline fuel kept s.clock s.clock stages
      check m status
    | .negated body => do
      let status ← eval fuel { tested := true } body
      finish (if status = 0 then 1 else 0)
    | .both first second => do
      let status ← eval fuel { tested := true } first
      if status = 0 then eval fuel m second else return status
    | .either first second => do
      let status ← eval fuel { tested := true } first
      if status = 0 then return status else eval fuel m second
    | .sequence first second => do
      let _ ← eval fuel kept first
      eval fuel m second
    | .background body => background fuel body
    | .subshell body => do
      check m (← subshell fuel m [] body)
    | .condition test body otherwise => do
      let status ← eval fuel { tested := true } test
      if status = 0 then eval fuel m body
      else
        match otherwise with
        | .nothing => finish 0
        | otherwise => eval fuel m otherwise
    | .loop untilTrue test body => do
      finish (← inLoop (whileLoop untilTrue (eval fuel { tested := true } test)
        (eval fuel kept body)))
    | .each line name words body => do
      modify fun s => { s with line }
      let values ← match words with
        | some words => allFields k false words
        | none => pure (← get).arguments
      finish (← inLoop (eachLoop name values (eval fuel kept body)))
    | .choice line subject cases => do
      modify fun s => { s with line }
      let text ← k.text subject
      let body ← chosen k text cases
      finish (← eval fuel m body)
    | .define name body => do
      modify fun s => { s with functions := (name, body) :: s.functions.filter (·.1 != name) }
      finish 0
    | .redirected line (.subshell body) redirections => do
      modify fun s => { s with line }
      check m (← subshell fuel m redirections body)
    | .redirected line body redirections => do
      modify fun s => { s with line }
      finish (← redirecting k redirections (check m 2) (eval fuel kept body))

def subshell (fuel : Nat) (m : Mode) (redirections : List Redirection) (body : Command) :
    Action Nat :=
  match fuel with
  | 0 => throw .exhausted
  | fuel + 1 => do
    let k : Expander := { output := output fuel }
    let os ← targets k redirections
    let inner : Action Nat := do
      modify forked
      toTheEnd fuel do
        if ← carryAll k os then eval fuel { tested := m.tested, isLast := true } body
        else throw .leave
    if m.isLast && !hasTraps (← get) then
      let status ← inner
      let _ ← finish status
      throw .leave
    else await inner

def background (fuel : Nat) (body : Command) : Action Nat :=
  match fuel with
  | 0 => throw .exhausted
  | fuel + 1 => do
    let (number, s) := (← get).freePlace
    let processId := s.nextProcess
    let (null, t) := s.newChannel .null
    set { t.point 0 null with job := processId }
    let result ← Action.attempt (Action.within do
      modify forked
      toTheEnd fuel (eval fuel { isLast := true } body))
    let endless : Nat := s.clock + 1000000000000
    let (status, signal, finish) ← match result with
      | .ok (status, signal) => pure (status, signal, (← get).clock)
      | .error .stopped => pure (0, none, endless)
      | .error .exhausted => pure (0, none, endless)
      | .error flow => throw flow
    let isOwn (r : Redirection) : Bool := r.descriptor == 1
    let isApart := match body with
      | .simple _ _ _ rs => rs.any isOwn
      | .redirected _ _ rs => rs.any isOwn
      | _ => false
    let holds := !isApart && s.descriptors.lookup 1 == some 1
    let stages := match body with
      | .pipeline stages => stages.length
      | _ => 1
    modify fun t =>
      { t with
        descriptors := s.descriptors, clock := s.clock, job := s.job
        processes := { processId, status, signal, finish, stages } :: t.processes
        jobs := s.jobs ++ [(number, processId)], lastJob := some processId
        heldUntil := if holds then max t.heldUntil finish else t.heldUntil }
    Run.finish 0

/-- Runs the stages of a pipeline, which all start at one time, each on what the one before it
printed; `ready` is when the last of them so far has ended. -/
def pipeline (fuel : Nat) (m : Mode) (start ready : Nat) (stages : List Command) : Action Nat :=
  match fuel with
  | 0 => throw .exhausted
  | fuel + 1 => do
    let run (stage : Command) : Action Nat := do
      modify fun s => { forked s with feedsPipe := s.feedsPipe }
      toTheEnd fuel (eval fuel { m with isLast := true } stage)
    modify fun s => { s with clock := start }
    match stages with
    | [] => return 0
    | [last] =>
      let (status, signal) ← Action.within (run last)
      tell signal
      modify fun s => { s with clock := max s.clock ready }
      return status
    | first :: rest =>
      let before ← get
      let (text, _, signal) ← Action.collect do
        modify fun s => { s with feedsPipe := true }
        run first
      tell signal
      let ready := max ready (← get).clock
      modify fun s => s.connect 0 (.supply text ready)
      let result ← Action.attempt (pipeline fuel m start ready rest)
      modify fun s =>
        match before.descriptors.lookup 0 with
        | some n => s.point 0 n
        | none => s.close 0
      Action.resume result

def simple (fuel : Nat) (m : Mode) (line : Nat) (assignments : List (String × Word))
    (words : List Word) (redirections : List Redirection) : Action Nat :=
  match fuel with
  | 0 => throw .exhausted
  | fuel + 1 => do
    let k : Expander := { output := output fuel }
    modify fun s => { s with line, substitution := 0 }
    let (first, rest) ← firstFields k words
    let (called, isHarmless) ← strip k (words.length + first.length) { fields := first, rest } false
    let name := called.fields.headD []
    let meaning := meaning (← get) called.skipsFunctions name
    let (isSpecial, isRegular) : Bool × Bool := match meaning with
      | .special => (true, false)
      | .regular => (false, true)
      | _ => (false, false)
    let more ← allFields k ((isSpecial || isRegular) && takesAssignments name) called.rest
    let fields := called.fields ++ more
    let isLocal := !first.isEmpty && (isHarmless || !isSpecial)
    let isFatal := isSpecial && !isHarmless
    let isExec := isSpecial && name == ofString "exec"
    let depth := (← get).frames.length
    if isLocal then modify State.pushFrame
    let leaveFrame : Action Unit := modify fun s =>
      if depth < s.frames.length then s.popFrame else s
    let os ← targets k redirections
    let before ← get
    if !(← carryAll k os) then
      restore before os
      leaveFrame
      if isFatal then throw .failed
      return 2
    let shown ← assignAll k isLocal (isExec && 1 < fields.length) assignments
    trace k before (shown ++ called.passed ++ fields)
    let result ← Action.attempt (call fuel m meaning called.usualPlaces isFatal fields)
    if !isExec then restore before os
    match result with
    | .ok status =>
      leaveFrame
      return status
    | .error flow =>
      if flow != .leave && flow != .failed then leaveFrame
      throw flow

def call (fuel : Nat) (m : Mode) (meaning : Meaning) (usualPlaces isFatal : Bool)
    (fields : List Text) : Action Nat :=
  match fuel with
  | 0 => throw .exhausted
  | fuel + 1 => do
    let s ← get
    match fields with
    | [] => return s.substitution
    | name :: words =>
      match meaning with
      | .function body => function fuel m body words
      | .program => program fuel m (if usualPlaces then usualPath else searchPath s) name words
      | _ => underName name isFatal (ofShell fuel m name words)

def function (fuel : Nat) (m : Mode) (body : Command) (words : List Text) : Action Nat :=
  match fuel with
  | 0 => throw .exhausted
  | fuel + 1 => do
    let s ← get
    set { s with arguments := words, loops := 0, optionIndex := 1, optionPlace := none }
    let result ← Action.attempt (eval fuel { tested := m.tested } body)
    modify fun t =>
      { t with
        arguments := s.arguments, loops := s.loops, optionIndex := s.optionIndex
        optionPlace := s.optionPlace }
    match result with
    | .error .leaveFunction => return (← get).status
    | .error flow => throw flow
    | .ok _ => return (← get).status

def ofShell (fuel : Nat) (m : Mode) (name : Text) (words : List Text) : Action Nat :=
  match fuel with
  | 0 => throw .exhausted
  | fuel + 1 => do
    match String.ofList name with
    | "eval" =>
      if words.isEmpty then return 0
      else lines fuel false { tested := m.tested } (joinWith [' '] words)
    | "." =>
      match words with
      | [] => return 0
      | path :: _ => source fuel path
    | "exec" =>
      match words with
      | [] => return 0
      | name :: words =>
        let s ← get
        match if name.contains '/' then .ok name else searchProgram s (searchPath s) name with
        | .error fault => cannotRun name fault
        | .ok path =>
          match Image.load s.files path name words with
          | .error fault => cannotRun name fault
          | .ok i => replace (runImage fuel i)
    | _ =>
      match Builtin.ofName? name with
      | some action => action words
      | none => return 127

def cannotRun (name : Text) (fault : SystemFault) : Action Nat := do
  Action.warn (name ++ ofString (": " ++ callFault fault))
  let _ ← finish (faultStatus fault)
  throw .leave

def source (fuel : Nat) (path : Text) : Action Nat :=
  match fuel with
  | 0 => throw .exhausted
  | fuel + 1 => do
    let s ← get
    let isFile (p : Text) : Bool := s.files.isFile (toBytes p)
    let candidates := (directoriesOf (searchPath s)).map fun dir =>
      if dir.isEmpty then path else dir ++ '/' :: path
    match if path.contains '/' then some path else candidates.find? isFile with
    | none => Action.fail (path ++ ofString ": not found")
    | some full =>
      match Opening.toRead s full with
      | .error fault =>
        Action.fail (ofString "cannot open " ++ full ++ ofString (": " ++ openFault false fault))
      | .ok (n, t) =>
        let (content, t) := t.readChannel n List.length
        set { t with commandName := some full }
        match ← Action.attempt (lines fuel true {} (content.toOption.getD [])) with
        | .error .leaveFunction => return (← get).status
        | result => Action.resume result

def program (fuel : Nat) (m : Mode) (path name : Text) (words : List Text) : Action Nat :=
  match fuel with
  | 0 => throw .exhausted
  | fuel + 1 => do
    let refuse (status : Nat) (fault : SystemFault) : Action Nat := do
      Action.warn (name ++ ofString (": " ++ callFault fault))
      return status
    let found ← if name.contains '/' then pure (.ok name) else findProgram path name
    match found with
    | .error fault => refuse 127 fault
    | .ok full =>
      let s ← get
      let run : Action Nat := do
        match Image.load s.files full name words with
        | .error fault => refuse (faultStatus fault) fault
        | .ok i => runImage fuel i
      if m.isLast && !hasTraps s then replace run else await (replace run)

def runImage (fuel : Nat) (i : Image) : Action Nat :=
  match fuel with
  | 0 => throw .exhausted
  | fuel + 1 => do
    if i.isShell then shell fuel i.name i.words
    else
      let caller : Utility.Caller :=
        { replace := fun words => do
            match Image.find (← get) words with
            | .error fault => return .error fault
            | .ok j => return .ok (← runImage fuel j)
          run := fun words => do
            match Image.find (← get) words with
            | .error fault => return .error fault
            | .ok j =>
              let name := (← get).program
              let ending ← Action.within (runImage fuel j)
              modify fun s => { s with program := name }
              return .ok ending }
      match Utility.callers.lookup i.program, Utility.ofName? i.program with
      | some utility, _ => asProgram i (utility caller)
      | none, some utility => asProgram i utility
      | none, none => asProgram i fun _ => return 0

def shell (fuel : Nat) (name : Text) (words : List Text) : Action Nat :=
  match fuel with
  | 0 => throw .exhausted
  | fuel + 1 => do
    modify fun s => started s name
    toTheEnd fuel do
      let (isWord, words) ← startOptions (words.length + 1) words false
      let begin (name : Text) (arguments : List Text) : Action Unit :=
        modify fun s => { s with name, arguments, line := 1 }
      match isWord, words with
      | true, [] => Action.fail (ofString "-c requires an argument")
      | true, script :: rest =>
        begin (rest.headD name) rest.tail
        lines fuel false {} script
      | false, words =>
        let s ← get
        match words, s.has .stdin with
        | path :: rest, false =>
          match Opening.toRead s path with
          | .error fault =>
            Action.fail
              (ofString "cannot open " ++ path ++ ofString (": " ++ openFault false fault))
          | .ok (n, t) =>
            let (content, t) := t.readChannel n List.length
            set t
            begin path rest
            lines fuel true {} (content.toOption.getD [])
        | words, _ =>
          let script ← Action.readAll 0
          begin name words
          lines fuel true {} (script.toOption.getD [])

end

def maxDepth : Nat := 100000

end Run

/-- How a process ended: with a status, killed by a signal, or not before the time was up. -/
inductive Ending where
  | exited (status : Nat)
  | killed (signal : Nat)
  | stopped
  deriving DecidableEq, Repr

/-- Runs a program in a process of its own from a state; tells how it ended. -/
def run (i : Image) (s : State) : Ending × State :=
  match (Run.runImage Run.maxDepth i).run s with
  | (.ok status, t) => (.exited (status % 256), t)
  | (.error (.killed _ signal), t) => (.killed signal, t)
  | (.error .stopped, t) => (.stopped, t)
  | (.error .exhausted, t) => (.stopped, t)
  | (.error _, t) => (.exited (t.status % 256), t)

end HalBench.Shell
