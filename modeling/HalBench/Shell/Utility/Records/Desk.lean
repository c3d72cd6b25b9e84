import HalBench.Shell.Utility.Callers
import HalBench.Shell.Utility.Records.Program
import HalBench.Shell.Utility.Records.Value
import Std.Data.HashMap
/-!
# What a program for records has before it

The record and its fields, the variables and tables, and the inputs and outputs. A record is cut
into fields; changing a field makes a new record of the fields, and changing the record makes new
fields.
-/

namespace HalBench.Shell.Records

inductive Cell where
  | value (v : Value)
  | table (n : Nat)
  deriving Repr, Inhabited

abbrev Table := Std.HashMap String (Value × Nat)

namespace Table

def has (t : Table) (key : Text) : Bool := t.contains (String.ofList key)

def find? (t : Table) (key : Text) : Option Value := (t[String.ofList key]?).map (·.1)

def put (t : Table) (key : Text) (v : Value) (time : Nat) : Table :=
  t.insert (String.ofList key) (v, time)

def remove (t : Table) (key : Text) : Table := t.erase (String.ofList key)

/-- The table of some elements, which are used one after the other from some time on. -/
def ofElements (time : Nat) (elements : List (Text × Value)) : Table :=
  (elements.zipIdx time).foldl (fun t ((key, v), time) => t.put key v time) {}

def row (rows : Nat) (key : Text) : Nat :=
  let mix (h : UInt32) (c : Char) : UInt32 := (h ^^^ UInt32.ofNat c.toNat) * 16777619
  (key.foldl mix 2166136261).toNat % rows

def rowsFor (count : Nat) : Nat → Nat → Nat
  | 0, rows => rows
  | fuel + 1, rows => if 12 * rows < count then rowsFor count fuel (2 * rows) else rows

/-- The keys of a table in the order in which they are visited: row by row, and those that were used
last first. -/
def keys (t : Table) : List Text :=
  let rows := rowsFor t.size 40 64
  let places := t.toList.map fun (k, _, time) => (row rows k.toList, time, k.toList)
  (places.mergeSort fun a b => a.1 < b.1 || (a.1 == b.1 && b.2.1 ≤ a.2.1)).map (·.2.2)

end Table

inductive Sink where
  | file (channel : Nat)
  | command (parts : List Text)
  deriving Repr

/-- What the program has before it. Output that is not yet printed has the latest part first. -/
structure Desk where
  caller : Utility.Caller
  program : Program
  globals : Std.HashMap String Cell := {}
  locals : Option (List (String × Cell)) := none
  tables : Array Table := #[]
  time : Nat := 0
  record : Value := .unset
  fields : Array Value := #[]
  active : List Nat := []
  printed : List Text := []
  sinks : List (Text × Sink) := []
  sources : List (Text × Text) := []
  operands : List Text := []
  hasRead : Bool := false
  input : Option Text := none
  status : Nat := 0
  seed : Nat := 0

/-- Why statements are left: for the next record, for good, for the end of a loop or its next round,
for the end of a function with its value, or because of a fault. -/
inductive Leave where
  | record
  | all
  | loop
  | round
  | function (v : Value)
  | fault (text : Text)

abbrev Work := ExceptT Leave (StateT Desk Action)

def act {α : Type} (action : Action α) : Work α := ExceptT.lift (StateT.lift action)

def shell : Work State := act get

def global (d : Desk) (name : String) : Value :=
  match d.globals[name]? with
  | some (.value v) => v
  | _ => .unset

def textForm (d : Desk) : Text := (global d "CONVFMT").toText []

def setting (name : String) : Work Text := do
  let d ← get
  return (global d name).toText (textForm d)

def setGlobal (name : String) (v : Value) : Work Unit :=
  modify fun d => { d with globals := d.globals.insert name (.value v) }

def textOf (v : Value) : Work Text := return v.toText (textForm (← get))

def fault {α : Type} (text : Text) : Work α := do
  let d ← get
  let count (name : String) : Text := (global d name).toText (textForm d)
  throw (.fault (ofString "run time error: " ++ text ++ ofString "\n\tFILENAME=\""
    ++ count "FILENAME" ++ ofString "\" FNR=" ++ showInt (bounded (global d "FNR").toNumber)
    ++ ofString " NR=" ++ showInt (bounded (global d "NR").toNumber)))

def misused {α : Type} (what name : String) : Work α :=
  throw (.fault (ofString ("line 1: illegal reference to " ++ what ++ " " ++ name)))

/-- Takes pieces between separators out of a text, given the places of these in turn. -/
def cutWith (r : Regex) (s : Regex.Subject) : Nat → Nat → List Text
  | 0, _ => []
  | fuel + 1, start =>
    match r.find s start with
    | some f =>
      if f.start == f.finish then [Regex.slice s start s.text.size]
      else Regex.slice s start f.start :: cutWith r s fuel f.finish
    | none => [Regex.slice s start s.text.size]

def dynamic (text : Text) : Work Regex :=
  match Regex.parse .extendedSearch text with
  | .ok (r, _, _) => return r
  | .error why =>
    fault (ofString ("regular expression compile failed (" ++ why.message ++ ")\n") ++ text)

def split (separator text : Text) : Work (List Text) := do
  if text.isEmpty then return []
  let isMark (c : Char) : Bool := c == ' ' || c == '\t' || c == '\n'
  match separator with
  | [' '] => return (cutAt ' ' (text.map fun c => if isMark c then ' ' else c)).filter (!·.isEmpty)
  | [] => return text.map fun c => [c]
  | separator =>
    let cut ← match separator with
      | [c] => if c == '\\' then pure none else pure (some (cutAt c text))
      | _ => pure none
    match cut with
    | some parts => return parts
    | none => return cutWith (← dynamic separator) { text := text.toArray } (text.length + 1) 0

def setRecord (v : Value) : Work Unit := do
  let parts ← split (← setting "FS") (← textOf v)
  modify fun d => { d with record := v, fields := (parts.map Value.input).toArray }
  setGlobal "NF" (.ofInt parts.length)

def rebuild : Work Unit := do
  let mark ← setting "OFS"
  let parts ← (← get).fields.toList.mapM textOf
  modify fun d => { d with record := .text (joinWith mark parts) }

def resize (n : Nat) : Work Unit := do
  let fields := (← get).fields
  let more := List.replicate (n - fields.size) (Value.text [])
  modify fun d => { d with fields := ((fields.toList.take n) ++ more).toArray }
  setGlobal "NF" (.ofInt n)

def field (n : Int) : Work Value := do
  if n < 0 then fault (ofString ("negative field index $" ++ toString n))
  let d ← get
  if n = 0 then return d.record
  return (d.fields[n.toNat - 1]?).getD .unset

def setField (n : Int) (v : Value) : Work Unit := do
  if n < 0 then fault (ofString ("negative field index $" ++ toString n))
  if n = 0 then setRecord v
  else
    if (← get).fields.size < n.toNat then resize n.toNat
    modify fun d => { d with fields := d.fields.setIfInBounds (n.toNat - 1) v }
    rebuild

def cell (name : String) : Work (Option Cell) := do
  let d ← get
  match d.locals.bind (·.lookup name) with
  | some c => return some c
  | none => return d.globals[name]?

def setCell (name : String) (c : Cell) : Work Unit :=
  modify fun d =>
    match d.locals with
    | some locals =>
      if (locals.lookup name).isSome then
        { d with locals := some (locals.map fun (n, old) => (n, if n == name then c else old)) }
      else { d with globals := d.globals.insert name c }
    | none => { d with globals := d.globals.insert name c }

/-- The number of the table with a name, which is made if it is not there. -/
def table (name : String) : Work Nat := do
  match ← cell name with
  | some (.table n) => return n
  | some (.value .unset) => make
  | none => make
  | some (.value _) => misused "variable" name
where
  /-- A new table with the name. -/
  make : Work Nat := do
    let n := (← get).tables.size
    modify fun d => { d with tables := d.tables.push {} }
    setCell name (.table n)
    return n

def variableValue (name : String) : Work Value := do
  match ← cell name with
  | some (.value v) => return v
  | some (.table _) => misused "array" name
  | none => return .unset

def setVariable (name : String) (v : Value) : Work Unit := do
  setCell name (.value v)
  if name == "NF" then
    let n := (bounded v.toNumber).toNat
    resize n
    rebuild

def changeTable (n : Nat) (f : Table → Table) : Work Unit :=
  modify fun d => { d with tables := d.tables.modify n f, time := d.time + 1 }

def element (n : Nat) (key : Text) : Work Value := do
  let d ← get
  let v := (d.tables[n]?.bind (·.find? key)).getD .unset
  changeTable n fun t => t.put key v d.time
  return v

def flush : Work Unit := do
  let text := (← get).printed.reverse.flatten
  modify fun d => { d with printed := [] }
  act (Action.print text)

/-- Runs a command on a text, or on the input if there is none; gives its status, and what it
printed if that is wanted. What was printed before comes first, unless the command was called
already. -/
def runCommand (words : Text) (input : Option Text) (collects : Bool) : Work (Int × Text) := do
  if input.isNone then flush
  let d ← get
  let before ← shell
  if let some text := input then act (modify fun s => s.connect 0 (.supply text 0))
  let (n, s) := (← shell).newChannel (.collector [])
  act (set (if collects then s.point 1 n else s))
  let program := if collects || input.isSome then "/bin/sh" else "sh"
  let result ← act (Action.attempt (d.caller.run [ofString program, ofString "-c", words]))
  act (modify fun s => { s with descriptors := before.descriptors })
  let status : Int ← match result with
    | .ok (.ok (_, some signal)) => pure ((256 : Int) + signal)
    | .ok (.ok (status, none)) => pure (status : Int)
    | .ok (.error _) => pure 127
    | .error flow => act (throw flow)
  match (← shell).channels[n]? with
  | some (.collector text) =>
    act (modify fun s => { s with channels := s.channels.setIfInBounds n .null })
    return (status, text.reverse)
  | _ => return (status, [])

def closeSink (key : Text) (s : Sink) : Work Int := do
  match s with
  | .file _ => return 0
  | .command parts => return (← runCommand key (some parts.reverse.flatten) false).1

def close (key : Text) : Work Int := do
  let d ← get
  let sinks := d.sinks.filter (·.1 == key)
  let isSource := d.sources.any (·.1 == key)
  set { d with
    sinks := d.sinks.filter (·.1 != key), sources := d.sources.filter (·.1 != key) }
  let statuses ← sinks.reverse.mapM fun (key, s) => closeSink key s
  return statuses.getLast?.getD (if isSource then 0 else -1)

def writeTo (key : Text) (isCommand appends : Bool) (text : Text) : Work Unit := do
  let d ← get
  let isOwn := key == ofString "/dev/stdout" || key == ['-']
  if isOwn && !isCommand then
    modify fun d => { d with printed := text :: d.printed }
  else
    match d.sinks.lookup key with
    | some (.file channel) => act (modify fun s => (s.writeChannel channel text).1)
    | some (.command parts) =>
      let sinks := d.sinks.map fun (k, s) =>
        (k, if k == key then Sink.command (text :: parts) else s)
      set { d with sinks }
    | none =>
      if isCommand then
        flush
        modify fun d => { d with sinks := (key, .command [text]) :: d.sinks }
      else
        match Opening.toWrite (← shell) key false appends appends with
        | .ok (channel, s) =>
          act (set s)
          modify fun d => { d with sinks := (key, .file channel) :: d.sinks }
          act (modify fun s => (s.writeChannel channel text).1)
        | .error why =>
          throw (.fault (ofString "cannot open \"" ++ key
            ++ ofString ("\" for output (" ++ why.description ++ ")")))

/-- The first record of a text, and what follows it; none if nothing is left. -/
def cutRecord (text : Text) : Work (Option (Text × Text)) := do
  let mark ← setting "RS"
  if text.isEmpty then return none
  match mark with
  | [c] =>
    let line := text.takeWhile (· != c)
    return some (line, text.drop (line.length + 1))
  | [] =>
    let text := text.dropWhile (· == '\n')
    if text.isEmpty then return none
    let n := paragraph text
    return some (trimNewlines (text.take n), (text.drop n).dropWhile (· == '\n'))
  | mark =>
    let r ← dynamic mark
    let s : Regex.Subject := { text := text.toArray }
    match r.find s 0 with
    | some f =>
      if f.start == f.finish then return some (text, [])
      else return some (text.take f.start, text.drop f.finish)
    | none => return some (text, [])
where
  /-- The length of the lines before an empty one. -/
  paragraph : Text → Nat
    | '\n' :: '\n' :: _ => 1
    | _ :: r => paragraph r + 1
    | [] => 0

def takeAssignment (word : Text) : Work Bool := do
  match Utility.assignment? word with
  | some (name, value) =>
    if isName name.toList then
      setVariable name (.input (unescape (value.length + 1) value))
      return true
    else return false
  | none => return false

def openNext : Nat → Work Bool
  | 0 => return false
  | fuel + 1 => do
    let d ← get
    match d.operands with
    | [] =>
      if d.hasRead then return false
      else
        openNamed ['-']
    | word :: operands =>
      set { d with operands }
      if word.isEmpty then openNext fuel
      else if ← takeAssignment word then openNext fuel
      else openNamed word
where
  /-- Opens an input with a name. -/
  openNamed (name : Text) : Work Bool := do
    match ← act (Utility.content name) with
    | .ok text =>
      modify fun d => { d with input := some text, hasRead := true }
      setGlobal "FILENAME" (.text name)
      setGlobal "FNR" (.ofInt 0)
      return true
    | .error why =>
      throw (.fault (ofString "cannot open \"" ++ name
        ++ ofString ("\" (" ++ why.description ++ ")")))

def nextRecord : Nat → Work (Option Text)
  | 0 => return none
  | fuel + 1 => do
    match (← get).input with
    | none =>
      let isOpen ← openNext ((← get).operands.length + 1)
      if isOpen then nextRecord fuel else return none
    | some text =>
      match ← cutRecord text with
      | some (record, rest) =>
        modify fun d => { d with input := some rest }
        let up (name : String) : Work Unit := do
          setGlobal name (.ofInt (bounded (global (← get) name).toNumber + 1))
        up "NR"
        up "FNR"
        return some record
      | none =>
        modify fun d => { d with input := none }
        nextRecord fuel

def inputRecord : Work (Option Text) := do nextRecord (2 * (← get).operands.length + 4)

end HalBench.Shell.Records
