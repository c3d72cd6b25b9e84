import HalBench.Shell.Utility.Records.Evaluation
/-!
# The record processor

Every record of the input goes through the rules of a program, after the rules for the start and
before those for the end.
-/

namespace HalBench.Shell.Records

/-- The range of a rule that a record may start, go on with or end; tells whether the record is in
it. -/
def inRange (fuel n : Nat) (first last : Expr) : Work Bool := do
  let isActive := (← get).active.contains n
  if isActive || (← value fuel first).holds then
    let ends := (← value fuel last).holds
    modify fun d =>
      let others := d.active.filter (· != n)
      { d with active := if ends then others else n :: others }
    return true
  else return false

def follow (fuel n : Nat) (r : Rule) : Work Unit := do
  let isChosen ← match r.choice with
    | .every => pure true
    | .test e => do pure (← value fuel e).holds
    | .range first last => inRange fuel n first last
    | _ => pure false
  if isChosen then perform fuel (r.body.getD (.print [] .plain))

def enough : Nat := 2000000

def followAll (isWanted : Choice → Bool) : Work Unit := do
  let rules := (← get).program.rules.filter fun r => isWanted r.choice
  rules.forM fun r => perform enough (r.body.getD .nothing)

def Choice.isStart : Choice → Bool
  | .start => true
  | _ => false

def Choice.isFinish : Choice → Bool
  | .finish => true
  | _ => false

def followRecords : Work Unit := do
  let rules := (← get).program.rules.zipIdx
  rounds enough (pure true) do
    match ← inputRecord with
    | none => return false
    | some text =>
      setRecord (.input text)
      tryCatchThe Leave (rules.forM fun (r, n) => follow enough n r) fun
        | .record => return ()
        | other => throw other
      return true

/-- Carries out the rules; leaving for good leaves for the rules at the end. -/
def run : Work Unit := do
  let guarded (work : Work Unit) : Work Bool :=
    tryCatchThe Leave (do work; return true) fun
      | .all => return false
      | other => throw other
  let goesOn ← guarded (followAll Choice.isStart)
  let rules := (← get).program.rules
  if goesOn && rules.any fun r => !r.choice.isStart then
    let _ ← guarded followRecords
  let _ ← guarded (followAll Choice.isFinish)

def finish : Work Unit := do
  let sinks := (← get).sinks
  sinks.reverse.forM fun (key, s) => do
    let _ ← closeSink key s
  modify fun d => { d with sinks := [] }
  let text := (← get).printed.reverse.flatten
  act (Action.print text)

/-- What the options say: the separator of fields, the variables that are set, and the files in
which the program is; the words that are left. -/
structure Options where
  separator : Option Text := none
  assignments : List Text := []
  files : List Text := []
  operands : List Text := []

def readOptions : Nat → List Text → Options → Except Text Options
  | 0, words, o => .ok { o with operands := words }
  | fuel + 1, words, o =>
    let take (c : Char) (value : Text) (rest : List Text) (set : Text → Options) :
        Except Text Options :=
      match value, rest with
      | [], v :: rest => readOptions fuel rest (set v)
      | [], [] => .error (ofString "option -" ++ c :: ofString " lacks argument")
      | value, rest => readOptions fuel rest (set value)
    match words with
    | ['-', '-'] :: rest => .ok { o with operands := rest }
    | ['-'] :: rest => .ok { o with operands := ['-'] :: rest }
    | ('-' :: 'F' :: value) :: rest => take 'F' value rest fun v => { o with separator := some v }
    | ('-' :: 'v' :: value) :: rest =>
      take 'v' value rest fun v => { o with assignments := o.assignments ++ [v] }
    | ('-' :: 'f' :: value) :: rest =>
      take 'f' value rest fun v => { o with files := o.files ++ [v] }
    | ('-' :: c :: r) :: _ => .error (ofString "not an option: " ++ '-' :: c :: r)
    | rest => .ok { o with operands := rest }

def starting (s : State) (o : Options) (operands : List Text) (d : Desk) : Desk :=
  let text (name value : String) : String × Cell := (name, .value (.text value.toList))
  let count (name : String) (n : Int) : String × Cell := (name, .value (.ofInt n))
  let arguments := s.program :: operands
  let separator := (o.separator.map fun t => unescape (t.length + 1) t).getD [' ']
  let values : List (String × Cell) :=
    [("FS", .value (.text separator)), text "OFS" " ", text "ORS" "\n", text "RS" "\n",
      text "SUBSEP" "\x1c", text "CONVFMT" "%.6g", text "OFMT" "%.6g", text "FILENAME" "",
      count "NR" 0, count "FNR" 0, count "NF" 0, count "RSTART" 0, count "RLENGTH" (-1),
      count "ARGC" arguments.length, ("ARGV", .table 0), ("ENVIRON", .table 1)]
  let given := (arguments.zipIdx).map fun (word, n) => (showNat n, Value.input word)
  let environment := s.environment.map fun (name, v) => (name.toList, Value.input v)
  { d with
    globals := Std.HashMap.ofList values, operands
    tables := #[Table.ofElements 0 given, Table.ofElements 0 environment] }

def usage : List String :=
  ["Usage: mawk [Options] [Program] [file ...]", "", "Program:",
    "    The -f option value is the name of a file containing program text.",
    "    If no -f option is given, a \"--\" ends option processing; the following",
    "    parameters are the program text.", "", "Options:",
    "    -f program-file  Program  text is read from file instead of from the",
    "                     command-line.  Multiple -f options are accepted.",
    "    -F value         sets the field separator, FS, to value.",
    "    -v var=value     assigns value to program variable var.",
    "    --               unambiguous end of options.", "",
    "    Implementation-specific options are prefixed with \"-W\".  They can be",
    "    abbreviated:", "", "    -W version       show version information and exit.",
    "    -W compat        pre-POSIX 2001.",
    "    -W dump          show assembler-like listing of program and exit.",
    "    -W help          show this message and exit.",
    "    -W interactive   set unbuffered output, line-buffered input.",
    "    -W exec file     use file as program as well as last option.",
    "    -W posix         stricter POSIX checking.",
    "    -W random=number set initial random seed.",
    "    -W sprintf=number adjust size of sprintf buffer.",
    "    -W usage         show this message and exit."]

def awk (c : Utility.Caller) : Utility := fun words => do
  let failed (text : Text) : Action Nat := Utility.refuse 2 text
  match readOptions (words.length + 1) words {} with
  | .error text => failed text
  | .ok o =>
    let texts ← o.files.mapM Utility.content
    match (texts.zip o.files).find? fun (t, _) => !t.isOk, o.operands with
    | some (.error why, name), _ =>
      failed (ofString "cannot open \"" ++ name ++ ofString ("\" (" ++ why.description ++ ")"))
    | _, operands =>
      let (source, operands) : Option Text × List Text :=
        if o.files.isEmpty then (operands.head?, operands.tail)
        else (some (joinWith ['\n'] (texts.map fun t => t.toOption.getD [])), operands)
      match source with
      | none =>
        usage.forM fun l => Action.complain (ofString l)
        return 0
      | some source =>
        match Program.ofText source with
        | .error lines =>
          let place : Text := match o.files with
            | name :: _ => name ++ ofString ": "
            | [] => []
          lines.forM fun l =>
            Utility.complain ((if l.startsWith "line " then place else []) ++ ofString l)
          return 2
        | .ok program =>
          let s ← get
          let d := starting s o operands { caller := c, program }
          let work : Work Unit := do
            o.assignments.forM fun word => do
              if !(← takeAssignment word) then
                throw (.fault (ofString "improper assignment: -v " ++ word))
            run
          let both : Work (Option Text) := do
            let result ← ExceptT.lift (ExceptT.run work)
            finish
            match result with
            | .error (.fault text) => return some text
            | _ => return none
          let (result, d) ← (ExceptT.run both).run d
          match result with
          | .ok (some text) => failed text
          | _ => return d.status

end HalBench.Shell.Records
