import HalBench.Shell.Utility.Records.Desk
/-!
# Values of expressions and statements

Expressions have values and may change variables; statements are carried out one by one. Loops have
a bound on their rounds.
-/

namespace HalBench.Shell.Records

def replacement (found : Text) : Text → Text
  | '\\' :: '&' :: r => '&' :: replacement found r
  | '\\' :: '\\' :: r => '\\' :: replacement found r
  | '&' :: r => found ++ replacement found r
  | c :: r => c :: replacement found r
  | [] => []

/-- Replaces what is found in a text, once or everywhere; gives the parts of the new text and how
often something was replaced. An empty match right after another one does not count. -/
def replaceFrom (r : Regex) (s : Regex.Subject) (new : Text) (all : Bool) :
    Nat → Nat → Option Nat → Nat → List Text → List Text × Nat
  | 0, start, _, count, parts => (Regex.slice s start s.text.size :: parts, count)
  | fuel + 1, start, before, count, parts =>
    match if start ≤ s.text.size then r.find s start else none with
    | none => (Regex.slice s start s.text.size :: parts, count)
    | some f =>
      let parts := Regex.slice s start f.start :: parts
      let isEmpty := f.start == f.finish
      if isEmpty && before == some f.start then
        replaceFrom r s new all fuel (f.start + 1) none count
          (Regex.slice s f.start (f.start + 1) :: parts)
      else
        let parts := replacement (f.group s 0) new :: parts
        if !all then (Regex.slice s f.finish s.text.size :: parts, count + 1)
        else if isEmpty then
          replaceFrom r s new all fuel (f.start + 1) none (count + 1)
            (Regex.slice s f.start (f.start + 1) :: parts)
        else replaceFrom r s new all fuel f.finish (some f.finish) (count + 1) parts

/-- A part of a text from a place on, with some length, both without their fractions. How far a
place lies before zero is added to the length. -/
def substring (text : Text) (start : Binary) (length : Option Binary) : Text :=
  let cut (x : Binary) : Int :=
    match x with
    | .infinite negative => if negative then -1000000000000 else 1000000000000
    | x => (whole? x).getD 0
  let first := cut start
  let count : Int := match length with
    | some n => cut n - min first 0
    | none => text.length
  (text.drop (first.toNat - 1)).take count.toNat

/-- The place of a text in another one, from one on; zero if it is not there. -/
def placeOf (part : Text) : Nat → Text → Nat
  | n, text =>
    if part.isPrefixOf text then n + 1
    else
      match text with
      | [] => 0
      | _ :: r => placeOf part (n + 1) r

def mathematical? (name : String) : Option (Float → Float) :=
  match name with
  | "sin" => some Float.sin
  | "cos" => some Float.cos
  | "exp" => some Float.exp
  | "log" => some Float.log
  | "sqrt" => some Float.sqrt
  | _ => none

/-- Carries out a round of a loop, and what comes after a round; tells whether there may be another
one. -/
def inRound (body after : Work Unit) : Work Bool := do
  let goesOn ← tryCatchThe Leave (do body; return true) fun
    | .loop => return false
    | .round => return true
    | other => throw other
  if goesOn then after
  return goesOn

/-- Carries out rounds as long as a test holds and none of them is the last; `fuel` bounds their
number. -/
def rounds : Nat → Work Bool → Work Bool → Work Unit
  | 0, _, _ => act (throw .exhausted)
  | fuel + 1, test, round => do
    if ← test then
      if ← round then rounds fuel test round

mutual

def value (fuel : Nat) (e : Expr) : Work Value :=
  match fuel with
  | 0 => act (throw .exhausted)
  | fuel + 1 => do
    match e with
    | .number x => return .number x
    | .text s => return .text s
    | .pattern r =>
      let s : Regex.Subject := { text := (← textOf (← get).record).toArray }
      return .ofBool (r.find s 0).isSome
    | .name x => variableValue x
    | .field n => field (bounded (← value fuel n).toNumber)
    | .element x index => element (← table x) (← key fuel index)
    | .assign none place e => do give fuel place (← value fuel e)
    | .assign (some op) place e => do
      let y := (← value fuel e).toNumber
      let x := (← value fuel place).toNumber
      give fuel place (.number (op.apply x y))
    | .choice test first second =>
      if (← value fuel test).holds then value fuel first else value fuel second
    | .both a b =>
      if (← value fuel a).holds then return .ofBool (← value fuel b).holds else return .ofBool false
    | .either a b =>
      if (← value fuel a).holds then return .ofBool true else return .ofBool (← value fuel b).holds
    | .negation a => return .ofBool (!(← value fuel a).holds)
    | .has index x => do
      let k ← key fuel index
      let n ← table x
      return .ofBool ((← get).tables[n]?.any (·.has k))
    | .matching isWanted subject pattern => do
      let s ← textOf (← value fuel subject)
      let r ← expression fuel pattern
      return .ofBool ((r.find { text := s.toArray } 0).isSome == isWanted)
    | .comparison c a b => do
      let a ← value fuel a
      let b ← value fuel b
      return .ofBool (c.holds (textForm (← get)) a b)
    | .joined a b => do
      let a ← textOf (← value fuel a)
      return .text (a ++ (← textOf (← value fuel b)))
    | .computed op a b => do
      let x := (← value fuel a).toNumber
      return .number (op.apply x (← value fuel b).toNumber)
    | .negative a => return .number (← value fuel a).toNumber.neg
    | .positive a => return .number (← value fuel a).toNumber
    | .counted isBefore isUp place => do
      let x := (← value fuel place).toNumber
      let one := Binary.ofInt .double (if isUp then 1 else -1)
      let y := x.add .double one
      let _ ← give fuel place (.number y)
      return .number (if isBefore then y else x)
    | .called f arguments => call fuel f arguments
    | .known f arguments => known fuel f arguments
    | .nextLine place => do
      match ← inputRecord with
      | none => return .ofInt 0
      | some text =>
        match place with
        | some p => do
          let _ ← give fuel p (.input text)
        | none => setRecord (.input text)
        return .ofInt 1
    | .fileLine path place => do
      let name ← textOf (← value fuel path)
      match (← get).sources.lookup name with
      | some text => line fuel name text place false
      | none =>
        match ← act (Utility.content name) with
        | .ok text => line fuel name text place false
        | .error _ => return .ofInt (-1)
    | .commandLine command place => do
      let words ← textOf (← value fuel command)
      match (← get).sources.lookup words with
      | some text => line fuel words text place true
      | none => do
        let (_, text) ← runCommand words none true
        line fuel words text place true

def line (fuel : Nat) (name text : Text) (place : Option Expr) (counts : Bool) : Work Value :=
  match fuel with
  | 0 => act (throw .exhausted)
  | fuel + 1 => do
    let keep (rest : Text) : Work Unit :=
      modify fun d => { d with sources := (name, rest) :: d.sources.filter (·.1 != name) }
    match ← cutRecord text with
    | none =>
      keep []
      return .ofInt 0
    | some (record, rest) =>
      keep rest
      if counts then setGlobal "NR" (.ofInt (bounded (global (← get) "NR").toNumber + 1))
      match place with
      | some p => do
        let _ ← give fuel p (.input record)
      | none => setRecord (.input record)
      return .ofInt 1

def key (fuel : Nat) (index : List Expr) : Work Text :=
  match fuel with
  | 0 => act (throw .exhausted)
  | fuel + 1 => do
    let parts ← index.mapM fun e => do textOf (← value fuel e)
    return joinWith (← setting "SUBSEP") parts

def expression (fuel : Nat) (e : Expr) : Work Regex :=
  match fuel with
  | 0 => act (throw .exhausted)
  | fuel + 1 => do
    match e with
    | .pattern r => return r
    | e => dynamic (← textOf (← value fuel e))

def give (fuel : Nat) (place : Expr) (v : Value) : Work Value :=
  match fuel with
  | 0 => act (throw .exhausted)
  | fuel + 1 => do
    match place with
    | .name x => setVariable x v
    | .field n => setField (bounded (← value fuel n).toNumber) v
    | .element x index => do
      let n ← table x
      let k ← key fuel index
      let time := (← get).time
      changeTable n fun t => t.put k v time
    | _ => pure ()
    return v

/-- Calls a function of the program. A name that stands for nothing yet stands for a table after the
call if the function has used it as one. -/
def call (fuel : Nat) (f : String) (arguments : List Expr) : Work Value :=
  match fuel with
  | 0 => act (throw .exhausted)
  | fuel + 1 => do
    match (← get).program.functions.lookup f with
    | none => return .unset
    | some g =>
      let cells ← arguments.mapM fun e => do
        match e with
        | .name x => return (← cell x).getD (.value .unset)
        | e => return Cell.value (← value fuel e)
      let missing := List.replicate (g.parameters.length - cells.length) (Cell.value .unset)
      let before := (← get).locals
      modify fun d => { d with locals := some (g.parameters.zip (cells ++ missing)) }
      let result ← ExceptT.lift (ExceptT.run (perform fuel g.body))
      let after := (← get).locals.getD []
      modify fun d => { d with locals := before }
      ((arguments.zip cells).zip after).forM fun ((e, old), (_, new)) => do
        match e, old, new with
        | .name x, .value .unset, .table n => setCell x (.table n)
        | _, _, _ => pure ()
      match result with
      | .ok () => return .unset
      | .error (.function v) => return v
      | .error other => throw other

def known (fuel : Nat) (f : String) (arguments : List Expr) : Work Value :=
  match fuel with
  | 0 => act (throw .exhausted)
  | fuel + 1 => do
    let textAt (n : Nat) : Work Text := do
      match arguments[n]? with
      | some e => textOf (← value fuel e)
      | none => textOf (← get).record
    let numberAt (n : Nat) : Work Binary := do
      match arguments[n]? with
      | some e => return (← value fuel e).toNumber
      | none => return Binary.zero .double false
    match f, arguments with
    | "length", [.name x] => do
      match ← cell x with
      | some (.table n) =>
        let count := (((← get).tables[n]?).map Std.HashMap.size).getD 0
        return .ofInt count
      | _ => return .ofInt (← textAt 0).length
    | "length", _ => return .ofInt (← textAt 0).length
    | "substr", _ => do
      let text ← textAt 0
      let start ← numberAt 1
      let length ← match arguments[2]? with
        | some e => do pure (some (← value fuel e).toNumber)
        | none => pure none
      return .text (substring text start length)
    | "index", _ => do
      let text ← textAt 0
      return .ofInt (placeOf (← textAt 1) 0 text)
    | "split", _ => do
      let text ← textAt 0
      let mark : Option Expr := arguments[2]?
      let parts ← match mark with
        | some (.pattern r) =>
          pure (if text.isEmpty then [] else cutWith r { text := text.toArray } (text.length + 1) 0)
        | some e => do split (← textOf (← value fuel e)) text
        | none => do split (← setting "FS") text
      let place : Option Expr := arguments[1]?
      match place with
      | some (.name x) =>
        let n ← table x
        let elements := (parts.zipIdx).map fun (part, i) =>
          (showNat (i + 1), Value.input part)
        changeTable n fun _ => Table.ofElements 1 elements
        return .ofInt parts.length
      | _ => fault (ofString "type error in arg(2) in call to split")
    | "sub", _ => exchange fuel false arguments
    | "gsub", _ => exchange fuel true arguments
    | "match", [subject, pattern] => do
      let text ← textOf (← value fuel subject)
      let r ← expression fuel pattern
      let (start, length) : Int × Int := match r.find { text := text.toArray } 0 with
        | some found => ((found.start : Int) + 1, (found.finish : Int) - found.start)
        | none => (0, -1)
      setGlobal "RSTART" (.ofInt start)
      setGlobal "RLENGTH" (.ofInt length)
      return .ofInt start
    | "sprintf", _ => do
      let (text, why) ← formatted fuel "sprintf" arguments
      match why with
      | some w => fault w
      | none => return .text text
    | "atan2", _ => do
      let y ← numberAt 0
      return .number (ofMachine (Float.atan2 (toMachine y) (toMachine (← numberAt 1))))
    | "int", _ => do
      let x ← numberAt 0
      match whole? x with
      | some n => return .ofInt n
      | none => return .number x
    | "rand", _ =>
      let next := ((← get).seed * 6364136223846793005 + 1442695040888963407) % 18446744073709551616
      modify fun d => { d with seed := next }
      return .number (Binary.round .double false (next / 2048) 9007199254740992)
    | "srand", _ => do
      let before := (← get).seed
      let seed := (bounded (← numberAt 0)).toNat
      modify fun d => { d with seed }
      return .ofInt before
    | "toupper", _ => return .text ((← textAt 0).map Char.toUpper)
    | "tolower", _ => return .text ((← textAt 0).map Char.toLower)
    | "system", _ => return .ofInt (← runCommand (← textAt 0) none false).1
    | "close", _ => return .ofInt (← close (← textAt 0))
    | "fflush", _ =>
      flush
      return .ofInt 0
    | f, _ =>
      match mathematical? f with
      | some m => return .number (ofMachine (m (toMachine (← numberAt 0))))
      | none => return .unset

/-- Replaces what an expression finds in a place; gives how often. -/
def exchange (fuel : Nat) (all : Bool) (arguments : List Expr) : Work Value :=
  match fuel with
  | 0 => act (throw .exhausted)
  | fuel + 1 => do
    match arguments with
    | pattern :: new :: rest => do
      let r ← expression fuel pattern
      let new ← textOf (← value fuel new)
      let place := rest.headD (.field (.number (Binary.zero .double false)))
      let text ← textOf (← value fuel place)
      let s : Regex.Subject := { text := text.toArray }
      let (parts, count) := replaceFrom r s new all (text.length + 2) 0 none 0 []
      if count != 0 then
        let _ ← give fuel place (.text parts.reverse.flatten)
      return .ofInt count
    | _ => return .unset

/-- What a format prints of values, and what is wrong if something is. -/
def formatted (fuel : Nat) (name : String) (arguments : List Expr) :
    Work (Text × Option Text) :=
  match fuel with
  | 0 => act (throw .exhausted)
  | fuel + 1 => do
    let vs ← arguments.mapM (value fuel)
    let numbers := textForm (← get)
    let form := (vs.headD .unset).toText numbers
    let (text, why) := format numbers form vs.tail
    return (text, why.map fun w => ofString (w ++ name ++ "(\"") ++ form ++ ofString "\")")

def put (fuel : Nat) (place : Destination) (text : Text) : Work Unit :=
  match fuel with
  | 0 => act (throw .exhausted)
  | fuel + 1 => do
    match place with
    | .plain => modify fun d => { d with printed := text :: d.printed }
    | .file appends path => writeTo (← textOf (← value fuel path)) false appends text
    | .command words => writeTo (← textOf (← value fuel words)) true false text

def perform (fuel : Nat) (s : Statement) : Work Unit :=
  match fuel with
  | 0 => act (throw .exhausted)
  | fuel + 1 => do
    match s with
    | .nothing => return ()
    | .value e => do
      let _ ← value fuel e
    | .print items place => do
      let form := (global (← get) "OFMT").toText []
      let parts ← match items with
        | [] => do pure [← textOf (← get).record]
        | items => items.mapM fun e => do return (← value fuel e).toText form
      put fuel place (joinWith (← setting "OFS") parts ++ (← setting "ORS"))
    | .printf items place => do
      let (text, why) ← formatted fuel "printf" items
      put fuel place text
      match why with
      | some w => fault w
      | none => return ()
    | .branch test first second =>
      if (← value fuel test).holds then perform fuel first else perform fuel second
    | .loop test after body =>
      let holds : Work Bool := match test with
        | some e => do return (← value fuel e).holds
        | none => return true
      rounds fuel holds do
        inRound (perform fuel body) (perform fuel after)
    | .loopOnce body test => do
      let goesOn ← inRound (perform fuel body) (pure ())
      if goesOn then
        rounds fuel (do return (← value fuel test).holds) do
          inRound (perform fuel body) (pure ())
    | .each x name body => do
      let n ← table name
      let found := ((← get).tables.getD n {}).keys
      let _ ← found.foldlM (fun goesOn k => do
        if !goesOn then return false
        setVariable x (.text k)
        inRound (perform fuel body) (pure ())) true
    | .block body => body.forM (perform fuel)
    | .delete x none => do
      let n ← table x
      changeTable n fun _ => {}
    | .delete x (some index) => do
      let n ← table x
      let k ← key fuel index
      changeTable n fun t => t.remove k
    | .next => throw .record
    | .exit none => throw .all
    | .exit (some e) => do
      let status := (bounded (← value fuel e).toNumber % 256).toNat
      modify fun d => { d with status }
      throw .all
    | .result none => throw (.function .unset)
    | .result (some e) => throw (.function (← value fuel e))
    | .leave => throw .loop
    | .again => throw .round

end

end HalBench.Shell.Records
