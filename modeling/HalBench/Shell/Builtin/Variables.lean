import HalBench.Shell.Field
import HalBench.Shell.Lookup
/-!
# Commands about variables

Declaring, setting, removing and reading variables, and the arguments and settings of a shell.
-/

namespace HalBench.Shell.Builtin

def definition (word : Text) : Text × Option Text :=
  let name := word.takeWhile (· != '=')
  (name,
    match word.drop name.length with
    | _ :: value => some value
    | [] => none)

def nameOf (name : Text) : Action String := do
  if isName name then return String.ofList name
  else Action.fail (name ++ ofString ": bad variable name")

def showBindings (word : Text) (shown : Binding → Bool) : Action Unit := do
  let s ← get
  let found := (s.bindings.filter fun (_, b) => shown b).mergeSort fun a b =>
    textLe a.1.toList b.1.toList
  found.forM fun (name, b) =>
    Action.print ((if word.isEmpty then [] else word ++ [' ']) ++ name.toList
      ++ (match b.value with | some v => '=' :: quoted v | none => []) ++ ['\n'])

def declare (command : String) (shown : Binding → Bool) (change : Binding → Binding)
    (words : List Text) : Action Nat := do
  let (flags, words) ← readOptions "p" words
  if words.isEmpty || !flags.isEmpty then showBindings (ofString command) shown
  else
    words.forM fun word => do
      let (text, value) := definition word
      let name ← nameOf text
      match value with
      | some value => Action.assign name value
      | none => pure ()
      modify fun s => s.bind name (some (change ((s.binding? name).getD {})))
  return 0

def exportTo : List Text → Action Nat :=
  declare "export" (·.isExported) fun b => { b with isExported := true }

def readonly : List Text → Action Nat :=
  declare "readonly" (·.isConstant) fun b => { b with isConstant := true }

def ofFunction (words : List Text) : Action Nat := do
  if (← get).frames.isEmpty then Action.fail (ofString "not in a function")
  words.forM fun word => do
    if word == ['-'] then modify State.hideSettings
    else
      let (text, value) := definition word
      let name ← nameOf text
      modify fun s => s.hide name
      match value with
      | some value => Action.assign name value
      | none => pure ()
  return 0

def remove (word : Text) : Action Unit := do
  let name ← nameOf word
  match (← get).binding? name with
  | some b => if b.isConstant then Action.fail (word ++ ofString ": is read only")
  | none => pure ()
  modify fun s => s.bind name none

def unset (words : List Text) : Action Nat := do
  let (flags, words) ← readOptions "vf" words
  words.forM fun word =>
    if (flags.getLast?.map (·.1)) == some 'f' then
      modify fun s => { s with functions := s.functions.filter (·.1 != String.ofList word) }
    else remove word
  return 0

def setArguments (words : List Text) : Action Unit :=
  modify fun s => { s with arguments := words, optionIndex := 1, optionPlace := none }

/-- Turns settings on or off by their letters; the letter for longer names takes the next word. -/
def turnLetters (on : Bool) : List Char → List Text → Action (List Text)
  | [], words => return words
  | 'o' :: letters, words => do
    match words with
    | [] =>
      let settings := (← get).settings
      Action.print (if on then Setting.table settings else Setting.commands settings)
      turnLetters on letters []
    | name :: rest =>
      match Setting.ofName? name with
      | some x =>
        modify fun s => { s with settings := Setting.turn x on s.settings }
        turnLetters on letters rest
      | none => Action.fail (ofString "Illegal option -o " ++ name)
  | c :: letters, words => do
    match Setting.ofLetter? c with
    | some x =>
      modify fun s => { s with settings := Setting.turn x on s.settings }
      turnLetters on letters words
    | none => Action.fail (ofString "Illegal option -" ++ [c])

/-- Turns settings on or off up to the first word that is no setting; gives the words after that,
and whether they are the arguments even if there are none. `fuel` bounds the words. -/
def turnAll : Nat → List Text → Action (List Text × Bool)
  | 0, words => return (words, false)
  | _ + 1, [] => return ([], false)
  | fuel + 1, word :: rest => do
    match word with
    | ['-'] =>
      modify fun s =>
        { s with settings := s.settings.filter fun x => x != .xtrace && x != .verbose }
      return (rest, false)
    | ['-', '-'] => return (rest, true)
    | '-' :: letters => turnAll fuel (← turnLetters true letters rest)
    | '+' :: letters => turnAll fuel (← turnLetters false letters rest)
    | _ => return (word :: rest, false)

/-- Sets the settings and the arguments of the shell, or shows its variables. -/
def setAll (words : List Text) : Action Nat := do
  if words.isEmpty then showBindings [] fun b => b.value.isSome
  else
    let (rest, always) ← turnAll (words.length + 1) words
    if always || !rest.isEmpty then setArguments rest
  return 0

def shift (words : List Text) : Action Nat := do
  let n ← match words with
    | [] => pure 1
    | word :: _ => numberOf word
  let s ← get
  if s.arguments.length < n then Action.fail (ofString "can't shift that many")
  setArguments (s.arguments.drop n)
  return 0

/-- The length of the first line of a text with its line end. A backslash joins lines, unless it
stands for itself. -/
def lineLength (raw : Bool) : Text → Nat
  | [] => 0
  | '\\' :: c :: r => if raw then 1 + lineLength raw (c :: r) else 2 + lineLength raw r
  | c :: r => if c == '\n' then 1 else 1 + lineLength raw r

def lineEnds (raw : Bool) : Text → Bool
  | [] => false
  | '\\' :: c :: r => if raw then lineEnds raw (c :: r) else lineEnds raw r
  | c :: r => c == '\n' || lineEnds raw r

def lineCharacters (raw : Bool) : Text → List (Bool × Char)
  | [] => []
  | '\\' :: c :: r =>
    if raw then (false, '\\') :: lineCharacters raw (c :: r)
    else if c == '\n' then lineCharacters raw r
    else (true, c) :: lineCharacters raw r
  | ['\\'] => if raw then [(false, '\\')] else []
  | c :: r => if c == '\n' then [] else (false, c) :: lineCharacters raw r

/-- Gives the fields of a line to variables, and nothing to those that are left. -/
def giveFields : List Text → List Text → Action Unit
  | [], _ => return ()
  | word :: words, fields => do
    Action.assign (← nameOf word) (fields.headD [])
    giveFields words fields.tail

def read (words : List Text) : Action Nat := do
  let (flags, words) ← readOptions "p:r" words
  if words.isEmpty then Action.fail (ofString "arg count")
  let raw := (flags.lookup 'r').isSome
  let (result, s) := (← get).readUpTo 0 (lineLength raw)
  set s
  let line := (result.toOption.getD []).filter (· != '\x00')
  let fields := LineCutter.cut s.separators words.length (lineCharacters raw line)
  giveFields words fields
  return if lineEnds raw line then 0 else 1

/-- Finds the option of a letter in a list of options, and whether it takes a value. -/
def optionIn? (c : Char) (known : Text) : Option Bool :=
  match known.dropWhile (· == ':') |>.dropWhile (· != c) with
  | _ :: ':' :: _ => if c == ':' then none else some true
  | _ :: _ => if c == ':' then none else some false
  | [] => none

/-- Leaves the reading of options at a place: the number of the next word, and the offset in the
word before it if letters are left there. -/
def leaveOptions (name : String) (letter : Text) (index : Nat) (place : Option Nat)
    (done : Bool) : Action Nat := do
  Action.assign "OPTIND" (showNat index)
  modify fun s => { s with optionIndex := index, optionPlace := none }
  Action.assign name letter
  modify fun s => { s with optionIndex := index, optionPlace := place }
  return if done then 1 else 0

def getopts (words : List Text) : Action Nat := do
  match words with
  | known :: word :: given =>
    let name ← nameOf word
    let s ← get
    let all := if given.isEmpty then s.arguments else given
    let (index, place) :=
      if all.length + 1 < s.optionIndex then (1, none) else (s.optionIndex, s.optionPlace)
    let silent := known.head? == some ':'
    let left : Text := match place with
      | some offset => if index ≤ 1 then [] else ((all[index - 2]?).getD []).drop offset
      | none => []
    let (letters, index, atEnd) : Text × Nat × Bool :=
      if !left.isEmpty then (left, index, false)
      else
        match all[index - 1]? with
        | some ['-', '-'] => ([], index + 1, true)
        | some ('-' :: c :: r) => (c :: r, index + 1, false)
        | _ => ([], index, true)
    let offsetOf (rest : Text) : Option Nat :=
      if rest.isEmpty then none else some (((all[index - 2]?).getD []).length - rest.length)
    match atEnd, letters with
    | false, c :: rest =>
      match optionIn? c known with
      | none =>
        if silent then Action.assign "OPTARG" [c]
        else
          Action.complain (ofString "Illegal option -" ++ [c])
          remove (ofString "OPTARG")
        leaveOptions name ['?'] index (offsetOf rest) false
      | some false =>
        Action.assign "OPTARG" []
        leaveOptions name [c] index (offsetOf rest) false
      | some true =>
        if !rest.isEmpty then
          Action.assign "OPTARG" rest
          leaveOptions name [c] index none false
        else
          match all[index - 1]? with
          | some value =>
            Action.assign "OPTARG" value
            leaveOptions name [c] (index + 1) none false
          | none =>
            if silent then
              Action.assign "OPTARG" [c]
              leaveOptions name [':'] index none false
            else
              Action.complain (ofString "No arg for -" ++ c :: ofString " option")
              remove (ofString "OPTARG")
              leaveOptions name ['?'] index none false
    | _, _ => leaveOptions name ['?'] index none true
  | _ => Action.fail (ofString "Usage: getopts optstring var [arg...]")

end HalBench.Shell.Builtin
