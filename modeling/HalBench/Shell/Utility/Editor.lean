import HalBench.Shell.Utility.Basic
import HalBench.Shell.Utility.Editor.Script
/-!
# The stream editor

Every line of the input goes through the commands of a script, and what is left of it is printed.
-/

namespace HalBench.Shell.Editor

/-- What options ask for: whether files are edited in their places and what the old ones are called,
whether every file has lines of its own, what ends a line, and how wide a line is that is shown. -/
structure Manner where
  silent : Bool := false
  inPlace : Option Text := none
  separate : Bool := false
  lineEnd : Char := '\n'
  width : Nat := 70

/-- How far a range of lines has come; an active one may have a line at which it ends. -/
inductive Stretch where
  | idle
  | active (finish : Option Nat)
  | closed
  deriving DecidableEq, Repr, Inhabited

inductive Later where
  | text (s : Text)
  | file (name : Text)
  deriving Repr

/-- Where commands write besides the output; a line without its end may have to be ended yet. -/
structure Output where
  name : Text
  channel : Nat
  owesEnd : Bool := false
  deriving Repr

/-- What the editor has before it: the line, what is held, the input that is left, and what is to be
printed yet. A line knows whether it had a line end. -/
structure Desk where
  line : Text := []
  isEnded : Bool := true
  held : Text := []
  isHeldEnded : Bool := true
  number : Nat := 0
  hasChanged : Bool := false
  later : List Later := []
  stretches : Array Stretch
  used : Option Expression := none
  names : List Text
  lines : List Text := []
  isOpen : Bool := false
  isInput : Bool := false
  taken : Nat := 0
  name : Text := ['-']
  owesEnd : Bool := false
  edited : List Text := []
  outputs : List Output := []
  readers : List (Text × List Text) := []
  status : Nat := 0

abbrev Work := ExceptT Nat Action

def abandon {α : Type} (status : Nat) (text : Text) : Work α := do
  Utility.complain text
  throw status

def linesOf (lineEnd : Char) (text : Text) : List Text :=
  let parts := cutAt lineEnd text
  let ended := parts.dropLast.map (· ++ [lineEnd])
  match parts.getLast? with
  | some [] => ended
  | some l => ended ++ [l]
  | none => []

def put (m : Manner) (d : Desk) (text : Text) : Work Desk := do
  if m.inPlace.isSome then return { d with edited := text :: d.edited }
  else
    Action.print text
    return d

def payEnd (m : Manner) (d : Desk) : Work Desk := do
  if d.owesEnd then return { (← put m d [m.lineEnd]) with owesEnd := false } else return d

def putLine (m : Manner) (d : Desk) (line : Text) (isEnded : Bool) : Work Desk := do
  let d ← payEnd m d
  let d ← put m d (line ++ (if isEnded then [m.lineEnd] else []))
  return { d with owesEnd := !isEnded }

def putText (m : Manner) (d : Desk) (text : Text) : Work Desk := do
  put m (← payEnd m d) text

def writeLine (m : Manner) (d : Desk) (name line : Text) (isEnded : Bool) : Work Desk := do
  match d.outputs.find? fun o => o.name == name with
  | none => return d
  | some o =>
    let text := (if o.owesEnd then [m.lineEnd] else []) ++ line
      ++ (if isEnded then [m.lineEnd] else [])
    modify fun s => (s.writeChannel o.channel text).1
    return { d with outputs := d.outputs.map fun p =>
      if p.name == name then { p with owesEnd := !isEnded } else p }

def putLater (m : Manner) (d : Desk) : Work Desk := do
  let d ← d.later.reverse.foldlM (fun d l => do
    let d ← payEnd m d
    match l with
    | .text s => put m d s
    | .file name =>
      match ← Utility.content name with
      | .ok text => put m d text
      | .error _ => return d) d
  return { d with later := [] }

def backupName (suffix path : Text) : Text :=
  let parts := cutAt '/' path
  let base := (parts.getLast?).getD []
  let name := if suffix.contains '*' then suffix.flatMap fun c => if c == '*' then base else [c]
    else base ++ suffix
  if name.contains '/' then name else joinWith ['/'] (parts.dropLast ++ [name])

def closeFile (m : Manner) (d : Desk) : Work Desk := do
  match m.inPlace, d.isOpen with
  | some suffix, true =>
    let s ← get
    match s.files.locate true (toBytes d.name) with
    | .ok (.present names (.file old executable)) =>
      let files ← if suffix.isEmpty then pure s.files
        else
          match s.files.write (toBytes (backupName suffix d.name)) old with
          | .ok files => pure files
          | .error fault =>
            abandon 4 (ofString "cannot rename " ++ d.name ++ ofString (": " ++ fault.description))
      let content := toBytes d.edited.reverse.flatten
      set { s with files := files.put names (.file content executable) }
    | _ => pure ()
    return { d with edited := [], owesEnd := false, isOpen := false, lines := [] }
  | _, _ => return { d with isOpen := false, lines := [] }

/-- Opens the next file that can be opened. When the editor only looks ahead, a directory is as good
as an empty file. -/
def openNext (m : Manner) (ahead : Bool) : List Text → Desk → Work Desk
  | [], d => return { d with names := [] }
  | name :: names, d => do
    let s ← get
    let isFile := name != ['-'] && s.files.isFile (toBytes name)
    let isThere := name != ['-'] && (s.files.look true (toBytes name)).isOk
    if m.inPlace.isSome && isThere && !isFile then
      abandon 4 (ofString "couldn't edit " ++ name ++ ofString ": not a regular file")
    let isInput := name == ['-']
    match ← Utility.content name with
    | .ok text =>
      let isPlace := match s.channel? 0 with
        | some (_, .file ..) => isInput
        | _ => false
      if isPlace then set s
      let d :=
        if m.separate then { d with number := 0, stretches := d.stretches.map fun _ => .idle }
        else d
      let lines := linesOf m.lineEnd text
      return { d with names, name, lines, isOpen := true, isInput := isPlace }
    | .error fault =>
      if fault == .isADirectory && ahead then return ← openNext m ahead names d
      if fault == .isADirectory || isInput then
        abandon 4 (ofString "read error on " ++ (if isInput then ofString "stdin" else name)
          ++ ofString (": " ++ fault.description))
      Utility.complainOf (ofString "can't read ") name fault
      openNext m ahead names { d with status := 2 }

def seek (m : Manner) (ahead : Bool) : Nat → Desk → Work Desk
  | 0, d => return d
  | fuel + 1, d => do
    if !d.lines.isEmpty then return d
    let d ← closeFile m d
    if d.names.isEmpty then return d
    seek m ahead fuel (← openNext m ahead d.names d)

/-- Whether the line is the last one, which may take a look at the files that follow. -/
def atEnd (m : Manner) (d : Desk) : Work (Bool × Desk) := do
  if !d.lines.isEmpty then return (false, d)
  else if m.separate then return (true, d)
  else
    let d ← seek m true (d.names.length + 1) d
    return (d.lines.isEmpty, d)

/-- Reads the next line, which takes the place of the one before it or is added to it; nothing is
changed but what is printed when there is none. -/
def readLine (m : Manner) (adds : Bool) (d : Desk) : Work (Bool × Desk) := do
  let d ← putLater m d
  let d ← seek m false (d.names.length + 1) d
  match d.lines with
  | [] => return (false, d)
  | l :: lines =>
    let isEnded := l.getLast? == some m.lineEnd
    let body := if isEnded then l.dropLast else l
    return (true, { d with
      line := if adds then d.line ++ m.lineEnd :: body else body
      isEnded, lines, number := d.number + 1, hasChanged := false
      taken := if d.isInput then d.taken + l.length else d.taken })

/-- The expression that is meant, with how many groups it has and the line as its subject; it is
remembered. -/
def resolve (e : Expression) (d : Desk) : Work (Regex × Nat × Regex.Subject × Desk) := do
  let e := if e.regex.isSome then e else d.used.getD e
  match e.regex with
  | some (r, groups) =>
    let s : Regex.Subject := { text := d.line.toArray, folds := e.folds, byLines := e.byLines }
    return (r, groups, s, { d with used := some e })
  | none => abandon 1 (ofString "-e expression #1, char 0: no previous regular expression")

def isAt (m : Manner) (a : Address) (d : Desk) : Work (Bool × Desk) := do
  match a with
  | .line n => return (d.number == n, d)
  | .step first by' => return (first ≤ d.number && (d.number - first) % by' == 0, d)
  | .last => atEnd m d
  | .found e =>
    let (r, _, s, d) ← resolve e d
    return ((r.find s 0).isSome, d)

def stretch (d : Desk) (n : Nat) : Stretch := d.stretches.getD n .idle

def note (d : Desk) (n : Nat) (x : Stretch) : Desk :=
  { d with stretches := d.stretches.setIfInBounds n x }

/-- Whether a range holds the line, when its first address is that of the line. -/
def starts (n : Nat) (finish : RangeEnd) (d : Desk) : Bool × Desk :=
  let until' (l : Nat) : Bool × Desk :=
    if l ≤ d.number then (true, note d n .closed) else (true, note d n (.active (some l)))
  match finish with
  | .at' (.line l) => until' l
  | .at' _ => (true, note d n (.active none))
  | .after k => until' (d.number + k)
  | .multiple k => until' (if k = 0 then 0 else (d.number / k + 1) * k)

def isChosen (m : Manner) (n : Nat) (s : Step) (d : Desk) : Work (Bool × Desk) := do
  match s.first, s.last with
  | none, _ => return (true, d)
  | some a, none => isAt m a d
  | some a, some finish =>
    match stretch d n with
    | .active (some l) =>
      let d := if l ≤ d.number then note d n .closed else d
      return (d.number ≤ l, d)
    | .active none =>
      match finish with
      | .at' b =>
        let (ends, d) ← isAt m b d
        return (true, if ends then note d n .closed else d)
      | _ => return (true, d)
    | _ =>
      let (begins, d) ← isAt m a d
      return if begins then starts n finish d else (false, d)

/-- How the case of what is put next is changed. A change of one letter may wait for the piece after
an empty one. -/
structure Casing where
  lasting : CaseChange := .keep
  once : Option CaseChange := none
  hasWaited : Bool := false

def Casing.apply (k : Casing) (text : Text) : Text × Casing :=
  let lasting (c : Char) : Char := match k.lasting with
    | .upper => c.toUpper
    | .lower => c.toLower
    | _ => c
  match text, k.once with
  | c :: rest, some change =>
    let c := if change == .nextUpper then c.toUpper else c.toLower
    (c :: rest.map lasting, { lasting := k.lasting })
  | [], some _ =>
    ([], if k.hasWaited then { lasting := k.lasting } else { k with hasWaited := true })
  | text, none => (text.map lasting, k)

def replaced (pieces : List Piece) (s : Regex.Subject) (f : Regex.Found) : Text :=
  let (parts, _) := pieces.foldl (fun ((parts : List Text), (k : Casing)) p =>
    match p with
    | .case' .nextUpper => (parts, { lasting := k.lasting, once := some .nextUpper })
    | .case' .nextLower => (parts, { lasting := k.lasting, once := some .nextLower })
    | .case' c => (parts, { lasting := c })
    | .text t =>
      let (t, k) := k.apply t
      (t :: parts, k)
    | .group n =>
      let (t, k) := k.apply (f.group s n)
      (t :: parts, k)) (([] : List Text), ({} : Casing))
  parts.reverse.flatten

/-- Replaces matches from an offset on; `count` of them were found, the last of which ended at
`before`. Gives the parts of the line, the latest first, and whether one was replaced. `fuel` bounds
their number. -/
def replaceFrom (x : Substitution) (r : Regex) (s : Regex.Subject) :
    Nat → Nat → Nat → Option Nat → List Text → Bool → List Text × Bool
  | 0, _, _, _, parts, changed => (parts, changed)
  | fuel + 1, offset, count, before, parts, changed =>
    let rest : Text := Regex.slice s offset s.text.size
    match if offset ≤ s.text.size then r.find s offset else none with
    | none => (rest :: parts, changed)
    | some f =>
      let parts := Regex.slice s offset f.start :: parts
      let isEmpty := f.start == f.finish
      let step : List Text := if isEmpty then [Regex.slice s f.finish (f.finish + 1)] else []
      let next := if isEmpty then f.finish + 1 else f.finish
      if isEmpty && before == some f.start then
        replaceFrom x r s fuel next count none (step ++ parts) changed
      else if count + 1 < x.from' then
        replaceFrom x r s fuel next (count + 1) (some f.finish)
          (step ++ f.group s 0 :: parts) changed
      else
        let parts := replaced x.replacement s f :: parts
        if x.all then replaceFrom x r s fuel next (count + 1) (some f.finish) (step ++ parts) true
        else (Regex.slice s f.finish s.text.size :: parts, true)

def substitute (m : Manner) (x : Substitution) (d : Desk) : Work Desk := do
  let (r, groups, s, d) ← resolve x.expression d
  if groups < maxGroup x.replacement then
    abandon 1 (ofString ("-e expression #1, char 0: invalid reference \\"
      ++ toString (maxGroup x.replacement) ++ " on \x60s' command's RHS"))
  let (parts, changed) := replaceFrom x r s (s.text.size + 2) 0 0 none [] false
  if !changed then return d
  let d := { d with line := parts.reverse.flatten, hasChanged := true }
  let d ← if x.prints then putLine m d d.line d.isEnded else pure d
  match x.file with
  | some name => writeLine m d name d.line d.isEnded
  | none => return d

def shown (c : Char) : Text :=
  if c == '\\' then ['\\', '\\']
  else if ' ' ≤ c && c ≤ '~' then [c]
  else Utility.escapeOf c

def listing (width : Nat) (line : Text) : Text :=
  let (parts, _) := line.foldl (fun ((parts : List Text), (column : Nat)) c =>
    let t := shown c
    if width != 0 && width - 1 < column + t.length then (t :: ['\\', '\n'] :: parts, t.length)
    else (t :: parts, column + t.length)) ([], 0)
  parts.reverse.flatten ++ ['$', '\n']

def firstOf (m : Manner) (d : Desk) : Text := d.line.takeWhile (· != m.lineEnd)

/-- How the editor goes on: with a command, with a new line, with the first command again, or not at
all. -/
inductive Onward where
  | go (n : Nat)
  | fresh
  | again
  | over
  deriving DecidableEq, Repr

/-- Prints the line unless it is only printed when asked for. -/
def putOwn (m : Manner) (d : Desk) : Work Desk := do
  if m.silent then return d else putLine m d d.line d.isEnded

def carryOut (m : Manner) (s : Script) (n : Nat) (deed : Deed) (d : Desk) :
    Work (Desk × Onward) := do
  let on (d : Desk) : Desk × Onward := (d, .go (n + 1))
  let jump (l : Text) : Onward :=
    .go (if l.isEmpty then s.steps.size else (s.labels.lookup l).getD s.steps.size)
  match deed with
  | .nothing => return on d
  | .block _ => return on d
  | .append t => return on { d with later := .text t :: d.later }
  | .insert t => return on (← putText m d t)
  | .change t =>
    let d ← match stretch d n with
      | .active _ => pure d
      | _ => putText m d t
    return (d, .fresh)
  | .branch l => return (d, jump l)
  | .branchIf changed l =>
    return ({ d with hasChanged := false },
      if d.hasChanged == changed then jump l else .go (n + 1))
  | .number => return on (← putText m d (showNat d.number ++ [m.lineEnd]))
  | .delete => return (d, .fresh)
  | .deleteFirst =>
    if d.line.contains m.lineEnd then
      return ({ d with line := (d.line.dropWhile (· != m.lineEnd)).drop 1 }, .again)
    else return (d, .fresh)
  | .get => return on { d with line := d.held, isEnded := d.isHeldEnded }
  | .getMore =>
    return on { d with line := d.line ++ m.lineEnd :: d.held, isEnded := d.isHeldEnded }
  | .hold => return on { d with held := d.line, isHeldEnded := d.isEnded }
  | .holdMore =>
    return on { d with held := d.held ++ m.lineEnd :: d.line, isHeldEnded := d.isEnded }
  | .exchange =>
    return on { d with
      line := d.held, isEnded := d.isHeldEnded, held := d.line, isHeldEnded := d.isEnded }
  | .next =>
    let (ends, d) ← atEnd m d
    let d ← putOwn m d
    if ends then return (d, .fresh)
    let (_, d) ← readLine m false d
    return on d
  | .nextMore =>
    let (ends, d) ← atEnd m d
    if ends then return (← putOwn m d, .fresh)
    let (_, d) ← readLine m true d
    return on d
  | .print => return on (← putLine m d d.line d.isEnded)
  | .printFirst =>
    return on (← putLine m d (firstOf m d) (d.isEnded || d.line.contains m.lineEnd))
  | .quit code =>
    let d ← putLater m (← putOwn m d)
    return ({ d with status := code }, .over)
  | .quitSilently code => return ({ d with status := code }, .over)
  | .list width =>
    return on (← putText m d (listing (width.getD m.width) d.line))
  | .readFile name => return on { d with later := .file name :: d.later }
  | .readLine name =>
    let lines ← match d.readers.lookup name with
      | some lines => pure lines
      | none => do pure (linesOf m.lineEnd ((← Utility.content name).toOption.getD []))
    let readers := (name, lines.tail) :: d.readers.filter (·.1 != name)
    let later := (lines.head?.map Later.text).toList ++ d.later
    return on { d with readers, later }
  | .writeFile name => return on (← writeLine m d name d.line d.isEnded)
  | .writeFirst name =>
    return on (← writeLine m d name (firstOf m d) (d.isEnded || d.line.contains m.lineEnd))
  | .substitute x => return on (← substitute m x d)
  | .replaceLetters table =>
    return on { d with line := d.line.map fun c => (table.lookup c).getD c }
  | .zap => return on { d with line := [] }
  | .fileName => return on (← putText m d (d.name ++ ['\n']))

/-- A step of the editor: a command, or the end of the commands. Tells whether it goes on. -/
def proceed (m : Manner) (s : Script) (d : Desk) (n : Nat) : Work ((Desk × Nat) × Bool) := do
  let begin (d : Desk) : Work ((Desk × Nat) × Bool) := do
    let (found, d) ← readLine m false d
    return ((d, 0), found)
  match s.steps[n]? with
  | none => begin (← putOwn m d)
  | some x =>
    let (chosen, d) ← isChosen m n x d
    if chosen == x.negated then
      match x.deed with
      | .block finish => return ((d, finish), true)
      | _ => return ((d, n + 1), true)
    else
      match ← carryOut m s n x.deed d with
      | (d, .go n) => return ((d, n), true)
      | (d, .fresh) => begin d
      | (d, .again) => return ((← putLater m d, 0), true)
      | (d, .over) => return ((d, n), false)

def maxSteps : Nat := 3000000

def writtenFiles (s : Script) : List Text :=
  (s.steps.toList.filterMap fun x =>
    match x.deed with
    | .writeFile name => some name
    | .writeFirst name => some name
    | .substitute x => x.file
    | _ => none).eraseDups

def openOutputs (names : List Text) : Work (List Output) :=
  names.mapM fun name => do
    match Opening.toWrite (← get) name false false false with
    | .ok (channel, s) =>
      set s
      return { name, channel }
    | .error fault =>
      abandon 4 (ofString "couldn't open file " ++ name ++ ofString (": " ++ fault.description))

def edit (m : Manner) (s : Script) (names : List Text) : Work Nat := do
  let outputs ← openOutputs (writtenFiles s)
  let start (x : Step) : Stretch := match x.first with
    | some (.line 0) => .active none
    | _ => .idle
  let d : Desk := { names, outputs, stretches := s.steps.map start }
  let (found, d) ← readLine m false d
  let finish (d : Desk) : Work Nat := do
    let d ← closeFile m d
    if d.taken != 0 then modify fun s => (s.readUpTo 0 fun _ => d.taken).2
    return d.status
  if !found then finish d
  else
    let round (x : Except Nat (Desk × Nat)) : Action (Except Nat (Desk × Nat) × Bool) := do
      match x with
      | .error status => return (.error status, false)
      | .ok (d, n) =>
        let result : Except Nat ((Desk × Nat) × Bool) ← ExceptT.run (proceed m s d n)
        match result with
        | .ok (y, goesOn) => return (.ok y, goesOn)
        | .error status => return (.error status, false)
    let (d, _) ← ExceptT.mk (Action.iterate round maxSteps (.ok (d, 0)))
    finish d

/-- A piece of the script: an expression among the options with its number, or a file. -/
structure ScriptPart where
  file : Option Text
  number : Nat
  text : Text

/-- The start of a complaint about a place in the script, given how much of it comes before. -/
def placeOf (exact : Bool) : List ScriptPart → Nat → Text
  | [], _ => []
  | p :: rest, offset =>
    if p.text.length + 1 < offset && !rest.isEmpty then
      placeOf exact rest (offset - (p.text.length + 1))
    else
      match p.file with
      | some name =>
        ofString "file " ++ name ++ ofString " line "
          ++ showNat (((p.text.take (offset - 1)).count '\n') + 1)
      | none =>
        ofString "-e expression #" ++ showNat p.number ++ ofString ", char "
          ++ showNat (if exact then min offset p.text.length else 0)

def partsOf (given : List Utility.Given) : Work (List ScriptPart) := do
  let (parts, _) ← given.foldlM (fun ((parts : List ScriptPart), (n : Nat)) (letter, text) => do
    if letter == 'e' then return (parts ++ [⟨none, n + 1, text⟩], n + 1)
    else if letter == 'f' then
      match ← Utility.content text with
      | .ok content => return (parts ++ [⟨some text, n, Utility.bare content⟩], n)
      | .error fault =>
        abandon 4 (ofString "couldn't open file " ++ text ++ ofString (": " ++ fault.description))
    else return (parts, n)) ([], 0)
  return parts

def scriptOf (extended : Bool) (parts : List ScriptPart) : Work Script := do
  let refuse {α : Type} (exact : Bool) (offset : Nat) (text : String) : Work α :=
    abandon 1 (placeOf exact parts offset ++ ofString (": " ++ text))
  match parse extended (joinWith ['\n'] (parts.map (·.text))) with
  | .error (offset, text) => refuse true offset text
  | .ok (.error (.openBlock offset)) => refuse false offset "unmatched \x60\x7b'"
  | .ok (.error (.noLabel name)) =>
    abandon 4 (ofString "can't find label for jump to \x60" ++ name ++ ['\''])
  | .ok (.ok script) => return script

def known : Utility.Known :=
  { letters := "bsnrzuEe:f:l:i::V:hs"
    names := [("binary", 'b', .none), ("regexp-extended", 'r', .none), ("null-data", 'z', .none),
      ("zero-terminated", 'z', .none), ("quiet", 'n', .none), ("silent", 'n', .none),
      ("expression", 'e', .needed), ("file", 'f', .needed), ("in-place", 'i', .possible),
      ("line-length", 'l', .needed), ("posix", 'p', .none), ("separate", 's', .none),
      ("unbuffered", 'u', .none), ("follow-symlinks", 'F', .none)] }

def usage : Action Nat := do
  Action.complain (ofString "Usage: " ++ (← get).program
    ++ ofString " [OPTION]... \x7bscript-only-if-no-other-script\x7d [input-file]...")
  return 1

def sed : Utility := fun words => do
  match known.read words with
  | .error text =>
    Utility.complain text
    usage
  | .ok (o, operands) =>
    let given := Utility.has o 'e' || Utility.has o 'f'
    match given, operands with
    | false, [] => usage
    | given, operands =>
      let names := if given then operands else operands.tail
      let o := if given then o else ('e', operands.headD []) :: o
      let work : Work Nat := do
        let width ← match Utility.value? o 'l' with
          | none => pure 70
          | some text =>
            match Utility.natural? text with
            | some n => pure n
            | none => abandon 1 (ofString "invalid line length: " ++ text)
        let script ← scriptOf (Utility.has o 'r' || Utility.has o 'E') (← partsOf o)
        let m : Manner :=
          { silent := script.silent || Utility.has o 'n', width
            inPlace := Utility.value? o 'i'
            separate := Utility.has o 's' || Utility.has o 'i'
            lineEnd := if Utility.has o 'z' then '\x00' else '\n' }
        edit m script (if names.isEmpty then [['-']] else names)
      match ← work.run with
      | .ok status => return status
      | .error status => return status

end HalBench.Shell.Editor
