import HalBench.Shell.Regex.Parse
import HalBench.Shell.Text
/-!
# Scripts of the stream editor

A script is a list of commands with addresses, which say for which lines they are carried out.
Blocks and labels are places in the list.
-/

namespace HalBench.Shell.Editor

/-- An expression as it is written, with its flags; none stands for the one that was used last. -/
structure Expression where
  regex : Option (Regex × Nat)
  folds : Bool := false
  byLines : Bool := false
  deriving Repr, Inhabited

inductive Address where
  | line (n : Nat)
  | step (first by' : Nat)
  | last
  | found (e : Expression)
  deriving Repr, Inhabited

inductive RangeEnd where
  | at' (a : Address)
  | after (n : Nat)
  | multiple (n : Nat)
  deriving Repr, Inhabited

inductive CaseChange where
  | upper
  | lower
  | keep
  | nextUpper
  | nextLower
  deriving DecidableEq, Repr

inductive Piece where
  | text (s : Text)
  | group (n : Nat)
  | case' (c : CaseChange)
  deriving Repr

structure Substitution where
  expression : Expression
  replacement : List Piece
  all : Bool := false
  from' : Nat := 1
  prints : Bool := false
  file : Option Text := none
  deriving Repr, Inhabited

inductive Deed where
  | nothing
  | block (finish : Nat)
  | append (s : Text)
  | insert (s : Text)
  | change (s : Text)
  | branch (label : Text)
  | branchIf (changed : Bool) (label : Text)
  | number
  | delete
  | deleteFirst
  | get
  | getMore
  | hold
  | holdMore
  | exchange
  | next
  | nextMore
  | print
  | printFirst
  | quit (code : Nat)
  | quitSilently (code : Nat)
  | list (width : Option Nat)
  | readFile (name : Text)
  | readLine (name : Text)
  | writeFile (name : Text)
  | writeFirst (name : Text)
  | substitute (s : Substitution)
  | replaceLetters (table : List (Char × Char))
  | zap
  | fileName
  deriving Repr, Inhabited

structure Step where
  first : Option Address := none
  last : Option RangeEnd := none
  negated : Bool := false
  deed : Deed
  deriving Repr, Inhabited

/-- A script: its commands, the places of labels, and whether lines are printed only when asked. -/
structure Script where
  steps : Array Step := #[]
  labels : List (Text × Nat) := []
  silent : Bool := false
  deriving Repr

/-- A place in reading a script: what is left, how much was read, and what was found so far. -/
structure Reading where
  rest : Text
  offset : Nat := 0
  extended : Bool
  script : Script := {}
  blocks : List (Nat × Nat) := []

abbrev Fault := Nat × String

abbrev Parse := StateT Reading (Except Fault)

def fail {α : Type} (text : String) : Parse α := do
  throw ((← get).offset, text)

def next : Parse (Option Char) := do
  let r ← get
  match r.rest with
  | c :: rest =>
    set { r with rest, offset := r.offset + 1 }
    return some c
  | [] => return none

def peek : Parse (Option Char) := return (← get).rest.head?

def drop (n : Nat) : Parse Unit :=
  modify fun r => { r with rest := r.rest.drop n, offset := r.offset + min n r.rest.length }

def isBlank (c : Char) : Bool := c == ' ' || c == '\t'

def span (p : Char → Bool) : Parse Text := do
  let front := (← get).rest.takeWhile p
  drop front.length
  return front

def blanks : Parse Unit := do
  let _ ← span isBlank

def number : Parse Nat := return natOf (← span Char.isDigit)

def finish : Parse Unit := do
  blanks
  match ← peek with
  | none => return ()
  | some '\x7d' => return ()
  | some '#' => return ()
  | some c =>
    drop 1
    if c != '\n' && c != ';' then fail "extra characters after command"

/-- The length of a list in brackets with its closing one, after the opening one; none if it has no
end on this line. `fuel` bounds the steps. -/
def bracketLength? (text : Text) : Option Nat :=
  let negation := if text.head? == some '^' then 1 else 0
  let first := if (text.drop negation).head? == some ']' then 1 else 0
  (go (text.length + 1) (text.drop (negation + first))).map (· + (negation + first))
where
  /-- Looks for the closing bracket. -/
  go : Nat → Text → Option Nat
    | 0, _ => none
    | _ + 1, [] => none
    | _ + 1, ']' :: _ => some 1
    | fuel + 1, '[' :: mark :: r =>
      if [':', '.', '='].contains mark then
        match Regex.named? mark [] r with
        | some (name, rest) => (go fuel rest).map (· + (name.length + 4))
        | none => none
      else (go fuel (mark :: r)).map (· + 1)
    | fuel + 1, c :: r => if c == '\n' then none else (go fuel r).map (· + 1)

/-- Text up to a mark, which is passed over. A backslash before the mark stands for the mark itself;
in an expression the mark has no meaning between brackets. `fuel` bounds the steps. -/
def delimited (fault : String) (mark : Char) (isRegex : Bool) : Nat → Parse Text
  | 0 => fail fault
  | fuel + 1 => do
    match ← next with
    | none => fail fault
    | some c =>
      if c == mark then return []
      else if c == '\n' && isRegex then
        modify fun r => { r with rest := '\n' :: r.rest, offset := r.offset - 1 }
        fail fault
      else if c == '\n' then
        modify fun r => { r with rest := '\n' :: r.rest, offset := r.offset - 1 }
        fail fault
      else if c == '\\' then
        match ← next with
        | none => fail fault
        | some d =>
          let rest ← delimited fault mark isRegex fuel
          if d == mark then
            return if !isRegex && d == '&' then '\\' :: d :: rest else d :: rest
          else if d == '\n' then
            return if isRegex then d :: rest else '\\' :: d :: rest
          else return '\\' :: d :: rest
      else if c == '[' && isRegex then
        let inside := (← get).rest
        match bracketLength? inside with
        | some n =>
          drop n
          return c :: inside.take n ++ (← delimited fault mark isRegex fuel)
        | none =>
          let _ ← span (· != '\n')
          fail fault
      else return c :: (← delimited fault mark isRegex fuel)

/-- The character that digits after a letter stand for, and what follows them. -/
def numbered? (base most : Nat) (text : Text) : Option (Char × Text) :=
  let digits := (text.take most).takeWhile fun c => digitValue c < base
  if digits.isEmpty then none
  else some (Char.ofNat ((digitsIn base digits).1 % 256), text.drop digits.length)

/-- The character that an escape stands for, given the text after the backslash, and what
follows. -/
def escape? : Text → Option (Char × Text)
  | 'a' :: r => some ('\x07', r)
  | 'f' :: r => some ('\x0c', r)
  | 'n' :: r => some ('\n', r)
  | 'r' :: r => some ('\r', r)
  | 't' :: r => some ('\t', r)
  | 'v' :: r => some ('\x0b', r)
  | 'c' :: c :: r => some (Char.ofNat (c.toUpper.toNat ^^^ 64), r)
  | 'd' :: r => numbered? 10 3 r
  | 'o' :: r => numbered? 8 3 r
  | 'x' :: r => numbered? 16 2 r
  | _ => none

/-- An expression with its escapes replaced. Between brackets a backslash has no other meaning. -/
def unescapeRegex : Nat → Text → Text
  | 0, _ => []
  | _ + 1, [] => []
  | fuel + 1, '\\' :: r =>
    match escape? r, r with
    | some (c, rest), _ => c :: unescapeRegex fuel rest
    | none, c :: rest => '\\' :: c :: unescapeRegex fuel rest
    | none, [] => ['\\']
  | fuel + 1, c :: r => c :: unescapeRegex fuel r

def compile (text : Text) (folds byLines : Bool) : Parse Expression := do
  if text.isEmpty then
    if folds || byLines then fail "cannot specify modifiers on empty regexp"
    return { regex := none }
  else
    let r ← get
    let dialect : Regex.Dialect := if r.extended then .extendedStrict else .basic
    match Regex.parse dialect (unescapeRegex (text.length + 1) text) with
    | .ok (x, groups, _) => return { regex := some (x, groups), folds, byLines }
    | .error fault => fail fault.message

def addressFlags : Nat → Bool → Bool → Parse (Bool × Bool)
  | 0, folds, byLines => return (folds, byLines)
  | fuel + 1, folds, byLines => do
    blanks
    match ← peek with
    | some 'I' =>
      drop 1
      addressFlags fuel true byLines
    | some 'M' =>
      drop 1
      addressFlags fuel folds true
    | _ => return (folds, byLines)

def regexAddress (mark : Char) : Parse Address := do
  let fuel := (← get).rest.length + 1
  let text ← delimited "unterminated address regex" mark true fuel
  let (folds, byLines) ← addressFlags fuel false false
  return .found (← compile text folds byLines)

def address : Parse (Option Address) := do
  match ← peek with
  | some '/' =>
    drop 1
    return some (← regexAddress '/')
  | some '\\' =>
    drop 1
    match ← next with
    | some mark => return some (← regexAddress mark)
    | none => fail "unterminated address regex"
  | some '$' =>
    drop 1
    return some .last
  | some c =>
    if c.isDigit then
      let n ← number
      blanks
      if (← peek) == some '~' then
        drop 1
        blanks
        let by' ← number
        return some (if by' = 0 then .line n else .step n by')
      else return some (.line n)
    else return none
  | none => return none

def rangeEnd : Parse RangeEnd := do
  blanks
  match ← peek with
  | some '+' =>
    drop 1
    blanks
    return .after (← number)
  | some '~' =>
    drop 1
    blanks
    return .multiple (← number)
  | _ =>
    match ← address with
    | some a => return .at' a
    | none =>
      let _ ← next
      fail "unexpected \x60,'"

def pieces : Nat → Text → List Piece
  | 0, _ => []
  | _ + 1, [] => []
  | fuel + 1, '&' :: r => .group 0 :: pieces fuel r
  | _ + 1, ['\\'] => [.text ['\\']]
  | fuel + 1, '\\' :: c :: r =>
    match escape? (c :: r) with
    | some (d, rest) => .text [d] :: pieces fuel rest
    | none =>
      if c.isDigit then .group (c.toNat - 48) :: pieces fuel r
      else
        match c with
        | 'U' => .case' .upper :: pieces fuel r
        | 'L' => .case' .lower :: pieces fuel r
        | 'E' => .case' .keep :: pieces fuel r
        | 'u' => .case' .nextUpper :: pieces fuel r
        | 'l' => .case' .nextLower :: pieces fuel r
        | c => .text [c] :: pieces fuel r
  | fuel + 1, c :: r => .text [c] :: pieces fuel r

def fileName : Parse Text := do
  blanks
  let name ← span (· != '\n')
  drop 1
  if name.isEmpty then fail "missing filename in r/R/w/W commands"
  return name

structure Flags where
  all : Bool := false
  prints : Bool := false
  folds : Bool := false
  byLines : Bool := false
  from' : Option Nat := none
  file : Option Text := none

def flags : Nat → Flags → Parse Flags
  | 0, f => return f
  | fuel + 1, f => do
    match ← next with
    | none => return f
    | some c =>
      match c with
      | 'g' =>
        if f.all then fail "multiple \x60g' options to \x60s' command"
        flags fuel { f with all := true }
      | 'p' =>
        if f.prints then fail "multiple \x60p' options to \x60s' command"
        flags fuel { f with prints := true }
      | 'i' => flags fuel { f with folds := true }
      | 'I' => flags fuel { f with folds := true }
      | 'm' => flags fuel { f with byLines := true }
      | 'M' => flags fuel { f with byLines := true }
      | 'e' => flags fuel f
      | 'w' => return { f with file := some (← fileName) }
      | '#' =>
        modify fun r => { r with rest := '#' :: r.rest, offset := r.offset - 1 }
        return f
      | '\x7d' =>
        modify fun r => { r with rest := '\x7d' :: r.rest, offset := r.offset - 1 }
        return f
      | '\n' => return f
      | ';' => return f
      | ' ' => flags fuel f
      | '\t' => flags fuel f
      | '\r' => flags fuel f
      | c =>
        if c.isDigit then
          if f.from'.isSome then fail "multiple number options to \x60s' command"
          let digits ← span Char.isDigit
          let n := natOf (c :: digits)
          if n = 0 then fail "number option to \x60s' command may not be zero"
          flags fuel { f with from' := some n }
        else fail "unknown option to \x60s'"

def maxGroup (ps : List Piece) : Nat :=
  ps.foldl (fun n p => match p with | .group m => max n m | _ => n) 0

def substitution : Parse Substitution := do
  let fault := "unterminated \x60s' command"
  let fuel := (← get).rest.length + 1
  match ← next with
  | none => fail fault
  | some mark =>
    let text ← delimited fault mark true fuel
    let replacement ← delimited fault mark false fuel
    let ps := pieces (replacement.length + 1) replacement
    let f ← flags fuel {}
    let e ← compile text f.folds f.byLines
    match e.regex with
    | some (_, groups) =>
      if groups < maxGroup ps then
        fail ("invalid reference \\" ++ toString (maxGroup ps) ++ " on \x60s' command's RHS")
    | none => pure ()
    return { expression := e, replacement := ps, all := f.all, from' := f.from'.getD 1
             prints := f.prints, file := f.file }

def letters : Nat → Text → List Char
  | 0, _ => []
  | _ + 1, [] => []
  | fuel + 1, '\\' :: '\\' :: r => '\\' :: letters fuel r
  | fuel + 1, '\\' :: '\n' :: r => '\n' :: letters fuel r
  | fuel + 1, '\\' :: r =>
    match escape? r with
    | some (c, rest) => c :: letters fuel rest
    | none => letters fuel r
  | fuel + 1, c :: r => c :: letters fuel r

def letterTable : Parse (List (Char × Char)) := do
  let fault := "unterminated \x60y' command"
  let fuel := (← get).rest.length + 1
  match ← next with
  | none => fail fault
  | some mark =>
    let a ← delimited fault mark false fuel
    let b ← delimited fault mark false fuel
    let a := letters (a.length + 1) a
    let b := letters (b.length + 1) b
    if a.length != b.length then fail "strings for \x60y' command are different lengths"
    finish
    return a.zip b

/-- The lines of a text that is added: a backslash joins lines, and escapes are replaced. -/
def addedText : Nat → Parse Text
  | 0 => return []
  | fuel + 1 => do
    match ← next with
    | none => return ['\n']
    | some '\n' => return ['\n']
    | some '\\' =>
      match ← next with
      | none => return ['\n']
      | some c =>
        match escape? (c :: (← get).rest) with
        | some (d, rest) =>
          modify fun r =>
            { r with rest, offset := r.offset + (r.rest.length - rest.length) }
          return d :: (← addedText fuel)
        | none => return c :: (← addedText fuel)
    | some c => return c :: (← addedText fuel)

def added : Parse Text := do
  blanks
  let fuel := (← get).rest.length + 2
  match ← peek with
  | none => fail "expected \\ after \x60a', \x60c' or \x60i'"
  | some '\\' =>
    drop 1
    let gap := (← get).rest.takeWhile isBlank
    match (← get).rest.drop gap.length with
    | '\n' :: _ =>
      drop (gap.length + 1)
      addedText fuel
    | [] => return []
    | _ =>
      let front := (← get).rest.take 1
      if front == ['\\'] then addedText fuel
      else
        drop 1
        return front ++ (← addedText fuel)
  | some _ => addedText fuel

def label : Parse Text := do
  blanks
  span fun c => !isSpace c && c != ';' && c != '\x7d'

def numberAfter : Parse (Option Nat) := do
  blanks
  match ← peek with
  | some c => if c.isDigit then return some (← number) else return none
  | none => return none

def add (s : Step) : Parse Unit :=
  modify fun r => { r with script := { r.script with steps := r.script.steps.push s } }

def command (s : Step) : Parse Unit := do
  let simple (d : Deed) : Parse Unit := do
    finish
    add { s with deed := d }
  let one (d : Deed) : Parse Unit := do
    if s.last.isSome then fail "command only uses one address"
    add { s with deed := d }
  match ← next with
  | none => fail "missing command"
  | some c =>
    match c with
    | '#' =>
      if s.first.isSome then fail "comments don't accept any addresses"
      if (← get).offset = 1 && (← get).rest.head? == some 'n' then
        modify fun r => { r with script := { r.script with silent := true } }
      let _ ← span (· != '\n')
      drop 1
    | '\x7b' =>
      let n := (← get).script.steps.size
      modify fun r => { r with blocks := (n, r.offset) :: r.blocks }
      add { s with deed := .block 0 }
    | '\x7d' =>
      let r ← get
      match r.blocks with
      | [] => fail "unexpected \x60\x7d'"
      | (n, _) :: blocks =>
        if s.first.isSome then fail "\x7d doesn't want any addresses"
        finish
        let steps := r.script.steps
        let steps := steps.modify n fun b => { b with deed := .block steps.size }
        modify fun r => { r with blocks, script := { r.script with steps } }
    | 'a' => add { s with deed := .append (← added) }
    | 'i' => add { s with deed := .insert (← added) }
    | 'c' => add { s with deed := .change (← added) }
    | ':' =>
      if s.first.isSome then fail ": doesn't want any addresses"
      let name ← label
      if name.isEmpty then fail "\":\" lacks a label"
      modify fun r =>
        let labels := (name, r.script.steps.size) :: r.script.labels
        { r with script := { r.script with labels } }
    | 'b' => add { s with deed := .branch (← label) }
    | 't' => add { s with deed := .branchIf true (← label) }
    | 'T' => add { s with deed := .branchIf false (← label) }
    | 'q' => do
      let n ← numberAfter
      one (.quit (n.getD 0))
      finish
    | 'Q' => do
      let n ← numberAfter
      one (.quitSilently (n.getD 0))
      finish
    | 'l' => do
      let n ← numberAfter
      simple (.list n)
    | '=' => simple .number
    | 'd' => simple .delete
    | 'D' => simple .deleteFirst
    | 'g' => simple .get
    | 'G' => simple .getMore
    | 'h' => simple .hold
    | 'H' => simple .holdMore
    | 'x' => simple .exchange
    | 'n' => simple .next
    | 'N' => simple .nextMore
    | 'p' => simple .print
    | 'P' => simple .printFirst
    | 'z' => simple .zap
    | 'F' => simple .fileName
    | 'r' => add { s with deed := .readFile (← fileName) }
    | 'R' => add { s with deed := .readLine (← fileName) }
    | 'w' => add { s with deed := .writeFile (← fileName) }
    | 'W' => add { s with deed := .writeFirst (← fileName) }
    | 's' => add { s with deed := .substitute (← substitution) }
    | 'y' => add { s with deed := .replaceLetters (← letterTable) }
    | 'v' => do
      let _ ← label
      finish
    | c => fail ("unknown command: \x60" ++ String.singleton c ++ "'")

def isExpressionEnd : Option RangeEnd → Bool
  | some (.at' (.found _)) => true
  | _ => false

def step : Parse Unit := do
  match ← peek with
  | some c =>
    if c == '+' || c == '~' then
      drop 1
      let _ ← number
      fail "invalid usage of +N or ~N as first address"
  | none => pure ()
  let first ← address
  let last ← if first.isSome then do
      blanks
      if (← peek) == some ',' then
        drop 1
        pure (some (← rangeEnd))
      else pure none
    else pure none
  blanks
  match first with
  | some (.line 0) =>
    if !isExpressionEnd last then
      let _ ← next
      fail "invalid usage of line address 0"
  | _ => pure ()
  let negated ← if (← peek) == some '!' then do
      drop 1
      blanks
      if (← peek) == some '!' then
        drop 1
        fail "multiple \x60!'s"
      pure true
    else pure false
  command { first, last, negated, deed := .nothing }

def steps : Nat → Parse Unit
  | 0 => return ()
  | fuel + 1 => do
    let _ ← span fun c => isSpace c || c == ';'
    match ← peek with
    | none => return ()
    | some _ =>
      step
      steps fuel

def labelOf? : Deed → Option Text
  | .branch l => some l
  | .branchIf _ l => some l
  | _ => none

inductive Flaw where
  | openBlock (offset : Nat)
  | noLabel (name : Text)

def parse (extended : Bool) (text : Text) : Except Fault (Except Flaw Script) := do
  let (_, r) ← (steps (text.length + 1)).run { rest := text, extended }
  let missing := r.script.steps.toList.findSome? fun s =>
    (labelOf? s.deed).bind fun l =>
      if l.isEmpty || (r.script.labels.lookup l).isSome then none else some l
  match r.blocks, missing with
  | (_, offset) :: _, _ => return .error (.openBlock offset)
  | [], some l => return .error (.noLabel l)
  | [], none => return .ok r.script

end HalBench.Shell.Editor
