import HalBench.Shell.Regex.Parse
import HalBench.Shell.Utility.Basic
/-!
# Searching

Printing the lines of texts in which one of some expressions has a match.
-/

namespace HalBench.Shell.Utility

namespace Search

/-- What is searched for: expressions or plain texts, and which matches count. -/
structure Target where
  expressions : List Regex
  folds : Bool := false
  wholeLines : Bool := false
  wholeWords : Bool := false
  inverted : Bool := false

structure Style where
  counts : Bool := false
  names : Bool := false
  namesWithout : Bool := false
  quiet : Bool := false
  onlyMatches : Bool := false
  numbers : Bool := false
  offsets : Bool := false
  fileNames : Bool := false
  zeros : Bool := false
  limit : Option Nat := none
  before : Nat := 0
  after : Nat := 0
  separator : Option Text := some ['-', '-']
  text : Bool := false
  lineEnd : Char := '\n'

def plain (text : Text) : Regex :=
  text.foldr (fun c r => .both (.one (.exactly c)) r) .empty

def Target.counts (t : Target) (s : Regex.Subject) (start finish : Nat) : Bool :=
  if t.wholeLines then start == 0 && finish == s.text.size
  else if t.wholeWords then !s.isWordBefore start && !s.isWordAt finish
  else true

/-- The end of the longest stretch from an offset on that counts. -/
def Target.endAt? (t : Target) (s : Regex.Subject) (start : Nat) : Option Nat :=
  let ends := t.expressions.flatMap fun r =>
    (Regex.step s r.refers r { offset := start }).filterMap fun p =>
      if t.counts s start p.offset then some p.offset else none
  ends.foldl (fun best e => some (max e (best.getD e))) none

def Target.find? (t : Target) (s : Regex.Subject) : Nat → Nat → Option (Nat × Nat)
  | 0, _ => none
  | fuel + 1, start =>
    match t.endAt? s start with
    | some finish => some (start, finish)
    | none => if start < s.text.size then t.find? s fuel (start + 1) else none

def Target.all (t : Target) (s : Regex.Subject) : Nat → Nat → List (Nat × Nat)
  | 0, _ => []
  | fuel + 1, offset =>
    match t.find? s (s.text.size + 1 - offset) offset with
    | none => []
    | some (start, finish) =>
      if start = finish then
        if start < s.text.size then t.all s fuel (start + 1) else []
      else (start, finish) :: t.all s fuel finish

/-- A line of a text: its number, the offset of its start, and what it says. -/
structure Line where
  number : Nat
  offset : Nat
  text : Text

def linesOf (lineEnd : Char) (text : Text) : List Line :=
  let parts := if text.isEmpty then [] else
    if text.getLast? == some lineEnd then cutAt lineEnd text.dropLast else cutAt lineEnd text
  let (_, _, found) := parts.foldl (fun ((n : Nat), (offset : Nat), (found : List Line)) part =>
    (n + 1, offset + part.length + 1, ⟨n, offset, part⟩ :: found)) (1, 0, [])
  found.reverse

def Style.front (k : Style) (name : Text) (mark : Char) (number offset : Nat) : Text :=
  (if k.fileNames then name ++ [if k.zeros then '\x00' else mark] else [])
    ++ (if k.numbers then showNat number ++ [mark] else [])
    ++ (if k.offsets then showNat offset ++ [mark] else [])

def Style.hit (k : Style) (t : Target) (name : Text) (l : Line) : Text :=
  if k.onlyMatches then
    if t.inverted then []
    else
      let s : Regex.Subject := { text := l.text.toArray, folds := t.folds }
      (t.all s (l.text.length + 2) 0).flatMap fun (start, finish) =>
        k.front name ':' l.number (l.offset + start) ++ Regex.slice s start finish ++ [k.lineEnd]
  else k.front name ':' l.number l.offset ++ l.text ++ [k.lineEnd]

/-- The state of a search through a text: what was shown, with the latest first; the lines before
this one that may still be shown; how many lines after a hit are still shown; the number of the last
line shown; how many were found. -/
structure Progress where
  shown : List Text := []
  waiting : List Line := []
  left : Nat := 0
  last : Option Nat := none
  count : Nat := 0

def Style.beside (k : Style) (name : Text) (l : Line) : Text :=
  if k.onlyMatches then [] else k.front name '-' l.number l.offset ++ l.text ++ [k.lineEnd]

def Style.step (k : Style) (t : Target) (name : Text) (p : Progress) (l : Line) : Progress :=
  let s : Regex.Subject := { text := l.text.toArray, folds := t.folds }
  let full := k.limit.any fun n => n ≤ p.count
  let hits := !full && ((t.find? s (l.text.length + 2) 0).isSome != t.inverted)
  if hits then
    let waiting := p.waiting.reverse
    let first := (waiting.head?.map (·.number)).getD l.number
    let gap : List Text := match p.last, k.separator with
      | some n, some mark =>
        if (k.before != 0 || k.after != 0) && n + 1 < first then [mark ++ ['\n']] else []
      | _, _ => []
    let shown := k.hit t name l :: (waiting.map (k.beside name)).reverse ++ gap ++ p.shown
    { shown, waiting := [], left := k.after, last := some l.number, count := p.count + 1 }
  else if 0 < p.left then
    { p with shown := k.beside name l :: p.shown, left := p.left - 1, last := some l.number }
  else if full then p
  else { p with waiting := (l :: p.waiting).take k.before }

/-- Searches a text with a name; gives how many lines were found. -/
def run (t : Target) (k : Style) (name text : Text) : Action Nat := do
  let p := (linesOf k.lineEnd text).foldl (k.step t name) {}
  let isBinary := !k.text && k.lineEnd == '\n' && text.contains '\x00'
  if k.quiet then return p.count
  else if k.names then
    if p.count != 0 then Action.print (name ++ [if k.zeros then '\x00' else '\n'])
  else if k.namesWithout then
    if p.count = 0 then Action.print (name ++ [if k.zeros then '\x00' else '\n'])
  else if k.counts then
    Action.print ((if k.fileNames then name ++ [if k.zeros then '\x00' else ':'] else [])
      ++ showNat p.count ++ ['\n'])
  else if isBinary && p.count != 0 then complain (name ++ ofString ": binary file matches")
  else Action.print p.shown.reverse.flatten
  return p.count

def known : Known :=
  { letters := "0123456789A:B:C:D:EFGHIm:LPTUVX:abcd:e:f:hilnoqRrsuvwxyZz"
    names := [("after-context", 'A', .needed), ("basic-regexp", 'G', .none),
      ("before-context", 'B', .needed), ("byte-offset", 'b', .none), ("color", 'K', .possible),
      ("colour", 'K', .possible), ("context", 'C', .needed), ("count", 'c', .none),
      ("exclude", 'j', .needed), ("extended-regexp", 'E', .none), ("file", 'f', .needed),
      ("files-with-matches", 'l', .none), ("files-without-match", 'L', .none),
      ("fixed-strings", 'F', .none), ("group-separator", 'g', .needed),
      ("ignore-case", 'i', .none), ("include", 'k', .needed), ("invert-match", 'v', .none),
      ("line-buffered", 'u', .none), ("line-number", 'n', .none), ("line-regexp", 'x', .none),
      ("max-count", 'm', .needed), ("no-filename", 'h', .none),
      ("no-group-separator", 'N', .none), ("no-ignore-case", 'J', .none),
      ("no-messages", 's', .none), ("null", 'Z', .none), ("null-data", 'z', .none),
      ("only-matching", 'o', .none), ("perl-regexp", 'P', .none), ("quiet", 'q', .none),
      ("recursive", 'r', .none), ("regexp", 'e', .needed), ("silent", 'q', .none),
      ("text", 'a', .none), ("with-filename", 'H', .none), ("word-regexp", 'w', .none)] }

def usage : Action Nat := do
  let program := (← get).program
  Action.complain (ofString "Usage: " ++ program ++ ofString " [OPTION]... PATTERNS [FILE]...")
  pointToHelp
  return 2

def patternsOf (o : List Given) : Action (Except Unit (List Text)) := do
  let given := o.filter fun g => g.1 == 'e' || g.1 == 'f'
  given.foldlM (fun (found : Except Unit (List Text)) g => do
    match found with
    | .error () => return .error ()
    | .ok before =>
      if g.1 == 'e' then return .ok (before ++ cutAt '\n' g.2)
      else
        match ← content g.2 with
        | .ok text => return .ok (before ++ bareLines text)
        | .error fault =>
          complainOf [] g.2 fault
          return .error ()) (.ok [])

/-- The expressions of patterns; complains of one that cannot be read, and of repetitions that
repeat nothing. -/
def expressionsOf (d : Regex.Dialect) (patterns : List Text) :
    Action (Except Unit (List Regex)) :=
  patterns.foldlM (fun (found : Except Unit (List Regex)) p => do
    match found, Regex.parse d p with
    | .error (), _ => return .error ()
    | .ok _, .error fault =>
      complain (ofString fault.message)
      return .error ()
    | .ok before, .ok (r, _, strays) =>
      strays.forM fun sign => complain (ofString ("warning: " ++ sign ++ " at start of expression"))
      return .ok (before ++ [r])) (.ok [])

def kinds : List Char := ['E', 'F', 'G', 'P']

/-- What is wrong with the first option that cannot be followed, given how patterns are written so
far. -/
def faultOf : Option Char → List Given → Option Text
  | _, [] => none
  | kind, (c, text) :: rest =>
    if kinds.contains c then
      if kind.any (· != c) then some (ofString "conflicting matchers specified")
      else faultOf (some c) rest
    else if ['A', 'B', 'C'].contains c && (natural? text).isNone then
      some (text ++ ofString ": invalid context length argument")
    else if c == 'm' && ((integer? (some 10) text).all fun (_, after) => !after.isEmpty) then
      some (ofString "invalid max count")
    else faultOf kind rest

def contextOf (o : List Given) : Nat × Nat :=
  let number (c : Char) : Option Nat := (value? o c).bind natural?
  let digits := (o.map (·.1)).filter Char.isDigit
  let both := (number 'C').or (if digits.isEmpty then none else some (natOf digits))
  (((number 'B').or both).getD 0, ((number 'A').or both).getD 0)

def below (s : State) : Nat → Text → List Text
  | 0, _ => []
  | fuel + 1, path =>
    match s.files.look true (toBytes path) with
    | .ok .directory =>
      let names := ((s.files.list (toBytes path)).toOption.getD []).map ofBytes
      let base := if path.getLast? == some '/' then path else path ++ ['/']
      (names.mergeSort textLe).flatMap fun n =>
        match s.files.look false (toBytes (base ++ n)) with
        | .ok (.link _) => []
        | _ => below s fuel (base ++ n)
    | _ => [path]

def isWanted (o : List Given) (path : Text) : Bool :=
  let name := ((cutAt '/' path).getLast?).getD []
  let fits (g : Given) : Bool := Pattern.stands (g.2.map fun c => (false, c)) name
  let included := o.filter fun g => g.1 == 'k'
  (included.isEmpty || included.any fits) && !(o.filter fun g => g.1 == 'j').any fits

def searched (s : State) (o : List Given) (names : List Text) : List (Text × Text) :=
  let recursive := has o 'r' || has o 'R'
  let files :=
    if !recursive then (if names.isEmpty then [['-']] else names).map fun n => (n, n)
    else if names.isEmpty then
      (below s 64 ['.']).map fun p => (p, if ['.', '/'].isPrefixOf p then p.drop 2 else p)
    else names.flatMap fun n => if n == ['-'] then [(n, n)] else (below s 64 n).map fun p => (p, p)
  (files.filter fun f => isWanted o f.1).map fun (path, shown) =>
    (path, if path == ['-'] then ofString "(standard input)" else shown)

def files (o : List Given) (t : Target) (k : Style) (names : List Text) : Action Nat := do
  let (found, failed) ← (searched (← get) o names).foldlM (fun (found, failed) (path, shown) => do
    if k.quiet && found then return (found, failed)
    match ← content path with
    | .error fault =>
      if !has o 's' then complainOf [] shown fault
      return (found, true)
    | .ok text =>
      let n ← run t k shown text
      return (found || n != 0, failed)) (false, false)
  return if failed && !(k.quiet && found) then 2 else if found then 0 else 1

end Search

open Search in
/-- Prints the lines of texts that match a pattern; another name of the program may say how patterns
are written. -/
def grep (named : Option Char) : Utility := fun words => do
  modify fun s => { s with program := ofString "grep" }
  match known.read words with
  | .error text =>
    complain text
    usage
  | .ok (o, operands) =>
    let kind := (named.or ((o.map (·.1)).find? kinds.contains)).getD 'G'
    let given := o.any fun g => g.1 == 'e' || g.1 == 'f'
    match faultOf named o, given, operands with
    | some text, _, _ => refuse 2 text
    | none, false, [] => usage
    | none, given, operands =>
      let (before, after) := contextOf o
      let names := if given then operands else operands.tail
      let patterns ← if given then patternsOf o
        else pure (.ok (cutAt '\n' (operands.headD [])))
      match patterns with
      | .error () => return 2
      | .ok patterns =>
        let dialect : Regex.Dialect := if kind == 'E' || kind == 'P' then .extendedSearch
          else .basicSearch
        let expressions ← if kind == 'F' then pure (.ok (patterns.map plain))
          else expressionsOf dialect patterns
        match expressions with
        | .error () => return 2
        | .ok expressions =>
          let folding := (o.map (·.1)).filter fun c => ['i', 'y', 'J'].contains c
          let t : Target :=
            { expressions, folds := (folding.getLast?.map (· != 'J')).getD false
              wholeLines := has o 'x', wholeWords := has o 'w', inverted := has o 'v' }
          let limit := match (value? o 'm').bind (integer? (some 10)) with
            | some (n, _) => if n < 0 then none else some n.toNat
            | none => none
          let recursive := has o 'r' || has o 'R'
          let manyFiles := 1 < names.length || (recursive && names != [['-']])
          let shows := match ((o.map (·.1)).filter fun c => c == 'h' || c == 'H').getLast? with
            | some c => c == 'H'
            | none => manyFiles
          let k : Style :=
            { counts := has o 'c', names := has o 'l', namesWithout := has o 'L', quiet := has o 'q'
              onlyMatches := has o 'o', numbers := has o 'n', offsets := has o 'b'
              fileNames := shows, zeros := has o 'Z', limit, before, after
              separator := if has o 'N' then none else some ((value? o 'g').getD ['-', '-'])
              text := has o 'a', lineEnd := if has o 'z' then '\x00' else '\n' }
          files o t k names

end HalBench.Shell.Utility
