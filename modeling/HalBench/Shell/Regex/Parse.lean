import HalBench.Shell.Regex
/-!
# Reading regular expressions

Two ways to write them: a basic one, in which parentheses, braces, bars, plus signs and question
marks have their meanings after a backslash, and an extended one, in which they have them without.
-/

namespace HalBench.Shell.Regex

inductive Fault where
  | bad
  | collation
  | characterClass
  | trailingBackslash
  | backReference
  | bracket
  | parenthesis
  | brace
  | braceContent
  | range
  | repetition
  | size
  | closing
  | confusingClass
  deriving DecidableEq, Repr

def Fault.message : Fault → String
  | bad => "Invalid regular expression"
  | collation => "Invalid collation character"
  | characterClass => "Invalid character class name"
  | trailingBackslash => "Trailing backslash"
  | backReference => "Invalid back reference"
  | bracket => "Unmatched [, [^, [:, [., or [="
  | parenthesis => "Unmatched ( or \\("
  | brace => "Unmatched \\\x7b"
  | braceContent => "Invalid content of \\\x7b\\\x7d"
  | range => "Invalid range end"
  | repetition => "Invalid preceding regular expression"
  | size => "Regular expression too big"
  | closing => "Unmatched ) or \\)"
  | confusingClass => "character class syntax is [[:space:]], not [:space:]"

inductive Stray where
  | literal
  | skipped
  | refused
  deriving DecidableEq, Repr

/-- A way to write expressions: whether it is the extended one, what a repetition is that repeats
nothing, whether a count in braces that repeats nothing or follows another repetition is refused,
whether braces without a count stand for themselves, whether a closing parenthesis without an
opening one does, whether a range may be empty, and whether a class without brackets of its own is
refused. -/
structure Dialect where
  extended : Bool
  stray : Stray
  strictCounts : Bool := false
  looseBraces : Bool := false
  looseClosing : Bool := false
  looseRanges : Bool := false
  checksClasses : Bool := false

namespace Dialect

def basic : Dialect := { extended := false, stray := .literal, strictCounts := true }

def extendedStrict : Dialect := { extended := true, stray := .refused }

def basicSearch : Dialect := { extended := false, stray := .literal, checksClasses := true }

def extendedSearch : Dialect :=
  { extended := true, stray := .skipped, looseBraces := true, looseClosing := true
    checksClasses := true }

def basicLoose : Dialect := { extended := false, stray := .literal, looseRanges := true }

end Dialect

inductive Token where
  | char (c : Char)
  | one (x : One)
  | place (p : Place)
  | star
  | plus
  | maybe
  | braces
  | opening
  | closing
  | bar
  | reference (n : Nat)
  deriving DecidableEq, Repr

def escaped (extended : Bool) (c : Char) : Token :=
  let inBasic (t : Token) : Token := if extended then .char c else t
  match c with
  | '(' => inBasic .opening
  | ')' => inBasic .closing
  | '\x7b' => inBasic .braces
  | '|' => inBasic .bar
  | '+' => inBasic .plus
  | '?' => inBasic .maybe
  | 'w' => .one (.ofWord false)
  | 'W' => .one (.ofWord true)
  | 's' => .one (.space false)
  | 'S' => .one (.space true)
  | 'b' => .place .edge
  | 'B' => .place .notEdge
  | '<' => .place .wordStart
  | '>' => .place .wordEnd
  | '\x60' => .place .textStart
  | '\'' => .place .textEnd
  | c => if '1' ≤ c && c ≤ '9' then .reference (c.toNat - 48) else .char c

def unescaped (extended : Bool) (c : Char) : Token :=
  let inExtended (t : Token) : Token := if extended then t else .char c
  match c with
  | '.' => .one .anything
  | '*' => .star
  | '(' => inExtended .opening
  | ')' => inExtended .closing
  | '\x7b' => inExtended .braces
  | '|' => inExtended .bar
  | '+' => inExtended .plus
  | '?' => inExtended .maybe
  | c => .char c

def endsHere (extended : Bool) (rest : Text) : Bool :=
  extended || rest.isEmpty || ['\\', '|'].isPrefixOf rest || ['\\', ')'].isPrefixOf rest

/-- The next token, and what follows it; `first` tells that it stands where an expression starts.
Lists in brackets are read elsewhere. -/
def token (extended first : Bool) : Text → Except Fault (Option (Token × Text))
  | [] => .ok none
  | ['\\'] => .error .trailingBackslash
  | '\\' :: c :: r => .ok (some (escaped extended c, r))
  | '^' :: r => .ok (some (if extended || first then .place .lineStart else .char '^', r))
  | '$' :: r => .ok (some (if endsHere extended r then .place .lineEnd else .char '$', r))
  | c :: r => .ok (some (unescaped extended c, r))

/-- The name between a mark and the same mark before a closing bracket, and what follows. -/
def named? (mark : Char) (read : Text) : Text → Option (Text × Text)
  | c :: ']' :: r =>
    if c == mark then some (read.reverse, r) else named? mark (c :: read) (']' :: r)
  | c :: r => named? mark (c :: read) r
  | [] => none

/-- An element of a list in brackets: a character, a class, or a sign that may make a range. -/
inductive Element where
  | char (c : Char)
  | ofClass (name : String)
  | dash

def element : Text → Except Fault (Element × Text)
  | '[' :: mark :: r =>
    if [':', '.', '='].contains mark then
      match named? mark [] r, mark == ':' with
      | none, _ => .error .bracket
      | some (name, rest), true =>
        let name := String.ofList name
        if (inClass? name 'a').isSome then .ok (.ofClass name, rest) else .error .characterClass
      | some ([c], rest), false => .ok (.char c, rest)
      | some _, false => .error .collation
    else .ok (.char '[', mark :: r)
  | '-' :: r => .ok (.dash, r)
  | c :: r => .ok (.char c, r)
  | [] => .error .bracket

def members (looseRanges : Bool) : Nat → Bool → Text → Except Fault (List Member × Text)
  | 0, _, _ => .error .bracket
  | fuel + 1, first, text => do
    match first, text with
    | false, ']' :: r => return ([], r)
    | first, text =>
      let (x, rest) ← element text
      match x with
      | .ofClass name =>
        match rest with
        | '-' :: ']' :: _ => pure ()
        | '-' :: _ => throw .range
        | _ => pure ()
        let (more, after) ← members looseRanges fuel false rest
        return (.ofClass name :: more, after)
      | x =>
        let low ← match x, first, rest with
          | .dash, false, c :: _ => if c == ']' then pure '-' else throw .range
          | .dash, false, [] => throw .bracket
          | .char c, _, _ => pure c
          | _, _, _ => pure '-'
        match rest with
        | [] => throw .bracket
        | '-' :: [] => throw .bracket
        | '-' :: ']' :: _ =>
          let (more, after) ← members looseRanges fuel false rest
          return (.between low low :: more, after)
        | '-' :: more =>
          let high ← match ← element more with
            | (.char c, after) => pure (c, after)
            | (.dash, after) => pure ('-', after)
            | (.ofClass _, _) => throw .range
          if high.1 < low && !looseRanges then throw .range
          let (more, after) ← members looseRanges fuel false high.2
          return (.between low high.1 :: more, after)
        | rest =>
          let (more, after) ← members looseRanges fuel false rest
          return (.between low low :: more, after)

def brackets (d : Dialect) (text : Text) : Except Fault (Regex × Text) := do
  let (negated, inside) : Bool × Text := match text with
    | '^' :: r => (true, r)
    | r => (false, r)
  if inside.isEmpty then throw .bad
  let (ms, rest) ← members d.looseRanges (inside.length + 1) true inside
  let colon : Member := .between ':' ':'
  if d.checksClasses && 2 < ms.length && ms.head? == some colon && ms.getLast? == some colon then
    throw .confusingClass
  return (.one (.oneOf negated ms), rest)

def maxCount : Nat := 32767

/-- A number of a count in braces: none if there are no digits, and nothing at all if there is
something else. -/
inductive Count where
  | absent
  | number (n : Nat)
  | wrong
  deriving DecidableEq, Repr

/-- Reads a number up to a comma or the closing brace; the rest starts with it. None at the end of
the text. -/
def count (extended : Bool) (read : Count) : Text → Option (Count × Text)
  | [] => none
  | '\\' :: '\x7d' :: r =>
    if extended then count extended .wrong r else some (read, '\\' :: '\x7d' :: r)
  | c :: r =>
    if c == ',' || (extended && c == '\x7d') then some (read, c :: r)
    else
      let next := match read, c.isDigit with
        | .absent, true => Count.number (c.toNat - 48)
        | .number n, true => .number (min (maxCount + 1) (n * 10 + (c.toNat - 48)))
        | _, _ => .wrong
      count extended next r

def afterBrace? (extended : Bool) : Text → Option Text
  | '\x7d' :: r => if extended then some r else none
  | '\\' :: '\x7d' :: r => if extended then none else some r
  | _ => none

/-- The bounds of a repetition, after the opening brace, and what follows. None if the braces stand
for themselves. -/
def bounds (d : Dialect) (text : Text) : Except Fault (Option (Nat × Option Nat × Text)) := do
  let invalid (fault : Fault) : Except Fault (Option (Nat × Option Nat × Text)) :=
    if d.looseBraces then .ok none else .error fault
  let close (least : Nat) (most : Option Nat) (rest : Text) :
      Except Fault (Option (Nat × Option Nat × Text)) :=
    match afterBrace? d.extended rest with
    | none => .error .braceContent
    | some after =>
      if most.any fun m => m < least then .error .braceContent
      else if maxCount < most.getD least then .error .size
      else .ok (some (least, most, after))
  match count d.extended .absent text with
  | none => invalid .brace
  | some (.wrong, _) => invalid .braceContent
  | some (.absent, ',' :: r) =>
    match count d.extended .absent r with
    | none => invalid .brace
    | some (.wrong, _) => invalid .braceContent
    | some (.absent, rest) => close 0 none rest
    | some (.number m, rest) => close 0 (some m) rest
  | some (.absent, _) => throw .braceContent
  | some (.number n, ',' :: r) =>
    match count d.extended .absent r with
    | none => invalid .brace
    | some (.wrong, _) => invalid .braceContent
    | some (.absent, rest) => close n none rest
    | some (.number m, rest) => close n (some m) rest
  | some (.number n, rest) => close n (some n) rest

/-- A place in reading an expression: what is left, whether an expression starts here, how many
groups were opened, which ones are complete, and the repetitions that repeat nothing. -/
structure Reading where
  rest : Text
  first : Bool := true
  groups : Nat := 0
  complete : List Nat := []
  strays : List String := []

abbrev Parse := StateT Reading (Except Fault)

def peek (d : Dialect) : Parse (Option (Token × Text)) := do
  let r ← get
  match r.rest, token d.extended r.first r.rest with
  | '[' :: _, _ => return some (.char '[', r.rest.tail)
  | _, .ok t => return t
  | _, .error fault => throw fault

def advance (rest : Text) (first : Bool) : Parse Unit := modify fun r => { r with rest, first }

def noteStray (sign : String) : Parse Unit :=
  modify fun r => { r with strays := r.strays ++ [sign] }

def repetitions (d : Dialect) : Nat → Bool → Regex → Parse Regex
  | 0, _, x => return x
  | fuel + 1, again, x => do
    let refuses := d.strictCounts && again
    match ← peek d with
    | some (.star, rest) =>
      if refuses then throw .repetition
      advance rest false
      repetitions d fuel true (.repeated x 0 none)
    | some (.plus, rest) =>
      advance rest false
      repetitions d fuel true (.repeated x 1 none)
    | some (.maybe, rest) =>
      advance rest false
      repetitions d fuel true (.repeated x 0 (some 1))
    | some (.braces, rest) =>
      if refuses then throw .repetition
      match bounds d rest with
      | .error fault => throw fault
      | .ok none => return x
      | .ok (some (least, most, after)) =>
        advance after false
        repetitions d fuel true (.repeated x least most)
    | _ => return x

mutual

def piece (fuel : Nat) (d : Dialect) (depth : Nat) : Parse (Option Regex) :=
  match fuel with
  | 0 => throw .size
  | fuel + 1 => do
    let r ← get
    let atom (x : Regex) (rest : Text) : Parse (Option Regex) := do
      advance rest false
      return some (← repetitions d (rest.length + 1) false x)
    let stray (c : Char) (sign : String) (rest : Text) : Parse (Option Regex) := do
      match d.stray with
      | .literal => atom (.one (.exactly c)) rest
      | .refused => throw .repetition
      | .skipped =>
        noteStray sign
        advance rest r.first
        match ← piece fuel d depth with
        | some x => return some x
        | none => return some .empty
    match ← peek d with
    | none => return none
    | some (.bar, _) => return none
    | some (.char '[', rest) =>
      if r.rest.head? == some '[' then
        match brackets d rest with
        | .error fault => throw fault
        | .ok (x, after) => atom x after
      else atom (.one (.exactly '[')) rest
    | some (.char c, rest) => atom (.one (.exactly c)) rest
    | some (.one x, rest) => atom (.one x) rest
    | some (.place p, rest) =>
      advance rest false
      return some (.place p)
    | some (.reference n, rest) =>
      if !r.complete.contains n then throw .backReference
      atom (.reference n) rest
    | some (.star, rest) => stray '*' "*" rest
    | some (.plus, rest) => stray '+' "+" rest
    | some (.maybe, rest) => stray '?' "?" rest
    | some (.braces, rest) =>
      if d.strictCounts || d.stray == .refused then throw .repetition
      else if d.extended && (match bounds d rest with | .ok none => true | _ => false) then
        atom (.one (.exactly '\x7b')) rest
      else stray '\x7b' "\x7b...\x7d" rest
    | some (.opening, rest) =>
      let n := r.groups + 1
      modify fun r => { r with rest, first := true, groups := n }
      let inside ← choices fuel d (depth + 1)
      match ← peek d with
      | some (.closing, after) =>
        modify fun r => { r with complete := n :: r.complete }
        atom (.group n inside) after
      | _ => throw .parenthesis
    | some (.closing, rest) =>
      if 0 < depth then return none
      else if d.looseClosing then atom (.one (.exactly ')')) rest
      else throw .closing

def pieces (fuel : Nat) (d : Dialect) (depth : Nat) : Parse Regex :=
  match fuel with
  | 0 => throw .size
  | fuel + 1 => do
    match ← piece fuel d depth with
    | none => return .empty
    | some x =>
      match ← pieces fuel d depth with
      | .empty => return x
      | more => return .both x more

def choices (fuel : Nat) (d : Dialect) (depth : Nat) : Parse Regex :=
  match fuel with
  | 0 => throw .size
  | fuel + 1 => do
    let x ← pieces fuel d depth
    match ← peek d with
    | some (.bar, rest) =>
      advance rest true
      return .either x (← choices fuel d depth)
    | _ => return x

end

/-- Reads an expression; the result also has the number of its groups and the repetitions in it that
repeat nothing. -/
def parse (d : Dialect) (text : Text) : Except Fault (Regex × Nat × List String) := do
  let (x, r) ← (choices (4 * text.length + 8) d 0).run { rest := text }
  return (x, r.groups, r.strays)

end HalBench.Shell.Regex
