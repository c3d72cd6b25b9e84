import HalBench.Text.Alphanumeric
import HalBench.Text.Blank
/-!
# Patterns of field values

A pattern is a regular expression: alternatives of pieces, which may be repeated, grouped, and
carry flags. The tables of Unicode are not at hand, so what needs one is refused: letters without
regard to case, classes of digits, blanks and words, and the ends of words. With the flag `u`
off these are classes of ASCII, and what could match half a character is refused instead.
`isPattern` only says whether a text is a pattern. Counted repetitions do not arise, as a closing
brace ends the field.
-/

namespace HalBench.Log

namespace Pattern

/-- The flags that decide what a pattern may hold. -/
structure Mode where
  foldsCase : Bool := false
  unicode : Bool := true
  spaced : Bool := false
  deriving DecidableEq, Repr, Inhabited

namespace Mode

def admitsLetters (m : Mode) : Bool := !(m.foldsCase && m.unicode)

/-- Sets a flag by its letter; the other flags change nothing here. -/
def set (m : Mode) (letter : Char) (value : Bool) : Option Mode :=
  match letter with
  | 'i' => some { m with foldsCase := value }
  | 'u' => some { m with unicode := value }
  | 'x' => some { m with spaced := value }
  | 'm' | 's' | 'U' | 'R' => some m
  | _ => none

/-- The text after blanks and comments, where these are passed over. -/
def skip (m : Mode) (text : List Char) : List Char :=
  if m.spaced then go text false else text
where
  /-- Goes on, maybe inside a comment. -/
  go : List Char → Bool → List Char
    | [], _ => []
    | '\n' :: r, _ => go r false
    | _ :: r, true => go r true
    | c :: r, false =>
      if c = '#' then go r true
      else if Text.isBlank c then go r false
      else c :: r

end Mode

inductive Escape where
  | letter (c : Char)
  | set
  | place
  deriving DecidableEq, Repr

def hexValue? (c : Char) : Option Nat :=
  if c.isDigit then some (c.toNat - 48)
  else if 'a' ≤ c ∧ c ≤ 'f' then some (c.toNat - 87)
  else if 'A' ≤ c ∧ c ≤ 'F' then some (c.toNat - 55)
  else none

def hexDigits (m : Mode) : Nat → Nat → List Char → Option (Nat × List Char)
  | 0, value, r => some (value, r)
  | more + 1, value, c :: r =>
    (hexValue? c).bind fun d => hexDigits m more (16 * value + d) (m.skip r)
  | _ + 1, _, [] => none

/-- A character by its number; a single byte above ASCII is none. -/
def numbered (m : Mode) (width : Nat) (text : List Char) : Option (Escape × List Char) := do
  let (value, r) ← hexDigits m width 0 (m.skip text)
  if ¬ value.isValidChar then none
  else if width = 2 ∧ ¬ m.unicode ∧ 127 < value then none
  else some (.letter (Char.ofNat value), r)

/-- Punctuation and blanks of ASCII stand for themselves after a backslash. -/
def isEscapable (c : Char) : Bool :=
  c.toNat < 128 && !c.isAlphanum && c != '<' && c != '>'

def escape? (m : Mode) : List Char → Option (Escape × List Char)
  | [] => none
  | c :: r =>
    match c with
    | 'x' => numbered m 2 r
    | 'u' => numbered m 4 r
    | 'U' => numbered m 8 r
    | 'd' | 's' | 'w' => if m.unicode then none else some (.set, r)
    | 'a' => some (.letter '\x07', r)
    | 'f' => some (.letter '\x0c', r)
    | 't' => some (.letter '\t', r)
    | 'n' => some (.letter '\n', r)
    | 'r' => some (.letter '\r', r)
    | 'v' => some (.letter '\x0b', r)
    | 'A' | 'z' => some (.place, r)
    | 'b' | 'B' | '<' | '>' => if m.unicode then none else some (.place, r)
    | c => if isEscapable c then some (.letter c, r) else none

def classNames : List (List Char) :=
  ["alnum", "alpha", "ascii", "blank", "cntrl", "digit", "graph", "lower", "print", "punct",
    "space", "upper", "word", "xdigit"].map String.toList

/-- The text after the rest of a named class, of which a bracket was read: a colon, maybe a
negation, a name, a colon and a bracket. -/
def namedClass? (m : Mode) : List Char → Option (Bool × List Char)
  | ':' :: r =>
    let (negated, r) := match r with
      | '^' :: r => (true, r)
      | r => (false, r)
    let name := r.takeWhile (· != ':')
    match r.dropWhile (· != ':') with
    | ':' :: ']' :: rest =>
      if classNames.contains name then some (m.unicode || !negated, rest) else none
    | _ => none
  | _ => none

def classItem? (m : Mode) : List Char → Option (Escape × List Char)
  | [] => none
  | '\\' :: r =>
    match escape? m r with
    | some (.place, _) => none
    | found => found
  | c :: r => if m.unicode || c.toNat < 128 then some (.letter c, r) else none

def classRange? (m : Mode) (text : List Char) : Option (List Char) := do
  let (first, r) ← classItem? m text
  let r := m.skip r
  match r with
  | '-' :: after =>
    match m.skip after with
    | ']' :: _ | '-' :: _ => some r
    | after =>
      let (last, rest) ← classItem? m after
      match first, last with
      | .letter a, .letter b => if a ≤ b then some rest else none
      | _, _ => none
  | _ => some r

/-- The text after the start of a class, of which the bracket was read: a negation, then hyphens,
or else a closing bracket that stands for itself. -/
def classStart? (m : Mode) (text : List Char) : Option (List Char) :=
  let r := m.skip text
  let afterNegation : Option (List Char) := match r with
    | '^' :: r => if m.unicode then some (m.skip r) else none
    | r => some r
  afterNegation.map fun r => hyphens r false
where
  /-- Passes hyphens; a closing bracket right at the start is passed too. -/
  hyphens : List Char → Bool → List Char
    | '-' :: r, _ => hyphens r true
    | ']' :: r, false => r
    | r, _ => r

/-- The text after a class, so many of whose brackets are open; `fuel` bounds the items. -/
def classEnd? (m : Mode) : Nat → Nat → List Char → Option (List Char)
  | 0, _, _ => none
  | _, 0, text => some text
  | fuel + 1, depth + 1, text =>
    match m.skip text with
    | [] => none
    | '[' :: r =>
      match namedClass? m r with
      | some (admitted, r) => if admitted then classEnd? m fuel (depth + 1) r else none
      | none => (classStart? m r).bind fun r => classEnd? m fuel (depth + 2) r
    | ']' :: r => classEnd? m fuel depth r
    | '&' :: '&' :: r => classEnd? m fuel (depth + 1) r
    | '-' :: '-' :: r => classEnd? m fuel (depth + 1) r
    | '~' :: '~' :: r => classEnd? m fuel (depth + 1) r
    | r => (classRange? m r).bind fun r => classEnd? m fuel (depth + 1) r

def class? (m : Mode) (text : List Char) : Option (List Char) :=
  if m.admitsLetters then
    (classStart? m text).bind fun r => classEnd? m (text.length + 1) 1 r
  else none

/-- Flags up to a colon or a closing bracket: the new mode, whether a colon ends them, and whether
there are any. A flag stands once, and a minus sign once and not last. -/
def flags? (m : Mode) (value : Bool) (seen : List Char) : List Char →
    Option (Mode × Bool × Bool × List Char)
  | [] => none
  | c :: r =>
    if c = ':' ∨ c = ')' then
      if seen.head? = some '-' then none else some (m, c == ':', !seen.isEmpty, r)
    else if seen.contains c then none
    else if c = '-' then flags? m false (c :: seen) r
    else (m.set c value).bind fun m => flags? m value (c :: seen) r

def isNameChar (first : Bool) (c : Char) : Bool :=
  if first then c == '_' || Text.isAlphabetic c
  else c == '_' || c == '.' || c == '[' || c == ']' || Text.isAlphanumeric c

def groupName? (text : List Char) : Option (List Char × List Char) :=
  let name := text.takeWhile (· != '>')
  match name, text.dropWhile (· != '>') with
  | c :: more, _ :: rest =>
    if isNameChar true c && more.all (isNameChar false) then some (name, rest) else none
  | _, _ => none

inductive Opening where
  | group (inside : Mode) (name : Option (List Char))
  | flags (mode : Mode)
  deriving DecidableEq, Repr

def opening? (m : Mode) (text : List Char) : Option (Opening × List Char) :=
  match m.skip text with
  | '?' :: 'P' :: '<' :: r => named r
  | '?' :: '<' :: r => named r
  | '?' :: r => do
    let (mode, isGroup, isSome, rest) ← flags? m true [] r
    if isGroup then some (.group mode none, rest)
    else if isSome then some (.flags mode, rest)
    else none
  | r => some (.group m none, r)
where
  /-- A group with a name. -/
  named (r : List Char) : Option (Opening × List Char) :=
    (groupName? r).map fun (name, rest) => (.group m (some name), rest)

/-- How far a pattern is read: the mode, those to return to at the end of each open group,
whether a piece stands here that can be repeated, and the names of groups. -/
structure Progress where
  mode : Mode := {}
  outer : List Mode := []
  repeatable : Bool := false
  names : List (List Char) := []
  deriving DecidableEq, Repr, Inhabited

namespace Progress

def step (p : Progress) : List Char → Option (Progress × List Char)
  | [] => none
  | '(' :: r =>
    match opening? p.mode r with
    | some (.flags mode, r) => some ({ p with mode, repeatable := false }, r)
    | some (.group inside name, r) =>
      if name.any p.names.contains then none
      else
        some ({ mode := inside, outer := p.mode :: p.outer, names := name.toList ++ p.names }, r)
    | none => none
  | ')' :: r =>
    match p.outer with
    | mode :: outer => some ({ p with mode, outer, repeatable := true }, r)
    | [] => none
  | '|' :: r => some ({ p with repeatable := false }, r)
  | '[' :: r => piece (class? p.mode r)
  | '\x7b' :: _ => none
  | '\\' :: r =>
    match escape? p.mode r with
    | some (.letter _, r) => piece (if p.mode.admitsLetters then some r else none)
    | some (_, r) => piece (some r)
    | none => none
  | '.' :: r => piece (if p.mode.unicode then some r else none)
  | c :: r =>
    if c = '?' ∨ c = '*' ∨ c = '+' then
      if p.repeatable then
        match r with
        | '?' :: r => some (p, r)
        | r => some (p, r)
      else none
    else if c = '^' ∨ c = '$' then piece (some r)
    else piece (if p.mode.admitsLetters then some r else none)
where
  /-- A piece before the rest of the text. -/
  piece (rest : Option (List Char)) : Option (Progress × List Char) :=
    rest.map fun r => ({ p with repeatable := true }, r)

def finish (p : Progress) : Nat → List Char → Bool
  | 0, _ => false
  | fuel + 1, text =>
    match p.mode.skip text with
    | [] => p.outer.isEmpty
    | r =>
      match p.step r with
      | some (p, r) => p.finish fuel r
      | none => false

end Progress

end Pattern

def isPattern (text : List Char) : Bool := ({} : Pattern.Progress).finish (text.length + 1) text

end HalBench.Log
