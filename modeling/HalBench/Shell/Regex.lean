import HalBench.Shell.Pattern
/-!
# Regular expressions

Expressions with groups, choices, repetitions and references to what a group has matched. The
longest of the leftmost matches counts; within it, earlier choices and longer repetitions come
first.
-/

namespace HalBench.Shell

/-- A place that an expression asks for: the start or the end of a line or of the whole text, an
edge of a word, the inside or the outside of one. -/
inductive Place where
  | lineStart
  | lineEnd
  | textStart
  | textEnd
  | edge
  | notEdge
  | wordStart
  | wordEnd
  deriving DecidableEq, Repr

inductive One where
  | exactly (c : Char)
  | anything
  | oneOf (negated : Bool) (members : List Member)
  | ofWord (negated : Bool)
  | space (negated : Bool)
  deriving DecidableEq, Repr

namespace One

def isWordChar (c : Char) : Bool := c.isAlphanum || c == '_'

def otherCase (c : Char) : Char := if c.isUpper then c.toLower else c.toUpper

def holds (folds : Bool) (c : Char) : One → Bool
  | exactly d => c == d || (folds && otherCase c == d)
  | anything => true
  | oneOf negated members =>
    (members.any fun m => m.holds c || (folds && m.holds (otherCase c))) != negated
  | ofWord negated => isWordChar c != negated
  | space negated => isSpace c != negated

end One

inductive Regex where
  | empty
  | one (x : One)
  | place (p : Place)
  | both (a b : Regex)
  | either (a b : Regex)
  | repeated (a : Regex) (least : Nat) (most : Option Nat)
  | group (n : Nat) (a : Regex)
  | reference (n : Nat)
  deriving Repr, Inhabited

namespace Regex

/-- How a text is matched: whether the case of letters counts, and whether lines within the text
have starts and ends of their own. -/
structure Subject where
  text : Array Char
  folds : Bool := false
  byLines : Bool := false

/-- A place that matching has come to: the offset, and what the groups have matched so far, the
latest first. -/
structure Spot where
  offset : Nat
  groups : List (Nat × Nat × Nat) := []
  deriving DecidableEq, Repr, Inhabited

namespace Subject

def isWordAt (s : Subject) (n : Nat) : Bool := (s.text[n]?.map One.isWordChar).getD false

def isWordBefore (s : Subject) : Nat → Bool
  | 0 => false
  | n + 1 => s.isWordAt n

def isPlace (s : Subject) (n : Nat) : Place → Bool
  | .textStart => n == 0
  | .textEnd => n == s.text.size
  | .lineStart => n == 0 || (s.byLines && s.text[n - 1]? == some '\n')
  | .lineEnd => n == s.text.size || (s.byLines && s.text[n]? == some '\n')
  | .edge => s.isWordBefore n != s.isWordAt n
  | .notEdge => s.isWordBefore n == s.isWordAt n
  | .wordStart => !s.isWordBefore n && s.isWordAt n
  | .wordEnd => s.isWordBefore n && !s.isWordAt n

def recurs (s : Subject) (start length at' : Nat) : Bool :=
  (List.range length).all fun i =>
    match s.text[start + i]?, s.text[at' + i]? with
    | some a, some b => a == b || (s.folds && One.otherCase a == b)
    | _, _ => false

/-- How many characters in a row are matched from an offset on, at most so many. -/
def run (s : Subject) (x : One) : Nat → Nat → Nat
  | 0, _ => 0
  | most + 1, n =>
    match s.text[n]? with
    | some c => if x.holds s.folds c then s.run x most (n + 1) + 1 else 0
    | none => 0

end Subject

def refers : Regex → Bool
  | both a b => a.refers || b.refers
  | either a b => a.refers || b.refers
  | repeated a _ _ => a.refers
  | group _ a => a.refers
  | reference _ => true
  | _ => false

/-- Places of which the first one at every offset is kept; all that differ are kept if groups count
for what follows. -/
def distinct (byGroups : Bool) (spots : List Spot) : List Spot :=
  if byGroups then spots.eraseDups
  else
    let (_, kept) := spots.foldl (fun ((seen : Nat), (kept : List Spot)) p =>
      if seen.testBit p.offset then (seen, kept)
      else (seen ||| (1 <<< p.offset), p :: kept)) (0, [])
    kept.reverse

/-- A place with what a repetition comes to from it, longer ones first. `seen` has the offsets that
were met before; `fuel` bounds the depth. -/
def star (step : Spot → List Spot) : Nat → Option Nat → Spot → Nat → List Spot × Nat
  | 0, _, p, seen => ([p], seen)
  | fuel + 1, most, p, seen =>
    match most with
    | some 0 => ([p], seen)
    | most =>
      let further := (step p).filter fun q => p.offset < q.offset
      let (found, seen) := further.foldl (fun ((found : List Spot), (seen : Nat)) q =>
        if most.isNone && seen.testBit q.offset then (found, seen)
        else
          let (more, seen) := star step fuel (most.map (· - 1)) q
            (if most.isNone then seen ||| (1 <<< q.offset) else seen)
          (found ++ more, seen)) ([], seen)
      (found ++ [p], seen)

/-- The places that an expression leads to from one, the preferred ones first. -/
def step (s : Subject) (byGroups : Bool) : Regex → Spot → List Spot
  | empty, p => [p]
  | one x, p =>
    match s.text[p.offset]? with
    | some c => if x.holds s.folds c then [{ p with offset := p.offset + 1 }] else []
    | none => []
  | place x, p => if s.isPlace p.offset x then [p] else []
  | both a b, p => distinct byGroups ((step s byGroups a p).flatMap (step s byGroups b))
  | either a b, p => distinct byGroups (step s byGroups a p ++ step s byGroups b p)
  | group n a, p =>
    (step s byGroups a p).map fun q => { q with groups := (n, p.offset, q.offset) :: q.groups }
  | reference n, p =>
    match p.groups.lookup n with
    | some (start, finish) =>
      if s.recurs start (finish - start) p.offset then
        [{ p with offset := p.offset + (finish - start) }]
      else []
    | none => []
  | repeated (one x) least most, p =>
    let count := s.run x (most.getD (s.text.size + 1)) p.offset
    if count < least then []
    else (List.range (count - least + 1)).map fun i => { p with offset := p.offset + (count - i) }
  | repeated a least most, p =>
    let required := (List.range least).foldl (fun spots _ =>
      distinct byGroups (spots.flatMap (step s byGroups a))) [p]
    let most := most.map (· - least)
    distinct byGroups (required.flatMap fun q =>
      (star (step s byGroups a) (s.text.size + 2) most q 0).1)

def matchAt (r : Regex) (s : Subject) (offset : Nat) : Option Spot :=
  (step s r.refers r { offset }).foldl (fun best p =>
    match best with
    | some b => if b.offset < p.offset then some p else some b
    | none => some p) none

/-- A match: where it starts, where it ends, and what the groups have matched. -/
structure Found where
  start : Nat
  finish : Nat
  groups : List (Nat × Nat × Nat)
  deriving Repr

def findFrom (r : Regex) (s : Subject) : Nat → Nat → Option Found
  | 0, _ => none
  | fuel + 1, offset =>
    match r.matchAt s offset with
    | some p => some ⟨offset, p.offset, p.groups⟩
    | none => if offset < s.text.size then findFrom r s fuel (offset + 1) else none

def find (r : Regex) (s : Subject) (offset : Nat) : Option Found :=
  r.findFrom s (s.text.size + 1 - offset) offset

def slice (s : Subject) (start finish : Nat) : Text := (s.text.extract start finish).toList

/-- What a group has matched; nothing if it was not needed. -/
def Found.group (f : Found) (s : Subject) (n : Nat) : Text :=
  if n = 0 then slice s f.start f.finish
  else
    match f.groups.lookup n with
    | some (start, finish) => slice s start finish
    | none => []

end Regex

end HalBench.Shell
