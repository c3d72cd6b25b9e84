import HalBench.Shell.Pattern
import HalBench.Shell.Utility.Basic
/-!
# Exchange of letters

A program that replaces, deletes and squeezes letters, which are named by lists with ranges, classes
and repetitions.
-/

namespace HalBench.Shell.Utility

namespace Letters

/-- An item of a list of letters. A repetition without a number fills what is left. -/
inductive Item where
  | letter (c : Char)
  | range (low high : Char)
  | ofClass (name : String)
  | alike (c : Char)
  | repeated (c : Char) (times : Nat)
  deriving DecidableEq, Repr

/-- The character that an octal number stands for, which starts with two digits, and what follows. A
third digit that would make it too large is left, which is worth a warning. -/
def octal (c : Char) (r : Text) : Char × Text × Option Text :=
  let value (ds : Text) : Nat := (digitsIn 8 ds).1
  match (r.take 2).takeWhile fun d => digitValue d < 8 with
  | [d, e] =>
    if value [c, d, e] < 256 then (Char.ofNat (value [c, d, e]), r.drop 2, none)
    else
      (Char.ofNat (value [c, d]), r.drop 1,
        some (ofString "warning: the ambiguous octal escape \\" ++ [c, d, e]
          ++ ofString " is being\n\tinterpreted as the 2-byte sequence \\0" ++ [c, d]
          ++ ofString ", " ++ [e]))
  | ds => (Char.ofNat (value (c :: ds)), r.drop ds.length, none)

/-- The character that a backslash before another one stands for, and what follows. -/
def escaped (c : Char) (r : Text) : Char × Text × Option Text :=
  match c with
  | 'a' => ('\x07', r, none)
  | 'b' => ('\x08', r, none)
  | 'f' => ('\x0c', r, none)
  | 'n' => ('\n', r, none)
  | 'r' => ('\r', r, none)
  | 't' => ('\t', r, none)
  | 'v' => ('\x0b', r, none)
  | c => if digitValue c < 8 then octal c r else (c, r, none)

/-- Characters with their escapes resolved, each with whether it was escaped; and the warnings about
them. `fuel` bounds their number. -/
def unescape : Nat → Text → List (Char × Bool) × List Text
  | 0, _ => ([], [])
  | _ + 1, [] => ([], [])
  | _ + 1, ['\\'] =>
    ([('\\', false)],
      [ofString "warning: an unescaped backslash at end of string is not portable"])
  | fuel + 1, '\\' :: c :: r =>
    let (d, rest, warning) := escaped c r
    let (more, warnings) := unescape fuel rest
    ((d, true) :: more, warning.toList ++ warnings)
  | fuel + 1, c :: r =>
    let (more, warnings) := unescape fuel r
    ((c, false) :: more, warnings)

/-- What stands between the mark after an opening bracket and the same mark before the closing one,
and what follows. -/
def enclosed? (mark : Char) :
    List (Char × Bool) → Option (List (Char × Bool) × List (Char × Bool))
  | (c, false) :: (d, false) :: r =>
    if c == mark && d == ']' then some ([], r)
    else (enclosed? mark ((d, false) :: r)).map fun (inside, rest) => ((c, false) :: inside, rest)
  | x :: r => (enclosed? mark r).map fun (inside, rest) => (x :: inside, rest)
  | [] => none

def shownChar (c : Char) : Text := if ' ' ≤ c && c ≤ '~' && c != '\\' then [c]
  else if c == '\\' then ['\\', '\\'] else escapeOf c

/-- A repetition after its bracket, if there is one, and what follows. -/
def repetition? (r : List (Char × Bool)) :
    Except Text (Option (Item × List (Char × Bool))) :=
  match r with
  | (c, _) :: ('*', false) :: rest =>
    let inside := rest.takeWhile fun x => !x.2 && x.1 != ']'
    match rest.drop inside.length with
    | (']', false) :: after =>
      let digits := inside.map (·.1)
      let base := if digits.head? == some '0' then 8 else 10
      if digits.isEmpty then .ok (some (.repeated c 0, after))
      else if digits.all fun d => digitValue d < base then
        .ok (some (.repeated c (digitsIn base digits).1, after))
      else .error (ofString "invalid repeat count " ++ quote digits
        ++ ofString " in [c*n] construct")
    | _ => .ok none
  | _ => .ok none

def items : Nat → List (Char × Bool) → Except Text (List Item)
  | 0, _ => .ok []
  | fuel + 1, s =>
    match s with
    | ('[', false) :: (mark, false) :: z :: r =>
      let others (s : List (Char × Bool)) : Except Text (List Item) := do
        match ← repetition? (s.drop 1) with
        | some (item, rest) => return item :: (← items fuel rest)
        | none => usual fuel s
      match if mark == ':' || mark == '=' then enclosed? mark (z :: r) else none with
      | some (inside, rest) =>
        let name := inside.map (·.1)
        let isRepetition := match repetition? s.tail with
          | .ok (some _) => true
          | _ => false
        if mark == ':' then
          if name.isEmpty then .error (ofString "missing character class name '[::]'")
          else if (inClass? (String.ofList name) 'a').isSome then
            (items fuel rest).map (.ofClass (String.ofList name) :: ·)
          else if isRepetition then others s
          else .error (ofString "invalid character class " ++ quote name)
        else
          match name with
          | [] => .error (ofString "missing equivalence class character '[==]'")
          | [c] => (items fuel rest).map (.alike c :: ·)
          | name =>
            if isRepetition then others s
            else .error (name
              ++ ofString ": equivalence class operand must be a single character")
      | none => others s
    | ('[', false) :: x :: z :: r => do
      match ← repetition? (x :: z :: r) with
      | some (item, rest) => return item :: (← items fuel rest)
      | none => usual fuel s
    | s => usual fuel s
where
  /-- A range or a letter, and the items that follow. -/
  usual (fuel : Nat) : List (Char × Bool) → Except Text (List Item)
    | (a, _) :: ('-', false) :: (b, _) :: rest =>
      if b < a then
        .error (ofString "range-endpoints of '" ++ shownChar a ++ '-' :: shownChar b
          ++ ofString "' are in reverse collating sequence order")
      else (items fuel rest).map (.range a b :: ·)
    | (c, _) :: rest => (items fuel rest).map (.letter c :: ·)
    | [] => .ok []

def allBytes : Text := (List.range 256).map Char.ofNat

def classLetters (name : String) : Text := allBytes.filter fun c => (inClass? name c).getD false

inductive Unit where
  | letter (c : Char)
  | cased (isUpper : Bool)
  deriving DecidableEq, Repr

/-- What items stand for; a repetition that fills what is left has `fill` letters. -/
def unitsOf (fill : Nat) (is : List Item) : List Unit :=
  is.flatMap fun i =>
    match i with
    | .letter c => [.letter c]
    | .range a b =>
      (List.range (b.toNat + 1 - a.toNat)).map fun n => .letter (Char.ofNat (a.toNat + n))
    | .ofClass "upper" => [.cased true]
    | .ofClass "lower" => [.cased false]
    | .ofClass name => (classLetters name).map .letter
    | .alike c => [.letter c]
    | .repeated c n => List.replicate (if n = 0 then fill else n) (.letter c)

def casedLetters (isUpper : Bool) : Text := classLetters (if isUpper then "upper" else "lower")

def lettersOf (us : List Unit) : Text :=
  us.flatMap fun u =>
    match u with
    | .letter c => [c]
    | .cased b => casedLetters b

def fills (is : List Item) : Bool :=
  is.any fun i => match i with
    | .repeated _ 0 => true
    | _ => false

def misaligned : Text := ofString "misaligned [:upper:] and/or [:lower:] construct"

/-- Pairs of letters and those that take their places; a class of one case has one in its place.
`last` is repeated when there are no more; `fuel` bounds the steps. -/
def pairs : Nat → Option Char → List Unit → List Unit → Except Text (List (Char × Char))
  | 0, _, _, _ => .ok []
  | _ + 1, _, [], _ => .ok []
  | fuel + 1, _, .cased a :: as, .cased b :: bs => do
    let more ← pairs fuel none as bs
    return (if a == b then [] else (casedLetters a).zip (casedLetters b)) ++ more
  | _ + 1, _, .letter _ :: _, .cased _ :: _ => .error misaligned
  | fuel + 1, last, .cased a :: as, bs =>
    pairs fuel last ((casedLetters a).map .letter ++ as) bs
  | fuel + 1, _, .letter a :: as, .letter b :: bs => do
    return (a, b) :: (← pairs fuel (some b) as bs)
  | fuel + 1, some b, .letter a :: as, [] => do
    return (a, b) :: (← pairs fuel (some b) as [])
  | _ + 1, none, .letter _ :: _, [] =>
    .error (ofString ("when translating with string1 longer than string2,\n"
      ++ "the latter string must not end with a character class"))

structure Plan where
  table : Array Char
  deleted : Text := []
  squeezed : Text := []

def tableOf (changes : List (Char × Char)) : Array Char :=
  changes.foldl (fun t (a, b) => t.setIfInBounds a.toNat b) allBytes.toArray

structure Manner where
  complements : Bool
  deletes : Bool
  squeezes : Bool
  truncates : Bool

def exchange (m : Manner) (first second : List Item) : Except Text (List (Char × Char)) := do
  let chosen := lettersOf (unitsOf 0 first)
  let domain : List Unit :=
    if m.complements then (allBytes.filter fun c => !chosen.contains c).map .letter
    else unitsOf 0 first
  let length := (lettersOf domain).length
  let fill := length - (lettersOf (unitsOf 0 second)).length
  let values := unitsOf fill second
  let values := if m.complements then (lettersOf values).map .letter else values
  let isEquiv (i : Item) : Bool := match i with
    | .alike _ => true
    | _ => false
  let isOtherClass (i : Item) : Bool := match i with
    | .ofClass name => name != "upper" && name != "lower"
    | _ => false
  let isClass (i : Item) : Bool := match i with
    | .ofClass _ => true
    | _ => false
  if second.any isEquiv then
    throw (ofString "[=c=] expressions may not appear in string2 when translating")
  if second.any isOtherClass then
    throw (ofString ("when translating, the only character classes that may appear in\n"
      ++ "string2 are 'upper' and 'lower'"))
  let domain := if m.truncates then
      if second.any isClass then domain
      else (((lettersOf domain).take (lettersOf values).length).map .letter)
    else domain
  if values.isEmpty && !domain.isEmpty then
    throw (ofString "when not truncating set1, string2 must be non-empty")
  let found ← pairs (length + domain.length + 2) none domain values
  let alike := match lettersOf values with
    | v :: vs => vs.all (· == v)
    | [] => true
  if m.complements && first.any isClass && !alike then
    throw (ofString ("when translating with complemented character classes,\n"
      ++ "string2 must map all characters in the domain to one"))
  return found

def planOf (m : Manner) (first : List Item) (second : Option (List Item)) : Except Text Plan := do
  if fills first then throw (ofString "the [c*] repeat construct may not appear in string1")
  let isFill (i : Item) : Bool := match i with
    | .repeated _ 0 => true
    | _ => false
  if 1 < ((second.getD []).filter isFill).length then
    throw (ofString "only one [c*] repeat construct may appear in string2")
  let letters := lettersOf (unitsOf 0 first)
  let chosen := if m.complements then allBytes.filter fun c => !letters.contains c else letters
  let none' : Array Char := tableOf []
  match second, m.deletes with
  | none, true => return { table := none', deleted := chosen }
  | none, false => return { table := none', squeezed := chosen }
  | some second, true =>
    if fills second then
      throw (ofString "the [c*] construct may appear in string2 only when translating")
    return { table := none', deleted := chosen, squeezed := lettersOf (unitsOf 0 second) }
  | some second, false => do
    let changes ← exchange m first second
    let fill := chosen.length - (lettersOf (unitsOf 0 second)).length
    return { table := tableOf changes
             squeezed := if m.squeezes then lettersOf (unitsOf fill second) else [] }

def Plan.apply (p : Plan) (text : Text) : Text :=
  let isIn (cs : Text) : Array Bool :=
    cs.foldl (fun a c => a.setIfInBounds c.toNat true) (Array.replicate 256 false)
  let deleted := isIn p.deleted
  let squeezed := isIn p.squeezed
  let (_, found) := text.foldl (fun ((last : Option Char), (found : Text)) c =>
    if deleted.getD c.toNat false then (last, found)
    else
      let d := p.table.getD c.toNat c
      if squeezed.getD d.toNat false && last == some d then (last, found)
      else (some d, d :: found)) (none, [])
  found.reverse

end Letters

open Letters in
def tr : Utility := fun words =>
  withOptions
    { letters := "AcCdst", ordered := true
      names := [("complement", 'c', .none), ("delete", 'd', .none),
        ("squeeze-repeats", 's', .none), ("truncate-set1", 't', .none)] } 1 words
    fun o sets => do
      let m : Manner :=
        { complements := has o 'c' || has o 'C', deletes := has o 'd', squeezes := has o 's'
          truncates := has o 't' }
      let least := if m.deletes == m.squeezes then 2 else 1
      let most := if m.deletes && !m.squeezes then 1 else 2
      match sets with
      | [] => missingOperand 1
      | first :: others =>
        if sets.length < least then
          complain (ofString "missing operand after " ++ quote first)
          Action.complain (ofString (if m.squeezes then
            "Two strings must be given when both deleting and squeezing repeats."
            else "Two strings must be given when translating."))
          pointToHelp
          return 1
        else if most < sets.length then
          complain (ofString "extra operand " ++ quote ((sets.drop most).headD []))
          if sets.length = 2 then
            Action.complain (ofString
              "Only one string may be given when deleting without squeezing repeats.")
          pointToHelp
          return 1
        else
          let read (set : Text) : Action (Except Text (List Item)) := do
            let (cs, warnings) := unescape (set.length + 1) set
            warnings.forM complain
            return items (cs.length + 1) cs
          match ← read first with
          | .error text => refuse 1 text
          | .ok a =>
            let second ← match others with
              | [] => pure (.ok none)
              | b :: _ => do pure ((← read b).map some)
            match second.bind (planOf m a) with
            | .error text => refuse 1 text
            | .ok p =>
              match ← content ['-'] with
              | .error fault =>
                complainOf [] (ofString "read error") fault
                return 1
              | .ok text =>
                Action.print (p.apply text)
                return 0

end HalBench.Shell.Utility
