import HalBench.Shell.Numeral
import HalBench.Shell.Utility.Basic
import HalBench.Shell.Utility.Version
/-!
# Utilities for sorted lines

Programs that put lines in an order, that look at neighbours that are alike, and that compare texts
whose lines are sorted.
-/

namespace HalBench.Shell.Utility

namespace Sorting

/-- How keys are compared: by the letters that ask for it, and from the first character on that is
no blank, at the start of the key or before its end is counted off. -/
structure Way where
  letters : List Char := []
  skipsBlanks : Bool := false
  skipsBlanksAtEnd : Bool := false
  deriving DecidableEq, Repr

def Way.has (w : Way) (c : Char) : Bool := w.letters.contains c

/-- Where a key starts and ends: fields and characters are counted from nought; an end without a
character is that of its field. -/
structure Key where
  startField : Nat := 0
  startChar : Nat := 0
  finish : Option (Nat × Nat) := none
  way : Way := {}
  deriving Repr

def isBlank (c : Char) : Bool := c == ' ' || c == '\t' || c == '\n'

/-- A text without its first field; blanks before it belong to it, unless a mark separates. -/
def dropField (mark : Option Char) (text : Text) : Text :=
  match mark with
  | none => (text.dropWhile isBlank).dropWhile fun c => !isBlank c
  | some m => text.dropWhile (· != m)

def fromField (mark : Option Char) : Nat → Text → Text
  | 0, text => text
  | n + 1, text =>
    let rest := dropField mark text
    fromField mark n (if mark.isSome then rest.drop 1 else rest)

/-- The text behind a number of fields; the mark before the next one is dropped if asked for. -/
def behindFields (mark : Option Char) (keepsGoing : Bool) : Nat → Text → Text
  | 0, text => text
  | n + 1, text =>
    let rest := dropField mark text
    behindFields mark keepsGoing n
      (if mark.isSome && (n != 0 || keepsGoing) then rest.drop 1 else rest)

def Key.part (k : Key) (mark : Option Char) (line : Text) : Text :=
  let front := fromField mark k.startField line
  let front := if k.way.skipsBlanks then front.dropWhile isBlank else front
  let front := front.drop k.startChar
  match k.finish with
  | none => front
  | some (field, char) =>
    let behind := if char = 0 then behindFields mark false (field + 1) line
      else
        let rest := behindFields mark true field line
        let rest := if k.way.skipsBlanksAtEnd then rest.dropWhile isBlank else rest
        rest.drop char
    front.take (front.length - behind.length)

/-- A number in decimal at the front of a text: whether it is negative, its digits, and how many of
them are behind the point. -/
def decimal (text : Text) : Bool × Text × Nat :=
  let text := text.dropWhile isBlank
  let (negative, text) : Bool × Text := match text with
    | '-' :: r => (true, r)
    | r => (false, r)
  let whole := text.takeWhile Char.isDigit
  let after := match text.drop whole.length with
    | '.' :: r => r.takeWhile Char.isDigit
    | _ => []
  (negative, whole ++ after, after.length)

/-- The unit of a number: larger for larger units, and turned around for negative numbers. -/
def unitOf (text : Text) : Int :=
  let (negative, digits, _) := decimal text
  if digits.all (· == '0') then 0
  else
    let rest := text.dropWhile isBlank
    let rest := if negative then rest.drop 1 else rest
    let rest := rest.dropWhile fun c => c.isDigit || c == '.'
    let c := rest.headD ' '
    let n : Int := match ['K', 'M', 'G', 'T', 'P', 'E', 'Z', 'Y', 'R', 'Q'].idxOf? c with
      | some i => i + 1
      | none => if c == 'k' then 1 else 0
    if negative then -n else n

inductive Weight where
  | text (s : Text)
  | number (unit : Int) (n : Int) (places : Nat)
  | real (rank : Nat) (num : Int) (den : Nat)
  | rank (n : Nat)
  | version (s : Text)
  deriving Repr

def months : List String :=
  ["JAN", "FEB", "MAR", "APR", "MAY", "JUN", "JUL", "AUG", "SEP", "OCT", "NOV", "DEC"]

def weightOf (w : Way) (part : Text) : Weight :=
  let kept := part.filter fun c =>
    (!w.has 'd' || c == ' ' || c == '\t' || c.isAlphanum) && (!w.has 'i' || (' ' ≤ c && c ≤ '~'))
  let part := if w.has 'f' then kept.map Char.toUpper else kept
  let numberWith (unit : Int) : Weight :=
    let (negative, digits, places) := decimal part
    .number unit (if negative then -(natOf digits : Int) else natOf digits) places
  if w.has 'n' then numberWith 0
  else if w.has 'g' then
    match Numeral.real? .extended part with
    | none => .real 0 0 1
    | some ⟨.nan, _, _⟩ => .real 1 0 1
    | some ⟨.infinite true, _, _⟩ => .real 2 0 1
    | some ⟨.infinite false, _, _⟩ => .real 4 0 1
    | some ⟨.finite negative m e, _, _⟩ =>
      let (num, den) := Binary.ratio m e
      .real 3 (if negative then -(num : Int) else num) den
  else if w.has 'h' then numberWith (unitOf part)
  else if w.has 'M' then
    let name := ((part.dropWhile isBlank).take 3).map Char.toUpper
    .rank ((months.idxOf? (String.ofList name)).elim 0 (· + 1))
  else if w.has 'V' then .version part
  else .text part

def compareTexts (a b : Text) : Ordering :=
  if a == b then .eq else if textLe a b then .lt else .gt

def Weight.compare : Weight → Weight → Ordering
  | .text a, .text b => compareTexts a b
  | .number u a p, .number v b q =>
    (Ord.compare u v).then (Ord.compare (a * (tenTo q : Int)) (b * (tenTo p : Int)))
  | .real r a p, .real s b q =>
    (Ord.compare r s).then (Ord.compare (a * (q : Int)) (b * (p : Int)))
  | .rank a, .rank b => Ord.compare a b
  | .version a, .version b => Version.order a b
  | _, _ => .eq

structure Plan where
  keys : List Key
  mark : Option Char := none
  unique : Bool := false
  stable : Bool := false
  reversed : Bool := false

abbrev Entry := Text × List Weight

def Plan.entry (p : Plan) (line : Text) : Entry :=
  (line, p.keys.map fun k => weightOf k.way (k.part p.mark line))

def compareKeys : List Key → List Weight → List Weight → Ordering
  | k :: ks, a :: as, b :: bs =>
    let o := a.compare b
    (if k.way.has 'r' then o.swap else o).then (compareKeys ks as bs)
  | _, _, _ => .eq

def Plan.compare (p : Plan) (a b : Entry) : Ordering :=
  let byKeys := compareKeys p.keys a.2 b.2
  if p.unique || p.stable then byKeys
  else
    let whole := compareTexts a.1 b.1
    byKeys.then (if p.reversed then whole.swap else whole)

def Plan.firsts (p : Plan) : List Entry → List Entry
  | [] => []
  | e :: es => e :: go e es
where
  /-- Goes on behind a line that was kept. -/
  go (last : Entry) : List Entry → List Entry
    | [] => []
    | e :: es => if compareKeys p.keys last.2 e.2 == .eq then go last es else e :: go e es

def Plan.sort (p : Plan) (lines : List Text) : List Text :=
  let sorted := (lines.map p.entry).mergeSort fun a b => p.compare a b != .gt
  ((if p.unique then p.firsts sorted else sorted).map (·.1))

def Plan.disorder? (p : Plan) (lines : List Text) : Option (Nat × Text) :=
  go 2 (lines.map p.entry)
where
  /-- Goes on with the line of a number. -/
  go (n : Nat) : List Entry → Option (Nat × Text)
    | a :: b :: rest =>
      let o := p.compare a b
      if o == .gt || (p.unique && o == .eq) then some (n, b.1) else go (n + 1) (b :: rest)
    | _ => none

def wayLetters : List Char := ['d', 'f', 'g', 'h', 'i', 'M', 'n', 'R', 'r', 'V']

def badKey (reason : String) (spec : Text) : Text :=
  ofString (reason ++ ": invalid field specification ") ++ quote spec

def countIn (reason : String) (text : Text) : Except Text (Nat × Text) :=
  let digits := text.takeWhile Char.isDigit
  if digits.isEmpty then
    .error (ofString (reason ++ ": invalid count at start of ") ++ quote text)
  else .ok (natOf digits, text.drop digits.length)

def lettersOf (atEnd : Bool) (k : Key) : Text → Key × Text
  | [] => (k, [])
  | c :: r =>
    if c == 'b' then
      lettersOf atEnd { k with way :=
        if atEnd then { k.way with skipsBlanksAtEnd := true }
        else { k.way with skipsBlanks := true } } r
    else if wayLetters.contains c then
      lettersOf atEnd { k with way := { k.way with letters := c :: k.way.letters } } r
    else (k, c :: r)

def keyOf (spec : Text) : Except Text Key := do
  let (field, rest) ← countIn "invalid number at field start" spec
  if field = 0 then throw (badKey "field number is zero" spec)
  let (char, rest) ← match rest with
    | '.' :: r => do
      let (n, rest) ← countIn "invalid number after '.'" r
      if n = 0 then throw (badKey "character offset is zero" spec)
      pure (n - 1, rest)
    | rest => pure (0, rest)
  let (k, rest) := lettersOf false { startField := field - 1, startChar := char } rest
  match rest with
  | [] => return k
  | ',' :: rest => do
    let (field, rest) ← countIn "invalid number after ','" rest
    if field = 0 then throw (badKey "field number is zero" spec)
    let (char, rest) ← match rest with
      | '.' :: r => countIn "invalid number after '.'" r
      | rest => pure (0, rest)
    let (k, rest) := lettersOf true { k with finish := some (field - 1, char) } rest
    if !rest.isEmpty then throw (badKey "stray character in field spec" spec)
    return k
  | _ => throw (badKey "stray character in field spec" spec)

/-- The letters of a key that ask for what cannot be had together, if there are any. -/
def Way.clash? (w : Way) : Option Text :=
  let numeric := (['g', 'h', 'M', 'n'].filter w.has).length
  let others := if ['V', 'R', 'd', 'i'].any w.has then 1 else 0
  if 1 < numeric + others then
    some (['d', 'f', 'g', 'h', 'i', 'M', 'n', 'R', 'V'].filter w.has)
  else none

def kinds : List (String × Char) :=
  [("general-numeric", 'g'), ("human-numeric", 'h'), ("month", 'M'), ("numeric", 'n'),
    ("random", 'R'), ("version", 'V')]

def namedKinds (o : List Given) : Except Text (List Given) :=
  o.mapM fun g =>
    if g.1 != 'w' then .ok g
    else
      match (kinds.filter fun k => g.2.isPrefixOf k.1.toList) with
      | [k] => .ok (k.2, [])
      | _ => .error g.2

def markOf (o : List Given) : Except Text (Option Char) :=
  match value? o 't' with
  | none => .ok none
  | some [] => .error (ofString "empty tab")
  | some [c] => .ok (some c)
  | some ['\\', '0'] => .ok (some '\x00')
  | some text => .error (ofString "multi-character tab " ++ quote text)

def planOf (o : List Given) : Except Text Plan := do
  let blanks := has o 'b'
  let base : Way :=
    { letters := (o.map (·.1)).filter wayLetters.contains, skipsBlanks := blanks
      skipsBlanksAtEnd := blanks }
  let mark ← markOf o
  let keys ← (o.filter (·.1 == 'k')).mapM fun g => keyOf g.2
  let keys := keys.map fun k => if k.way == {} then { k with way := base } else k
  let keys := if keys.isEmpty then [{ way := base : Key }] else keys
  match keys.findSome? fun k => k.way.clash? with
  | some letters => throw (ofString "options '-" ++ letters ++ ofString "' are incompatible")
  | none =>
    return { keys, mark, unique := has o 'u', stable := has o 's', reversed := base.has 'r' }

def known : Known :=
  { letters := "bcCdfghik:mMno:rRsS:t:T:uVz"
    names := [("ignore-leading-blanks", 'b', .none), ("check", 'c', .possible),
      ("dictionary-order", 'd', .none), ("ignore-case", 'f', .none),
      ("general-numeric-sort", 'g', .none), ("human-numeric-sort", 'h', .none),
      ("ignore-nonprinting", 'i', .none), ("key", 'k', .needed), ("merge", 'm', .none),
      ("month-sort", 'M', .none), ("numeric-sort", 'n', .none), ("output", 'o', .needed),
      ("reverse", 'r', .none), ("random-sort", 'R', .none), ("stable", 's', .none),
      ("buffer-size", 'S', .needed), ("field-separator", 't', .needed),
      ("temporary-directory", 'T', .needed), ("unique", 'u', .none),
      ("version-sort", 'V', .none), ("zero-terminated", 'z', .none),
      ("parallel", 'P', .needed), ("batch-size", 'B', .needed), ("debug", 'D', .none),
      ("random-source", 'Q', .needed), ("sort", 'w', .needed)] }

def linesOf (lineEnd : Char) (text : Text) : List Text :=
  let parts := cutAt lineEnd text
  if parts.getLast? == some [] then parts.dropLast else parts

/-- Tells whether a text is sorted; complains of the first line that is out of order. -/
def check (p : Plan) (quiet : Bool) (lineEnd : Char) (name : Text) : Action Nat := do
  match ← content name with
  | .error .isADirectory =>
    complainOf (ofString "read failed: ") name .isADirectory
    return 2
  | .error fault =>
    complainOf (ofString "open failed: ") name fault
    return 2
  | .ok text =>
    match p.disorder? (linesOf lineEnd text) with
    | none => return 0
    | some (n, line) =>
      if !quiet then
        complain (name ++ ':' :: showNat n ++ ofString ": disorder: " ++ line)
      return 1

/-- The lines of all texts; or else the complaint about one that cannot be read. -/
def collect (lineEnd : Char) (names : List Text) :
    Action (Except (Text × SystemFault) (List Text)) := do
  let s ← get
  let missing (n : Text) : Option (Text × SystemFault) :=
    if n == ['-'] then none
    else
      match s.files.look true (toBytes n) with
      | .ok _ => none
      | .error fault => some (ofString "cannot read: " ++ n, fault)
  match names.findSome? missing with
  | some x => return .error x
  | none =>
    names.foldlM (fun found n => do
      match found with
      | .error x => return .error x
      | .ok before =>
        match ← content n with
        | .ok text => return .ok (before ++ linesOf lineEnd text)
        | .error fault => return .error (ofString "read failed: " ++ n, fault)) (.ok [])

end Sorting

open Sorting in
def sort : Utility := fun words =>
  withOptions known 2 words fun o names => do
    let lineEnd := if has o 'z' then '\x00' else '\n'
    let quiet := has o 'C'
      || (value? o 'c').any fun v => v == ofString "silent" || v == ofString "quiet"
    match namedKinds o with
    | .error word =>
      complain (ofString "invalid argument " ++ quote word ++ ofString " for '--sort'")
      Action.complain (ofString "Valid arguments are:")
      kinds.forM fun k => Action.complain (ofString "  - " ++ quote k.1.toList)
      pointToHelp
      return 2
    | .ok o =>
    match planOf o, has o 'c' || quiet, names with
    | .error text, _, _ => refuse 2 text
    | .ok _, true, _ :: second :: _ =>
      refuse 2 (ofString "extra operand " ++ quote second
        ++ ofString (" not allowed with -" ++ (if quiet then "C" else "c")))
    | .ok p, true, names => check p quiet lineEnd (names.headD ['-'])
    | .ok p, false, names =>
      match ← collect lineEnd (if names.isEmpty then [['-']] else names) with
      | .error (text, fault) => refuse 2 (text ++ ofString (": " ++ fault.description))
      | .ok lines =>
        let text := (p.sort lines).flatMap (· ++ [lineEnd])
        match value? o 'o' with
        | none =>
          Action.print text
          return 0
        | some name =>
          match Opening.toWrite (← get) name false false false with
          | .error fault =>
            refuse 2 (ofString "open failed: " ++ name ++ ofString (": " ++ fault.description))
          | .ok (n, s) =>
            set (s.writeChannel n text).1
            return 0

namespace Neighbours

/-- What of a line counts: fields and characters that are left out, how many characters count, and
whether the case does. -/
structure Span where
  fields : Nat := 0
  chars : Nat := 0
  most : Option Nat := none
  folds : Bool := false

def Span.part (k : Span) (line : Text) : Text :=
  let rest := ((List.range k.fields).foldl (fun r _ => Sorting.dropField none r) line).drop k.chars
  let rest := match k.most with
    | some n => rest.take n
    | none => rest
  if k.folds then rest.map Char.toLower else rest

def runs (k : Span) : List Text → List (List Text)
  | [] => []
  | l :: ls =>
    match runs k ls with
    | (m :: more) :: rest =>
      if k.part l == k.part m then (l :: m :: more) :: rest else [l] :: (m :: more) :: rest
    | rest => [l] :: rest

def known : Known :=
  { letters := "0123456789cdDf:is:uw:z"
    names := [("count", 'c', .none), ("repeated", 'd', .none), ("all-repeated", 'D', .possible),
      ("skip-fields", 'f', .needed), ("group", 'g', .possible), ("ignore-case", 'i', .none),
      ("skip-chars", 's', .needed), ("unique", 'u', .none), ("zero-terminated", 'z', .none),
      ("check-chars", 'w', .needed)] }

def spanOf (o : List Given) : Except Text Span := do
  let number (c : Char) (what : String) : Except Text (Option Nat) :=
    match value? o c with
    | none => .ok none
    | some text =>
      match natural? text with
      | some n => .ok (some n)
      | none => .error (text ++ ofString (": invalid number of " ++ what))
  let digits := (o.map (·.1)).filter Char.isDigit
  return { fields := (← number 'f' "fields to skip").getD (natOf digits)
           chars := (← number 's' "bytes to skip").getD 0
           most := ← number 'w' "bytes to compare", folds := has o 'i' }

def methodOf (o : List Given) (c : Char) (usual : String) (words : List String) :
    Except Text (Option String) :=
  match value? o c with
  | none => .ok none
  | some [] => .ok (some usual)
  | some text =>
    match words.filter fun w => text.isPrefixOf w.toList with
    | [w] => .ok (some w)
    | _ => .error text

def badMethod (option : String) (words : List String) (text : Text) : Action Nat := do
  complain (ofString "invalid argument " ++ quote text ++ ofString (" for '--" ++ option ++ "'"))
  Action.complain (ofString "Valid arguments are:")
  words.forM fun w => Action.complain (ofString "  - " ++ quote w.toList)
  pointToHelp
  return 1

/-- Groups of lines, with empty lines between them, before each or after each. -/
def separated (lineEnd : Char) (method : String) (groups : List (List Text)) : Text :=
  let text (g : List Text) : Text := g.flatMap (· ++ [lineEnd])
  let between := joinWith [lineEnd] (groups.map text)
  if groups.isEmpty then []
  else
    (if method == "prepend" || method == "both" then [lineEnd] else []) ++ between
      ++ (if method == "append" || method == "both" then [lineEnd] else [])

def shown (o : List Given) (lineEnd : Char) (all : Option String) (groups : List (List Text)) :
    Text :=
  match all with
  | some method => separated lineEnd method (groups.filter fun g => 1 < g.length)
  | none =>
    let wanted := groups.filter fun g =>
      (!has o 'd' || 1 < g.length) && (!has o 'u' || g.length = 1)
    wanted.flatMap fun g =>
      (if has o 'c' then padLeft 7 (showNat g.length) ++ [' '] else []) ++ g.headD [] ++ [lineEnd]

def repeatedMethods : List String := ["none", "prepend", "separate"]

def groupMethods : List String := ["prepend", "append", "separate", "both"]

end Neighbours

open Neighbours in
def uniq : Utility := fun words =>
  withOptions known 1 (words.map fun w => match w with
    | '+' :: d :: ds => if (d :: ds).all Char.isDigit then '-' :: 's' :: d :: ds else w
    | w => w) fun o names => do
    match spanOf o, methodOf o 'g' "separate" groupMethods, methodOf o 'D' "none" repeatedMethods,
      names with
    | .error text, _, _, _ => refuse 1 text
    | _, .error text, _, _ => badMethod "group" groupMethods text
    | _, _, .error text, _ => badMethod "all-repeated" repeatedMethods text
    | _, _, _, _ :: _ :: third :: _ => extraOperand third 1
    | .ok k, .ok grouped, .ok all, names =>
      let single := ['c', 'd', 'D', 'u'].any (has o)
      if grouped.isSome && single then
        misused (ofString "--group is mutually exclusive with -c/-d/-D/-u") 1
      else if all.isSome && has o 'c' then
        misused (ofString "printing all duplicated lines and repeat counts is meaningless") 1
      else
        let name := names.headD ['-']
        let lineEnd := if has o 'z' then '\x00' else '\n'
        match ← content name with
        | .error .isADirectory =>
          complainOf (ofString "error reading ") (quote name) .isADirectory
          return 1
        | .error fault =>
          complainOf [] (Utility.shown name) fault
          return 1
        | .ok text =>
          let groups := runs k (Sorting.linesOf lineEnd text)
          let result := match grouped with
            | some method => separated lineEnd method groups
            | none => Neighbours.shown o lineEnd all groups
          match names with
          | _ :: target :: _ =>
            if target == ['-'] then
              Action.print result
              return 0
            else
            match Opening.toWrite (← get) target false false false with
            | .error fault =>
              complainOf [] (Utility.shown target) fault
              return 1
            | .ok (n, s) =>
              set (s.writeChannel n result).1
              return 0
          | _ =>
            Action.print result
            return 0

namespace Comparison

/-- What was found of two sorted texts, the latest line first; how many lines are in the first one
only, in the second only and in both; and which of the texts are out of order. -/
structure Result where
  shown : List Text := []
  counts : Nat × Nat × Nat := (0, 0, 0)
  first : Bool := false
  second : Bool := false

structure Columns where
  first : Bool
  second : Bool
  both : Bool
  mark : Text
  lineEnd : Char
  checks : Option Bool

def isBefore (k : Columns) (unpaired : Bool) (last : Text) (rest : List Text) : Bool :=
  let checks := match k.checks with
    | some b => b
    | none => unpaired
  checks && match rest with
    | l :: _ => !textLe last l
    | [] => false

def compare (k : Columns) : Nat → Bool → List Text → List Text → Result → Result
  | 0, _, _, _, r => r
  | fuel + 1, unpaired, as, bs, r =>
    let (x, y, z) := r.counts
    let onlyFirst (a : Text) (as : List Text) : Result :=
      { r with
        shown := if k.first then (a ++ [k.lineEnd]) :: r.shown else r.shown
        counts := (x + 1, y, z), first := r.first || isBefore k true a as }
    let onlySecond (b : Text) (bs : List Text) : Result :=
      let lead := if k.first then k.mark else []
      { r with
        shown := if k.second then (lead ++ b ++ [k.lineEnd]) :: r.shown else r.shown
        counts := (x, y + 1, z), second := r.second || isBefore k true b bs }
    match as, bs with
    | [], [] => r
    | a :: as, [] => compare k fuel true as [] (onlyFirst a as)
    | [], b :: bs => compare k fuel true [] bs (onlySecond b bs)
    | a :: as, b :: bs =>
      if a == b then
        let lead := (if k.first then k.mark else []) ++ (if k.second then k.mark else [])
        compare k fuel unpaired as bs
          { r with
            shown := if k.both then (lead ++ a ++ [k.lineEnd]) :: r.shown else r.shown
            counts := (x, y, z + 1)
            first := r.first || isBefore k unpaired a as
            second := r.second || isBefore k unpaired b bs }
      else if textLe a b then compare k fuel true as (b :: bs) (onlyFirst a as)
      else compare k fuel true (a :: as) bs (onlySecond b bs)

def known : Known :=
  { letters := "123z"
    names := [("check-order", 'k', .none), ("nocheck-order", 'K', .none),
      ("output-delimiter", 'o', .needed), ("total", 't', .none), ("zero-terminated", 'z', .none)] }

end Comparison

open Comparison in
def comm : Utility := fun words =>
  withOptions known 1 words fun o names => do
    match names with
    | [] => missingOperand 1
    | [name] => misused (ofString "missing operand after " ++ quote name) 1
    | _ :: _ :: third :: _ => extraOperand third 1
    | [a, b] =>
      let lineEnd := if has o 'z' then '\x00' else '\n'
      match ← content a, ← content b with
      | .error fault, _ =>
        complainOf [] (Utility.shown a) fault
        return 1
      | _, .error fault =>
        complainOf [] (Utility.shown b) fault
        return 1
      | .ok x, .ok y =>
        let k : Columns :=
          { first := !has o '1', second := !has o '2', both := !has o '3', lineEnd
            mark := (value? o 'o').getD ['\t']
            checks := if has o 'k' then some true else if has o 'K' then some false else none }
        let xs := Sorting.linesOf lineEnd x
        let ys := Sorting.linesOf lineEnd y
        let r := Comparison.compare k (xs.length + ys.length + 1) false xs ys {}
        Action.print r.shown.reverse.flatten
        if has o 't' then
          let (p, q, n) := r.counts
          Action.print (joinWith k.mark [showNat p, showNat q, showNat n, ofString "total"]
            ++ [lineEnd])
        if r.first then complain (ofString "file 1 is not in sorted order")
        if r.second then complain (ofString "file 2 is not in sorted order")
        if (r.first || r.second) && k.checks != some true then
          complain (ofString "input is not in sorted order")
        return if r.first || r.second then 1 else 0

end HalBench.Shell.Utility
