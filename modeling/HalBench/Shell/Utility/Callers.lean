import HalBench.Shell.Utility.Plain
/-!
# Utilities that call programs

Programs that start others: with other variables, with words that are read, for some time only, or
under other conditions.
-/

namespace HalBench.Shell.Utility

/-- How a program starts another one: in its place, or in a process of its own, of which the status
and the signal that ended it are known then. -/
structure Caller where
  replace : List Text → Action (Except SystemFault Nat)
  run : List Text → Action (Except SystemFault (Nat × Option Nat))

def notStarted (fault : SystemFault) : Nat := if fault = .noSuchFile then 127 else 126

/-- Starts another program in the place of this one, or complains that it cannot. -/
def become (c : Caller) (lead : String) (words : List Text) : Action Nat := do
  match ← c.replace words with
  | .ok status => return status
  | .error fault =>
    complainOf (ofString lead) (quote (words.headD [])) fault
    return notStarted fault

def assignment? (word : Text) : Option (String × Text) :=
  if word.contains '=' then
    let name := word.takeWhile (· != '=')
    some (String.ofList name, word.drop (name.length + 1))
  else none

def handOn (name : String) (value : Text) : Action Unit :=
  modify fun s => s.bind name (some { value := some value, isExported := true })

def splitWords (text : Text) : List Text :=
  (cutAt ' ' (text.map fun c => if isSpace c then ' ' else c)).filter (!·.isEmpty)

/-- Starts a program with other variables, or prints those that it would get. -/
def env (c : Caller) : Utility := fun words =>
  withOptions
    { letters := "+iu:0vC:S:", ordered := true
      names := [("ignore-environment", 'i', .none), ("unset", 'u', .needed), ("null", '0', .none),
        ("chdir", 'C', .needed), ("split-string", 'S', .needed)] } 125 words
    fun o operands => do
      let operands := ((o.filter (·.1 == 'S')).flatMap fun g => splitWords g.2) ++ operands
      let (bare, operands) := match operands with
        | ['-'] :: rest => (true, rest)
        | rest => (false, rest)
      let settings := operands.takeWhile fun w => (assignment? w).isSome
      let words := operands.drop settings.length
      let kept ← if has o 'i' || bare then do
          modify fun s => { s with bindings := s.bindings.filter fun b => !b.2.isExported }
          pure []
        else do
          (o.filter (·.1 == 'u')).forM fun g => modify fun s => s.bind (String.ofList g.2) none
          pure (handedOn (← get))
      let given := settings.filterMap assignment?
      given.forM fun (n, v) => handOn n v
      let moved ← match value? o 'C' with
        | none => pure true
        | some dir =>
          let s ← get
          match s.files.locate true (toBytes dir) with
          | .ok (.present names .directory) =>
            set { s with files := { s.files with current := names } }
            pure true
          | other =>
            let fault := match other with
              | .error fault => fault
              | .ok (.absent ..) => .noSuchFile
              | .ok _ => .notADirectory
            complainOf (ofString "cannot change directory to ") (quote dir) fault
            pure false
      if !moved then return 125
      match words with
      | [] =>
        let changed := kept.map fun (n, v) => (n, (given.reverse.lookup n).getD v)
        let new := given.foldl (fun (found : List (String × Text)) (n, v) =>
          if (kept.lookup n).isSome then found
          else if (found.lookup n).isSome then
            found.map fun p => if p.1 == n then (n, v) else p
          else found ++ [(n, v)]) []
        let lineEnd := if has o '0' then '\x00' else '\n'
        Action.print ((changed ++ new).flatMap fun v => (variableLine v).dropLast ++ [lineEnd])
        return 0
      | words => become c "" words

def timeout (c : Caller) : Utility := fun words =>
  withOptions
    { letters := "fk:s:v", ordered := true
      names := [("foreground", 'f', .none), ("kill-after", 'k', .needed),
        ("preserve-status", 'p', .none), ("signal", 's', .needed), ("verbose", 'v', .none)] } 125
    words fun o operands => do
      match operands with
      | span :: word :: words =>
        let signal := match value? o 's' with
          | none => some 15
          | some name =>
            Signal.ofText? 0 (if (ofString "SIG").isPrefixOf name then name.drop 3 else name)
        match span? span, signal with
        | none, _ => misused (ofString "invalid time interval " ++ quote span) 125
        | _, none => misused (quote ((value? o 's').getD []) ++ ofString ": invalid signal") 125
        | some time, some signal =>
          let before ← get
          let deadline := before.clock + time
          let isOwn := time != 0 && before.limit.all fun l => deadline ≤ l
          if isOwn then set { before with limit := some deadline }
          let result ← Action.attempt (c.run (word :: words))
          modify fun s => { s with limit := before.limit }
          match result with
          | .ok (.error fault) =>
            complainOf (ofString "failed to run command ") (quote word) fault
            return notStarted fault
          | .ok (.ok (status, none)) => return status
          | .ok (.ok (_, some n)) =>
            if n = 9 then throw (.killed (← get).ownId 9)
            return 128 + n
          | .error .stopped =>
            if isOwn then
              modify fun s => { s with clock := deadline }
              if signal = 9 then throw (.killed (← get).ownId 9)
              return if has o 'p' then 128 + signal else 124
            else throw .stopped
          | .error flow => throw flow
      | _ =>
        pointToHelp
        return 125

def nohup (c : Caller) : Utility := fun words =>
  withOptions { letters := "", ordered := true } 125 words fun _ operands => do
    if operands.isEmpty then missingOperand 125
    else
      modify fun s => { s with ignored := 1 :: s.ignored }
      become c "failed to run command " operands

def nice (c : Caller) : Utility := fun words =>
  let words := match words with
    | ('-' :: d :: ds) :: rest =>
      if (d :: ds).all Char.isDigit then ['-', 'n'] :: (d :: ds) :: rest else words
    | words => words
  let known : Known :=
    { letters := "n:", ordered := true, names := [("adjustment", 'n', .needed)] }
  withOptions known 125 words
    fun o operands => do
      match (value? o 'n').map (integer? (some 10)), operands with
      | some (some (_, [])), [] =>
        misused (ofString "a command must be given with an adjustment") 125
      | none, [] =>
        Action.print ['0', '\n']
        return 0
      | some (some (_, [])), operands => become c "" operands
      | none, operands => become c "" operands
      | some _, _ =>
        refuse 125 (ofString "invalid adjustment " ++ quote ((value? o 'n').getD []))

def setsid (c : Caller) : Utility := fun words =>
  withOptions { letters := "cfw", ordered := true } 1 words fun _ operands => do
    if operands.isEmpty then misused (ofString "no command specified") 1
    else
      match ← c.replace operands with
      | .ok status => return status
      | .error fault =>
        complainOf (ofString "failed to execute ") (operands.headD []) fault
        return notStarted fault

def stdbuf (c : Caller) : Utility := fun words =>
  withOptions
    { letters := "i:o:e:", ordered := true
      names := [("input", 'i', .needed), ("output", 'o', .needed), ("error", 'e', .needed)] } 125
    words fun o operands => do
      if operands.isEmpty then missingOperand 125
      else if o.isEmpty then misused (ofString "you must specify a buffering mode option") 125
      else become c "failed to run command " operands

namespace Arguments

/-- The items of a text, and whether each of them is the last one of its line; or why they cannot be
read. -/
structure Reading where
  items : List (Text × Bool) := []
  word : Option Text := none

def Reading.close (r : Reading) (endsLine : Bool) : Reading :=
  match r.word with
  | some w => { items := (w.reverse, endsLine) :: r.items }
  | none =>
    match r.items, endsLine with
    | (w, _) :: rest, true => { r with items := (w, true) :: rest }
    | _, _ => r

def Reading.put (r : Reading) (c : Char) : Reading := { r with word := some (c :: r.word.getD []) }

/-- Reads items with quotes; in whole lines, blanks separate no items. A line that ends in a blank
goes on in the next one. `fuel` bounds the steps. -/
def read (wholeLines : Bool) : Nat → Reading → Text → Except String Reading
  | 0, r, _ => .ok r
  | _ + 1, r, [] => .ok (r.close true)
  | fuel + 1, r, c :: rest =>
    match c with
    | '\\' =>
      match rest with
      | d :: rest => read wholeLines fuel (r.put d) rest
      | [] => .ok (r.close true)
    | '\n' => read wholeLines fuel (r.close true) rest
    | c =>
      if c == '\'' || c == '"' then
        let inside := rest.takeWhile fun d => d != c && d != '\n'
        match rest.drop inside.length with
        | d :: after =>
          if d == c then
            read wholeLines fuel
              { r with word := some (inside.reverse ++ r.word.getD []) } after
          else .error (if c == '"' then "double" else "single")
        | [] => .error (if c == '"' then "double" else "single")
      else if isSpace c && (!wholeLines || r.word.isNone) then
        let joins := !wholeLines && r.word.isSome
        read wholeLines fuel (r.close false)
          (if joins && rest.head? == some '\n' then rest.drop 1 else rest)
      else read wholeLines fuel (r.put c) rest

def separator? (text : Text) : Option Char :=
  match text with
  | [c] => some c
  | ['\\', 'n'] => some '\n'
  | ['\\', 't'] => some '\t'
  | ['\\', '0'] => some '\x00'
  | '\\' :: 'x' :: ds => some (Char.ofNat ((digitsIn 16 ds).1 % 256))
  | '\\' :: ds =>
    if ds.all (fun d => digitValue d < 8) && !ds.isEmpty then
      some (Char.ofNat ((digitsIn 8 ds).1 % 256)) else none
  | _ => none

def groupsOf (n : Nat) : Nat → List Text → List (List Text)
  | 0, _ => []
  | fuel + 1, xs => if xs.isEmpty then [] else xs.take n :: groupsOf n fuel (xs.drop n)

def byLine (items : List (Text × Bool)) : List (List Text) :=
  let (current, found) := items.foldl (fun ((current : List Text), (found : List (List Text))) i =>
    if i.2 then ([], (i.1 :: current).reverse :: found) else (i.1 :: current, found)) ([], [])
  (if current.isEmpty then found else current.reverse :: found).reverse

def fill (mark item : Text) : Nat → Text → Text
  | 0, _ => []
  | _ + 1, [] => []
  | fuel + 1, c :: r =>
    if !mark.isEmpty && mark.isPrefixOf (c :: r) then
      item ++ fill mark item fuel ((c :: r).drop mark.length)
    else c :: fill mark item fuel r

def known : Known :=
  { letters := "0a:E:e::i::I:l::L:n:prs:tP:xd:", ordered := true
    names := [("null", '0', .none), ("arg-file", 'a', .needed), ("delimiter", 'd', .needed),
      ("eof", 'e', .possible), ("replace", 'i', .possible), ("max-lines", 'l', .possible),
      ("max-args", 'n', .needed), ("interactive", 'p', .none), ("no-run-if-empty", 'r', .none),
      ("max-chars", 's', .needed), ("verbose", 't', .none), ("max-procs", 'P', .needed),
      ("exit", 'x', .none), ("open-tty", 'o', .none)] }

/-- Calls a program with words; gives the status that it leaves for the caller, and whether the
caller goes on. -/
def call (c : Caller) (shows : Bool) (words : List Text) : Action (Nat × Bool) := do
  if shows then Action.complain (joinWith [' '] (words.map shown))
  let before ← get
  modify fun s => s.connect 0 .null
  let result ← Action.attempt (c.run words)
  modify fun s => { s with descriptors := before.descriptors }
  let name := words.headD []
  match ← Action.resume result with
  | .error fault =>
    complainOf [] name fault
    return (notStarted fault, false)
  | .ok (_, some signal) =>
    complain (name ++ ofString ": terminated by signal " ++ showNat signal)
    return (125, false)
  | .ok (255, none) =>
    complain (name ++ ofString ": exited with status 255; aborting")
    return (124, false)
  | .ok (0, none) => return (0, true)
  | .ok (_, none) => return (123, true)

end Arguments

open Arguments in
def xargs (c : Caller) : Utility := fun words =>
  withOptions known 1 words fun o operands => do
    let modes := (o.map (·.1)).filter fun c => ['I', 'i', 'L', 'l', 'n'].contains c
    let mode := modes.getLast?
    let replaces := modes.any fun c => c == 'I' || c == 'i'
    let delimiter : Except Text (Option Char) :=
      if has o '0' then .ok (some '\x00')
      else
        match value? o 'd' with
        | none => .ok none
        | some text =>
          match separator? text with
          | some c => .ok (some c)
          | none => .error text
    let number (c : Char) : Option (Except Text Nat) := (value? o c).map fun text =>
      match natural? text with
      | some n =>
        if n = 0 then .error (ofString "value " ++ text
          ++ ofString " for -" ++ c :: ofString " option should be >= 1") else .ok n
      | none => .error (ofString "invalid number \"" ++ text
          ++ ofString "\" for -" ++ c :: ofString " option")
    match delimiter, number 'n', number 'L' with
    | .error text, _, _ =>
      refuse 1 (ofString "Invalid input delimiter specification " ++ text
        ++ ofString (": the delimiter must be either a single character or an escape sequence "
          ++ "starting with \\."))
    | _, some (.error text), _ => misused text 1
    | _, _, some (.error text) => misused text 1
    | .ok delimiter, most, mostLines =>
      let number (x : Option (Except Text Nat)) : Option Nat := x.bind Except.toOption
      if replaces && modes.contains 'n' then
        complain (ofString ("warning: options --max-args and --replace/-I/-i are mutually "
          ++ "exclusive, ignoring previous "
          ++ (if mode == some 'n' then "--replace" else "--max-args") ++ " value"))
      let input ← match value? o 'a' with
        | none => Action.readAll 0
        | some name => content name
      match input with
      | .error fault =>
        match value? o 'a' with
        | some name =>
          complainOf (ofString "Cannot open input file ") (quote name) fault
          return 1
        | none => return 1
      | .ok text =>
        let reading : Except String (List (Text × Bool)) := match delimiter with
          | some d =>
            let parts := cutAt d text
            let parts := if parts.getLast? == some [] then parts.dropLast else parts
            .ok (parts.map fun p => (p, true))
          | none => (read replaces (text.length + 1) {} text).map fun r => r.items.reverse
        match reading with
        | .error kind =>
          refuse 1 (ofString ("unmatched " ++ kind
            ++ " quote; by default quotes are special to xargs unless you use the -0 option"))
        | .ok items =>
          let items := match (value? o 'E').or (value? o 'e') with
            | some (e :: es) => items.takeWhile fun i => i.1 != e :: es
            | _ => items
          let command := if operands.isEmpty then [ofString "echo"] else operands
          let plain := items.map (·.1)
          let mark := match value? o 'I', value? o 'i' with
            | some m, _ => m
            | none, some (m :: ms) => m :: ms
            | none, _ => ['\x7b', '\x7d']
          let calls : List (List Text) :=
            if replaces then
              plain.map fun item => command.map fun w => fill mark item (w.length + 1) w
            else
              let groups := match mode with
                | some 'n' => groupsOf ((number most).getD 1) (plain.length + 1) plain
                | some 'L' =>
                  (groupsOf' ((number mostLines).getD 1) (byLine items)).map List.flatten
                | some 'l' => byLine items
                | _ => if plain.isEmpty then [] else [plain]
              let groups := if groups.isEmpty && !has o 'r' then [[]] else groups
              groups.map fun g => command ++ g
          let (status, _) ← calls.foldlM (fun (status, goesOn) words => do
            if !goesOn then return (status, false)
            else
              let (n, goesOn) ← Arguments.call c (has o 't') words
              return (max status n, goesOn)) (0, true)
          return status
where
  /-- Groups of so many lines. -/
  groupsOf' (n : Nat) (lines : List (List Text)) : List (List (List Text)) :=
    (List.range ((lines.length + n - 1) / n)).map fun k => (lines.drop (k * n)).take n

end HalBench.Shell.Utility
