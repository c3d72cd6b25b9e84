import HalBench.Shell.Utility.Basic
/-!
# Utilities for lines

Programs that print the lines of texts: all or some of them, in another order, numbered, joined,
folded or counted.
-/

namespace HalBench.Shell.Utility

structure Shown where
  numbers : Bool := false
  numbersFilled : Bool := false
  ends : Bool := false
  squeezes : Bool := false
  tabs : Bool := false
  marks : Bool := false

def marked (c : Char) : Text :=
  let low (c : Char) : Text :=
    if c < ' ' then ['^', Char.ofNat (c.toNat + 64)] else if c == '\x7f' then ['^', '?'] else [c]
  if c.toNat < 128 then low c else 'M' :: '-' :: low (Char.ofNat (c.toNat - 128))

def Shown.line (k : Shown) (line : Text) : Text :=
  let body := (bare line).flatMap fun c =>
    if c == '\t' then (if k.tabs then ['^', 'I'] else [c])
    else if k.marks then marked c
    else [c]
  body ++ (if line.getLast? == some '\n' then (if k.ends then ['$', '\n'] else ['\n']) else [])

/-- Lines as `cat` shows them; `n` is the number of the last one. -/
def Shown.lines (k : Shown) : Nat → Bool → List Text → List Text
  | _, _, [] => []
  | n, afterEmpty, l :: ls =>
    let empty := l == ['\n']
    if k.squeezes && empty && afterEmpty then k.lines n true ls
    else
      let counts := if k.numbersFilled then !empty else k.numbers
      let number := if counts then padLeft 6 (showNat (n + 1)) ++ ['\t'] else []
      (number ++ k.line l) :: k.lines (if counts then n + 1 else n) empty ls

def cat : Utility := fun words =>
  withOptions
    { letters := "AbeEnstTuv"
      names := [("number", 'n', .none), ("number-nonblank", 'b', .none), ("show-all", 'A', .none),
        ("show-ends", 'E', .none), ("show-tabs", 'T', .none), ("squeeze-blank", 's', .none),
        ("show-nonprinting", 'v', .none)] } 1 words
    fun o names => do
      let k : Shown :=
        { numbers := has o 'n', numbersFilled := has o 'b', squeezes := has o 's'
          ends := has o 'E' || has o 'e' || has o 'A', tabs := has o 'T' || has o 't' || has o 'A'
          marks := has o 'v' || has o 'e' || has o 't' || has o 'A' }
      let endWith := closeInput names "closing standard input"
      if o.all (·.1 == 'u') then
        endWith (← eachContent "" names fun _ text => Action.print text)
      else
        let (status, text) ← (if names.isEmpty then [['-']] else names).foldlM
          (fun (status, text) name => do
            match ← content name with
            | .ok more => return (status, text ++ more)
            | .error fault =>
              complainOf [] (shown name) fault
              return (1, text)) (0, ([] : Text))
        Action.print (k.lines 0 false (lines text)).flatten
        endWith status

/-- How many items are asked for: so many, all but so many, or those from a place on. -/
inductive Amount where
  | exactly (n : Nat)
  | allBut (n : Nat)
  | fromPlace (n : Nat)
  deriving DecidableEq, Repr

namespace Amount

def unit? : Text → Option Nat
  | [] => some 1
  | ['b'] => some 512
  | ['k'] => some 1024
  | ['K'] => some 1024
  | ['M'] => some 1048576
  | ['G'] => some 1073741824
  | ['k', 'B'] => some 1000
  | ['K', 'B'] => some 1000
  | ['M', 'B'] => some 1000000
  | ['K', 'i', 'B'] => some 1024
  | ['M', 'i', 'B'] => some 1048576
  | _ => none

def number? (text : Text) : Option Nat :=
  let digits := text.takeWhile Char.isDigit
  if digits.isEmpty then none
  else (unit? (text.drop digits.length)).map fun u => natOf digits * u

def ofText? : Text → Option Amount
  | '-' :: text => (number? text).map allBut
  | '+' :: text => (number? text).map fromPlace
  | text => (number? text).map exactly

def first {α : Type} (a : Amount) (xs : List α) : List α :=
  match a with
  | exactly n => xs.take n
  | allBut n => xs.take (xs.length - n)
  | fromPlace n => xs.take n

def last {α : Type} (a : Amount) (xs : List α) : List α :=
  match a with
  | exactly n => xs.drop (xs.length - n)
  | allBut n => xs.drop (xs.length - n)
  | fromPlace n => xs.drop (n - 1)

end Amount

/-- Words in which an option that is only a number is written with its letter. -/
def spellNumber : List Text → List Text
  | ('-' :: c :: r) :: rest =>
    let digits := (c :: r).takeWhile Char.isDigit
    if digits.isEmpty then ('-' :: c :: r) :: rest
    else
      match (c :: r).drop digits.length with
      | [] => ('-' :: 'n' :: digits) :: rest
      | ['c'] => ('-' :: 'c' :: digits) :: rest
      | ['l'] => ('-' :: 'n' :: digits) :: rest
      | ['q'] => ['-', 'q'] :: ('-' :: 'n' :: digits) :: rest
      | ['v'] => ['-', 'v'] :: ('-' :: 'n' :: digits) :: rest
      | ['f'] => ['-', 'f'] :: ('-' :: 'n' :: digits) :: rest
      | other => (['-', 'n'] ++ digits ++ other) :: rest
  | words => words

structure Extent where
  amount : Amount
  bytes : Bool

def extentOf (o : List Given) : Except Text Extent :=
  match (o.filter fun g => g.1 == 'n' || g.1 == 'c').getLast? with
  | none => .ok ⟨.exactly 10, false⟩
  | some (c, text) =>
    match Amount.ofText? text with
    | some a => .ok ⟨a, c == 'c'⟩
    | none =>
      .error (ofString ("invalid number of " ++ (if c == 'c' then "bytes" else "lines")
        ++ ": ") ++ inQuotes text)

def heading (isFirst : Bool) (name : Text) : Text :=
  (if isFirst then [] else ['\n']) ++ ofString "==> "
    ++ (if name == ['-'] then ofString "standard input" else name) ++ ofString " <==\n"

/-- Prints parts of texts, each after a line with its name if there are several or if asked for.
`read` gives the part of the text with a name. -/
def eachPart (o : List Given) (names : List Text)
    (read : Text → Action (Except SystemFault Text)) : Action Nat := do
  let names := if names.isEmpty then [['-']] else names
  let headed := has o 'v' || (1 < names.length && !has o 'q')
  let (status, _) ← names.foldlM (fun (status, isFirst) name => do
    let head := if headed then heading isFirst name else []
    match ← read name with
    | .ok text =>
      Action.print (head ++ text)
      return (status, false)
    | .error fault =>
      if fault == .isADirectory || name == ['-'] then
        Action.print head
        complainOf (ofString "error reading ") (inQuotes (inputName name)) fault
        return (1, false)
      else
        complain (ofString "cannot open " ++ inQuotes name
          ++ ofString (" for reading: " ++ fault.description))
        return (1, isFirst)) (0, true)
  closeInput names "-" status

/-- Prints the first lines or bytes of texts. What is read of a file as the input goes no further
than what is printed. -/
def head : Utility := fun words =>
  withOptions
    { letters := "n:c:qvz"
      names := [("lines", 'n', .needed), ("bytes", 'c', .needed), ("quiet", 'q', .none),
        ("silent", 'q', .none), ("verbose", 'v', .none), ("zero-terminated", 'z', .none)] }
    1 (spellNumber words) fun o names => do
      match extentOf o with
      | .error text => refuse 1 text
      | .ok e =>
        let front (text : Text) : Text :=
          if e.bytes then e.amount.first text else (e.amount.first (lines text)).flatten
        eachPart o names fun name => do
          match name == ['-'], (← get).channel? 0 with
          | true, some (_, .file ..) =>
            let (result, s) := (← get).readUpTo 0 fun text => (front text).length
            set s
            return result
          | _, _ => return (← content name).map front

/-- Prints the last lines or bytes of texts; it may then wait for more without end. -/
def tail : Utility := fun words =>
  withOptions
    { letters := "n:c:qvfFzs:"
      names := [("lines", 'n', .needed), ("bytes", 'c', .needed), ("quiet", 'q', .none),
        ("silent", 'q', .none), ("verbose", 'v', .none), ("follow", 'f', .possible),
        ("zero-terminated", 'z', .none)] }
    1 (spellNumber words) fun o names => do
      match extentOf o with
      | .error text => refuse 1 text
      | .ok e =>
        let back (text : Text) : Text :=
          if e.bytes then e.amount.last text else (e.amount.last (lines text)).flatten
        let status ← eachPart o names fun name => do return (← content name).map back
        if (has o 'f' || has o 'F') && !names.isEmpty then throw .stopped
        return status

def tac : Utility := fun words =>
  withOptions { letters := "brs:" } 1 words fun _ names =>
    eachContent "" names fun _ text => Action.print (lines text).reverse.flatten

def rev : Utility := fun words =>
  withOptions { letters := "" } 1 words fun _ names =>
    eachContent "cannot open " names fun _ text =>
      Action.print ((lines text).flatMap fun line =>
        (bare line).reverse ++ line.drop (bare line).length)

def tee : Utility := fun words =>
  withOptions
    { letters := "aip", names := [("append", 'a', .none), ("ignore-interrupts", 'i', .none)] }
    1 words fun o names => do
      let (status, channels) ← names.foldlM (fun (status, channels) name => do
        match Opening.toWrite (← get) name false (has o 'a') (has o 'a') with
        | .ok (n, s) =>
          set s
          return (status, channels ++ [n])
        | .error fault =>
          complainOf [] (shown name) fault
          return (1, channels)) (0, ([] : List Nat))
      let read ← Action.readAll 0
      let text := read.toOption.getD []
      Action.print text
      channels.forM fun n => modify fun s => (s.writeChannel n text).1
      match read with
      | .ok _ => return status
      | .error fault => closeInput [] "standard input" (← refuse 1 (ofString
          ("read error: " ++ fault.description)))

structure Counts where
  lines : Nat := 0
  words : Nat := 0
  bytes : Nat := 0
  longest : Nat := 0

namespace Counts

/-- Goes on counting; the state also has whether a word is read and how wide the line is. -/
def step : Counts × Bool × Nat → Char → Counts × Bool × Nat
  | (k, inWord, width), c =>
    let k := { k with bytes := k.bytes + 1 }
    let close (k : Counts) : Counts := { k with longest := max k.longest width }
    if c == '\n' then ({ close k with lines := k.lines + 1 }, false, 0)
    else if c == '\r' || c == '\x0c' then (close k, false, 0)
    else if c == '\t' then (k, false, width + (8 - width % 8))
    else if isSpace c then (k, false, if c == ' ' then width + 1 else width)
    else
      (if inWord then k else { k with words := k.words + 1 }, true,
        if ' ' ≤ c && c ≤ '~' then width + 1 else width)

def ofText (text : Text) : Counts :=
  let (k, _, width) := text.foldl step ({}, false, 0)
  { k with longest := max k.longest width }

def join (a b : Counts) : Counts :=
  ⟨a.lines + b.lines, a.words + b.words, a.bytes + b.bytes, max a.longest b.longest⟩

def numbers (o : List Given) (k : Counts) : List Nat :=
  if o.isEmpty then [k.lines, k.words, k.bytes]
  else
    (if has o 'l' then [k.lines] else []) ++ (if has o 'w' then [k.words] else [])
      ++ (if has o 'm' then [k.bytes] else []) ++ (if has o 'c' then [k.bytes] else [])
      ++ (if has o 'L' then [k.longest] else [])

end Counts

/-- The size of a file that is read under a name; none for what is no file. -/
def sizeOf? (s : State) (name : Text) : Option Nat :=
  if name == ['-'] then
    match s.channel? 0 with
    | some (_, .file names _ _ _ _) =>
      match s.files.node? names with
      | some (.file content _) => some content.length
      | _ => none
    | _ => none
  else
    match s.files.look true (toBytes name) with
    | .ok (.file content _) => some content.length
    | _ => none

def wc : Utility := fun words =>
  withOptions
    { letters := "lwcmL"
      names := [("lines", 'l', .none), ("words", 'w', .none), ("bytes", 'c', .none),
        ("chars", 'm', .none), ("max-line-length", 'L', .none)] } 1 words
    fun o names => do
      let s ← get
      let single := names.length ≤ 1 && ((Counts.numbers o {}).length = 1)
      let read := if names.isEmpty then [['-']] else names
      let isThere (n : Text) : Bool := n == ['-'] || (s.files.look true (toBytes n)).isOk
      let sizes := (read.filter isThere).map (sizeOf? s)
      let total := sizes.foldl (fun n x => n + x.getD 0) 0
      let width := if single then 1
        else max (showNat total).length (if sizes.any (·.isNone) then 7 else 1)
      let show1 (k : Counts) (name : Text) : Action Unit :=
        Action.print (joinWith [' '] ((Counts.numbers o k).map fun n => padLeft width (showNat n))
          ++ (if name.isEmpty then [] else ' ' :: name) ++ ['\n'])
      let (status, total) ← read.foldlM (fun (status, total) name => do
        match ← content name with
        | .ok text =>
          let k := Counts.ofText text
          show1 k (if names.isEmpty then [] else name)
          return (status, Counts.join total k)
        | .error fault =>
          complainOf [] (shown (inputName name)) fault
          if fault = .isADirectory || name == ['-'] then
            show1 {} (if names.isEmpty then [] else name)
          return (1, total)) (0, ({} : Counts))
      if 1 < names.length then show1 total (ofString "total")
      closeInput names "-" status

def nl : Utility := fun words =>
  withOptions
    { letters := "b:d:f:h:i:l:n:ps:v:w:"
      names := [("body-numbering", 'b', .needed), ("number-width", 'w', .needed),
        ("number-separator", 's', .needed), ("number-format", 'n', .needed),
        ("starting-line-number", 'v', .needed), ("line-increment", 'i', .needed)] } 1 words
    fun o names => do
      let style := (value? o 'b').getD ['t']
      let width := ((value? o 'w').bind natural?).getD 6
      let mark := (value? o 's').getD ['\t']
      let form := (value? o 'n').getD ['r', 'n']
      let first : Int := (((value? o 'v').bind (integer? (some 10))).map (·.1)).getD 1
      let step : Int := (((value? o 'i').bind (integer? (some 10))).map (·.1)).getD 1
      let number (n : Int) : Text :=
        let ds := showInt n
        if form == ['l', 'n'] then padRight width ds
        else if form == ['r', 'z'] then List.replicate (width - ds.length) '0' ++ ds
        else padLeft width ds
      let (status, text) ← (if names.isEmpty then [['-']] else names).foldlM
        (fun (status, text) name => do
          match ← content name with
          | .ok more => return (status, text ++ more)
          | .error fault =>
            complainOf [] (shown name) fault
            return (1, text)) (0, ([] : Text))
      let (_, shown) := (bareLines text).foldl (fun ((n : Int), (found : List Text)) line =>
        if style == ['a'] || (style == ['t'] && !line.isEmpty) then
          (n + step, (number n ++ mark ++ line ++ ['\n']) :: found)
        else (n, (List.replicate (width + mark.length) ' ' ++ line ++ ['\n']) :: found)) (first, [])
      Action.print shown.reverse.flatten
      return status

/-- A line in pieces that are not longer than a width, cut after blanks if asked for. `fuel` bounds
their number. -/
def folded (width : Nat) (atBlanks : Bool) : Nat → Text → List Text
  | 0, _ => []
  | fuel + 1, line =>
    if line.length ≤ width then [line]
    else
      let front := line.take width
      let cut := match (front.reverse.findIdx? fun c => c == ' ' || c == '\t'), atBlanks with
        | some n, true => width - n
        | _, _ => width
      line.take cut :: folded width atBlanks fuel (line.drop cut)

def fold : Utility := fun words =>
  withOptions
    { letters := "bsw:", names := [("width", 'w', .needed), ("spaces", 's', .none),
      ("bytes", 'b', .none)] } 1
    (match words with
      | ('-' :: c :: r) :: rest => if c.isDigit then ('-' :: 'w' :: c :: r) :: rest else words
      | _ => words) fun o names => do
      let width := max 1 (((value? o 'w').bind natural?).getD 80)
      eachContent "" names fun _ text =>
        Action.print ((lines text).flatMap fun line =>
          joinWith ['\n'] (folded width (has o 's') (line.length + 1) (bare line))
            ++ line.drop (bare line).length)

def rows : Nat → List (List Text) → List (List Text)
  | 0, _ => []
  | fuel + 1, columns =>
    if columns.all List.isEmpty then []
    else columns.map (fun c => c.headD []) :: rows fuel (columns.map List.tail)

def joinInTurn (marks : List Text) : List Text → Text
  | [] => []
  | [x] => x
  | x :: xs => x ++ marks.headD [] ++ joinInTurn (marks.drop 1 ++ marks.take 1) xs

/-- The marks of a list of marks; an escape may stand for an empty one. -/
def marksOf : Text → List Text
  | '\\' :: 'n' :: r => ['\n'] :: marksOf r
  | '\\' :: 't' :: r => ['\t'] :: marksOf r
  | '\\' :: '0' :: r => [] :: marksOf r
  | '\\' :: c :: r => [c] :: marksOf r
  | c :: r => [c] :: marksOf r
  | [] => []

def paste : Utility := fun words =>
  withOptions
    { letters := "d:sz", names := [("delimiters", 'd', .needed), ("serial", 's', .none)] } 1 words
    fun o names => do
      let marks := match marksOf ((value? o 'd').getD ['\t']) with
        | [] => [[]]
        | ms => ms
      let names := if names.isEmpty then [['-']] else names
      let inputs := names.countP (· == ['-'])
      let (status, columns, _) ← names.foldlM
        (fun (status, (columns : List (List Text)), (shared : Option (List Text))) name => do
          match name == ['-'] && !has o 's', shared with
          | true, some ls => return (status, columns ++ [ls], shared)
          | _, _ =>
            match ← content name with
            | .ok text => return (status, columns ++ [bareLines text],
                if name == ['-'] then some (bareLines text) else shared)
            | .error fault =>
              complainOf [] (shown name) fault
              return (1, columns, shared)) (0, [], none)
      if status != 0 && !has o 's' then return status
      let inTurn (column : List Text) (k : Nat) : List Text :=
        (column.zipIdx).filterMap fun (l, i) => if i % inputs = k then some l else none
      let columns := if has o 's' then columns
        else
          (((columns.zip names).foldl (fun ((k : Nat), (found : List (List Text))) (column, name) =>
            if name == ['-'] then (k + 1, inTurn column k :: found) else (k, column :: found))
            (0, [])).2).reverse
      let length := columns.foldl (fun n c => max n c.length) 0
      let table := if has o 's' then columns else rows (length + 1) columns
      Action.print (table.flatMap fun row => joinInTurn marks row ++ ['\n'])
      return status

def nextStop (stops : List Nat) (column : Nat) : Nat :=
  match stops with
  | [n] => if n = 0 then column + 1 else column + (n - column % n)
  | many => (many.find? fun n => column < n).getD (column + 1)

def expand : Utility := fun words =>
  withOptions { letters := "it:", names := [("tabs", 't', .needed)] } 1 words
    fun o names => do
      let stops := match value? o 't' with
        | some list => (cutAt ',' list).filterMap natural?
        | none => [8]
      eachContent "" names fun _ text =>
        Action.print ((text.foldl (fun ((column : Nat), (found : List Text)) c =>
          if c == '\n' then (0, ['\n'] :: found)
          else if c == '\t' then
            let next := nextStop stops column
            (next, List.replicate (next - column) ' ' :: found)
          else (column + 1, [c] :: found)) (0, [])).2.reverse.flatten)

end HalBench.Shell.Utility
