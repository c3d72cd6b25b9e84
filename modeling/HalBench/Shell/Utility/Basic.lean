import HalBench.Shell.Opening
/-!
# Utilities

A utility is a program: it gets words, reads and prints, changes files and leaves a status. Its
words may be options, with one letter or with a longer name, and operands in any order.
-/

namespace HalBench.Shell

abbrev Utility := List Text → Action Nat

namespace Utility

def needsQuotes (name : Text) : Bool :=
  name.isEmpty || ['~', '#'].contains (name.headD ' ')
    || name.any fun c => c < '!' || '~' < c || [ '!', '"', '$', '&', '\'', '(', ')', '*', ';', '<',
      '=', '>', '?', '[', '\\', '^', '\x60', '|', '\x7b', '\x7d'].contains c

def escapeOf (c : Char) : Text :=
  match c with
  | '\n' => ['\\', 'n']
  | '\t' => ['\\', 't']
  | '\r' => ['\\', 'r']
  | '\x07' => ['\\', 'a']
  | '\x08' => ['\\', 'b']
  | '\x0b' => ['\\', 'v']
  | '\x0c' => ['\\', 'f']
  | c =>
    let digits := Nat.toDigits 8 c.toNat
    '\\' :: List.replicate (3 - digits.length) '0' ++ digits

/-- A name in quotes. Characters that do not show stand as escapes between quotes of their own. -/
def inQuotes (name : Text) : Text :=
  let shows (c : Char) : Bool := ' ' ≤ c && c ≤ '~'
  let strong := name.any fun c => ['"', '$', '\\', '\x60'].contains c
  if name.all shows && name.contains '\'' && !strong then '"' :: name ++ ['"']
  else '\'' :: go true name
where
  /-- Goes on, inside the usual quotes or inside those for escapes. -/
  go (usual : Bool) : Text → Text
    | [] => ['\'']
    | c :: r =>
      if ' ' ≤ c && c ≤ '~' then
        let c' : Text := if c == '\'' then ['\'', '\\', '\'', '\''] else [c]
        (if usual then c' else '\'' :: '\'' :: c') ++ go true r
      else (if usual then ['\'', '$', '\''] else []) ++ escapeOf c ++ go false r

def quote (word : Text) : Text :=
  '\'' :: (word.flatMap fun c =>
    if c == '\'' || c == '\\' then ['\\', c]
    else if ' ' ≤ c && c ≤ '~' then [c]
    else escapeOf c) ++ ['\'']

def shown (name : Text) : Text := if needsQuotes name then inQuotes name else name

def complain (text : Text) : Action Unit := do
  Action.complain ((← get).program ++ ofString ": " ++ text)

def refuse (status : Nat) (text : Text) : Action Nat := do
  complain text
  return status

def complainOf (before name : Text) (fault : SystemFault) : Action Unit :=
  complain (before ++ name ++ ofString (": " ++ fault.description))

def pointToHelp : Action Unit := do
  Action.complain (ofString "Try '" ++ (← get).program
    ++ ofString " --help' for more information.")

def misused (text : Text) (status : Nat) : Action Nat := do
  complain text
  pointToHelp
  return status

def missingOperand (status : Nat) : Action Nat := misused (ofString "missing operand") status

def extraOperand (word : Text) (status : Nat) : Action Nat :=
  misused (ofString "extra operand " ++ quote word) status

inductive Value where
  | none
  | needed
  | possible
  deriving DecidableEq, Repr

/-- The options that a program knows: letters, of which a colon follows those that take a value,
and longer names with the letters that they stand for. -/
structure Known where
  letters : String
  names : List (String × Char × Value) := []
  ordered : Bool := false

abbrev Given := Char × Text

namespace Known

/-- Whether the option of a letter takes a value; none for a letter that is no option. -/
def ofLetter? (k : Known) (c : Char) : Option Value :=
  match k.letters.toList.dropWhile (· != c) with
  | _ :: ':' :: ':' :: _ => if c == ':' then .none else some .possible
  | _ :: ':' :: _ => if c == ':' then .none else some .needed
  | _ :: _ => if c == ':' then .none else some Value.none
  | [] => .none

/-- The options with one letter in a word, and the one that waits for a value. -/
def readLetters (k : Known) : List Char → Except Text (List Given × Option Char)
  | [] => .ok ([], none)
  | c :: r =>
    match k.ofLetter? c with
    | none => .error (ofString "invalid option -- '" ++ c :: ['\''])
    | some .none => do
      let (later, waiting) ← readLetters k r
      return ((c, []) :: later, waiting)
    | some .possible => .ok ([(c, r)], none)
    | some .needed => if r.isEmpty then .ok ([], some c) else .ok ([(c, r)], none)

/-- The option of a longer name, which may be cut short; the letter and whether it takes a value. -/
def ofName (k : Known) (name : Text) : Except Text (Char × Value × Text) :=
  let full := ofString "--" ++ name
  match k.names.find? fun (n, _, _) => n.toList == name with
  | some (n, c, v) => .ok (c, v, n.toList)
  | none =>
    match k.names.filter fun (n, _, _) => name.isPrefixOf n.toList with
    | [(n, c, v)] => .ok (c, v, n.toList)
    | [] => .error (ofString "unrecognized option '" ++ full ++ ['\''])
    | many =>
      if (many.map fun (_, c, _) => c).eraseDups.length = 1 then
        match many with
        | (n, c, v) :: _ => .ok (c, v, n.toList)
        | [] => .error full
      else
        .error (ofString "option '" ++ full ++ ofString "' is ambiguous; possibilities:"
          ++ many.flatMap fun (n, _, _) => ofString (" '--" ++ n ++ "'"))

def read (k : Known) : List Text → Except Text (List Given × List Text)
  | [] => .ok ([], [])
  | ['-', '-'] :: rest => .ok ([], rest)
  | ('-' :: '-' :: text) :: rest => do
    let name := text.takeWhile (· != '=')
    let (letter, value, full) ← k.ofName name
    match text.drop name.length, value with
    | _ :: _, .none =>
      throw (ofString "option '--" ++ full ++ ofString "' doesn't allow an argument")
    | _ :: given, _ => do
      let (later, operands) ← read k rest
      return ((letter, given) :: later, operands)
    | [], .needed =>
      match rest with
      | given :: rest => do
        let (later, operands) ← read k rest
        return ((letter, given) :: later, operands)
      | [] => throw (ofString "option '--" ++ full ++ ofString "' requires an argument")
    | [], _ => do
      let (later, operands) ← read k rest
      return ((letter, []) :: later, operands)
  | ('-' :: c :: letters) :: rest => do
    match ← k.readLetters (c :: letters), rest with
    | (found, none), rest => do
      let (later, operands) ← read k rest
      return (found ++ later, operands)
    | (found, some c), given :: rest => do
      let (later, operands) ← read k rest
      return (found ++ (c, given) :: later, operands)
    | (_, some c), [] => throw (ofString "option requires an argument -- '" ++ c :: ['\''])
  | w :: rest =>
    if k.ordered then .ok ([], w :: rest)
    else do
      let (later, operands) ← read k rest
      return (later, w :: operands)

end Known

/-- Runs a program with its options and operands; complains of options that it does not know. -/
def withOptions (k : Known) (status : Nat) (words : List Text)
    (run : List Given → List Text → Action Nat) : Action Nat := do
  match k.read words with
  | .ok (options, operands) => run options operands
  | .error text => misused text status

def has (options : List Given) (c : Char) : Bool := options.any (·.1 == c)

def value? (options : List Given) (c : Char) : Option Text := options.reverse.lookup c

def content (name : Text) : Action (Except SystemFault Text) := do
  if name == ['-'] then Action.readAll 0
  else
    match Opening.toRead (← get) name with
    | .error fault => return .error fault
    | .ok (n, s) =>
      let (result, s) := s.readChannel n List.length
      set s
      return result

def lines (text : Text) : List Text :=
  go [] [] text
where
  /-- Goes on; what was read is kept with the latest first. -/
  go (found : List Text) (read : Text) : Text → List Text
    | [] => (if read.isEmpty then found else read.reverse :: found).reverse
    | c :: r =>
      if c == '\n' then go ((c :: read).reverse :: found) [] r else go found (c :: read) r

def bare (line : Text) : Text := if line.getLast? == some '\n' then line.dropLast else line

def bareLines (text : Text) : List Text := (lines text).map bare

def inputName (name : Text) : Text := if name == ['-'] then ofString "standard input" else name

/-- Complains at its end of an input that was closed from the start; the status is then that of a
failure. -/
def closeInput (names : List Text) (words : String) (status : Nat) : Action Nat := do
  let reads := names.isEmpty || names.contains ['-']
  if reads && ((← get).channel? 0).isNone then
    complain (ofString (words ++ ": " ++ SystemFault.badDescriptor.description))
    return 1
  else return status

/-- What a program tells of output that could not be written, and its status then. -/
def writeRefusal (program : Text) (fault : SystemFault) : List Text × Nat :=
  let reason := ": " ++ fault.description
  let usual := "write error" ++ reason
  let isClosed := fault == .badDescriptor
  let (texts, status) : List String × Nat := match String.ofList program with
    | "ls" => ([usual], 2)
    | "grep" => ([usual], 2)
    | "printenv" => ([usual], 2)
    | "expr" => ([usual], 3)
    | "env" => ([usual], 125)
    | "sort" => (["fflush failed: 'standard output'" ++ reason, "write error"], 2)
    | "sed" => (["couldn't " ++ (if isClosed then "close" else "flush") ++ " stdout" ++ reason], 4)
    | "wc" => ([if isClosed then usual else "write error"], 1)
    | "cat" => ([if isClosed then "standard output" ++ reason else usual], 1)
    | "tee" => (["'standard output'" ++ reason], 1)
    | "yes" => (["standard output" ++ reason], 1)
    | "find" =>
      (["'standard output'" ++ reason, if isClosed then usual else "write error"], 1)
    | _ => ([usual], 1)
  (texts.map ofString, status)

/-- Does something with the content of every name, or with the input if there is none; complains
of what cannot be read. The result is the status. -/
def eachContent (before : String) (names : List Text)
    (f : Text → Text → Action Unit) : Action Nat :=
  (if names.isEmpty then [['-']] else names).foldlM (fun status name => do
    match ← content name with
    | .ok text =>
      f name text
      return status
    | .error fault =>
      complainOf (ofString before) (shown name) fault
      return 1) 0

def natural? (text : Text) : Option Nat :=
  if !text.isEmpty && text.all Char.isDigit then some (natOf text) else none

end Utility

end HalBench.Shell
