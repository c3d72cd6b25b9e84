import HalBench.Shell.Numeral
import HalBench.Shell.Regex.Parse
/-!
# Rules for records

A program is a list of rules: a choice of records, and statements that are carried out for each
record that is chosen. Its text is cut into tokens first; whether a slash divides or starts an
expression follows from the token before it.
-/

namespace HalBench.Shell.Records

inductive Operator where
  | add
  | subtract
  | multiply
  | divide
  | remainder
  | power
  deriving DecidableEq, Repr, Inhabited

inductive Comparison where
  | less
  | atMost
  | equal
  | different
  | greater
  | atLeast
  deriving DecidableEq, Repr, Inhabited

inductive Expr where
  | number (x : Binary)
  | text (s : Text)
  | pattern (r : Regex)
  | name (x : String)
  | field (n : Expr)
  | element (table : String) (index : List Expr)
  | assign (op : Option Operator) (place value : Expr)
  | choice (test first second : Expr)
  | both (a b : Expr)
  | either (a b : Expr)
  | negation (a : Expr)
  | has (index : List Expr) (table : String)
  | matching (isWanted : Bool) (subject pattern : Expr)
  | comparison (c : Comparison) (a b : Expr)
  | joined (a b : Expr)
  | computed (op : Operator) (a b : Expr)
  | negative (a : Expr)
  | positive (a : Expr)
  | counted (isBefore isUp : Bool) (place : Expr)
  | called (function : String) (arguments : List Expr)
  | known (function : String) (arguments : List Expr)
  | nextLine (place : Option Expr)
  | fileLine (path : Expr) (place : Option Expr)
  | commandLine (command : Expr) (place : Option Expr)
  deriving Repr, Inhabited

inductive Destination where
  | plain
  | file (appends : Bool) (path : Expr)
  | command (words : Expr)
  deriving Repr, Inhabited

inductive Statement where
  | nothing
  | value (e : Expr)
  | print (items : List Expr) (to' : Destination)
  | printf (items : List Expr) (to' : Destination)
  | branch (test : Expr) (first second : Statement)
  | loop (test : Option Expr) (after body : Statement)
  | loopOnce (body : Statement) (test : Expr)
  | each (x table : String) (body : Statement)
  | block (body : List Statement)
  | delete (table : String) (index : Option (List Expr))
  | next
  | exit (status : Option Expr)
  | result (value : Option Expr)
  | leave
  | again
  deriving Repr, Inhabited

inductive Choice where
  | start
  | finish
  | every
  | test (e : Expr)
  | range (first last : Expr)
  deriving Repr, Inhabited

structure Rule where
  choice : Choice
  body : Option Statement
  deriving Repr, Inhabited

structure Function where
  parameters : List String
  body : Statement
  deriving Repr, Inhabited

structure Program where
  rules : List Rule := []
  functions : List (String × Function) := []
  deriving Repr, Inhabited

/-- What a program is cut into. A name with an opening parenthesis right after it is called. -/
inductive Token where
  | number (x : Binary)
  | text (s : Text)
  | pattern (s : Text)
  | name (s : String)
  | callee (s : String)
  | known (s : String)
  | word (s : String)
  | sign (s : String)
  | newline
  | finish
  deriving DecidableEq, Repr, Inhabited

structure Lexeme where
  token : Token
  line : Nat
  written : Text
  deriving Repr, Inhabited

abbrev Fault := List String

namespace Token

def isSign (s : String) : Token → Bool
  | sign t => s == t
  | _ => false

def isWord (s : String) : Token → Bool
  | word t => s == t
  | _ => false

/-- Whether a token may be the end of an operand, after which a slash divides. -/
def endsOperand : Token → Bool
  | number _ => true
  | text _ => true
  | pattern _ => true
  | name _ => true
  | known _ => true
  | sign s => [")", "]", "$", "++", "--"].contains s
  | _ => false

def words : List String :=
  ["BEGIN", "END", "function", "if", "else", "while", "for", "do", "break", "continue",
    "next", "exit", "return", "delete", "in", "getline", "print", "printf"]

def functions : List (String × Nat × Nat) :=
  [("length", 0, 1), ("substr", 2, 3), ("index", 2, 2), ("split", 2, 3), ("sub", 2, 3),
    ("gsub", 2, 3), ("match", 2, 2), ("sprintf", 1, 1000), ("sin", 1, 1), ("cos", 1, 1),
    ("atan2", 2, 2), ("exp", 1, 1), ("log", 1, 1), ("sqrt", 1, 1), ("int", 1, 1), ("rand", 0, 0),
    ("srand", 0, 1), ("toupper", 1, 1), ("tolower", 1, 1), ("system", 1, 1), ("close", 1, 1),
    ("fflush", 0, 1)]

def signs : List String :=
  ["&&", "||", "==", "<=", ">=", "!=", "!~", "+=", "-=", "*=", "/=", "%=", "^=", "++", "--", ">>",
    "\x7b", "\x7d", "(", ")", "[", "]", ";", ",", "+", "-", "*", "/", "%", "^", "!", ">", "<", "|",
    "?", ":", "~", "$", "="]

end Token

/-- The character that an escape in a text stands for, after the backslash, and what follows. -/
def escape? : Text → Option (Char × Text)
  | '"' :: r => some ('"', r)
  | '\\' :: r => some ('\\', r)
  | 'a' :: r => some ('\x07', r)
  | 'b' :: r => some ('\x08', r)
  | 'f' :: r => some ('\x0c', r)
  | 'n' :: r => some ('\n', r)
  | 'r' :: r => some ('\r', r)
  | 't' :: r => some ('\t', r)
  | 'v' :: r => some ('\x0b', r)
  | text =>
    let digits := (text.take 3).takeWhile fun c => digitValue c < 8
    if digits.isEmpty then none
    else some (Char.ofNat ((digitsIn 8 digits).1 % 256), text.drop digits.length)

/-- A text with its escapes replaced; a backslash before another character stays. `fuel` bounds the
length. -/
def unescape : Nat → Text → Text
  | 0, text => text
  | fuel + 1, '\\' :: r =>
    match escape? r with
    | some (c, rest) => c :: unescape fuel rest
    | none => '\\' :: unescape fuel r
  | fuel + 1, c :: r => c :: unescape fuel r
  | _ + 1, [] => []

/-- The length of a quoted text up to the mark that ends it; none if the line ends first. Within
brackets the mark of an expression has no meaning. -/
def quotedLength? (mark : Char) : Bool → Text → Option Nat
  | _, [] => none
  | _, ['\\'] => none
  | inside, '\\' :: _ :: r => (quotedLength? mark inside r).map (· + 2)
  | inside, c :: r =>
    if c == mark && !inside then some 0
    else if c == '\n' then none
    else
      let inside := if mark != '/' then false
        else if inside then c != ']'
        else c == '[' && r.contains ']'
      (quotedLength? mark inside r).map (· + 1)

def patternText : Text → Text
  | '\\' :: '/' :: r => '/' :: patternText r
  | '\\' :: '"' :: r => '"' :: patternText r
  | '\\' :: 'n' :: r => '\n' :: patternText r
  | '\\' :: 't' :: r => '\t' :: patternText r
  | '\\' :: c :: r => '\\' :: c :: patternText r
  | c :: r => c :: patternText r
  | [] => []

/-- The length of a number at the front of a text; zero if there is none. -/
def numberLength (text : Text) : Nat :=
  let whole := (text.takeWhile Char.isDigit).length
  let point := if (text.drop whole).head? == some '.' then 1 else 0
  let after := ((text.drop (whole + point)).takeWhile Char.isDigit).length
  if whole + after = 0 then 0
  else
    let front := whole + point + after
    match text.drop front with
    | e :: r =>
      let mark := if r.head? == some '-' || r.head? == some '+' then 1 else 0
      let digits := ((r.drop mark).takeWhile Char.isDigit).length
      if (e == 'e' || e == 'E') && digits != 0 then front + 1 + mark + digits else front
    | [] => front

def lexemes : Nat → Nat → Token → Text → Except Fault (List Lexeme)
  | 0, line, _, _ => .ok [⟨.finish, line, []⟩]
  | _ + 1, line, _, [] => .ok [⟨.finish, line, []⟩]
  | fuel + 1, line, before, c :: r => do
    let go (token : Token) (length : Nat) : Except Fault (List Lexeme) := do
      let rest ← lexemes fuel line token ((c :: r).drop length)
      return ⟨token, line, (c :: r).take length⟩ :: rest
    if c == '\n' then
      return ⟨.newline, line, []⟩ :: (← lexemes fuel (line + 1) .newline r)
    else if c == ' ' || c == '\t' || c == '\r' then lexemes fuel line before r
    else if c == '\\' && r.head? == some '\n' then lexemes fuel (line + 1) before (r.drop 1)
    else if c == '#' then lexemes fuel line before (r.dropWhile (· != '\n'))
    else if c == '"' then
      match quotedLength? '"' false r with
      | some n => go (.text (unescape (n + 1) (r.take n))) (n + 2)
      | none =>
        let shown := String.ofList (((c :: r).takeWhile (· != '\n')).take 11)
        throw ["line " ++ toString line ++ ": runaway string constant " ++ shown ++ " ..."]
    else if c == '/' && !before.endsOperand then
      match quotedLength? '/' false r with
      | some n => go (.pattern (patternText (r.take n))) (n + 2)
      | none =>
        let shown := String.ofList (((c :: r).takeWhile (· != '\n')).take 11)
        throw ["line " ++ toString line ++ ": runaway regular expression " ++ shown ++ " ..."]
    else if numberLength (c :: r) != 0 then
      let n := numberLength (c :: r)
      match Numeral.real? .double ((c :: r).take n) with
      | some x => go (.number x.value) n
      | none => go (.number (Binary.zero .double false)) n
    else if isNameStart c then
      let text := (c :: r).takeWhile isNameChar
      let name := String.ofList text
      if Token.words.contains name then go (.word name) text.length
      else if (Token.functions.lookup name).isSome then go (.known name) text.length
      else if ((c :: r).drop text.length).head? == some '(' then go (.callee name) text.length
      else go (.name name) text.length
    else
      match Token.signs.find? fun s => s.toList.isPrefixOf (c :: r) with
      | some s => go (.sign s) s.length
      | none =>
        throw [toString line ++ ": unexpected character '" ++ String.singleton c ++ "'"]

end HalBench.Shell.Records
