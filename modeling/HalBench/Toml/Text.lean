import HalBench.Toml.Scan
/-!
# Strings in TOML texts

A basic string has escapes, a literal one has none. Between three quotes a string may span lines;
a newline right after the opening quotes is dropped, and every newline is read as a line feed.
-/

namespace HalBench.Toml.Scan

/-- A character that may stand for itself between quotes, quotes and backslashes apart. -/
def isPlain (c : Char) : Bool := c == '\t' || (' ' ≤ c && c != '\x7f')

def codePoint : List Char → Option Nat :=
  List.foldlM (fun n c =>
    if c.isDigit then some (16 * n + (c.toNat - 48))
    else if ('a' ≤ c && c ≤ 'f') || ('A' ≤ c && c ≤ 'F') then
      some (16 * n + (c.toLower.toNat - 87))
    else none) 0

def character (n : Nat) : Option Char :=
  if n < 0xD800 || (0xDFFF < n && n < 0x110000) then some (Char.ofNat n) else none

def escape : Scan Char
  | 'b' :: r => some ('\x08', r)
  | 't' :: r => some ('\t', r)
  | 'n' :: r => some ('\n', r)
  | 'f' :: r => some ('\x0c', r)
  | 'r' :: r => some ('\r', r)
  | '"' :: r => some ('"', r)
  | '\\' :: r => some ('\\', r)
  | 'u' :: r =>
    if r.length < 4 then none
    else ((codePoint (r.take 4)).bind character).map fun c => (c, r.drop 4)
  | 'U' :: r =>
    if r.length < 8 then none
    else ((codePoint (r.take 8)).bind character).map fun c => (c, r.drop 8)
  | _ => none

def basicLoop : Nat → Scan (List Char)
  | 0 => failure
  | fuel + 1 => do
    let c ← one fun _ => true
    if c == '"' then return []
    else if c == '\\' then
      let e ← escape
      return e :: (← basicLoop fuel)
    else if isPlain c then return c :: (← basicLoop fuel)
    else failure

def literal : Scan (List Char) := do
  let text ← many fun c => c != '\'' && isPlain c
  word ['\'']
  return text

/-- Newlines and blanks after a backslash at the end of a line. -/
def foldedLoop : Nat → Scan Unit
  | 0 => pure ()
  | fuel + 1 => do
    blanks
    match ← peek with
    | some '\n' => newline; foldedLoop fuel
    | some '\r' => newline; foldedLoop fuel
    | _ => return ()

def folded : Scan Unit := do
  blanks
  newline
  fun text => foldedLoop text.length text

/-- The end of a string in three quotes: up to two quotes more belong to the string. -/
def closing (quote : Char) : Scan (List Char) := do
  let run ← many (· == quote)
  if 3 ≤ run.length ∧ run.length ≤ 5 then return run.drop 3 else failure

def linesLoop (quote : Char) (escapes : Bool) : Nat → Scan (List Char)
  | 0 => failure
  | fuel + 1 => do
    match ← peek with
    | none => failure
    | some '\n' => newline; return '\n' :: (← linesLoop quote escapes fuel)
    | some '\r' => newline; return '\n' :: (← linesLoop quote escapes fuel)
    | some c =>
      if c == quote then
        let run : List Char := (← get).takeWhile (· == quote)
        if run.length < 3 then
          let _ ← many (· == quote)
          return run ++ (← linesLoop quote escapes fuel)
        else closing quote
      else if c == '\\' && escapes then
        word ['\\']
        match ← optional folded with
        | some () => linesLoop quote escapes fuel
        | none =>
          let e ← escape
          return e :: (← linesLoop quote escapes fuel)
      else if isPlain c then
        let c ← one fun _ => true
        return c :: (← linesLoop quote escapes fuel)
      else failure

def lines (quote : Char) (escapes : Bool) : Scan (List Char) := do
  let _ ← optional newline
  fun text => linesLoop quote escapes (text.length + 1) text

def lineString : Scan (List Char)
  | '"' :: r => basicLoop (r.length + 1) r
  | '\'' :: r => literal r
  | _ => none

def string : Scan (List Char)
  | '"' :: '"' :: '"' :: r => lines '"' true r
  | '\'' :: '\'' :: '\'' :: r => lines '\'' false r
  | text => lineString text

end HalBench.Toml.Scan
