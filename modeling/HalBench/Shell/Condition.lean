import HalBench.Files.Tree
import HalBench.Shell.Text
/-!
# Conditions

A condition is a list of words: tests of files, texts and numbers, joined by signs for not, both
and either, and by parentheses. A word is a sign only where the words after it allow it to be one.
-/

namespace HalBench.Shell.Condition

inductive Fault where
  | unexpected (word : Text)
  | missing (word : Text)
  | unclosed
  | illegalNumber (word : Text)
  deriving DecidableEq, Repr

def Fault.message : Fault → Text
  | unexpected word =>
    if word.isEmpty then ofString "unexpected operator"
    else word ++ ofString ": unexpected operator"
  | missing word => word ++ ofString ": argument expected"
  | unclosed => ofString "closing paren expected"
  | illegalNumber word => ofString "Illegal number: " ++ word

inductive Sign where
  | nothing
  | operand
  | before (op : String)
  | between (op : String)
  | negation
  | both
  | either
  | opening
  | closing
  deriving DecidableEq, Repr

def wordTests : List String :=
  ["-r", "-w", "-x", "-e", "-f", "-d", "-c", "-b", "-p", "-u", "-g", "-k", "-s", "-t", "-z", "-n",
    "-h", "-O", "-G", "-L", "-S"]

def comparisons : List String :=
  ["=", "!=", "<", ">", "-eq", "-ne", "-ge", "-gt", "-le", "-lt", "-nt", "-ot", "-ef"]

def sign? (word : Text) : Option Sign :=
  let w := String.ofList word
  if wordTests.contains w then some (.before w)
  else if comparisons.contains w then some (.between w)
  else
    match w with
    | "!" => some .negation
    | "-a" => some .both
    | "-o" => some .either
    | "(" => some .opening
    | ")" => some .closing
    | _ => none

def isComparison (word : Text) : Bool :=
  match sign? word with
  | some (.between _) => true
  | _ => false

def signOf : List Text → Sign
  | [] => .nothing
  | w :: rest =>
    match sign? w, rest with
    | some (.before _), [] => .operand
    | some (.before op), [_] => .before op
    | some (.before op), next :: _ :: _ => if isComparison next then .operand else .before op
    | some .opening, [] => .operand
    | some s, _ => s
    | none, _ => .operand

def number (word : Text) : Except Fault Int :=
  match integer? (some 10) word with
  | some (n, rest) =>
    if rest.all isSpace && -9223372036854775808 ≤ n && n ≤ 9223372036854775807 then .ok n
    else .error (.illegalNumber word)
  | none => .error (.illegalNumber word)

def place? (files : Files.Tree) (path : Text) : Option (List Bytes × Files.Node) :=
  match files.locate true (toBytes path) with
  | .ok (.present names node) => some (names, node)
  | _ => none

def age (files : Files.Tree) (names : List Bytes) : Nat := files.nodes.findIdx (·.1 == names)

def isNewer (files : Files.Tree) (a b : Text) : Bool :=
  match place? files a, place? files b with
  | some (m, _), some (n, _) => age files m < age files n
  | _, _ => false

def holdsFor (files : Files.Tree) (op : String) (word : Text) : Except Fault Bool :=
  let node : Option Files.Node := (place? files word).map (·.2)
  let linked := match files.look false (toBytes word) with
    | .ok (.link _) => true
    | _ => false
  match op, node with
  | "-n", _ => .ok !word.isEmpty
  | "-z", _ => .ok word.isEmpty
  | "-t", _ => (number word).map fun _ => false
  | "-L", _ => .ok linked
  | "-h", _ => .ok linked
  | _, none => .ok false
  | "-f", some (.file ..) => .ok true
  | "-f", some (.program _) => .ok true
  | "-d", some .directory => .ok true
  | "-c", some (.device _) => .ok true
  | "-S", some .socket => .ok true
  | "-s", some (.file content _) => .ok !content.isEmpty
  | "-s", some (.device _) => .ok false
  | "-s", some .socket => .ok false
  | "-s", some _ => .ok true
  | "-x", some (.file _ executable) => .ok executable
  | "-x", some (.device _) => .ok false
  | "-k", some .directory => .ok (place? files word == some ([[116, 109, 112]], .directory))
  | op, some _ => .ok (["-e", "-r", "-w", "-x", "-O", "-G"].contains op)

def compare (files : Files.Tree) (op : String) (a b : Text) : Except Fault Bool := do
  let numbers (f : Int → Int → Bool) : Except Fault Bool := do return f (← number a) (← number b)
  match op with
  | "=" => return a == b
  | "!=" => return a != b
  | "<" => return textLe a b && a != b
  | ">" => return !textLe a b
  | "-eq" => numbers (· == ·)
  | "-ne" => numbers (· != ·)
  | "-ge" => numbers (fun m n => m ≥ n)
  | "-gt" => numbers (fun m n => m > n)
  | "-le" => numbers (fun m n => m ≤ n)
  | "-lt" => numbers (fun m n => m < n)
  | "-nt" => return isNewer files a b
  | "-ot" => return isNewer files b a
  | _ => return (place? files a).isSome && (place? files a).map (·.1) == (place? files b).map (·.1)

mutual

/-- A test, given the meaning of its first word; what is left starts with its last word. `fuel`
bounds the calls, here and below. -/
def primary (files : Files.Tree) (fuel : Nat) (n : Sign) (ws : List Text) :
    Except Fault (Bool × List Text) :=
  match fuel with
  | 0 => .error .unclosed
  | fuel + 1 =>
    match n, ws with
    | .nothing, ws => .ok (false, ws)
    | .opening, _ :: rest =>
      if signOf rest = .closing then .ok (false, rest)
      else do
        let (b, last) ← either files fuel (signOf rest) rest
        if signOf last.tail = .closing then .ok (b, last.tail) else .error .unclosed
    | .before op, _ :: word :: rest => do
      return (← holdsFor files op word, word :: rest)
    | .before op, _ => .error (.missing op.toList)
    | _, a :: rest =>
      match signOf rest, rest with
      | .between op, _ :: b :: later => do
        return (← compare files op a b, b :: later)
      | .between op, _ => .error (.missing op.toList)
      | _, _ => .ok (!a.isEmpty, a :: rest)
    | _, [] => .ok (false, [])

def negated (files : Files.Tree) (fuel : Nat) (n : Sign) (ws : List Text) :
    Except Fault (Bool × List Text) :=
  match fuel with
  | 0 => .error .unclosed
  | fuel + 1 =>
    if n = .negation then do
      let next := signOf ws.tail
      let (b, last) ← negated files fuel next (if next = .nothing then ws else ws.tail)
      return (!b, last)
    else primary files fuel n ws

def both (files : Files.Tree) (fuel : Nat) (n : Sign) (ws : List Text) :
    Except Fault (Bool × List Text) :=
  match fuel with
  | 0 => .error .unclosed
  | fuel + 1 => do
    let (b, last) ← negated files fuel n ws
    if signOf last.tail = .both then
      let rest := last.drop 2
      let (c, last) ← both files fuel (signOf rest) rest
      return (b && c, last)
    else return (b, last)

def either (files : Files.Tree) (fuel : Nat) (n : Sign) (ws : List Text) :
    Except Fault (Bool × List Text) :=
  match fuel with
  | 0 => .error .unclosed
  | fuel + 1 => do
    let (b, last) ← both files fuel n ws
    if signOf last.tail = .either then
      let rest := last.drop 2
      let (c, last) ← either files fuel (signOf rest) rest
      return (b || c, last)
    else return (b, last)

end

def whole (files : Files.Tree) (n : Sign) (ws : List Text) : Except Fault Bool := do
  let (b, last) ← either files (8 * ws.length + 8) n ws
  match last with
  | w :: _ :: _ => throw (.unexpected w)
  | _ => return b

/-- Whether a condition holds. Three words around a comparison are one, whatever they are. -/
def holds (files : Files.Tree) (ws : List Text) : Except Fault Bool :=
  go 0 ws
where
  /-- Looks at conditions of three or four words in parentheses and after negations. -/
  go (negations : Nat) (ws : List Text) : Except Fault Bool :=
    let answer (b : Bool) : Bool := if negations % 2 = 0 then b else !b
    match ws with
    | [] => .ok (answer false)
    | a :: rest =>
      let few := rest.length = 2 || rest.length = 3
      if rest.length = 2 && isComparison (rest.headD []) then (whole files .operand ws).map answer
      else if few && a == ['('] && rest.getLast? == some [')'] then
        (whole files (signOf rest.dropLast) rest.dropLast).map answer
      else if few && a == ['!'] then
        (go (negations + 1) rest)
      else (whole files (signOf ws) ws).map answer

end HalBench.Shell.Condition
