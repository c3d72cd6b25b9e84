import HalBench.Toml.Number
import HalBench.Toml.Text
import HalBench.Toml.Value
/-!
# TOML documents

Values, dotted keys and lines, and the table that a whole document says. Arrays and inline tables
may be nested, and keys dotted, only up to a bound.
-/

namespace HalBench.Toml

namespace Scan

/-- The bound on nesting and on the parts of a dotted key. -/
def maxDepth : Nat := 80

def isKeyChar (c : Char) : Bool := c.isAlphanum || c == '_' || c == '-'

def simpleKey : Scan String := do
  match ← peek with
  | some '"' => return String.ofList (← lineString)
  | some '\'' => return String.ofList (← lineString)
  | _ => return String.ofList (← several isKeyChar)

def keyLoop : Nat → Scan (List String)
  | 0 => failure
  | fuel + 1 => do
    blanks
    let part ← simpleKey
    blanks
    match ← peek with
    | some '.' =>
      word ['.']
      return part :: (← keyLoop fuel)
    | _ => return [part]

def key : Scan (List String) := keyLoop (maxDepth - 1)

def entry (value : Scan Value) : Scan (List String × Value) := do
  let path ← key
  word ['=']
  blanks
  return (path, ← value)

def arrayLoop (value : Scan Value) : Nat → Scan (List Value)
  | 0 => failure
  | fuel + 1 => do
    space
    match ← peek with
    | some ']' => word [']']; return []
    | _ =>
      let x ← value
      space
      match ← peek with
      | some ',' =>
        word [',']
        return x :: (← arrayLoop value fuel)
      | _ =>
        word [']']
        return [x]

def inlineLoop (value : Scan Value) : Nat → Scan (List (List String × Value))
  | 0 => failure
  | fuel + 1 => do
    let e ← entry value
    blanks
    match ← peek with
    | some ',' =>
      word [',']
      return e :: (← inlineLoop value fuel)
    | _ =>
      word ['\x7d']
      return [e]

def array (value : Scan Value) : Scan Value := fun text =>
  (do return .array (← arrayLoop value (text.length + 1)) : Scan Value) text

def inline (value : Scan Value) : Scan Value := fun text =>
  (do
    blanks
    match ← peek with
    | some '\x7d' => word ['\x7d']; return .table []
    | _ =>
      match inlineTable (← inlineLoop value (text.length + 1)) with
      | some v => return v
      | none => failure : Scan Value) text

def numeric : Scan Value :=
  orElse (do dateTime; return .date) <|
  orElse (do pointed; return .number) <|
  orElse (do special; return .number)
    (do integer; return .number)

/-- A value whose items are read as given; none if it may not have any. -/
def valueOf (item : Option (Scan Value)) : Scan Value := fun text =>
  match text with
  | '"' :: _ => (do return .text (String.ofList (← string)) : Scan Value) text
  | '\'' :: _ => (do return .text (String.ofList (← string)) : Scan Value) text
  | '[' :: r => item.bind fun i => array i r
  | '\x7b' :: r => item.bind fun i => inline i r
  | 't' :: _ => (do word ['t', 'r', 'u', 'e']; return .truth true : Scan Value) text
  | 'f' :: _ => (do word ['f', 'a', 'l', 's', 'e']; return .truth false : Scan Value) text
  | _ => numeric text

/-- A value; arrays and inline tables may be nested to a depth. -/
def value : Nat → Scan Value
  | 0 => valueOf none
  | depth + 1 => valueOf (some (value depth))

def header : Scan Statement := do
  match ← peek with
  | some '[' =>
    word ['[']
    let path ← key
    word [']', ']']
    return .itemHeader path
  | _ =>
    let path ← key
    word [']']
    return .header path

def statements : Nat → Scan (List Statement)
  | 0 => failure
  | fuel + 1 => do
    space
    match ← peek with
    | none => return []
    | some '[' =>
      word ['[']
      let s ← header
      lineEnd
      return s :: (← statements fuel)
    | some _ =>
      let (path, v) ← entry (value (maxDepth - 1))
      lineEnd
      return .entry path v :: (← statements fuel)

end Scan

def parse? (text : List Char) : Option Value := do
  let body := if text.head? = some (Char.ofNat 0xFEFF) then text.tail else text
  let (lines, _) ← Scan.statements (body.length + 1) body
  let node ← fill lines [] Node.empty
  return node.toValue

end HalBench.Toml
