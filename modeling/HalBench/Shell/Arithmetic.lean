import HalBench.Shell.Text
/-!
# Arithmetic of shell scripts

Expressions of words of 64 bits, made of numbers, variables and operators; assignments in them
change the variables. A place where an expression cannot be read is a part of it, so that what
stands before that place is evaluated first; what need not be evaluated is read all the same.
-/

namespace HalBench.Shell

inductive ArithmeticFault where
  | expecting (what : String)
  | divisionByZero
  | illegalNumber (text : Text)
  deriving DecidableEq, Repr

def ArithmeticFault.message (expression : Text) : ArithmeticFault → Text
  | expecting what =>
    ofString ("arithmetic expression: expecting " ++ what ++ ": \"") ++ expression ++ ['"']
  | divisionByZero => ofString "arithmetic expression: division by zero: \"" ++ expression ++ ['"']
  | illegalNumber text => ofString "Illegal number: " ++ text

inductive Expression where
  | number (n : Int)
  | name (s : String)
  | unary (op : String) (e : Expression)
  | binary (op : String) (a b : Expression)
  | choose (test a b : Expression)
  | assign (name op : String) (e : Expression)
  | broken (e : Expression) (fault : ArithmeticFault)
  deriving Repr, Inhabited

namespace Arithmetic

def wrap (n : Int) : Int := (n + 9223372036854775808) % 18446744073709551616 - 9223372036854775808

def greatest : Int := 9223372036854775807

def least : Int := -9223372036854775808

inductive Piece where
  | number (n : Int)
  | name (s : String)
  | operator (s : String)
  | other
  deriving DecidableEq, Repr

def operators : List String :=
  ["<<=", ">>=", "==", "!=", "<=", ">=", "&&", "||", "<<", ">>", "+=", "-=", "*=", "/=", "%=",
    "&=", "|=", "^=", "=", "+", "-", "*", "/", "%", "<", ">", "!", "~", "&", "|", "^", "?", ":",
    "(", ")"]

def pieces : Nat → Text → List Piece
  | 0, _ => []
  | _, [] => []
  | fuel + 1, c :: r =>
    if c == ' ' || c == '\t' || c == '\n' then pieces fuel r
    else if c.isDigit then
      match integer? none (c :: r) with
      | some (n, rest) => .number (min n greatest) :: pieces fuel rest
      | none => [.other]
    else if isNameStart c then
      .name (String.ofList (c :: r.takeWhile isNameChar)) :: pieces fuel (r.dropWhile isNameChar)
    else
      match operators.find? fun op => op.toList.isPrefixOf (c :: r) with
      | some op => .operator op :: pieces fuel ((c :: r).drop op.length)
      | none => [.other]

def levels : List (List String) :=
  [["||"], ["&&"], ["|"], ["^"], ["&"], ["==", "!="], ["<", ">", "<=", ">="], ["<<", ">>"],
    ["+", "-"], ["*", "/", "%"]]

def assignments : List String :=
  ["=", "+=", "-=", "*=", "/=", "%=", "<<=", ">>=", "&=", "|=", "^="]

abbrev Parse := List Piece → Expression × List Piece

/-- A place where something is missing after an expression; what follows is not read. -/
def missing (e : Expression) (what : String) : Expression × List Piece :=
  (.broken e (.expecting what), [])

mutual

/-- A number, a name, an expression in parentheses, or a sign before one of these; `fuel` bounds
the calls, here and below. -/
def primary : Nat → Parse
  | fuel + 1, .operator op :: r =>
    if op = "(" then
      match whole fuel r with
      | (e, .operator ")" :: rest) => (e, rest)
      | (e, _) => missing e "')'"
    else if ["+", "-", "!", "~"].contains op then
      let (e, rest) := primary fuel r
      (.unary op e, rest)
    else missing (.number 0) "primary"
  | _, .number n :: r => (.number n, r)
  | _, .name s :: r => (.name s, r)
  | _, _ => missing (.number 0) "primary"

def joined : Nat → List (List String) → Parse
  | fuel + 1, level :: tighter, ps =>
    let (e, rest) := joined fuel tighter ps
    joinedRest fuel level tighter e rest
  | fuel + 1, [], ps => primary fuel ps
  | 0, _, _ => missing (.number 0) "primary"

def joinedRest : Nat → List String → List (List String) → Expression → Parse
  | fuel + 1, level, tighter, e, .operator op :: r =>
    if level.contains op then
      let (f, rest) := joined fuel tighter r
      joinedRest fuel level tighter (.binary op e f) rest
    else (e, .operator op :: r)
  | _, _, _, e, ps => (e, ps)

def whole : Nat → Parse
  | fuel + 1, .name s :: .operator op :: r =>
    if assignments.contains op then
      let (e, rest) := whole fuel r
      (.assign s ((op.dropEnd 1).toString) e, rest)
    else chosen fuel (.name s :: .operator op :: r)
  | fuel + 1, ps => chosen fuel ps
  | 0, _ => missing (.number 0) "primary"

def chosen : Nat → Parse
  | fuel + 1, ps =>
    let (test, rest) := joined fuel levels ps
    match rest with
    | .operator "?" :: r =>
      match whole fuel r with
      | (a, .operator ":" :: rest) =>
        let (b, rest) := chosen fuel rest
        (.choose test a b, rest)
      | (a, _) => missing (.binary "&&" test a) "':'"
    | rest => (test, rest)
  | 0, _ => missing (.number 0) "primary"

end

def parse (text : Text) : Expression :=
  let ps := pieces (text.length + 1) text
  match whole (20 * ps.length + 40) ps with
  | (e, []) => e
  | (e, _) => .broken e (.expecting "EOF")

def truth (b : Bool) : Int := if b then 1 else 0

def bits (n : Int) : BitVec 64 := BitVec.ofInt 64 n

def apply (op : String) (a b : Int) : Except ArithmeticFault Int :=
  match op with
  | "+" => .ok (wrap (a + b))
  | "-" => .ok (wrap (a - b))
  | "*" => .ok (wrap (a * b))
  | "/" => if b = 0 then .error .divisionByZero else .ok (wrap (a.tdiv b))
  | "%" => if b = 0 then .error .divisionByZero else .ok (a.tmod b)
  | "<<" => .ok (bits a <<< ((bits b).toNat % 64)).toInt
  | ">>" => .ok ((bits a).sshiftRight ((bits b).toNat % 64)).toInt
  | "<" => .ok (truth (a < b))
  | ">" => .ok (truth (a > b))
  | "<=" => .ok (truth (a ≤ b))
  | ">=" => .ok (truth (a ≥ b))
  | "==" => .ok (truth (a == b))
  | "!=" => .ok (truth (a != b))
  | "&" => .ok ((bits a &&& bits b).toInt)
  | "^" => .ok ((bits a ^^^ bits b).toInt)
  | "|" => .ok ((bits a ||| bits b).toInt)
  | _ => .ok b

/-- The number that the whole of a text denotes, with blanks around it; a text without any
character but blanks is zero. -/
def numberOf (text : Text) : Except ArithmeticFault Int :=
  match integer? none text with
  | some (n, rest) =>
    if rest.all isSpace && least ≤ n && n ≤ greatest then .ok n else .error (.illegalNumber text)
  | none => if text.all isSpace then .ok 0 else .error (.illegalNumber text)

/-- What expressions know and change: the values of variables, and what was assigned, the latest
first. -/
structure Scope where
  value? : String → Option Text
  assigned : List (String × Int) := []

def Scope.valueOf (s : Scope) (name : String) : Except ArithmeticFault Int :=
  match s.assigned.lookup name with
  | some n => .ok n
  | none => numberOf ((s.value? name).getD [])

/-- The value of an expression, and the scope that it leaves. One that need not be evaluated is
looked through for places where it cannot be read. -/
def eval (live : Bool) (s : Scope) : Expression → Except ArithmeticFault (Int × Scope)
  | .number n => .ok (n, s)
  | .name x => do
    if live then .ok (← s.valueOf x, s) else .ok (0, s)
  | .unary op e => do
    let (n, s) ← eval live s e
    match op with
    | "-" => .ok (wrap (-n), s)
    | "!" => .ok (truth (n == 0), s)
    | "~" => .ok (-n - 1, s)
    | _ => .ok (n, s)
  | .binary op a b => do
    let (m, s) ← eval live s a
    if op = "&&" then
      let (n, s) ← eval (live && m != 0) s b
      .ok (truth (m != 0 && n != 0), s)
    else if op = "||" then
      let (n, s) ← eval (live && m == 0) s b
      .ok (truth (m != 0 || n != 0), s)
    else
      let (n, s) ← eval live s b
      if live then .ok (← apply op m n, s) else .ok (n, s)
  | .choose test a b => do
    let (n, s) ← eval live s test
    let (x, s) ← eval (live && n != 0) s a
    let (y, s) ← eval (live && n == 0) s b
    .ok (if n != 0 then x else y, s)
  | .assign name op e => do
    let (n, s) ← eval live s e
    if !live then .ok (n, s)
    else
      let m ← if op.isEmpty then .ok n else apply op (← s.valueOf name) n
      .ok (m, { s with assigned := (name, m) :: s.assigned })
  | .broken e fault => do
    let _ ← eval live s e
    .error fault

/-- The value of a text as an expression, and what it assigns, the earliest first. -/
def evaluate (value? : String → Option Text) (text : Text) :
    Except ArithmeticFault (Int × List (String × Int)) := do
  let (n, s) ← eval true { value? } (parse text)
  .ok (n, s.assigned.reverse)

end Arithmetic

end HalBench.Shell
