import HalBench.Shell.Utility.Records.Token
/-!
# Reading rules for records

The tokens of a program are read by descent, one function for each level of expressions.
-/

namespace HalBench.Shell.Records

/-- A place in reading a program: the tokens that are left, how many parentheses, braces and loops
are open, and whether a function or a rule without a record is read. -/
structure Place where
  rest : List Lexeme
  parentheses : Nat := 0
  braces : Nat := 0
  loops : Nat := 0
  inFunction : Bool := false
  isApart : Bool := false
  program : Program := {}
  calls : List (String × Nat × Nat) := []

abbrev Parse := StateT Place (Except Fault)

/-- How an expression is read: whether a greater sign and a bar are left for the output, and whether
the word before the name of a table is left for a loop. -/
structure Reading where
  leavesGreater : Bool := false
  leavesIn : Bool := false

namespace Parse

def peek : Parse Token := return ((← get).rest.head?.map (·.token)).getD .finish

def line : Parse Nat := return ((← get).rest.head?.map (·.line)).getD 1

def peekSecond : Parse Token := return (((← get).rest[1]?).map (·.token)).getD .finish

def skip : Parse Unit := modify fun p => { p with rest := p.rest.tail }

def failAt {α : Type} (line : Nat) (text : String) : Parse α :=
  throw ["line " ++ toString line ++ ": " ++ text]

def fail {α : Type} : Parse α := do
  let p ← get
  let l := p.rest.headD ⟨.finish, 1, []⟩
  let written := match l.token with
    | .newline => "end of line"
    | .finish => "end of file"
    | _ => String.ofList l.written
  let near := "line " ++ toString l.line ++ ": syntax error at or near "
  if l.token == .finish && 0 < p.braces then failAt l.line "missing \x7d near end of file"
  else if 0 < p.parentheses && (l.token.isSign "\x7d" || l.token == .newline) then
    failAt l.line ("missing ) near " ++ written)
  else if l.token.isSign ")" && p.parentheses = 0 then failAt l.line "extra ')'"
  else if l.token.isSign "\x7d" && p.braces = 0 then
    throw ["line " ++ toString l.line ++ ": extra '\x7d'", near ++ "end of line"]
  else throw [near ++ written]

def demand (s : String) : Parse Unit := do
  if (← peek).isSign s then
    skip
    modify fun p =>
      if s == "(" then { p with parentheses := p.parentheses + 1 }
      else if s == ")" then { p with parentheses := p.parentheses - 1 }
      else p
  else fail

def accept (s : String) : Parse Bool := do
  if (← peek).isSign s then
    skip
    return true
  else return false

def newlines : Nat → Parse Unit
  | 0 => return ()
  | fuel + 1 => do
    if (← peek) == .newline then
      skip
      newlines fuel

def allNewlines : Parse Unit := do
  newlines (← get).rest.length

def separators : Nat → Parse Unit
  | 0 => return ()
  | fuel + 1 => do
    let t ← peek
    if t == .newline || t.isSign ";" then
      skip
      separators fuel

def checkCount (line count least most : Nat) (name : String) : Parse Unit := do
  if count < least || most < count then
    failAt line ("wrong number of arguments in call to " ++ name)

end Parse

open HalBench.Shell.Records.Parse

def isPlace : Expr → Bool
  | .name _ => true
  | .field _ => true
  | .element .. => true
  | _ => false

/-- The operator in an assignment with a sign; none inside if there is none. -/
def assignment? : Token → Option (Option Operator)
  | .sign "=" => some none
  | .sign "+=" => some (some .add)
  | .sign "-=" => some (some .subtract)
  | .sign "*=" => some (some .multiply)
  | .sign "/=" => some (some .divide)
  | .sign "%=" => some (some .remainder)
  | .sign "^=" => some (some .power)
  | _ => none

def comparison? (k : Reading) : Token → Option Comparison
  | .sign "<" => some .less
  | .sign "<=" => some .atMost
  | .sign "==" => some .equal
  | .sign "!=" => some .different
  | .sign ">=" => some .atLeast
  | .sign ">" => if k.leavesGreater then none else some .greater
  | _ => none

def startsOperand : Token → Bool
  | .number _ => true
  | .text _ => true
  | .pattern _ => true
  | .name _ => true
  | .callee _ => true
  | .known _ => true
  | .sign s => ["$", "!", "(", "++", "--"].contains s
  | _ => false

def compile (line : Nat) (s : Text) : Parse Regex :=
  match Regex.parse .extendedSearch s with
  | .ok (r, _, _) => return r
  | .error fault =>
    throw ["line " ++ toString line ++ ": regular expression compile failed ("
      ++ (if fault.message == "Unmatched ( or \\(" then "missing ')'" else fault.message) ++ ")\n"
      ++ String.ofList s]

mutual

def expr (fuel : Nat) (k : Reading) : Parse Expr :=
  match fuel with
  | 0 => fail
  | fuel + 1 => do
    let left ← either fuel k
    let t ← peek
    match assignment? t, isPlace left with
    | some op, true =>
      skip
      allNewlines
      return .assign op left (← expr fuel k)
    | _, _ =>
      if t.isSign "?" then
        skip
        allNewlines
        let first ← expr fuel k
        allNewlines
        demand ":"
        allNewlines
        return .choice left first (← expr fuel k)
      else return left

def either (fuel : Nat) (k : Reading) : Parse Expr :=
  match fuel with
  | 0 => fail
  | fuel + 1 => do
    let left ← both fuel k
    if ← accept "||" then
      allNewlines
      return .either left (← either fuel k)
    else return left

def both (fuel : Nat) (k : Reading) : Parse Expr :=
  match fuel with
  | 0 => fail
  | fuel + 1 => do
    let left ← membership fuel k (← matching fuel k (← compared fuel k))
    if ← accept "&&" then
      allNewlines
      return .both left (← both fuel k)
    else return left

def membership (fuel : Nat) (k : Reading) (left : Expr) : Parse Expr :=
  match fuel with
  | 0 => fail
  | fuel + 1 => do
    if (← peek).isWord "in" && !k.leavesIn then
      skip
      match ← peek with
      | .name table =>
        skip
        membership fuel k (.has [left] table)
      | _ => fail
    else return left

def matching (fuel : Nat) (k : Reading) (left : Expr) : Parse Expr :=
  match fuel with
  | 0 => fail
  | fuel + 1 => do
    let t ← peek
    if t.isSign "~" || t.isSign "!~" then
      skip
      let right ← compared fuel k
      matching fuel k (.matching (t.isSign "~") left right)
    else return left

def compared (fuel : Nat) (k : Reading) : Parse Expr :=
  match fuel with
  | 0 => fail
  | fuel + 1 => do comparedFrom fuel k (← joined fuel k (← sum fuel k))

def comparedFrom (fuel : Nat) (k : Reading) (left : Expr) : Parse Expr :=
  match fuel with
  | 0 => fail
  | fuel + 1 => do
    match comparison? k (← peek) with
    | some c =>
      skip
      let right ← joined fuel k (← sum fuel k)
      comparedFrom fuel k (.comparison c left right)
    | none => return left

def piped (fuel : Nat) (k : Reading) (left : Expr) : Parse Expr :=
  match fuel with
  | 0 => fail
  | fuel + 1 => do
    if !k.leavesGreater && (← peek).isSign "|" && (← peekSecond).isWord "getline" then
      skip
      skip
      piped fuel k (.commandLine left (← target fuel))
    else return left

def joined (fuel : Nat) (k : Reading) (left : Expr) : Parse Expr :=
  match fuel with
  | 0 => fail
  | fuel + 1 => do
    if startsOperand (← peek) then
      let right ← sum fuel k
      joined fuel k (.joined left right)
    else return left

def sum (fuel : Nat) (k : Reading) : Parse Expr :=
  match fuel with
  | 0 => fail
  | fuel + 1 => do sumFrom fuel k (← product fuel k)

def sumFrom (fuel : Nat) (k : Reading) (left : Expr) : Parse Expr :=
  match fuel with
  | 0 => fail
  | fuel + 1 => do
    match ← peek with
    | .sign "+" =>
      skip
      sumFrom fuel k (.computed .add left (← product fuel k))
    | .sign "-" =>
      skip
      sumFrom fuel k (.computed .subtract left (← product fuel k))
    | _ => return left

def product (fuel : Nat) (k : Reading) : Parse Expr :=
  match fuel with
  | 0 => fail
  | fuel + 1 => do productFrom fuel k (← signed fuel k)

def productFrom (fuel : Nat) (k : Reading) (left : Expr) : Parse Expr :=
  match fuel with
  | 0 => fail
  | fuel + 1 => do
    match ← peek with
    | .sign "*" =>
      skip
      productFrom fuel k (.computed .multiply left (← signed fuel k))
    | .sign "/" =>
      skip
      productFrom fuel k (.computed .divide left (← signed fuel k))
    | .sign "%" =>
      skip
      productFrom fuel k (.computed .remainder left (← signed fuel k))
    | _ => return left

def signed (fuel : Nat) (k : Reading) : Parse Expr :=
  match fuel with
  | 0 => fail
  | fuel + 1 => do
    match ← peek with
    | .sign "!" =>
      skip
      return .negation (← signed fuel k)
    | .sign "-" =>
      skip
      return .negative (← signed fuel k)
    | .sign "+" =>
      skip
      return .positive (← signed fuel k)
    | _ => power fuel k

def power (fuel : Nat) (k : Reading) : Parse Expr :=
  match fuel with
  | 0 => fail
  | fuel + 1 => do
    let base ← counted fuel k
    if ← accept "^" then
      let exponent ← match ← peek with
        | .sign "-" => do
          skip
          pure (Expr.negative (← power fuel k))
        | _ => power fuel k
      return .computed .power base exponent
    else return base

/-- Reads an operand that may be counted up or down after it is used, or is a command of which a
line is read. -/
def counted (fuel : Nat) (k : Reading) : Parse Expr :=
  match fuel with
  | 0 => fail
  | fuel + 1 => do
    let e ← operand fuel k
    let t ← peek
    if isPlace e && (t.isSign "++" || t.isSign "--") then
      skip
      piped fuel k (.counted false (t.isSign "++") e)
    else piped fuel k e

def target (fuel : Nat) : Parse (Option Expr) :=
  match fuel with
  | 0 => fail
  | fuel + 1 => do
    match ← peek with
    | .name _ => return some (← operand fuel {})
    | .sign "$" => return some (← operand fuel {})
    | _ => return none

def operand (fuel : Nat) (k : Reading) : Parse Expr :=
  match fuel with
  | 0 => fail
  | fuel + 1 => do
    let line ← line
    match ← peek with
    | .number x =>
      skip
      return .number x
    | .text s =>
      skip
      return .text s
    | .pattern s =>
      skip
      return .pattern (← compile line s)
    | .name x =>
      skip
      if ← accept "[" then
        let index ← items fuel {}
        demand "]"
        return .element x index
      else return .name x
    | .callee f =>
      skip
      let arguments ← called fuel
      modify fun p => { p with calls := (f, arguments.length, line) :: p.calls }
      return .called f arguments
    | .known f =>
      skip
      let (least, most) := (Token.functions.lookup f).getD (0, 0)
      if (← peek).isSign "(" then
        let arguments ← called fuel
        checkCount line arguments.length least most f
        return .known f arguments
      else if f == "length" then return .known f []
      else fail
    | .sign "$" =>
      skip
      match ← peek with
      | .sign "-" =>
        skip
        return .field (.negative (← operand fuel k))
      | _ =>
        let e ← operand fuel k
        let t ← peek
        let isCounted := match e with
          | .name x => x == "NF" && (t.isSign "++" || t.isSign "--")
          | .field _ => t.isSign "++" || t.isSign "--"
          | _ => false
        if isCounted then
          skip
          return .field (.counted false (t.isSign "++") e)
        else return .field e
    | .sign "++" =>
      skip
      let e ← operand fuel k
      if isPlace e then return .counted true true e else fail
    | .sign "--" =>
      skip
      let e ← operand fuel k
      if isPlace e then return .counted true false e else fail
    | .sign "(" =>
      demand "("
      let es ← items fuel {}
      demand ")"
      match es with
      | [e] => return e
      | es =>
        if (← peek).isWord "in" then
          skip
          match ← peek with
          | .name table =>
            skip
            return .has es table
          | _ => fail
        else fail
    | .word "getline" =>
      skip
      let place ← target fuel
      if ← accept "<" then return .fileLine (← operand fuel k) place
      else return .nextLine place
    | _ => fail

def called (fuel : Nat) : Parse (List Expr) :=
  match fuel with
  | 0 => fail
  | fuel + 1 => do
    demand "("
    if (← peek).isSign ")" then
      demand ")"
      return []
    let es ← items fuel {}
    demand ")"
    return es

def items (fuel : Nat) (k : Reading) : Parse (List Expr) :=
  match fuel with
  | 0 => fail
  | fuel + 1 => do
    let e ← expr fuel k
    if ← accept "," then
      allNewlines
      return e :: (← items fuel k)
    else return [e]

end

namespace Parse

def enough : Parse Nat := return 40 * ((← get).rest.length + 2)

def whole : Parse Expr := do expr (← enough) {}

def destination : Parse Destination := do
  let fuel ← enough
  let k : Reading := { leavesGreater := true }
  let place : Parse Expr := expr fuel k
  if ← accept ">" then return .file false (← place)
  else if ← accept ">>" then return .file true (← place)
  else if ← accept "|" then return .command (← place)
  else return .plain

def endsItems (t : Token) : Bool :=
  t == .newline || t == .finish || [";", "\x7d", ">", ">>", "|"].any t.isSign

def printed : Parse (List Expr) := do
  let fuel ← enough
  if endsItems (← peek) then return []
  let before ← get
  let inside ← if (← peek).isSign "(" then do
      let es ← called fuel
      pure (if endsItems (← peek) then some es else none)
    else pure none
  match inside with
  | some es => return es
  | none =>
    set before
    items fuel { leavesGreater := true }

def terminator : Parse Unit := do
  let t ← peek
  if t == .newline || t.isSign ";" then skip
  else if t.isSign "\x7d" then return ()
  else fail

def index? : Parse (Option (List Expr)) := do
  let fuel ← enough
  if ← accept "[" then
    let index ← items fuel {}
    demand "]"
    return some index
  else return none

def value? : Parse (Option Expr) := do
  if endsItems (← peek) then return none else return some (← whole)

def simple : Parse Statement := do
  let l ← line
  let p ← get
  match ← peek with
  | .word "print" =>
    skip
    let es ← printed
    return .print es (← destination)
  | .word "printf" =>
    skip
    let es ← printed
    if es.isEmpty then fail else return .printf es (← destination)
  | .word "delete" =>
    skip
    match ← peek with
    | .name table =>
      skip
      return .delete table (← index?)
    | _ => fail
  | .word "next" =>
    skip
    if p.isApart then failAt l "improper use of next" else return .next
  | .word "exit" =>
    skip
    return .exit (← value?)
  | .word "return" =>
    skip
    if p.inFunction then return .result (← value?) else failAt l "return outside function body"
  | .word "break" =>
    skip
    if p.loops = 0 then failAt l "break statement outside of loop" else return .leave
  | .word "continue" =>
    skip
    if p.loops = 0 then failAt l "continue statement outside of loop" else return .again
  | _ => return .value (← whole)

def inLoop (body : Parse Statement) : Parse Statement := do
  modify fun p => { p with loops := p.loops + 1 }
  let s ← body
  modify fun p => { p with loops := p.loops - 1 }
  return s

/-- A simple statement in the head of a loop, if there is one before a sign. -/
def simpleBefore (s : String) : Parse Statement := do
  let found ← if (← peek).isSign s then pure .nothing else simple
  return found

mutual

def statement (fuel : Nat) : Parse Statement :=
  match fuel with
  | 0 => fail
  | fuel + 1 => do
    let tested : Parse Expr := do
      demand "("
      let e ← whole
      demand ")"
      return e
    match ← peek with
    | .sign "\x7b" => block fuel
    | .sign ";" =>
      skip
      return .nothing
    | .word "if" =>
      skip
      let test ← tested
      allNewlines
      let first ← statement fuel
      let before ← get
      separators (← get).rest.length
      if (← peek).isWord "else" then
        skip
        allNewlines
        if (← peek).isSign "\x7d" then return .branch test first .nothing
        else return .branch test first (← statement fuel)
      else
        set before
        return .branch test first .nothing
    | .word "while" =>
      skip
      let test ← tested
      let body ← inLoop do
        allNewlines
        statement fuel
      return .loop (some test) .nothing body
    | .word "do" =>
      skip
      let body ← inLoop do
        allNewlines
        statement fuel
      separators (← get).rest.length
      if (← peek).isWord "while" then
        skip
        let test ← tested
        terminator
        return .loopOnce body test
      else fail
    | .word "for" =>
      skip
      demand "("
      let ahead : List Token := (← get).rest.map (·.token)
      match ahead with
      | .name x :: .word "in" :: .name table :: .sign ")" :: _ =>
        skip
        skip
        skip
        demand ")"
        let body ← inLoop do
          allNewlines
          statement fuel
        return .each x table body
      | _ =>
        let first ← simpleBefore ";"
        demand ";"
        allNewlines
        let test ← if (← peek).isSign ";" then pure none else do pure (some (← whole))
        demand ";"
        allNewlines
        let after ← simpleBefore ")"
        demand ")"
        let body ← inLoop do
          allNewlines
          statement fuel
        return .block [first, .loop test after body]
    | _ =>
      let s ← simple
      terminator
      return s

def block (fuel : Nat) : Parse Statement :=
  match fuel with
  | 0 => fail
  | fuel + 1 => do
    demand "\x7b"
    modify fun p => { p with braces := p.braces + 1 }
    let body ← statements fuel
    demand "\x7d"
    modify fun p => { p with braces := p.braces - 1 }
    return .block body

def statements (fuel : Nat) : Parse (List Statement) :=
  match fuel with
  | 0 => fail
  | fuel + 1 => do
    separators (← get).rest.length
    let t ← peek
    if t.isSign "\x7d" || t == .finish then return []
    let s ← statement fuel
    return s :: (← statements fuel)

end

def parameters : Nat → Parse (List String)
  | 0 => fail
  | fuel + 1 => do
    match ← peek with
    | .name x =>
      skip
      if ← accept "," then
        allNewlines
        return x :: (← parameters fuel)
      else return [x]
    | .sign ")" => return []
    | _ => fail

def body (isApart inFunction : Bool) : Parse Statement := do
  modify fun p => { p with isApart, inFunction, loops := 0 }
  block (← enough)

def function : Parse Unit := do
  let name ← match ← peek with
    | .callee f => do
      skip
      pure f
    | .name f => do
      skip
      pure f
    | _ => fail
  demand "("
  let parameters ← parameters ((← get).rest.length + 1)
  demand ")"
  allNewlines
  let body ← body false true
  modify fun p =>
    { p with program := { p.program with
        functions := p.program.functions ++ [(name, ⟨parameters, body⟩)] } }

def part : Parse Unit := do
  let add (r : Rule) : Parse Unit :=
    modify fun p => { p with program := { p.program with rules := p.program.rules ++ [r] } }
  match ← peek with
  | .word "function" =>
    skip
    function
  | .word "BEGIN" =>
    skip
    add ⟨.start, some (← body true false)⟩
  | .word "END" =>
    skip
    add ⟨.finish, some (← body true false)⟩
  | .sign "\x7b" => add ⟨.every, some (← body false false)⟩
  | _ =>
    let first ← whole
    let choice ← if ← accept "," then do
        allNewlines
        pure (Choice.range first (← whole))
      else pure (Choice.test first)
    if (← peek).isSign "\x7b" then add ⟨choice, some (← body false false)⟩
    else
      let t ← peek
      if t == .newline || t == .finish || t.isSign ";" then add ⟨choice, none⟩ else fail

def parts : Nat → Parse Unit
  | 0 => return ()
  | fuel + 1 => do
    separators (← get).rest.length
    if (← peek) != .finish then
      part
      parts fuel

end Parse

/-- What is wrong with the first call that is, given the last line of the program. -/
def callFault? (p : Program) (last : Nat) : List (String × Nat × Nat) → Option Fault
  | [] => none
  | (f, count, line) :: rest =>
    match p.functions.lookup f with
    | none => some ["line " ++ toString last ++ ": function " ++ f ++ " never defined"]
    | some g =>
      if g.parameters.length < count then
        some ["line " ++ toString line ++ ": too many arguments in call to " ++ f]
      else callFault? p last rest

def Program.ofText (text : Text) : Except Fault Program := do
  let text := text ++ ['\n']
  let ls ← lexemes (text.length + 1) 1 .newline text
  let (_, p) ← (Parse.parts (ls.length + 1)).run { rest := ls }
  match callFault? p.program ((text.count '\n') + 1) p.calls.reverse with
  | some fault => throw fault
  | none => return p.program

end HalBench.Shell.Records
