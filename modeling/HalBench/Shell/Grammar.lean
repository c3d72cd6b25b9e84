import HalBench.Shell.Reader
/-!
# The grammar of scripts

Words with their quotes and substitutions, and commands: simple ones with redirections, pipelines,
lists, subshells, groups, conditions, loops, choices and functions. A script is read line by line,
so that the lines before a place that cannot be read are carried out. In every function `fuel`
bounds the depth of the calls.
-/

namespace HalBench.Shell.Grammar

open Parse (peek bump next)

/-- The commands that belong to the shell so closely that no function can have their names. -/
def specialCommands : List String :=
  [":", ".", "break", "continue", "eval", "exec", "exit", "export", "local", "readonly", "return",
    "set", "shift", "times", "trap", "unset"]

/-- Where a part of a word is read: bare, in braces, between double quotes, in braces between
double quotes, in an arithmetic expression with some open parentheses, or in a document. -/
inductive Context where
  | bare (ofMark : Bool)
  | braces
  | quotes (inBraces : Bool)
  | quotedBraces (inDocument toggled : Bool)
  | sum (depth : Nat)
  | document
  deriving DecidableEq, Repr

namespace Context

def isQuoted : Context → Bool
  | bare _ => false
  | braces => false
  | _ => true

def keepsBackslash (k : Context) (c : Char) : Bool :=
  match k with
  | bare _ => false
  | braces => false
  | quotes inBraces => !(['\\', '\x60', '$', '"'].contains c || (inBraces && c == '\x7d'))
  | quotedBraces .. => !(['\\', '\x60', '$', '"', '\x7d'].contains c)
  | sum _ => !(['\\', '\x60', '$', '"'].contains c)
  | document => !(['\\', '\x60', '$'].contains c)

def isMeta (c : Char) : Bool :=
  [' ', '\t', '\n', ';', '&', '|', '<', '>', '(', ')'].contains c

def endsAt : Context → Char → Bool
  | bare _, c => isMeta c
  | braces, c => c == '\x7d'
  | quotes _, c => c == '"'
  | quotedBraces _ toggled, c => c == '\x7d' && !toggled
  | sum _, _ => false
  | document, _ => false

/-- The fault of a script that ends here; none where it may. -/
def faultAtEnd? : Context → Option SyntaxFault
  | bare _ => none
  | document => none
  | braces => some (.missing "\x7d")
  | quotes _ => some .unterminatedQuote
  | quotedBraces inDocument _ => some (if inDocument then .missing "\x7d" else .unterminatedQuote)
  | sum _ => some (.missing "))")

/-- Where the word after the name of a parameter is read; patterns are read as if bare. -/
def inner (k : Context) (isPattern : Bool) : Context :=
  match k with
  | bare _ => braces
  | braces => braces
  | document => if isPattern then braces else quotedBraces true false
  | quotedBraces inDocument _ => if isPattern then braces else quotedBraces inDocument false
  | _ => if isPattern then braces else quotedBraces false false

end Context

def isOrdinary (c : Char) : Bool :=
  c.isAlphanum || ['_', '.', '/', '-', ':', ',', '=', '+', '@', '%'].contains c

def isSpecial (c : Char) : Bool :=
  c.isDigit || ['?', '$', '#', '@', '*', '!', '-'].contains c

def singleQuoted : Nat → Parse Text
  | 0 => Parse.fail .unterminatedQuote
  | fuel + 1 => do
    match ← next false with
    | none => Parse.fail .unterminatedQuote
    | some '\'' => return []
    | some c => return c :: (← singleQuoted fuel)

/-- The text up to a backquote, which is passed over; some backslashes go. -/
def backquoted (quoted : Bool) : Nat → Parse Text
  | 0 => Parse.fail .unterminatedSubstitution
  | fuel + 1 => do
    match ← next true with
    | none => Parse.fail .unterminatedSubstitution
    | some '\x60' => return []
    | some '\\' =>
      match ← next false with
      | none => Parse.fail .unterminatedSubstitution
      | some c =>
        let goes := ['\\', '\x60', '$'].contains c || (quoted && c == '"')
        let rest ← backquoted quoted fuel
        return if goes then c :: rest else '\\' :: c :: rest
    | some c => return c :: (← backquoted quoted fuel)

/-- The treatment that a character after the name of a parameter asks for; none for others. -/
def treatment? (colon : Bool) : Option Char → Option Treatment
  | some '\x7d' => some .plain
  | some '-' => some (.otherwise colon)
  | some '+' => some (.alternative colon)
  | some '=' => some (.assigned colon)
  | some '?' => some (.required colon)
  | _ => none

/-- The name and the treatment of a parameter in braces, and whether a word follows. -/
structure Braced where
  name : String
  treatment : Treatment
  hasWord : Bool := true

def treatment (name : String) : Parse Braced := do
  match ← peek true with
  | some ':' =>
    bump
    let c ← peek true
    match treatment? true c with
    | some .plain =>
      bump
      return ⟨name, .plain, true⟩
    | some t =>
      bump
      return ⟨name, t, true⟩
    | none =>
      bump
      return ⟨name, .bad, true⟩
  | some c =>
    bump
    if c == '%' || c == '#' then
      let longest := (← peek true) == some c
      if longest then bump
      return ⟨name, if c == '#' then .withoutFront longest else .withoutBack longest, true⟩
    else
      match treatment? false (some c) with
      | some .plain => return ⟨name, .plain, false⟩
      | some t => return ⟨name, t, true⟩
      | none => return ⟨name, .bad, true⟩
  | none => return ⟨name, .bad, true⟩

def nameOrDigits (fuel : Nat) : Parse (Option String) := do
  match ← peek true with
  | some c =>
    if isNameStart c then return some (String.ofList (← Parse.takeWhile isNameChar fuel))
    else if c.isDigit then return some (String.ofList (← Parse.takeWhile Char.isDigit fuel))
    else return none
  | none => return none

def lengthOf (name : String) : Parse Braced := do
  match ← peek true with
  | some '\x7d' => return ⟨name, .length, true⟩
  | _ => return ⟨name, .bad, true⟩

def braced (fuel : Nat) : Parse Braced := do
  match ← nameOrDigits fuel with
  | some name => treatment name
  | none =>
    match ← peek true with
    | some '\x7d' => return ⟨"", .bad, true⟩
    | some '#' =>
      bump
      match ← nameOrDigits fuel with
      | some name => lengthOf name
      | none =>
        let r ← get
        match r.rest with
        | c :: '\x7d' :: _ =>
          if c != '\x7d' && isSpecial c then
            bump
            lengthOf (String.singleton c)
          else treatment "#"
        | _ => treatment "#"
    | some c =>
      bump
      if isSpecial c then treatment (String.singleton c) else return ⟨"", .bad, true⟩
    | none => return ⟨"", .bad, true⟩

def isAllArguments : Word → Bool
  | [.parameter true "@" .plain []] => true
  | _ => false

def unexpected {α : Type} (t : Token) (expected : Option String) : Parse α :=
  Parse.fail (.unexpected t.name expected)

def giveBack (t : Token) : Parse Unit := modify fun r => { r with pushedBack := some t }

def sign (one : Char) (others : List Char) : Parse String := do
  match ← peek true with
  | some c =>
    if others.contains c then
      bump
      return String.ofList [one, c]
    else return String.singleton one
  | none => return String.singleton one

def redirectionSign (c : Char) : Parse String := do
  if c == '>' then sign '>' ['>', '|', '&']
  else
    let op ← sign '<' ['<', '&', '>']
    if op == "<<" && (← peek true) == some '-' then
      bump
      return "<<-"
    else return op

def redirectionKind? : String → Option RedirectionKind
  | "<" => some .input
  | "<>" => some .inputOutput
  | ">" => some .output
  | ">|" => some .clobber
  | ">>" => some .append
  | ">&" => some .copyOutput
  | "<&" => some .copyInput
  | _ => none

mutual

def parts (fuel : Nat) (k : Context) : Parse Word :=
  match fuel with
  | 0 => Parse.fail .unterminatedQuote
  | fuel + 1 => do
    match ← peek true with
    | none =>
      match k.faultAtEnd? with
      | some fault => Parse.fail fault
      | none => return []
    | some c =>
      if k.endsAt c then return []
      if isOrdinary c then
        let s ← Parse.takeWhile isOrdinary fuel
        return Word.push k.isQuoted s (← parts fuel k)
      bump
      match c with
      | '\\' =>
        match ← next false with
        | none => return Word.push true ['\\'] (← parts fuel k)
        | some d =>
          modify fun r => { r with quoted := true }
          let s := if k.keepsBackslash d then ['\\', d] else [d]
          return Word.push true s (← parts fuel k)
      | '\'' =>
        if k.isQuoted then return Word.push true ['\''] (← parts fuel k)
        else
          let s ← singleQuoted ((← get).rest.length + 1)
          modify fun r => { r with quoted := true }
          let rest ← parts fuel k
          return .mark :: (if s.isEmpty then rest else Word.push true s rest)
      | '"' =>
        match k with
        | .quotedBraces inDocument toggled =>
          modify fun r => { r with quoted := true }
          let rest ← parts fuel (.quotedBraces inDocument !toggled)
          return if inDocument then rest else .mark :: rest
        | .sum _ => return Word.push true ['"'] (← parts fuel k)
        | .document => return Word.push true ['"'] (← parts fuel k)
        | _ =>
          let inside ← parts fuel (.quotes (k == .braces))
          bump
          modify fun r => { r with quoted := true }
          let rest ← parts fuel k
          return (if isAllArguments inside then [] else [.mark]) ++ inside ++ rest
      | '\x60' =>
        if k == .bare true then
          modify fun r => { r with quoted := true }
          return Word.push false ['\x60'] (← parts fuel k)
        else
          let text ← backquoted k.isQuoted ((← get).rest.length + 1)
          let quoted := (← get).quoted
          let body ← Parse.inside text 1 (list fuel true)
          modify fun r => { r with quoted }
          return .output k.isQuoted body :: (← parts fuel k)
      | '$' =>
        let part ← if k == .bare true then pure none else dollar fuel k
        match part with
        | some p => return p :: (← parts fuel k)
        | none => return Word.push k.isQuoted ['$'] (← parts fuel k)
      | '(' =>
        match k with
        | .sum depth => return Word.push true ['('] (← parts fuel (.sum (depth + 1)))
        | _ => return Word.push k.isQuoted ['('] (← parts fuel k)
      | ')' =>
        match k with
        | .sum 0 =>
          if (← peek true) == some ')' then
            bump
            return []
          else return Word.push true [')'] (← parts fuel k)
        | .sum (depth + 1) => return Word.push true [')'] (← parts fuel (.sum depth))
        | _ => return Word.push k.isQuoted [')'] (← parts fuel k)
      | c => return Word.push k.isQuoted [c] (← parts fuel k)

/-- What a dollar sign before this place begins; none if it stands for itself. -/
def dollar (fuel : Nat) (k : Context) : Parse (Option Part) :=
  match fuel with
  | 0 => Parse.fail .unterminatedQuote
  | fuel + 1 => do
    match ← peek true with
    | some '(' =>
      bump
      if (← peek true) == some '(' then
        bump
        return some (.arithmetic k.isQuoted (← parts fuel (.sum 0)))
      else
        let before ← get
        set { before with requests := [] }
        let body ← list fuel true
        let t ← token fuel {}
        if !t.isSign ")" then unexpected t (some "\")\"")
        modify fun r => { r with requests := before.requests, quoted := before.quoted }
        return some (.output k.isQuoted body)
    | some '\x7b' =>
      bump
      let b ← braced ((← get).rest.length + 1)
      if !b.hasWord then return some (.parameter k.isQuoted b.name b.treatment [])
      let isPattern := match b.treatment with
        | .withoutFront _ => true
        | .withoutBack _ => true
        | _ => false
      let word ← parts fuel (k.inner isPattern)
      bump
      return some (.parameter k.isQuoted b.name b.treatment word)
    | some c =>
      if isNameStart c then
        let name ← Parse.takeWhile isNameChar ((← get).rest.length + 1)
        return some (.parameter k.isQuoted (String.ofList name) .plain [])
      else if isSpecial c then
        bump
        return some (.parameter k.isQuoted (String.singleton c) .plain [])
      else return none
    | none => return none

def rawToken (fuel : Nat) (ofMark : Bool) : Parse Token :=
  match fuel with
  | 0 => return .endOfFile
  | fuel + 1 => do
    match (← get).pushedBack with
    | some t =>
      modify fun r => { r with pushedBack := none }
      return t
    | none =>
      match ← peek true with
      | none => return .endOfFile
      | some c =>
        if c == ' ' || c == '\t' then
          bump
          rawToken fuel ofMark
        else if c == '#' then
          modify fun r => { r with rest := r.rest.dropWhile (· != '\n') }
          rawToken fuel ofMark
        else if c == '\n' then
          bump
          return .newline
        else if c == '&' || c == '|' || c == ';' then
          bump
          return .sign (← sign c [c])
        else if c == '(' || c == ')' then
          bump
          return .sign (String.singleton c)
        else
          modify fun r => { r with quoted := false }
          let w ← parts fuel (.bare ofMark)
          let quoted := (← get).quoted
          let after ← peek true
          let digit? : Option (Option Nat) := match w with
            | [] => some none
            | [.text false [d]] => if d.isDigit then some (some (d.toNat - 48)) else none
            | _ => none
          match after, digit?, quoted with
          | some '<', some n, false =>
            bump
            return .redirection n (← redirectionSign '<')
          | some '>', some n, false =>
            bump
            return .redirection n (← redirectionSign '>')
          | _, _, _ => return .word w quoted

def readDocuments (fuel : Nat) : Parse Unit :=
  match fuel with
  | 0 => return ()
  | fuel + 1 => do
    let r ← get
    match r.requests with
    | [] => return ()
    | q :: later =>
      let (body, after) := documentLines q false (r.rest.length + 1) r.rest
      let passed := r.rest.count '\n' - after.count '\n'
      set { r with rest := after, line := r.line + passed, requests := [] }
      let w ← if q.quoted then pure [.text true body]
        else Parse.inside body r.line (parts fuel .document)
      modify fun s => { s with documents := (q.number, w) :: s.documents, requests := later }
      readDocuments fuel

def token (fuel : Nat) (look : Look) : Parse Token :=
  match fuel with
  | 0 => return .endOfFile
  | fuel + 1 => do
    let t ← rawToken fuel false
    let r ← get
    set { r with aliasNext := false }
    match t with
    | .newline =>
      if look.newlines then
        readDocuments fuel
        token fuel look
      else return t
    | .word w false =>
      match w.plain? with
      | none => return t
      | some s =>
        let name := String.ofList s
        if look.keywords && Token.reserved.contains name then return .keyword name
        else if look.aliases || r.aliasNext then
          match r.alias? s with
          | some value =>
            if !value.isEmpty then modify fun r => r.expand name value
            token fuel { look with aliases := true }
          | none => return t
        else return t
    | t => return t

/-- A list of commands, which may be empty if so told. -/
def list (fuel : Nat) (mayBeEmpty : Bool) : Parse Command :=
  match fuel with
  | 0 => Parse.fail .unterminatedQuote
  | fuel + 1 => do
    let t ← token fuel .commandBelow
    giveBack t
    if mayBeEmpty && t.endsList then return .nothing
    match t with
    | .endOfFile =>
      readDocuments fuel
      return .nothing
    | _ =>
      let c ← andOr fuel {}
      let t ← token fuel {}
      let c := if t.isSign "&" then .background c else c
      let more : Parse Command := do
        match ← list fuel true with
        | .nothing => return c
        | later => return .sequence c later
      match t with
      | .endOfFile =>
        readDocuments fuel
        giveBack t
        return c
      | .newline =>
        giveBack t
        more
      | t =>
        if t.isSign "&" || t.isSign ";" then more
        else
          giveBack t
          return c

def andOr (fuel : Nat) (look : Look) : Parse Command :=
  match fuel with
  | 0 => Parse.fail .unterminatedQuote
  | fuel + 1 => do
    let first ← pipeline fuel look
    andOrRest fuel first

def andOrRest (fuel : Nat) (first : Command) : Parse Command :=
  match fuel with
  | 0 => return first
  | fuel + 1 => do
    let t ← token fuel {}
    if t.isSign "&&" then
      andOrRest fuel (.both first (← pipeline fuel .commandBelow))
    else if t.isSign "||" then
      andOrRest fuel (.either first (← pipeline fuel .commandBelow))
    else
      giveBack t
      return first

def pipeline (fuel : Nat) (look : Look) : Parse Command :=
  match fuel with
  | 0 => Parse.fail .unterminatedQuote
  | fuel + 1 => do
    let t ← token fuel look
    let negated := t.isKeyword "!"
    if !negated then giveBack t
    let first ← command fuel (if negated then .command else {})
    let later ← stages fuel
    let c := if later.isEmpty then first else .pipeline (first :: later)
    return if negated then .negated c else c

def stages (fuel : Nat) : Parse (List Command) :=
  match fuel with
  | 0 => return []
  | fuel + 1 => do
    let t ← token fuel {}
    if t.isSign "|" then
      let c ← command fuel .commandBelow
      return c :: (← stages fuel)
    else
      giveBack t
      return []

def command (fuel : Nat) (look : Look) : Parse Command :=
  match fuel with
  | 0 => Parse.fail .unterminatedQuote
  | fuel + 1 => do
    let line := (← get).line
    let t ← token fuel look
    let expect (t : Token) (s : String) : Parse Unit :=
      if t.isKeyword s || t.isSign s then return ()
      else unexpected t (some ("\"" ++ s ++ "\""))
    let closed (c : Command) (ending : String) : Parse Command := do
      expect (← token fuel {}) ending
      redirected fuel line c
    match t with
    | .keyword "if" => closed (← conditionRest fuel) "fi"
    | .keyword "while" | .keyword "until" =>
      let test ← list fuel false
      expect (← token fuel {}) "do"
      let body ← list fuel false
      closed (.loop (t.isKeyword "until") test body) "done"
    | .keyword "for" =>
      let name ← match ← token fuel {} with
        | .word w false =>
          match w.plain? with
          | some s => if isName s then pure (String.ofList s) else Parse.fail .badLoopVariable
          | none => Parse.fail .badLoopVariable
        | _ => Parse.fail .badLoopVariable
      let t ← token fuel .commandBelow
      let words ← if t.isKeyword "in" then
          let (words, t) ← wordList fuel
          match t with
          | .newline => pure (some words)
          | t => if t.isSign ";" then pure (some words) else unexpected t none
        else do
          if !t.isSign ";" then giveBack t
          pure none
      expect (← token fuel .commandBelow) "do"
      let body ← list fuel false
      closed (.each line name words body) "done"
    | .keyword "case" =>
      let subject ← match ← token fuel {} with
        | .word w _ => pure w
        | t => unexpected t (some "word")
      expect (← token fuel .commandBelow) "in"
      let cases ← caseRest fuel
      redirected fuel line (.choice line subject cases)
    | .sign "(" => closed (.subshell (← list fuel false)) ")"
    | .keyword "\x7b" => closed (← list fuel false) "\x7d"
    | .word .. =>
      giveBack t
      simple fuel line true [] [] []
    | .redirection .. =>
      giveBack t
      simple fuel line true [] [] []
    | t => unexpected t none

def conditionRest (fuel : Nat) : Parse Command :=
  match fuel with
  | 0 => Parse.fail .unterminatedQuote
  | fuel + 1 => do
    let test ← list fuel false
    let t ← token fuel {}
    if !t.isKeyword "then" then unexpected t (some "\"then\"")
    let body ← list fuel false
    let t ← token fuel {}
    if t.isKeyword "elif" then return .condition test body (← conditionRest fuel)
    else if t.isKeyword "else" then return .condition test body (← list fuel false)
    else
      giveBack t
      return .condition test body .nothing

def wordList (fuel : Nat) : Parse (List Word × Token) :=
  match fuel with
  | 0 => return ([], .endOfFile)
  | fuel + 1 => do
    match ← token fuel {} with
    | .word w _ =>
      let (words, t) ← wordList fuel
      return (w :: words, t)
    | t => return ([], t)

def patterns (fuel : Nat) (t : Token) : Parse (List Word) :=
  match fuel with
  | 0 => return []
  | fuel + 1 => do
    let w := match t with
      | .word w _ => w
      | .keyword s => [.text false s.toList]
      | _ => []
    let t ← token fuel {}
    if t.isSign "|" then return w :: (← patterns fuel (← token fuel {}))
    else if t.isSign ")" then return [w]
    else unexpected t (some "\")\"")

def caseRest (fuel : Nat) : Parse (List (List Word × Command)) :=
  match fuel with
  | 0 => return []
  | fuel + 1 => do
    let look : Look := { newlines := true, keywords := true }
    let t ← token fuel look
    if t.isKeyword "esac" then return []
    let t ← if t.isSign "(" then token fuel {} else pure t
    let ps ← patterns fuel t
    let body ← list fuel true
    let t ← token fuel look
    if t.isKeyword "esac" then return [(ps, body)]
    else if t.isSign ";;" then return (ps, body) :: (← caseRest fuel)
    else unexpected t (some "\";;\"")

def target (fuel : Nat) (descriptor : Option Nat) (op : String) : Parse Redirection :=
  match fuel with
  | 0 => Parse.fail .unterminatedQuote
  | fuel + 1 => do
    let d := descriptor.getD (if op.startsWith "<" then 0 else 1)
    match redirectionKind? op with
    | some kind =>
      match ← token fuel {} with
      | .word w _ => return .of d kind w
      | t => unexpected t none
    | none =>
      match ← rawToken fuel true with
      | .word w quoted =>
        let r ← get
        let q : Request := ⟨r.nextDocument, w.literal, quoted, op == "<<-"⟩
        set { r with requests := r.requests ++ [q], nextDocument := r.nextDocument + 1 }
        return .of d (.document q.number) []
      | t => unexpected t none

def redirections (fuel : Nat) (look : Look) : Parse (List Redirection) :=
  match fuel with
  | 0 => return []
  | fuel + 1 => do
    match ← token fuel look with
    | .redirection d op =>
      let r ← target fuel d op
      return r :: (← redirections fuel {})
    | t =>
      giveBack t
      return []

def redirected (fuel : Nat) (line : Nat) (c : Command) : Parse Command :=
  match fuel with
  | 0 => return c
  | fuel + 1 => do
    let rs ← redirections fuel .command
    return if rs.isEmpty then c else .redirected line c rs

/-- A simple command or the definition of a function, of which some is read already. -/
def simple (fuel : Nat) (line : Nat) (mayAssign : Bool) (assignments : List (String × Word))
    (words : List Word) (rs : List Redirection) : Parse Command :=
  match fuel with
  | 0 => return .nothing
  | fuel + 1 => do
    let t ← token fuel { aliases := mayAssign }
    let finished : Parse Command := do
      giveBack t
      return .simple line assignments words rs
    match t with
    | .word w _ =>
      match if mayAssign then w.assignment? else none with
      | some a => simple fuel line true (assignments ++ [a]) words rs
      | none => simple fuel line false assignments (words ++ [w]) rs
    | .redirection d op =>
      let r ← target fuel d op
      simple fuel line mayAssign assignments words (rs ++ [r])
    | .sign "(" =>
      match assignments, words, rs with
      | [], [name], [] =>
        let t ← token fuel {}
        if !t.isSign ")" then unexpected t (some "\")\"")
        match name.plain? with
        | some s =>
          let name := String.ofList s
          if isName s && !specialCommands.contains name then
            return .define name (← command fuel .commandBelow)
          else Parse.fail .badFunctionName
        | none => Parse.fail .badFunctionName
      | _, _, _ => finished
    | _ => finished

end

/-- The command of the next line; none at the end of the script. -/
def line (fuel : Nat) (read : Option Command) : Parse (Option Command) :=
  match fuel with
  | 0 => return read
  | fuel + 1 => do
    let t ← token fuel .command
    match t with
    | .newline =>
      readDocuments fuel
      return some (read.getD .nothing)
    | .endOfFile =>
      readDocuments fuel
      giveBack t
      return read
    | t =>
      giveBack t
      let c ← andOr fuel {}
      let t ← token fuel {}
      let c := if t.isSign "&" then .background c else c
      let c := match read with
        | some before => .sequence before c
        | none => c
      match t with
      | .endOfFile =>
        readDocuments fuel
        giveBack t
        return some c
      | .newline =>
        giveBack t
        line fuel (some c)
      | t => if t.isSign "&" || t.isSign ";" then line fuel (some c) else unexpected t none

def maxDepth : Nat := 100000

/-- The command of the next line of a script, with the place after it; none at the end. -/
def nextLine (r : Reader) : Except Fault (Option Command × Reader) := (line maxDepth none).run r

end HalBench.Shell.Grammar
