import HalBench.Shell.Text
/-!
# The syntax of shell scripts

A word is made of parts: text, quoted or not, and what stands for the value of a parameter, the
output of commands or the value of an arithmetic expression. Commands are made of words.
-/

namespace HalBench.Shell

/-- What is made of the value of a parameter in braces. Where two forms differ in a colon, the one
with the colon takes an empty value for none. -/
inductive Treatment where
  | plain
  | length
  | otherwise (colon : Bool)
  | alternative (colon : Bool)
  | assigned (colon : Bool)
  | required (colon : Bool)
  | withoutFront (longest : Bool)
  | withoutBack (longest : Bool)
  | bad
  deriving DecidableEq, Repr

/-- What a redirection does; `document` gives the number of the text that is read. -/
inductive RedirectionKind where
  | input
  | output
  | clobber
  | append
  | inputOutput
  | copyOutput
  | copyInput
  | document (number : Nat)
  deriving DecidableEq, Repr

mutual

/-- A part of a word. A `mark` stands for quotes: where there is one, there is a field, even if it
is empty. -/
inductive Part where
  | text (quoted : Bool) (s : Text)
  | mark
  | parameter (quoted : Bool) (name : String) (treatment : Treatment) (word : List Part)
  | output (quoted : Bool) (body : Command)
  | arithmetic (quoted : Bool) (expression : List Part)

inductive Redirection where
  | of (descriptor : Nat) (kind : RedirectionKind) (target : List Part)

inductive Command where
  | nothing
  | simple (line : Nat) (assignments : List (String × List Part)) (words : List (List Part))
      (redirections : List Redirection)
  | pipeline (stages : List Command)
  | negated (body : Command)
  | both (first second : Command)
  | either (first second : Command)
  | sequence (first second : Command)
  | background (body : Command)
  | subshell (body : Command)
  | condition (test body otherwise : Command)
  | loop (untilTrue : Bool) (test body : Command)
  | each (line : Nat) (name : String) (words : Option (List (List Part))) (body : Command)
  | choice (line : Nat) (subject : List Part) (cases : List (List (List Part) × Command))
  | define (name : String) (body : Command)
  | redirected (line : Nat) (body : Command) (redirections : List Redirection)

end

instance : Inhabited Part := ⟨.mark⟩
instance : Inhabited Command := ⟨.nothing⟩

abbrev Word := List Part

namespace Redirection

def descriptor : Redirection → Nat
  | of d _ _ => d

end Redirection

namespace Word

/-- The text of a word that is not quoted and has no expansions; none for others. -/
def plain? : Word → Option Text
  | [] => some []
  | .text false s :: r => (plain? r).map (s ++ ·)
  | _ => none

/-- The text of a word whatever is quoted in it; expansions count as nothing. -/
def literal : Word → Text
  | [] => []
  | .text _ s :: r => s ++ literal r
  | _ :: r => literal r

def push (quoted : Bool) (s : Text) : Word → Word
  | .text q t :: r => if q = quoted then .text q (s ++ t) :: r else .text quoted s :: .text q t :: r
  | r => .text quoted s :: r

def assignment? : Word → Option (String × Word)
  | .text false s :: r =>
    let name := s.takeWhile (· != '=')
    match s.drop name.length with
    | _ :: value =>
      if isName name then
        some (String.ofList name, if value.isEmpty then r else .text false value :: r)
      else none
    | [] => none
  | _ => none

end Word

inductive SyntaxFault where
  | unterminatedQuote
  | unterminatedSubstitution
  | missing (mark : String)
  | badLoopVariable
  | badFunctionName
  | unexpected (token : String) (expected : Option String)
  deriving DecidableEq, Repr

def SyntaxFault.message : SyntaxFault → String
  | unterminatedQuote => "Syntax error: Unterminated quoted string"
  | unterminatedSubstitution => "Syntax error: EOF in backquote substitution"
  | missing mark => "Syntax error: Missing '" ++ mark ++ "'"
  | badLoopVariable => "Syntax error: Bad for loop variable"
  | badFunctionName => "Syntax error: Bad function name"
  | unexpected token expected =>
    "Syntax error: " ++ token ++ " unexpected"
      ++ (match expected with | some e => " (expecting " ++ e ++ ")" | none => "")

end HalBench.Shell
