import HalBench.Json.Tree
import HalBench.Number.Decimal
/-!
# Compact text of JSON trees

No blanks, members in the order of the tree. Strings escape the quote, the backslash and the
control characters only; a float is written by the shortest digits of its format, and a float
that is not finite as `null`.
-/

namespace HalBench.Json

def hexDigit (n : Nat) : Char := Nat.digitChar (n % 16)

def escapeChar (c : Char) : List Char :=
  match c with
  | '"' => ['\\', '"']
  | '\\' => ['\\', '\\']
  | '\n' => ['\\', 'n']
  | '\r' => ['\\', 'r']
  | '\t' => ['\\', 't']
  | '\x08' => ['\\', 'b']
  | '\x0c' => ['\\', 'f']
  | c =>
    if c.toNat < 32 then ['\\', 'u', '0', '0', hexDigit (c.toNat / 16), hexDigit c.toNat]
    else [c]

def renderText (text : List Char) : List Char := '"' :: (text.flatMap escapeChar ++ ['"'])

def renderInteger (i : Int) : List Char :=
  (if i < 0 then ['-'] else []) ++ Nat.toDigits 10 i.natAbs

def renderFloat (f : Format) (x : Binary) : List Char :=
  (Decimal.plain f x).getD ['n', 'u', 'l', 'l']

namespace Tree

mutual

def render : Tree → List Char
  | null => ['n', 'u', 'l', 'l']
  | bool true => ['t', 'r', 'u', 'e']
  | bool false => ['f', 'a', 'l', 's', 'e']
  | integer i => renderInteger i.val
  | float f x => renderFloat f x
  | text s => renderText s.toList
  | array [] => ['[', ']']
  | array (x :: r) => '[' :: (x.render ++ renderItems r)
  | object [] => ['\x7b', '\x7d']
  | object (m :: r) => '\x7b' :: (renderMember m ++ renderMembers r)

/-- The items after the first one, to the closing bracket. -/
def renderItems : List Tree → List Char
  | [] => [']']
  | x :: r => ',' :: (x.render ++ renderItems r)

def renderMembers : List (String × Tree) → List Char
  | [] => ['\x7d']
  | m :: r => ',' :: (renderMember m ++ renderMembers r)

def renderMember : String × Tree → List Char
  | (k, x) => renderText k.toList ++ ':' :: x.render

end

def toText (x : Tree) : String := String.ofList x.render

end Tree

def Value.toText (x : Value) : String := x.tree.toText

end HalBench.Json
