import HalBench.Files.Path
import HalBench.Text.Cut
/-!
# Texts of shell scripts

Scripts and what they work on are lists of characters, one for each byte.
-/

namespace HalBench.Shell

abbrev Text := List Char

def ofBytes (b : Bytes) : Text := b.map fun x => Char.ofNat x.toNat

def toBytes (s : Text) : Bytes := s.map fun c => UInt8.ofNat c.toNat

def ofString (s : String) : Text := ofBytes (Utf8.bytes s)

def textLe (a b : Text) : Bool := Files.Path.nameLe (toBytes a) (toBytes b)

def isNameStart (c : Char) : Bool := c.isAlpha || c == '_'

def isNameChar (c : Char) : Bool := c.isAlphanum || c == '_'

def isName : Text → Bool
  | c :: r => isNameStart c && r.all isNameChar
  | [] => false

def isSpace (c : Char) : Bool := c == ' ' || ('\t' ≤ c && c ≤ '\r')

def natOf (digits : Text) : Nat := digits.foldl (fun n c => n * 10 + (c.toNat - 48)) 0

def showNat (n : Nat) : Text := Nat.toDigits 10 n

def showInt (n : Int) : Text := (if n < 0 then ['-'] else []) ++ showNat n.natAbs

def padLeft (width : Nat) (s : Text) : Text := List.replicate (width - s.length) ' ' ++ s

def padRight (width : Nat) (s : Text) : Text := s ++ List.replicate (width - s.length) ' '

/-- The value of a digit in bases up to 36; the letters follow the decimal digits. -/
def digitValue (c : Char) : Nat :=
  if c.isDigit then c.toNat - 48
  else if 'a' ≤ c ∧ c ≤ 'z' then c.toNat - 87
  else if 'A' ≤ c ∧ c ≤ 'Z' then c.toNat - 55
  else 36

def digitsIn (base : Nat) (s : Text) : Nat × Text :=
  let digits := s.takeWhile fun c => digitValue c < base
  (digits.foldl (fun n c => n * base + digitValue c) 0, s.drop digits.length)

/-- The longest front of a text that is an integer, with the rest: blanks and a sign may come
first, and without a given base it is octal after a zero, hexadecimal after `0x` and binary after
`0b`. None if there are no digits. -/
def integer? (base : Option Nat) (s : Text) : Option (Int × Text) :=
  let r := s.dropWhile isSpace
  let (negative, r) : Bool × Text := match r with
    | '-' :: r => (true, r)
    | '+' :: r => (false, r)
    | r => (false, r)
  let (base, body) : Nat × Text := match base, r with
    | some b, r => (b, r)
    | none, '0' :: x :: d :: rest =>
      if (x == 'x' || x == 'X') && digitValue d < 16 then (16, d :: rest)
      else if (x == 'b' || x == 'B') && digitValue d < 2 then (2, d :: rest)
      else (8, r)
    | none, '0' :: _ => (8, r)
    | none, _ => (10, r)
  let (n, rest) := digitsIn base body
  if rest.length = body.length then none else some (if negative then -n else n, rest)

def cutAt (mark : Char) (s : Text) : List Text := HalBench.Text.splitOn mark s

def joinWith (mark : Text) (parts : List Text) : Text := mark.intercalate parts

def trimNewlines (text : Text) : Text := (text.reverse.dropWhile (· == '\n')).reverse

end HalBench.Shell
