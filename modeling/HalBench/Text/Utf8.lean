/-!
# UTF-8 over byte lists

`pieces` cuts a byte list into characters and ill-formed stretches, one stretch for each
maximal prefix of a character that is cut short or begins wrongly. Strict decoding accepts a
list without ill-formed stretches, lossy decoding puts U+FFFD for each of them.
-/

namespace HalBench

abbrev Bytes := List UInt8

namespace Utf8

/-- A character, or a stretch of bytes that is none. -/
inductive Piece where
  | char (c : Char)
  | bad
  deriving DecidableEq, Repr

def encode (text : List Char) : Bytes := text.flatMap String.utf8EncodeChar

def bytes (text : String) : Bytes := encode text.toList

@[simp] theorem encode_nil : encode [] = [] := rfl

@[simp] theorem encode_cons (c : Char) (r : List Char) :
    encode (c :: r) = String.utf8EncodeChar c ++ encode r := rfl

@[simp] theorem encode_append (s t : List Char) : encode (s ++ t) = encode s ++ encode t :=
  List.flatMap_append

/-- A byte that can follow the first one of a character. -/
def isTrail (b : UInt8) : Bool := 0x80 ≤ b && b < 0xC0

/-- The second bytes that may follow the lead byte of a character of three bytes. -/
def allowsThree (a b : UInt8) : Bool :=
  if a = 0xE0 then 0xA0 ≤ b && b < 0xC0
  else if a = 0xED then 0x80 ≤ b && b < 0xA0
  else isTrail b

def allowsFour (a b : UInt8) : Bool :=
  if a = 0xF0 then 0x90 ≤ b && b < 0xC0
  else if a = 0xF4 then 0x80 ≤ b && b < 0x90
  else isTrail b

def payload (b : UInt8) : Nat := b.toNat % 64

def pieces : Bytes → List Piece
  | [] => []
  | a :: r =>
    if a < 0x80 then .char (Char.ofNat a.toNat) :: pieces r
    else if 0xC2 ≤ a && a < 0xE0 then
      match r with
      | [] => [.bad]
      | b :: s =>
        if isTrail b then .char (Char.ofNat (a.toNat % 32 * 64 + payload b)) :: pieces s
        else .bad :: pieces (b :: s)
    else if 0xE0 ≤ a && a < 0xF0 then
      match r with
      | [] => [.bad]
      | b :: s =>
        if allowsThree a b then
          match s with
          | [] => [.bad]
          | c :: t =>
            if isTrail c then
              .char (Char.ofNat ((a.toNat % 16 * 64 + payload b) * 64 + payload c)) :: pieces t
            else .bad :: pieces (c :: t)
        else .bad :: pieces (b :: s)
    else if 0xF0 ≤ a && a < 0xF5 then
      match r with
      | [] => [.bad]
      | b :: s =>
        if allowsFour a b then
          match s with
          | [] => [.bad]
          | c :: t =>
            if isTrail c then
              match t with
              | [] => [.bad]
              | d :: u =>
                if isTrail d then
                  .char (Char.ofNat
                    (((a.toNat % 8 * 64 + payload b) * 64 + payload c) * 64 + payload d))
                    :: pieces u
                else .bad :: pieces (d :: u)
            else .bad :: pieces (c :: t)
        else .bad :: pieces (b :: s)
    else .bad :: pieces r

def decode? (input : Bytes) : Option (List Char) :=
  (pieces input).mapM fun
    | .char c => some c
    | .bad => none

/-- The text of any bytes, with U+FFFD for each ill-formed stretch. -/
def decodeLossy (input : Bytes) : List Char :=
  (pieces input).map fun
    | .char c => c
    | .bad => Char.ofNat 0xFFFD

def string? (input : Bytes) : Option String := (decode? input).map String.ofList

def stringLossy (input : Bytes) : String := String.ofList (decodeLossy input)

end Utf8

end HalBench
