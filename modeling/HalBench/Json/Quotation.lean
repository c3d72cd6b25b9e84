import HalBench.Json.Reader
/-!
# Strings in JSON texts

What stands between the quotes: plain bytes, short escapes, and escaped code units in four
hexadecimal digits, of which a pair of surrogates makes one character. The bytes must be
well-formed UTF-8, which is looked at when the closing quote has been found.
-/

namespace HalBench.Json.Reader

def hexValue (b : UInt8) : Option Nat :=
  if 48 ≤ b && b ≤ 57 then some (b.toNat - 48)
  else if 97 ≤ b && b ≤ 102 then some (b.toNat - 87)
  else if 65 ≤ b && b ≤ 70 then some (b.toNat - 55)
  else none

def codeUnit (a b c d : UInt8) : Option Nat := do
  let a ← hexValue a
  let b ← hexValue b
  let c ← hexValue c
  let d ← hexValue d
  return ((a * 16 + b) * 16 + c) * 16 + d

def shortEscape (b : UInt8) : Option UInt8 :=
  if b = 34 || b = 92 || b = 47 then some b
  else if b = 98 then some 8
  else if b = 102 then some 12
  else if b = 110 then some 10
  else if b = 114 then some 13
  else if b = 116 then some 9
  else none

def isHigh (unit : Nat) : Bool := 0xD800 ≤ unit && unit < 0xDC00

def isLow (unit : Nat) : Bool := 0xDC00 ≤ unit && unit < 0xE000

def pairChar (high low : Nat) : Char :=
  Char.ofNat (0x10000 + (high - 0xD800) * 0x400 + (low - 0xDC00))

def before (b : Bytes) : Except Fault (Bytes × Bytes) → Except Fault (Bytes × Bytes)
  | .ok (read, rest) => .ok (b ++ read, rest)
  | .error e => .error e

/-- The bytes of a string up to its closing quote, and the bytes after it. While the first unit
of a surrogate pair is pending, only its second unit may follow. -/
def quotation (pending : Option Nat) : Bytes → Except Fault (Bytes × Bytes)
  | [] => .error .endOfText
  | 92 :: 117 :: a :: b :: c :: d :: r =>
    match codeUnit a b c d, pending with
    | none, _ => .error .malformed
    | some unit, some high =>
      if isLow unit then before (String.utf8EncodeChar (pairChar high unit)) (quotation none r)
      else .error .malformed
    | some unit, none =>
      if isLow unit then .error .malformed
      else if isHigh unit then quotation (some unit) r
      else before (String.utf8EncodeChar (Char.ofNat unit)) (quotation none r)
  | 92 :: 117 :: _ => .error .endOfText
  | [92] => .error .endOfText
  | 92 :: e :: r =>
    match pending, shortEscape e with
    | none, some b => before [b] (quotation none r)
    | _, _ => .error .malformed
  | b :: r =>
    if pending.isSome then .error .malformed
    else if b = 34 then .ok ([], r)
    else if b < 32 then .error .malformed
    else before [b] (quotation none r)

def string : Reader String := fun input =>
  match quotation none input with
  | .error e => .error e
  | .ok (read, rest) =>
    match Utf8.string? read with
    | none => .error .malformed
    | some s => .ok (s, rest)

/-- Passes a string without regard to surrogates and to UTF-8. -/
def skipQuotation : Bytes → Except Fault Bytes
  | [] => .error .endOfText
  | 92 :: 117 :: a :: b :: c :: d :: r =>
    if (codeUnit a b c d).isSome then skipQuotation r else .error .malformed
  | 92 :: 117 :: _ => .error .endOfText
  | [92] => .error .endOfText
  | 92 :: e :: r => if (shortEscape e).isSome then skipQuotation r else .error .malformed
  | b :: r =>
    if b = 34 then .ok r
    else if b < 32 then .error .malformed
    else skipQuotation r

def skipString : Reader Unit := fun input => (skipQuotation input).map fun rest => ((), rest)

end HalBench.Json.Reader
