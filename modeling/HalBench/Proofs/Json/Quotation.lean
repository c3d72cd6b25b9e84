import HalBench.Json.Printer
import HalBench.Json.Quotation
import HalBench.Proofs.Text.Utf8

/-! A string is read back from its escaped form, whatever characters it holds. -/

namespace HalBench.Json

open Reader

def escaped (text : List Char) : Bytes := Utf8.encode (text.flatMap escapeChar)

theorem escaped_cons (c : Char) (text : List Char) :
    escaped (c :: text) = Utf8.encode (escapeChar c) ++ escaped text := by
  rw [escaped, List.flatMap_cons, Utf8.encode_append, escaped]

/-- A byte of a string that is no quote, no backslash and no control character. -/
def PlainByte (b : UInt8) : Prop := 32 ≤ b.toNat ∧ b.toNat ≠ 34 ∧ b.toNat ≠ 92

theorem before_before (a b : Bytes) (answer : Except Fault (Bytes × Bytes)) :
    before a (before b answer) = before (a ++ b) answer := by
  cases answer with
  | error e => rfl
  | ok p =>
    simp only [before, List.append_assoc]

theorem before_nil (answer : Except Fault (Bytes × Bytes)) : before [] answer = answer := by
  cases answer <;> rfl

theorem quotation_plain {b : UInt8} (plain : PlainByte b) (r : Bytes) :
    quotation none (b :: r) = before [b] (quotation none r) := by
  obtain ⟨low, quote, backslash⟩ := plain
  have notBackslash : b ≠ 92 := fun h => backslash (h ▸ rfl)
  have notQuote : b ≠ 34 := fun h => quote (h ▸ rfl)
  have notLow : ¬ b < 32 := by rw [UInt8.lt_iff_toNat_lt]; exact Nat.not_lt.mpr low
  rw [quotation]
  · simp [notQuote, notLow]
  all_goals
    intros
    simp_all

theorem quotation_plains {bytes : Bytes} (plain : ∀ b ∈ bytes, PlainByte b) (r : Bytes) :
    quotation none (bytes ++ r) = before bytes (quotation none r) := by
  induction bytes with
  | nil => rw [List.nil_append, before_nil]
  | cons b bytes ih =>
    rw [List.cons_append, quotation_plain (plain b List.mem_cons_self),
      ih fun b hb => plain b (List.mem_cons_of_mem _ hb), before_before]
    rfl

theorem quotation_short {e b : UInt8} (notUnit : e ≠ 117) (short : shortEscape e = some b)
    (r : Bytes) : quotation none (92 :: e :: r) = before [b] (quotation none r) := by
  rw [quotation]
  · exact fun _ _ _ _ _ unit => absurd unit notUnit
  · exact notUnit
  · exact short

theorem quotation_unit {a b c d : UInt8} {unit : Nat} (value : codeUnit a b c d = some unit)
    (low : unit < 0xD800) (r : Bytes) :
    quotation none (92 :: 117 :: a :: b :: c :: d :: r) =
      before (String.utf8EncodeChar (Char.ofNat unit)) (quotation none r) := by
  have notLow : isLow unit = false := by simp [isLow]; omega
  have notHigh : isHigh unit = false := by simp [isHigh]; omega
  rw [quotation.eq_def]
  simp [value, notLow, notHigh]

theorem quotation_quote (r : Bytes) : quotation none (34 :: r) = .ok ([], r) := by
  rw [quotation.eq_def]
  simp

theorem plainByte_encodeChar {c : Char} (low : 32 ≤ c.toNat) (quote : c ≠ '"')
    (backslash : c ≠ '\\') : ∀ b ∈ String.utf8EncodeChar c, PlainByte b := by
  by_cases ascii : c.toNat < 128
  · have value := Utf8.toNat_ofNat (n := c.toNat) (by omega)
    rw [Utf8.encodeChar_ascii ascii]
    intro b hb
    rw [List.mem_singleton.mp hb, PlainByte, value]
    exact ⟨low, fun h => quote (Char.toNat_inj.mp h), fun h => backslash (Char.toNat_inj.mp h)⟩
  · intro b hb
    have wide := Utf8.le_of_mem_encodeChar (Nat.le_of_not_lt ascii) hb
    exact ⟨by omega, by omega, by omega⟩

/-- A control character is escaped by the hexadecimal digits of its number. -/
theorem codeUnit_hexDigit : ∀ n < 32,
    Utf8.encode [hexDigit (n / 16), hexDigit n] =
        [UInt8.ofNat (hexDigit (n / 16)).toNat, UInt8.ofNat (hexDigit n).toNat] ∧
      codeUnit 48 48 (UInt8.ofNat (hexDigit (n / 16)).toNat) (UInt8.ofNat (hexDigit n).toNat) =
        some n := by
  decide

theorem quotation_escapeChar (c : Char) (r : Bytes) :
    quotation none (Utf8.encode (escapeChar c) ++ r) =
      before (String.utf8EncodeChar c) (quotation none r) := by
  unfold escapeChar
  -- Seven characters have an escape of their own.
  split
  · exact quotation_short (by decide) rfl r
  · exact quotation_short (by decide) rfl r
  · exact quotation_short (by decide) rfl r
  · exact quotation_short (by decide) rfl r
  · exact quotation_short (by decide) rfl r
  · exact quotation_short (by decide) rfl r
  · exact quotation_short (by decide) rfl r
  · rename_i quote backslash _ _ _ _ _
    split
    · rename_i control
      obtain ⟨digits, value⟩ := codeUnit_hexDigit c.toNat control
      have unit := quotation_unit value (by omega) r
      have all : Utf8.encode ['\\', 'u', '0', '0', hexDigit (c.toNat / 16), hexDigit c.toNat] =
          [92, 117, 48, 48] ++ Utf8.encode [hexDigit (c.toNat / 16), hexDigit c.toNat] := rfl
      rw [Char.ofNat_toNat] at unit
      rw [all, digits]
      exact unit
    · rename_i visible
      have plain := plainByte_encodeChar (by omega) quote backslash
      rw [Utf8.encode_cons, Utf8.encode_nil, List.append_nil, quotation_plains plain]

theorem quotation_escaped (text : List Char) (rest : Bytes) :
    quotation none (escaped text ++ 34 :: rest) = .ok (Utf8.encode text, rest) := by
  induction text with
  | nil => exact quotation_quote rest
  | cons c text ih =>
    rw [escaped_cons, List.append_assoc, quotation_escapeChar, ih]
    rfl

theorem string_escaped (s : String) (rest : Bytes) :
    string (escaped s.toList ++ 34 :: rest) = .ok (s, rest) := by
  have text : Utf8.string? (Utf8.encode s.toList) = some s := Utf8.string?_bytes s
  simp only [string, quotation_escaped, text]

end HalBench.Json
