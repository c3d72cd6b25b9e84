import HalBench.Number.Power
import HalBench.Proofs.Text.Utf8

/-! The decimal digits of a natural as bytes: which bytes they are, how many, and the number
that they denote. -/

namespace HalBench.Digits

def ofNat (n : Nat) : Bytes := Utf8.encode (Nat.toDigits 10 n)

def value (digits : Bytes) : Nat := digits.foldl (fun n b => 10 * n + (b.toNat - 48)) 0

theorem isDigit_bounds {c : Char} (h : c.isDigit = true) : 48 ≤ c.toNat ∧ c.toNat ≤ 57 := by
  simp only [Char.isDigit, Bool.and_eq_true, decide_eq_true_eq, ge_iff_le,
    UInt32.le_iff_toNat_le] at h
  exact h

theorem toList_toString (n : Nat) : (toString n).toList = Nat.toDigits 10 n := by
  rw [Nat.toString_eq_ofList_toDigits, String.toList_ofList]

theorem not_mem_toDigits {c : Char} (other : c.isDigit = false) (n : Nat) :
    c ∉ Nat.toDigits 10 n := by
  intro member
  rw [Nat.isDigit_of_mem_toDigits (by decide) (by decide) member] at other
  cases other

theorem toDigits_injective {m n : Nat} (h : Nat.toDigits 10 m = Nat.toDigits 10 n) : m = n := by
  calc m = Nat.ofDigitChars 10 (Nat.toDigits 10 m) 0 := Nat.ofDigitChars_ten_toDigits.symm
    _ = n := by rw [h, Nat.ofDigitChars_ten_toDigits]

theorem encode_digits {text : List Char} (h : ∀ c ∈ text, c.isDigit = true) :
    Utf8.encode text = text.map fun c => UInt8.ofNat c.toNat := by
  induction text with
  | nil => rfl
  | cons c text ih =>
    have hc := isDigit_bounds (h c List.mem_cons_self)
    rw [Utf8.encode_cons, Utf8.encodeChar_ascii (by omega),
      ih fun d hd => h d (List.mem_cons_of_mem c hd)]
    rfl

theorem ofNat_eq_map (n : Nat) :
    ofNat n = (Nat.toDigits 10 n).map fun c => UInt8.ofNat c.toNat :=
  encode_digits fun _ hc => Nat.isDigit_of_mem_toDigits (by decide) (by decide) hc

theorem ofNat_ne_nil (n : Nat) : ofNat n ≠ [] := by
  rw [ofNat_eq_map]
  simp

@[simp] theorem ofNat_zero : ofNat 0 = [48] := by
  rw [ofNat_eq_map, Nat.toDigits_zero]
  rfl

theorem bounds_of_mem {n : Nat} {b : UInt8} (h : b ∈ ofNat n) : 48 ≤ b.toNat ∧ b.toNat ≤ 57 := by
  rw [ofNat_eq_map] at h
  obtain ⟨c, hc, rfl⟩ := List.mem_map.mp h
  have hd := isDigit_bounds (Nat.isDigit_of_mem_toDigits (by decide) (by decide) hc)
  rw [Utf8.toNat_ofNat (by omega)]
  exact hd

theorem value_map {text : List Char} (h : ∀ c ∈ text, c.isDigit = true) (start : Nat) :
    (text.map fun c => UInt8.ofNat c.toNat).foldl (fun n b => 10 * n + (b.toNat - 48)) start =
      Nat.ofDigitChars 10 text start := by
  induction text generalizing start with
  | nil => rfl
  | cons c text ih =>
    have hc := isDigit_bounds (h c List.mem_cons_self)
    rw [List.map_cons, List.foldl_cons, Utf8.toNat_ofNat (by omega), Nat.ofDigitChars_cons]
    exact ih (fun d hd => h d (List.mem_cons_of_mem c hd)) _

@[simp] theorem value_ofNat (n : Nat) : value (ofNat n) = n := by
  rw [ofNat_eq_map, value,
    value_map fun _ hc => Nat.isDigit_of_mem_toDigits (by decide) (by decide) hc]
  exact Nat.ofDigitChars_ten_toDigits

theorem length_ofNat (n : Nat) : (ofNat n).length = (Nat.toDigits 10 n).length := by
  rw [ofNat_eq_map, List.length_map]

theorem length_ofNat_le {n k : Nat} (pos : 0 < k) (h : n < tenTo k) : (ofNat n).length ≤ k := by
  rw [length_ofNat]
  exact (Nat.length_toDigits_le_iff (by decide) pos).mpr h

theorem head_ne_zero {n : Nat} (pos : 0 < n) : ∃ b r, ofNat n = b :: r ∧ b ≠ 48 := by
  induction n using Nat.strongRecOn with
  | _ n ih =>
    by_cases small : n < 10
    · refine ⟨UInt8.ofNat n.digitChar.toNat, [], ?_, ?_⟩
      · rw [ofNat_eq_map, Nat.toDigits_of_lt_base small]
        rfl
      · intro h
        have digit := Nat.toNat_digitChar_sub_48_of_lt_ten small
        have bounds := isDigit_bounds (Nat.isDigit_digitChar.trans (decide_eq_true small))
        have same : n.digitChar.toNat = 48 := by
          rw [← Utf8.toNat_ofNat (n := n.digitChar.toNat) (by omega), h]
          rfl
        omega
    · obtain ⟨b, r, hr, hb⟩ := ih (n / 10) (by omega) (by omega)
      refine ⟨b, r ++ [UInt8.ofNat (n % 10).digitChar.toNat], ?_, hb⟩
      rw [ofNat_eq_map] at hr ⊢
      rw [Nat.toDigits_of_base_le (by decide) (by omega), List.map_append, hr]
      rfl

end HalBench.Digits
