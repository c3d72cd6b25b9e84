import HalBench.Number.Decimal
import Mathlib.Algebra.Order.Field.Power
import Mathlib.Data.Rat.Cast.Order
import Mathlib.Algebra.Order.Field.Basic
import Mathlib.Tactic.Linarith
import Mathlib.Tactic.Positivity
import Mathlib.Tactic.Ring

/-! How far a number is moved when it is rounded: by half the weight of the last bit at most, and
not at all when it is a natural that fits the significand. Tenths below 2 ^ 20 survive being rounded
to double and then to single precision when they are written to one decimal place. -/

namespace HalBench.Rounding

open Binary hiding max min round

theorem cast_twoTo (n : Nat) : (twoTo n : ℚ) = 2 ^ (n : ℤ) := by
  rw [zpow_natCast]
  exact Nat.cast_pow 2 n

theorem two_zpow_pos (e : ℤ) : (0 : ℚ) < 2 ^ e := zpow_pos two_pos e

theorem ratio_value (m : Nat) (e : ℤ) : ((ratio m e).1 : ℚ) / (ratio m e).2 = m * 2 ^ e := by
  rw [ratio]
  split
  next up =>
    rw [Nat.cast_mul, cast_twoTo, Int.toNat_of_nonneg up, Nat.cast_one, div_one]
  next down =>
    rw [cast_twoTo, Int.toNat_of_nonneg (by omega), zpow_neg, div_inv_eq_mul]

theorem ratio_pos (m : Nat) (e : ℤ) : 0 < (ratio m e).2 := by
  rw [ratio]
  split
  · exact Nat.one_pos
  · exact twoTo_pos _

theorem scaled_value (num den : Nat) (e : ℤ) :
    ((scaled num den e).1 : ℚ) / (scaled num den e).2 = num / den / 2 ^ e := by
  rw [scaled]
  split
  next up =>
    rw [Nat.cast_mul, cast_twoTo, Int.toNat_of_nonneg up, div_mul_eq_div_div]
  next down =>
    rw [Nat.cast_mul, cast_twoTo, Int.toNat_of_nonneg (by omega), zpow_neg, div_div,
      ← div_eq_mul_inv, div_div, mul_comm (2 ^ e : ℚ)]

theorem scaled_pos {den : Nat} (pos : 0 < den) (num : Nat) (e : ℤ) : 0 < (scaled num den e).2 := by
  rw [scaled]
  split
  · exact Nat.mul_pos pos (twoTo_pos _)
  · exact pos

theorem divEven_near (num : Nat) {den : Nat} (pos : 0 < den) :
    |(divEven num den : ℚ) - num / den| ≤ 1 / 2 := by
  have den_pos : (0 : ℚ) < den := Nat.cast_pos.mpr pos
  have value : (num : ℚ) / den = (num / den : Nat) + (num % den : Nat) / (den : ℚ) := by
    conv => lhs; rw [← Nat.div_add_mod num den]
    rw [Nat.cast_add, Nat.cast_mul, add_div, mul_div_cancel_left₀ _ den_pos.ne']
  have low : (0 : ℚ) ≤ (num % den : Nat) / (den : ℚ) := by positivity
  have high : (num % den : Nat) / (den : ℚ) < 1 :=
    (div_lt_one den_pos).mpr (Nat.cast_lt.mpr (Nat.mod_lt num pos))
  rw [value, abs_le, divEven]
  split
  next less =>
    have half : ((num % den : Nat) : ℚ) / den < 1 / 2 := by
      rw [div_lt_div_iff₀ den_pos two_pos, one_mul]
      exact_mod_cast Nat.mul_comm 2 _ ▸ less
    constructor <;> linarith
  · split
    next more =>
      have half : (1 : ℚ) / 2 < (num % den : Nat) / (den : ℚ) := by
        rw [div_lt_div_iff₀ two_pos den_pos, one_mul]
        exact_mod_cast Nat.mul_comm 2 _ ▸ more
      rw [Nat.cast_add, Nat.cast_one]
      constructor <;> linarith
    next notLess notMore =>
      have half : ((num % den : Nat) : ℚ) / den = 1 / 2 := by
        rw [div_eq_div_iff den_pos.ne' two_ne_zero, one_mul]
        exact_mod_cast (by omega : num % den * 2 = den)
      split
      · constructor <;> linarith
      · rw [Nat.cast_add, Nat.cast_one]
        constructor <;> linarith

theorem divEven_one (n : Nat) : divEven n 1 = n := by
  rw [divEven, Nat.mod_one, Nat.div_one]
  rfl

theorem divEven_eq {num den k : Nat} (pos : 0 < den) (near : |(num : ℚ) / den - k| < 1 / 2) :
    divEven num den = k := by
  have bound := divEven_near num pos
  rw [abs_le] at bound
  rw [abs_lt] at near
  have above : (divEven num den : ℚ) < k + 1 := by linarith
  have below : (k : ℚ) < divEven num den + 1 := by linarith
  have above' : divEven num den < k + 1 := by exact_mod_cast above
  have below' : k < divEven num den + 1 := by exact_mod_cast below
  omega

variable {f : Format} {num den : Nat}

theorem unitExponent_le {k : ℤ} (some : num ≠ 0) (pos : 0 < den)
    (below : (num : ℚ) / den < 2 ^ k) :
    unitExponent f num den ≤ max (k - (f.precision : ℤ)) f.minExponent := by
  have den_pos : (0 : ℚ) < den := Nat.cast_pos.mpr pos
  have two : (1 : ℚ) < 2 := one_lt_two
  unfold unitExponent
  refine max_le_max_right _ ?_
  split
  · have numLow : (2 : ℚ) ^ (num.log2 : ℤ) ≤ num := by
      exact_mod_cast Nat.log2_self_le some
    have denHigh : (den : ℚ) < 2 ^ (den.log2 + 1 : ℤ) := by
      exact_mod_cast Nat.lt_log2_self (n := den)
    have lower : (2 : ℚ) ^ ((num.log2 : ℤ) - (den.log2 + 1)) < num / den := by
      rw [zpow_sub₀ two_ne_zero]
      exact div_lt_div₀' numLow denHigh (lt_of_lt_of_le (two_zpow_pos _) numLow) den_pos
    have less := (zpow_lt_zpow_iff_right₀ two).mp (lower.trans below)
    omega
  next full =>
    generalize low : (num.log2 : ℤ) - den.log2 - f.precision = e at full ⊢
    have lower : (2 : ℚ) ^ (f.precision : ℤ) ≤ num / den / 2 ^ e := by
      rw [← scaled_value, le_div_iff₀ (Nat.cast_pos.mpr (scaled_pos pos num e)), ← cast_twoTo]
      exact_mod_cast (Nat.le_div_iff_mul_le (scaled_pos pos num e)).mp (Nat.not_lt.mp full)
    rw [le_div_iff₀ (two_zpow_pos e), ← zpow_add₀ two_ne_zero] at lower
    have less := (zpow_lt_zpow_iff_right₀ two).mp (lower.trans_lt below)
    omega

/-- A finite number that is not negative, and its value. -/
def Is (x : Binary) (v : ℚ) : Prop := ∃ m e, x = .finite false m e ∧ v = m * 2 ^ e

theorem round_is (bits : 0 < f.precision) (some : num ≠ 0)
    (range : unitExponent f num den < f.maxExponent) :
    Is (Binary.round f false num den)
      (divEven (scaled num den (unitExponent f num den)).1
        (scaled num den (unitExponent f num den)).2 * 2 ^ unitExponent f num den) := by
  rw [Binary.round, if_neg some]
  simp only
  generalize unitExponent f num den = e at range ⊢
  generalize divEven (scaled num den e).1 (scaled num den e).2 = q
  by_cases carry : q = twoTo f.precision
  · have whole : twoTo f.precision = 2 * twoTo (f.precision - 1) := by
      rw [← twoTo_succ, Nat.sub_add_cancel bits]
    have half := twoTo_pos (f.precision - 1)
    simp only [carry, if_true]
    rw [if_neg half.ne', if_neg (by omega)]
    refine ⟨_, _, rfl, ?_⟩
    rw [whole, zpow_add_one₀ two_ne_zero]
    push_cast
    ring
  · simp only [carry, if_false]
    by_cases nothing : q = 0
    · rw [if_pos nothing, nothing]
      exact ⟨0, _, rfl, by simp⟩
    · rw [if_neg nothing, if_neg (by omega)]
      exact ⟨q, e, rfl, rfl⟩

theorem round_near {k : ℤ} (bits : 0 < f.precision) (pos : 0 < den)
    (below : (num : ℚ) / den < 2 ^ k)
    (range : max (k - (f.precision : ℤ)) f.minExponent < f.maxExponent) :
    ∃ v, Is (Binary.round f false num den) v ∧
      |v - num / den| ≤ 2 ^ (max (k - (f.precision : ℤ)) f.minExponent - 1) := by
  by_cases nothing : num = 0
  · refine ⟨0, ⟨0, f.minExponent, ?_, ?_⟩, ?_⟩
    · rw [Binary.round, if_pos nothing]
    · rw [Nat.cast_zero, zero_mul]
    · rw [nothing, Nat.cast_zero, zero_div, sub_zero, abs_zero]
      exact (two_zpow_pos _).le
  · have unit := unitExponent_le (f := f) nothing pos below
    have near := divEven_near (scaled num den (unitExponent f num den)).1
      (scaled_pos pos num (unitExponent f num den))
    rw [scaled_value] at near
    refine ⟨_, round_is bits nothing (unit.trans_lt range), ?_⟩
    generalize unitExponent f num den = e at unit near ⊢
    generalize (divEven (scaled num den e).1 (scaled num den e).2 : ℚ) = q at near ⊢
    have e_pos := two_zpow_pos e
    calc |q * 2 ^ e - num / den|
        = |q - num / den / 2 ^ e| * 2 ^ e := by
          rw [← abs_of_pos e_pos, ← abs_mul, abs_of_pos e_pos, sub_mul, div_mul_cancel₀ _ e_pos.ne']
      _ ≤ 1 / 2 * 2 ^ e := mul_le_mul_of_nonneg_right near e_pos.le
      _ = 2 ^ (e - 1) := by rw [zpow_sub_one₀ two_ne_zero]; ring
      _ ≤ _ := zpow_le_zpow_right₀ one_le_two (by omega)

theorem ofNat_is {n : Nat} (bits : 0 < f.precision) (least : f.minExponent ≤ 0)
    (range : 0 < f.maxExponent) (small : n < twoTo f.precision) : Is (ofNat f n) n := by
  rw [ofNat]
  by_cases nothing : n = 0
  · rw [Binary.round, if_pos nothing, nothing]
    exact ⟨0, _, rfl, by simp⟩
  · have below : ((n : Nat) : ℚ) / (1 : Nat) < 2 ^ (f.precision : ℤ) := by
      rw [Nat.cast_one, div_one, ← cast_twoTo]
      exact Nat.cast_lt.mpr small
    have unit := unitExponent_le (f := f) nothing Nat.one_pos below
    rw [sub_self, max_eq_left least] at unit
    have rounded := round_is bits nothing (unit.trans_lt range)
    generalize unitExponent f n 1 = e at unit rounded
    have value := scaled_value n 1 e
    have whole : (scaled n 1 e).2 = 1 := by
      rw [scaled]
      split
      next up =>
        obtain rfl : e = 0 := le_antisymm unit up
        rfl
      · rfl
    rw [whole, divEven_one] at rounded
    rw [whole, Nat.cast_one, div_one, div_one] at value
    rw [value, div_mul_cancel₀ _ (two_zpow_pos e).ne'] at rounded
    exact rounded

variable {x y : Binary} {v w : ℚ}

theorem div_is (hx : Is x v) (hy : Is y w) (notZero : w ≠ 0) :
    ∃ a b : Nat, 0 < b ∧ (a : ℚ) / b = v / w ∧ x.div f y = Binary.round f false a b := by
  obtain ⟨m, e, rfl, rfl⟩ := hx
  obtain ⟨n, k, rfl, rfl⟩ := hy
  have some : n ≠ 0 := by
    rintro rfl
    exact notZero (by rw [Nat.cast_zero, zero_mul])
  refine ⟨(ratio m (e - k)).1, (ratio m (e - k)).2 * n, ?_, ?_, ?_⟩
  · exact Nat.mul_pos (ratio_pos m _) (Nat.pos_of_ne_zero some)
  · rw [Nat.cast_mul, ← div_div, ratio_value, zpow_sub₀ two_ne_zero, mul_div_assoc', div_div,
      mul_comm (2 ^ k : ℚ)]
  · rw [div, if_neg some]
    rfl

theorem convert_is (hx : Is x v) :
    ∃ a b : Nat, 0 < b ∧ (a : ℚ) / b = v ∧ x.convert f = Binary.round f false a b := by
  obtain ⟨m, e, rfl, rfl⟩ := hx
  exact ⟨_, _, ratio_pos m e, ratio_value m e, rfl⟩

theorem oneDecimal_near {s : Nat} (hx : Is x v) (near : |10 * v - s| < 1 / 2) :
    Decimal.oneDecimal x = Nat.toDigits 10 (s / 10) ++ '.' :: Nat.toDigits 10 (s % 10) := by
  obtain ⟨m, e, rfl, rfl⟩ := hx
  have tenths : divEven (ratio (10 * m) e).1 (ratio (10 * m) e).2 = s := by
    apply divEven_eq (ratio_pos (10 * m) e)
    rw [ratio_value, Nat.cast_mul, mul_assoc]
    exact near
  rw [Decimal.oneDecimal]
  simp only [tenths]
  rfl

theorem ten_is : Is (ofNat .double 10) 10 := by
  have fits : 10 < twoTo Format.double.precision := by decide
  exact_mod_cast ofNat_is (f := .double) (by decide) (by decide) (by decide) fits

/-- A number of tenths below 2 ^ 20 survives being rounded to double and then to single precision.
The first rounding moves it by 2 ^ (-34) at most and the second by 2 ^ (-5), together by less than
half a tenth. -/
theorem oneDecimal_tenths {s : Nat} (small : s < 10 * 2 ^ 20) :
    Decimal.oneDecimal (((ofNat .double s).div .double (ofNat .double 10)).convert .single) =
      Nat.toDigits 10 (s / 10) ++ '.' :: Nat.toDigits 10 (s % 10) := by
  have below : (s : ℚ) / 10 ≤ 2 ^ 20 - 1 / 10 := by
    have most : (s : ℚ) + 1 ≤ 10 * 2 ^ 20 := by exact_mod_cast small
    linarith
  have fits : s < twoTo Format.double.precision :=
    small.trans (by decide)
  obtain ⟨a, b, b_pos, quotient, eq⟩ := div_is (f := .double)
    (ofNat_is (f := .double) (by decide) (by decide) (by decide) fits) ten_is (by norm_num)
  obtain ⟨v, isV, nearV⟩ := round_near (f := .double) (k := 20) (by decide) b_pos
    (by rw [quotient]; norm_num at below ⊢; linarith) (by decide)
  rw [← eq] at isV
  rw [quotient] at nearV
  obtain ⟨c, d, d_pos, same, eq'⟩ := convert_is (f := .single) isV
  have small' : |v - s / 10| ≤ 1 / 2 ^ 34 := nearV.trans (by norm_num [Format.double])
  rw [abs_le] at small'
  obtain ⟨w, isW, nearW⟩ := round_near (f := .single) (k := 20) (by decide) d_pos
    (by rw [same]; norm_num at below small' ⊢; linarith) (by decide)
  rw [← eq'] at isW
  rw [same] at nearW
  have small'' : |w - v| ≤ 1 / 2 ^ 5 := nearW.trans (by norm_num [Format.single])
  rw [abs_le] at small''
  apply oneDecimal_near isW
  rw [abs_lt]
  norm_num at small' small'' ⊢
  constructor <;> linarith

end HalBench.Rounding
