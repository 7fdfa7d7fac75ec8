import PluginLisp.Proofs.Decimal.Value
import PluginLisp.Proofs.Number.Order

/-!
Numbers beyond the floats. A number rounds to infinity if it is at least halfway from the largest float
to the next power of two, and only then.

Main result: `Decimal.toFloat_eq_infinity_iff`.
-/

namespace PluginLisp

namespace Number

/-- The least number that rounds to infinity: half a unit above the largest float, whose last place is
    `2 ^ 971`. -/
def overflow : ℚ := (2 ^ 53 - 1 / 2) * 2 ^ (971 : ℤ)

/-- Infinity is one binary digit beyond the numbers of the place below, and not beyond those of the
    place above. -/
theorem overflow_bounds :
    2 ^ 53 * 2 ^ (970 : ℤ) ≤ overflow ∧ overflow ≤ 2 ^ 52 * 2 ^ (972 : ℤ) := by
  have below : (2 : ℚ) ^ (971 : ℤ) = 2 ^ 1 * 2 ^ (970 : ℤ) := two_zpow_add 970 1
  have above : (2 : ℚ) ^ (972 : ℤ) = 2 ^ 2 * 2 ^ (970 : ℤ) := two_zpow_add 970 2
  have positive : (0 : ℚ) < 2 ^ (970 : ℤ) := by positivity
  rw [overflow, below, above]
  generalize (2 : ℚ) ^ (970 : ℤ) = unit at positive ⊢
  constructor
  · linarith
  · linarith

/-- A number with three hundred and eleven digits rounds to infinity. -/
theorem overflow_le_ten_zpow : overflow ≤ 10 ^ (310 : ℤ) := by
  have powers : 2 ^ 52 * 2 ^ 972 ≤ 10 ^ 310 := by decide +kernel
  exact overflow_bounds.2.trans (by exact_mod_cast powers)

/-! ### Rounding up to an even number -/

theorem roundDiv_bounds (num den : Nat) :
    num / den ≤ roundDiv num den ∧ roundDiv num den ≤ num / den + 1 := by
  unfold roundDiv
  simp only
  split
  · omega
  · omega

/-- A ratio rounds to an even number or more exactly from half a unit below that number on. -/
theorem le_roundDiv_iff {num den n : Nat} (positive : 0 < den) (even : n % 2 = 0) :
    n ≤ roundDiv num den ↔ 2 * n * den ≤ 2 * num + den := by
  have split : den * (num / den) + num % den = num := Nat.div_add_mod num den
  have rest : num % den < den := Nat.mod_lt num positive
  unfold roundDiv
  simp only
  generalize num / den = q at split ⊢
  generalize num % den = r at split rest ⊢
  rcases lt_trichotomy n (q + 1) with below | rfl | above
  · have : den * n ≤ den * q := Nat.mul_le_mul_left den (by omega)
    refine iff_of_true ?_ (by nlinarith)
    split
    · omega
    · omega
  · constructor
    · intro reached
      split at reached
      · rename_i half
        have : den ≤ 2 * r := by omega
        nlinarith
      · omega
    · intro half
      have : den ≤ 2 * r := by nlinarith
      rw [if_pos (by omega)]
  · have : den * (q + 2) ≤ den * n := Nat.mul_le_mul_left den (by omega)
    refine iff_of_false ?_ (by nlinarith)
    split
    · omega
    · omega

/-! ### Ratios and decimals -/

theorem nearestBits_le (num den : Nat) : nearestBits num den ≤ 2047 * 2 ^ 52 := by
  unfold nearestBits
  split
  · exact Nat.zero_le _
  · exact min_le_right _ _

/-- The ratios that round to infinity. -/
theorem nearestBits_eq_iff {num den : Nat} (positive : 0 < den) :
    nearestBits num den = 2047 * 2 ^ 52 ↔ overflow ≤ num / den := by
  have denPos : (0 : ℚ) < den := by exact_mod_cast positive
  by_cases zero : num = 0
  · subst zero
    refine iff_of_false (by simp [nearestBits]) ?_
    norm_num [overflow]
  obtain ⟨least, upper, lower⟩ := lastPlace_spec zero positive
  unfold nearestBits
  rw [if_neg zero]
  simp only [twoPow_eq, min_eq_right_iff]
  generalize lastPlace num den = e at least upper lower ⊢
  have scaled := scaleRatio_eq num positive e
  have scaledPos := scaleRatio_den_pos num positive e
  generalize (scaleRatio num den e).1 = a at scaled ⊢
  generalize (scaleRatio num den e).2 = d at scaled scaledPos ⊢
  have dPos : (0 : ℚ) < d := by exact_mod_cast scaledPos
  have unit : (0 : ℚ) < 2 ^ e := by positivity
  have exactly : (num / den : ℚ) = a / d * 2 ^ e := by
    field_simp
    linarith
  have top : (2 : ℚ) ^ (e + 53) = 2 ^ 53 * 2 ^ e := two_zpow_add e 53
  have bottom : (2 : ℚ) ^ (e + 52) = 2 ^ 52 * 2 ^ e := two_zpow_add e 52
  rw [← div_lt_iff₀ denPos, exactly, top, mul_lt_mul_iff_left₀ unit, div_lt_iff₀ dPos] at upper
  rw [← le_div_iff₀ denPos, exactly, bottom, mul_le_mul_iff_left₀ unit, le_div_iff₀ dPos] at lower
  have whole : a / d < 2 ^ 53 := (Nat.div_lt_iff_lt_mul scaledPos).2 (by exact_mod_cast upper)
  have bounds := roundDiv_bounds a d
  rw [exactly]
  -- only at the largest place does the rounding decide
  rcases lt_trichotomy e 971 with below | rfl | above
  · have small : (a / d : ℚ) < 2 ^ 53 := (div_lt_iff₀ dPos).2 upper
    have place : (2 : ℚ) ^ e ≤ 2 ^ (970 : ℤ) := zpow_le_zpow_right₀ one_le_two (by omega)
    refine iff_of_false (by omega) (not_le.2 ?_)
    calc (a / d : ℚ) * 2 ^ e < 2 ^ 53 * 2 ^ e := mul_lt_mul_of_pos_right small unit
      _ ≤ 2 ^ 53 * 2 ^ (970 : ℤ) := mul_le_mul_of_nonneg_left place (by positivity)
      _ ≤ overflow := overflow_bounds.1
  · have reached : 2047 * 2 ^ 52 ≤ (971 + 1074 : ℤ).toNat * 2 ^ 52 + roundDiv a d ↔
        2 ^ 53 ≤ roundDiv a d := by
      have : (971 + 1074 : ℤ).toNat = 2045 := rfl
      omega
    rw [reached, le_roundDiv_iff scaledPos (by norm_num), overflow, mul_le_mul_iff_left₀ unit,
      le_div_iff₀ dPos, ← Nat.cast_le (α := ℚ)]
    push_cast
    constructor
    · intro
      linarith
    · intro
      linarith
  · have low : (2 ^ 52 * d : ℚ) ≤ a := lower.resolve_left (by omega)
    have large : (2 : ℚ) ^ 52 ≤ a / d := (le_div_iff₀ dPos).2 low
    have place : (2 : ℚ) ^ (972 : ℤ) ≤ 2 ^ e := zpow_le_zpow_right₀ one_le_two (by omega)
    have : 2 ^ 52 ≤ a / d := (Nat.le_div_iff_mul_le scaledPos).2 (by exact_mod_cast low)
    refine iff_of_true (by omega) ?_
    calc overflow ≤ 2 ^ 52 * 2 ^ (972 : ℤ) := overflow_bounds.2
      _ ≤ 2 ^ 52 * 2 ^ e := mul_le_mul_of_nonneg_left place (by positivity)
      _ ≤ a / d * 2 ^ e := mul_le_mul_of_nonneg_right large unit.le

/-- The decimals that read as an infinity. -/
theorem ofDecimal_eq_infinity_iff {negative sign : Bool} {mantissa : Nat} {exponent : Int} :
    ofDecimal negative mantissa exponent = infinity sign ↔
      negative = sign ∧ overflow ≤ mantissa * 10 ^ exponent := by
  have least : (1 : ℚ) ≤ 2 ^ 53 * 2 ^ (970 : ℤ) :=
    one_le_mul_of_one_le_of_one_le (by norm_num) (one_le_zpow₀ one_le_two (by norm_num))
  unfold ofDecimal
  simp only [tenPow_eq]
  split
  · -- the bits of a zero
    rename_i small
    rw [ofMagnitudeBits_eq_infinity_iff (Nat.zero_le _)]
    refine iff_of_false (by norm_num) fun reaches => ?_
    have one : (1 : ℚ) ≤ mantissa * 10 ^ exponent := (least.trans overflow_bounds.1).trans reaches.2
    by_cases zero : mantissa = 0
    · rw [zero] at one
      norm_num at one
    · have below := (ten_zpow_size_bounds zero exponent).2
      have : (10 : ℚ) ^ ((Nat.toDigits 10 mantissa).length + exponent) ≤ 1 :=
        zpow_le_one_of_nonpos₀ (by norm_num) (by have := small.resolve_left zero; omega)
      linarith
  · rename_i some
    split
    · -- the bits of an infinity
      rename_i large
      rw [twoPow_eq, ofMagnitudeBits_eq_infinity_iff le_rfl, and_congr_right_iff]
      refine fun _ => iff_of_true rfl ?_
      calc overflow ≤ 10 ^ (310 : ℤ) := overflow_le_ten_zpow
        _ ≤ 10 ^ ((Nat.toDigits 10 mantissa).length + exponent - 1) :=
            zpow_le_zpow_right₀ (by norm_num) (by omega)
        _ ≤ mantissa * 10 ^ exponent :=
            (ten_zpow_size_bounds (fun zero => some (Or.inl zero)) exponent).1
    · split
      · rename_i whole
        obtain ⟨n, rfl⟩ := Int.eq_ofNat_of_zero_le whole
        rw [ofRatio, ofMagnitudeBits_eq_infinity_iff (nearestBits_le _ _),
          nearestBits_eq_iff Nat.one_pos]
        simp
      · rename_i fractional
        obtain ⟨n, rfl⟩ : ∃ n : Nat, exponent = -(n : Int) := ⟨(-exponent).toNat, by omega⟩
        rw [ofRatio, ofMagnitudeBits_eq_infinity_iff (nearestBits_le _ _),
          nearestBits_eq_iff (by positivity)]
        simp [div_eq_mul_inv]

end Number

open Number

/-- The nearest float of a decimal is an infinity exactly if the decimal is at least as large as the
    least number that rounds to it. -/
theorem Decimal.toFloat_eq_infinity_iff {d : Decimal} {negative : Bool} :
    d.toFloat = infinity negative ↔ overflow ≤ if negative then -d.val else d.val := by
  have positive : 0 < overflow := lt_of_lt_of_le (by positivity) overflow_bounds.1
  have scale : (0 : ℚ) < 10 ^ d.scale.toNat := by positivity
  rw [toFloat, ofDecimal_eq_infinity_iff, zpow_neg, zpow_natCast, ← div_eq_mul_inv, Nat.cast_natAbs,
    Int.cast_abs, val]
  rcases lt_or_ge d.mantissa 0 with below | above
  · have value : (d.mantissa : ℚ) < 0 := by exact_mod_cast below
    have quotient : (d.mantissa : ℚ) / 10 ^ d.scale.toNat < 0 := div_neg_of_neg_of_pos value scale
    rw [abs_of_neg value, decide_eq_true below, neg_div]
    cases negative with
    | true => simp
    | false => simpa using quotient.trans positive
  · have value : (0 : ℚ) ≤ d.mantissa := by exact_mod_cast above
    have quotient : (0 : ℚ) ≤ (d.mantissa : ℚ) / 10 ^ d.scale.toNat := div_nonneg value scale.le
    rw [abs_of_nonneg value, decide_eq_false (not_lt.2 above)]
    cases negative with
    | true => simpa using (neg_nonpos.2 quotient).trans_lt positive
    | false => simp

end PluginLisp
