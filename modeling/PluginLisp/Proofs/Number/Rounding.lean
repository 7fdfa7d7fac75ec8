import Mathlib
import PluginLisp.Number.Shortest
import PluginLisp.Number.Reading

/-!
Rounding to floats. A finite float taken apart is in canonical form, and its parts put together give
the float back. A ratio in the rounding interval of a float rounds to that float, and so does a
decimal. The whole of Mathlib is imported for the fact that the bits of a float determine it, which no
part of it provides.

Main results: `ofMagnitudeBits_of_finite`, `ofDecimal_of_attracts`.
-/

namespace PluginLisp.Number

@[simp] theorem twoPow_eq (n : Nat) : twoPow n = 2 ^ n := rfl

@[simp] theorem tenPow_eq (n : Nat) : tenPow n = 10 ^ n := rfl

/-! ### The parts of a float -/

namespace Binary

/-- The form in which floats are taken apart: the mantissa has fifty-three binary digits, or fewer if
    the exponent is the least one. -/
structure Canonical (b : Binary) : Prop where
  mantissa_lt : b.mantissa < 2 ^ 53
  exponent_ge : -1074 ≤ b.exponent
  exponent_le : b.exponent ≤ 971
  normal : b.exponent = -1074 ∨ 2 ^ 52 ≤ b.mantissa

/-- The bits of the magnitude, as a number. -/
def magnitudeBits (b : Binary) : Nat := (b.exponent + 1074).toNat * 2 ^ 52 + b.mantissa

/-- The magnitude. -/
def magnitude (b : Binary) : ℚ := b.mantissa * 2 ^ b.exponent

/-- How far below a float, in units of its last place, the numbers still round to it. -/
def reach (b : Binary) : ℚ := if b.mantissa = 2 ^ 52 ∧ -1074 < b.exponent then 1 / 4 else 1 / 2

/-- A number that rounds to the float: an end of the interval does so if the mantissa is even. -/
structure Attracts (b : Binary) (q : ℚ) : Prop where
  low : (b.mantissa - b.reach) * 2 ^ b.exponent ≤ q
  high : q ≤ (b.mantissa + 1 / 2) * 2 ^ b.exponent
  inside : b.mantissa % 2 = 1 →
    (b.mantissa - b.reach) * 2 ^ b.exponent < q ∧ q < (b.mantissa + 1 / 2) * 2 ^ b.exponent

end Binary

/-- The three fields of a word make up its value. -/
theorem fields_eq (bits : UInt64) :
    (bits >>> 63).toNat < 2 ∧ ((bits >>> 52) &&& 0x7ff).toNat < 2048 ∧
      (bits &&& 0xfffffffffffff).toNat < 2 ^ 52 ∧
      bits.toNat = (bits >>> 63).toNat * 2 ^ 63 + ((bits >>> 52) &&& 0x7ff).toNat * 2 ^ 52
        + (bits &&& 0xfffffffffffff).toNat := by
  have bound : bits.toNat < 2 ^ 64 := bits.toNat_lt
  have sign : (bits >>> 63).toNat = bits.toNat / 2 ^ 63 := by
    simp [UInt64.toNat_shiftRight, Nat.shiftRight_eq_div_pow]
  have exponent : ((bits >>> 52) &&& 0x7ff).toNat = bits.toNat / 2 ^ 52 % 2 ^ 11 := by
    rw [UInt64.toNat_and, UInt64.toNat_shiftRight, ← Nat.and_two_pow_sub_one_eq_mod]
    simp [Nat.shiftRight_eq_div_pow]
  have fraction : (bits &&& 0xfffffffffffff).toNat = bits.toNat % 2 ^ 52 := by
    rw [UInt64.toNat_and, ← Nat.and_two_pow_sub_one_eq_mod]
    simp
  rw [sign, exponent, fraction]
  omega

/-- A finite float has canonical parts, and they make up its bits. -/
theorem canonical_of_finite {x : Float} {b : Binary} (finite : Kind.ofFloat x = .finite b) :
    b.Canonical ∧ x.toBits.toNat = (if b.negative then 2 ^ 63 else 0) + b.magnitudeBits := by
  obtain ⟨sign, exponent, fraction, whole⟩ := fields_eq x.toBits
  have negative : (if (x.toBits >>> 63 != 0) = true then 2 ^ 63 else 0) =
      (x.toBits >>> 63).toNat * 2 ^ 63 := by
    by_cases zero : x.toBits >>> 63 = 0
    · simp [zero]
    · have positive : (x.toBits >>> 63).toNat ≠ 0 := by
        intro none
        exact zero (UInt64.toNat_inj.1 (by simpa using none))
      simp only [bne_iff_ne, ne_eq, zero, not_false_eq_true, if_true]
      omega
  unfold Kind.ofFloat at finite
  simp only [] at finite
  split at finite
  · split at finite <;> cases finite
  · split at finite
    · rename_i subnormal
      cases finite
      refine ⟨⟨by simp only; omega, by simp, by simp, Or.inl rfl⟩, ?_⟩
      rw [negative, whole, subnormal]
      simp [Binary.magnitudeBits]
    · rename_i infinite normal
      cases finite
      refine ⟨⟨?_, ?_, ?_, Or.inr ?_⟩, ?_⟩
      · simp only [twoPow_eq]; omega
      · simp only; omega
      · simp only; omega
      · simp only [twoPow_eq]; omega
      · rw [negative, whole]
        simp only [Binary.magnitudeBits, twoPow_eq]
        omega

/-- The parts of a finite float, put together, are the float. -/
theorem ofMagnitudeBits_of_finite {x : Float} {b : Binary} (finite : Kind.ofFloat x = .finite b) :
    ofMagnitudeBits b.negative b.magnitudeBits = x := by
  obtain ⟨-, whole⟩ := canonical_of_finite finite
  have bits : (if b.negative then (b.magnitudeBits + twoPow 63).toUInt64
      else b.magnitudeBits.toUInt64) = x.toBits := by
    apply UInt64.toNat_inj.1
    have bound : x.toBits.toNat < 2 ^ 64 := x.toBits.toNat_lt
    cases sign : b.negative <;> simp [sign] at whole ⊢ <;> omega
  rw [ofMagnitudeBits, bits, Float.ofBits_toBits]

/-! ### Rounding a ratio -/

/-- An integer within a half of a ratio is what the ratio rounds to, unless it is odd and exactly a
    half away. -/
theorem roundDiv_eq {num den n : Nat} (positive : 0 < den) (low : 2 * n * den ≤ 2 * num + den)
    (high : 2 * num ≤ 2 * n * den + den)
    (inside : n % 2 = 1 → 2 * n * den < 2 * num + den ∧ 2 * num < 2 * n * den + den) :
    roundDiv num den = n := by
  have split : den * (num / den) + num % den = num := Nat.div_add_mod num den
  have rest : num % den < den := Nat.mod_lt num positive
  unfold roundDiv
  simp only
  generalize num / den = q at split ⊢
  generalize num % den = r at split rest ⊢
  have above : q ≤ n := by
    by_contra less
    have : den * (n + 1) ≤ den * q := Nat.mul_le_mul_left den (by omega)
    nlinarith
  have below : n ≤ q + 1 := by
    by_contra more
    have : den * (q + 2) ≤ den * n := Nat.mul_le_mul_left den (by omega)
    nlinarith
  obtain rfl | rfl : n = q ∨ n = q + 1 := by omega
  · rw [if_neg]
    rintro (beyond | ⟨half, odd⟩)
    · nlinarith
    · have := (inside odd).2
      nlinarith
  · rw [if_pos]
    by_cases half : 2 * r = den
    · refine Or.inr ⟨half, ?_⟩
      by_contra even
      have := (inside (by omega)).1
      nlinarith
    · refine Or.inl ?_
      have : den ≤ 2 * r := by nlinarith
      omega

theorem scaleRatio_den_pos (num : Nat) {den : Nat} (positive : 0 < den) (e : Int) :
    0 < (scaleRatio num den e).2 := by
  unfold scaleRatio
  split
  · exact Nat.mul_pos positive (Nat.pow_pos (by decide))
  · exact positive

/-- Scaling a ratio divides it by the power of two. -/
theorem scaleRatio_eq (num : Nat) {den : Nat} (positive : 0 < den) (e : Int) :
    ((scaleRatio num den e).1 : ℚ) * 2 ^ e * den = num * (scaleRatio num den e).2 := by
  unfold scaleRatio
  split
  · rename_i nonneg
    obtain ⟨n, rfl⟩ := Int.eq_ofNat_of_zero_le nonneg
    simp only [twoPow_eq, Int.toNat_natCast, zpow_natCast]
    push_cast
    ring
  · rename_i negative
    obtain ⟨n, rfl⟩ : ∃ n : Nat, e = -(n : Int) := ⟨(-e).toNat, by omega⟩
    simp only [twoPow_eq, neg_neg, Int.toNat_natCast, zpow_neg, zpow_natCast]
    push_cast
    field_simp

theorem two_zpow_add (e : Int) (n : Nat) : (2 : ℚ) ^ (e + n) = 2 ^ n * 2 ^ e := by
  rw [zpow_add₀ two_ne_zero, zpow_natCast, mul_comm]

/-- The binary logarithms of a ratio's terms enclose the ratio. -/
theorem ratio_bounds {num den : Nat} (nonzero : num ≠ 0) (positive : 0 < den) :
    (2 : ℚ) ^ ((num.log2 : Int) - den.log2 - 1) * den < num ∧
      (num : ℚ) < 2 ^ ((num.log2 : Int) - den.log2 + 1) * den := by
  have numLow : (2 : ℚ) ^ (num.log2 : Int) ≤ num := by exact_mod_cast Nat.log2_self_le nonzero
  have numHigh : (num : ℚ) < 2 ^ ((num.log2 : Int) + 1) := by
    exact_mod_cast Nat.lt_log2_self (n := num)
  have denLow : (2 : ℚ) ^ (den.log2 : Int) ≤ den := by
    exact_mod_cast Nat.log2_self_le (by omega : den ≠ 0)
  have denHigh : (den : ℚ) < 2 ^ ((den.log2 : Int) + 1) := by
    exact_mod_cast Nat.lt_log2_self (n := den)
  constructor
  · calc (2 : ℚ) ^ ((num.log2 : Int) - den.log2 - 1) * den
        < 2 ^ ((num.log2 : Int) - den.log2 - 1) * 2 ^ ((den.log2 : Int) + 1) := by gcongr
      _ = 2 ^ (num.log2 : Int) := by rw [← zpow_add₀ two_ne_zero]; congr 1; ring
      _ ≤ num := numLow
  · calc (num : ℚ) < 2 ^ ((num.log2 : Int) + 1) := numHigh
      _ = 2 ^ ((num.log2 : Int) - den.log2 + 1) * 2 ^ (den.log2 : Int) := by
          rw [← zpow_add₀ two_ne_zero]; congr 1; ring
      _ ≤ 2 ^ ((num.log2 : Int) - den.log2 + 1) * den := by gcongr

/-- At the last place a ratio has at most fifty-three binary digits, and no fewer unless it is the
    least place. -/
theorem lastPlace_spec {num den : Nat} (nonzero : num ≠ 0) (positive : 0 < den) :
    -1074 ≤ lastPlace num den ∧ (num : ℚ) < 2 ^ (lastPlace num den + 53) * den ∧
      (lastPlace num den = -1074 ∨ 2 ^ (lastPlace num den + 52) * (den : ℚ) ≤ num) := by
  obtain ⟨low, high⟩ := ratio_bounds nonzero positive
  unfold lastPlace
  simp only
  generalize guessed : max ((num.log2 : Int) - den.log2 - 53) (-1074) = guess
  have scaled := scaleRatio_eq num positive guess
  have scaledPos := scaleRatio_den_pos num positive guess
  generalize (scaleRatio num den guess).1 = n at scaled ⊢
  generalize (scaleRatio num den guess).2 = d at scaled scaledPos ⊢
  have denPos : (0 : ℚ) < den := by exact_mod_cast positive
  have dPos : (0 : ℚ) < d := by exact_mod_cast scaledPos
  have unit : (0 : ℚ) < 2 ^ guess := by positivity
  have exactly : (num : ℚ) = n / d * 2 ^ guess * den := by
    field_simp
    linarith
  split
  · rename_i fits
    have small : (n : ℚ) / d < 2 ^ 53 := by
      rw [div_lt_iff₀ dPos]
      exact_mod_cast (Nat.div_lt_iff_lt_mul scaledPos).1 fits
    refine ⟨by omega, ?_, ?_⟩
    · rw [exactly, zpow_add₀ two_ne_zero]
      have : (n : ℚ) / d * 2 ^ guess < 2 ^ guess * 2 ^ (53 : Int) := by
        rw [mul_comm]
        exact mul_lt_mul_of_pos_left (by exact_mod_cast small) unit
      exact mul_lt_mul_of_pos_right this denPos
    · by_cases least : guess = -1074
      · exact Or.inl least
      · right
        have : guess + 52 = (num.log2 : Int) - den.log2 - 1 := by omega
        rw [this]
        exact low.le
  · rename_i beyond
    have large : (2 : ℚ) ^ 53 ≤ n / d := by
      rw [le_div_iff₀ dPos]
      exact_mod_cast (Nat.le_div_iff_mul_le scaledPos).1 (not_lt.1 beyond)
    refine ⟨by omega, ?_, Or.inr ?_⟩
    · refine lt_of_lt_of_le high (mul_le_mul_of_nonneg_right ?_ denPos.le)
      exact zpow_le_zpow_right₀ one_le_two (by omega)
    · have : guess + 1 + 52 = guess + 53 := by ring
      rw [this, exactly, zpow_add₀ two_ne_zero]
      have : (2 : ℚ) ^ guess * 2 ^ (53 : Int) ≤ n / d * 2 ^ guess := by
        rw [mul_comm ((n : ℚ) / d)]
        exact mul_le_mul_of_nonneg_left (by exact_mod_cast large) unit.le
      exact mul_le_mul_of_nonneg_right this denPos.le

/-- A ratio within half a unit of `n` units, or exactly half a unit from an even `n`, rounds to `n`
    at that unit. -/
theorem roundDiv_scaleRatio {num den n : Nat} {e : Int} (positive : 0 < den)
    (low : (n - 1 / 2) * 2 ^ e ≤ (num / den : ℚ)) (high : (num / den : ℚ) ≤ (n + 1 / 2) * 2 ^ e)
    (inside : n % 2 = 1 →
      (n - 1 / 2) * 2 ^ e < (num / den : ℚ) ∧ (num / den : ℚ) < (n + 1 / 2) * 2 ^ e) :
    roundDiv (scaleRatio num den e).1 (scaleRatio num den e).2 = n := by
  have scaled := scaleRatio_eq num positive e
  have scaledPos := scaleRatio_den_pos num positive e
  generalize (scaleRatio num den e).1 = a at scaled ⊢
  generalize (scaleRatio num den e).2 = d at scaled scaledPos ⊢
  have denPos : (0 : ℚ) < den := by exact_mod_cast positive
  have dPos : (0 : ℚ) < d := by exact_mod_cast scaledPos
  have unit : (0 : ℚ) < 2 ^ e := by positivity
  have exactly : (num / den : ℚ) = a / d * 2 ^ e := by
    field_simp
    linarith
  rw [exactly] at low high inside
  simp only [mul_le_mul_iff_left₀ unit, mul_lt_mul_iff_left₀ unit, le_div_iff₀ dPos,
    div_le_iff₀ dPos, lt_div_iff₀ dPos, div_lt_iff₀ dPos] at low high inside
  refine roundDiv_eq scaledPos ?_ ?_ fun odd => ?_
  · have : (2 * n * d : ℚ) ≤ 2 * a + d := by linarith
    exact_mod_cast this
  · have : (2 * a : ℚ) ≤ 2 * n * d + d := by linarith
    exact_mod_cast this
  · have left : (2 * n * d : ℚ) < 2 * a + d := by linarith [(inside odd).1]
    have right : (2 * a : ℚ) < 2 * n * d + d := by linarith [(inside odd).2]
    exact ⟨by exact_mod_cast left, by exact_mod_cast right⟩

namespace Binary

theorem reach_le (b : Binary) : b.reach ≤ 1 / 2 := by
  unfold reach
  split <;> norm_num

theorem Attracts.pos {b : Binary} {q : ℚ} (attracts : b.Attracts q) (nonzero : b.mantissa ≠ 0) :
    0 < q := by
  have : (1 : ℚ) ≤ b.mantissa := by exact_mod_cast Nat.one_le_iff_ne_zero.2 nonzero
  have : 0 < (b.mantissa - b.reach) * 2 ^ b.exponent :=
    mul_pos (by linarith [b.reach_le]) (by positivity)
  exact this.trans_le attracts.low

/-- What rounds to a float is less than half a unit below it, or exactly half a unit if the mantissa is
    even. -/
theorem Attracts.within_half {b : Binary} {q : ℚ} (attracts : b.Attracts q) :
    (b.mantissa - 1 / 2) * 2 ^ b.exponent ≤ q ∧
      (b.mantissa % 2 = 1 → (b.mantissa - 1 / 2) * 2 ^ b.exponent < q) := by
  have : (b.mantissa - 1 / 2) * 2 ^ b.exponent ≤ (b.mantissa - b.reach) * (2 : ℚ) ^ b.exponent :=
    mul_le_mul_of_nonneg_right (by linarith [b.reach_le]) (by positivity)
  exact ⟨this.trans attracts.low, fun odd => this.trans_lt (attracts.inside odd).1⟩

end Binary

open Binary

/-- A ratio that rounds to a float has the float's last place, or the one below it if the float is a
    power of two and the ratio is smaller. -/
theorem lastPlace_of_attracts {b : Binary} {num den : Nat} (canonical : b.Canonical)
    (nonzero : num ≠ 0) (positive : 0 < den) (attracts : b.Attracts (num / den)) :
    lastPlace num den = b.exponent ∨
      b.mantissa = 2 ^ 52 ∧ -1074 < b.exponent ∧ lastPlace num den = b.exponent - 1 := by
  obtain ⟨least, upper, lower⟩ := lastPlace_spec nonzero positive
  generalize lastPlace num den = e at least upper lower ⊢
  have denPos : (0 : ℚ) < den := by exact_mod_cast positive
  rw [← div_lt_iff₀ denPos] at upper
  rw [← le_div_iff₀ denPos] at lower
  have unit : (0 : ℚ) < 2 ^ b.exponent := by positivity
  have mantissaLt : (b.mantissa : ℚ) + 1 ≤ 2 ^ 53 := by exact_mod_cast canonical.mantissa_lt
  rcases lt_trichotomy b.exponent e with above | rfl | below
  · -- the ratio would have to reach past the next power of two
    exfalso
    have step : (2 : ℚ) ^ (b.exponent + 53) ≤ 2 ^ (e + 52) :=
      zpow_le_zpow_right₀ one_le_two (by omega)
    have reached : (2 : ℚ) ^ (e + 52) ≤ num / den :=
      lower.resolve_left (by have := canonical.exponent_ge; omega)
    have split : (2 : ℚ) ^ (b.exponent + 53) = 2 ^ 53 * 2 ^ b.exponent := two_zpow_add b.exponent 53
    have := mul_le_mul_of_nonneg_right mantissaLt unit.le
    linarith [attracts.high]
  · exact Or.inl rfl
  · right
    have normal : (2 : ℚ) ^ 52 ≤ b.mantissa := by
      exact_mod_cast canonical.normal.resolve_left (by omega)
    have step : (num / den : ℚ) < 2 ^ 52 * 2 ^ b.exponent := by
      have : (2 : ℚ) ^ (e + 53) ≤ 2 ^ (b.exponent + 52) :=
        zpow_le_zpow_right₀ one_le_two (by omega)
      exact (upper.trans_le this).trans_eq (two_zpow_add b.exponent 52)
    have small : (b.mantissa : ℚ) - 1 / 2 < 2 ^ 52 :=
      lt_of_mul_lt_mul_right (attracts.within_half.1.trans_lt step) unit.le
    have power : b.mantissa = 2 ^ 52 := by
      have : (b.mantissa : ℚ) < 2 ^ 52 + 1 := by linarith
      have : b.mantissa < 2 ^ 52 + 1 := by exact_mod_cast this
      have : 2 ^ 52 ≤ b.mantissa := by exact_mod_cast normal
      omega
    refine ⟨power, by omega, ?_⟩
    by_contra other
    have : (2 : ℚ) ^ (e + 53) ≤ 2 ^ (b.exponent + 51) :=
      zpow_le_zpow_right₀ one_le_two (by omega)
    have split : (2 : ℚ) ^ (b.exponent + 51) = 2 ^ 51 * 2 ^ b.exponent := two_zpow_add b.exponent 51
    have low := attracts.within_half.1
    rw [power] at low
    push_cast at low
    have half : (2 : ℚ) ^ 51 * 2 ^ b.exponent < (2 ^ 52 - 1 / 2) * 2 ^ b.exponent :=
      mul_lt_mul_of_pos_right (by norm_num) unit
    linarith

/-- A ratio that rounds to a float has that float's bits. -/
theorem nearestBits_of_attracts {b : Binary} {num den : Nat} (canonical : b.Canonical)
    (mantissa : b.mantissa ≠ 0) (positive : 0 < den) (attracts : b.Attracts (num / den)) :
    nearestBits num den = b.magnitudeBits := by
  have nonzero : num ≠ 0 := by
    rintro rfl
    simpa using attracts.pos mantissa
  have bounded : b.magnitudeBits ≤ 2047 * 2 ^ 52 := by
    have := canonical.mantissa_lt
    have := canonical.exponent_le
    unfold magnitudeBits
    omega
  unfold nearestBits
  rw [if_neg nonzero]
  simp only [twoPow_eq]
  rcases lastPlace_of_attracts canonical nonzero positive attracts with same | ⟨power, above, below⟩
  · have rounded : roundDiv (scaleRatio num den b.exponent).1 (scaleRatio num den b.exponent).2 =
        b.mantissa :=
      roundDiv_scaleRatio positive attracts.within_half.1 attracts.high fun odd =>
        ⟨attracts.within_half.2 odd, (attracts.inside odd).2⟩
    rw [same, rounded]
    exact min_eq_left bounded
  · have low := attracts.low
    have short := (lastPlace_spec nonzero positive).2.1
    rw [← div_lt_iff₀ (by exact_mod_cast positive), below] at short
    rw [reach, if_pos ⟨power, above⟩, power] at low
    have unit : (2 : ℚ) ^ b.exponent = 2 * 2 ^ (b.exponent - 1) := by
      rw [zpow_sub_one₀ two_ne_zero]
      ring
    have double : (2 : ℚ) ^ (b.exponent - 1 + 53) = 2 ^ 53 * 2 ^ (b.exponent - 1) :=
      two_zpow_add (b.exponent - 1) 53
    have positiveUnit : (0 : ℚ) < 2 ^ (b.exponent - 1) := by positivity
    have rounded : roundDiv (scaleRatio num den (b.exponent - 1)).1
        (scaleRatio num den (b.exponent - 1)).2 = 2 ^ 53 := by
      refine roundDiv_scaleRatio positive ?_ ?_ (by omega)
      · rw [unit] at low
        push_cast at low ⊢
        linarith
      · rw [double] at short
        push_cast
        linarith
    rw [below, rounded]
    have : (b.exponent - 1 + 1074).toNat * 2 ^ 52 + 2 ^ 53 = b.magnitudeBits := by
      unfold magnitudeBits
      omega
    rw [this]
    exact min_eq_left bounded

/-! ### Rounding a decimal -/

/-- A natural number lies between the powers of ten around its digits. -/
theorem toDigits_bounds {n : Nat} (nonzero : n ≠ 0) :
    10 ^ ((Nat.toDigits 10 n).length - 1) ≤ n ∧ n < 10 ^ (Nat.toDigits 10 n).length := by
  have positive : 0 < (Nat.toDigits 10 n).length := List.length_pos_iff.2 Nat.toDigits_ne_nil
  constructor
  · by_contra less
    by_cases one : (Nat.toDigits 10 n).length = 1
    · rw [one] at less
      omega
    · have := (Nat.length_toDigits_le_iff (by decide) (by omega)).2 (not_le.1 less)
      omega
  · exact (Nat.length_toDigits_le_iff (by decide) positive).1 le_rfl

/-- A decimal lies between the powers of ten around its first digit. -/
theorem ten_zpow_size_bounds {mantissa : Nat} (nonzero : mantissa ≠ 0) (exponent : Int) :
    (10 : ℚ) ^ ((Nat.toDigits 10 mantissa).length + exponent - 1) ≤ mantissa * 10 ^ exponent ∧
      mantissa * 10 ^ exponent < (10 : ℚ) ^ ((Nat.toDigits 10 mantissa).length + exponent) := by
  obtain ⟨low, high⟩ := toDigits_bounds nonzero
  have some : 0 < (Nat.toDigits 10 mantissa).length := List.length_pos_iff.2 Nat.toDigits_ne_nil
  generalize (Nat.toDigits 10 mantissa).length = size at low high some ⊢
  have unit : (0 : ℚ) < 10 ^ exponent := by positivity
  constructor
  · calc (10 : ℚ) ^ ((size : Int) + exponent - 1) = 10 ^ (((size - 1 : Nat) : Int) + exponent) := by
          congr 1
          omega
      _ = 10 ^ ((size - 1 : Nat) : Int) * 10 ^ exponent := zpow_add₀ (by norm_num) _ _
      _ ≤ mantissa * 10 ^ exponent :=
          mul_le_mul_of_nonneg_right (by exact_mod_cast low) unit.le
  · calc (mantissa : ℚ) * 10 ^ exponent < 10 ^ (size : Int) * 10 ^ exponent :=
          mul_lt_mul_of_pos_right (by exact_mod_cast high) unit
      _ = 10 ^ ((size : Int) + exponent) := (zpow_add₀ (by norm_num) _ _).symm

/-- A decimal that rounds to a float reads as that float. -/
theorem ofDecimal_of_attracts {b : Binary} {mantissa : Nat} {exponent : Int} (negative : Bool)
    (canonical : b.Canonical) (nonzero : b.mantissa ≠ 0)
    (attracts : b.Attracts (mantissa * 10 ^ exponent)) :
    ofDecimal negative mantissa exponent = ofMagnitudeBits negative b.magnitudeBits := by
  have present : mantissa ≠ 0 := by
    rintro rfl
    simpa using attracts.pos nonzero
  obtain ⟨low, high⟩ := ten_zpow_size_bounds present exponent
  unfold ofDecimal
  simp only [tenPow_eq]
  generalize (Nat.toDigits 10 mantissa).length = size at low high ⊢
  have large : ¬ ((size : Int) + exponent < -330) := by
    intro small
    have upper : (mantissa : ℚ) * 10 ^ exponent < 10 ^ (-330 : Int) :=
      high.trans_le (zpow_le_zpow_right₀ (by norm_num) small.le)
    have lower : (2 : ℚ) ^ (-1075 : Int) ≤ mantissa * 10 ^ exponent := by
      refine le_trans ?_ attracts.within_half.1
      have one : (1 : ℚ) ≤ b.mantissa := by exact_mod_cast Nat.one_le_iff_ne_zero.2 nonzero
      calc (2 : ℚ) ^ (-1075 : Int) = 1 / 2 * 2 ^ (-1074 : Int) := by
            rw [show (-1075 : Int) = -1074 - 1 from rfl, zpow_sub_one₀ two_ne_zero]; ring
        _ ≤ (b.mantissa - 1 / 2) * 2 ^ b.exponent := by
            have := zpow_le_zpow_right₀ (a := (2 : ℚ)) one_le_two canonical.exponent_ge
            exact mul_le_mul (by linarith) this (by positivity) (by linarith)
    have : (10 : ℚ) ^ (-330 : Int) < 2 ^ (-1075 : Int) := by
      have powers : (2 : Nat) ^ 1075 < 10 ^ 330 := by decide +kernel
      rw [zpow_neg, zpow_neg]
      exact inv_strictAnti₀ (by positivity) (by exact_mod_cast powers)
    exact absurd (lower.trans_lt upper) this.le.not_gt
  have small : ¬ (310 < (size : Int) + exponent) := by
    intro large
    have lower : (10 : ℚ) ^ (310 : Int) ≤ mantissa * 10 ^ exponent :=
      (zpow_le_zpow_right₀ (by norm_num) (by omega)).trans low
    have upper : (mantissa * 10 ^ exponent : ℚ) ≤ 2 ^ (1024 : Int) := by
      refine attracts.high.trans ?_
      have most : (b.mantissa : ℚ) + 1 ≤ 2 ^ 53 := by exact_mod_cast canonical.mantissa_lt
      calc ((b.mantissa : ℚ) + 1 / 2) * 2 ^ b.exponent ≤ 2 ^ 53 * 2 ^ (971 : Int) := by
            have := zpow_le_zpow_right₀ (a := (2 : ℚ)) one_le_two canonical.exponent_le
            exact mul_le_mul (by linarith) this (by positivity) (by positivity)
        _ = 2 ^ (1024 : Int) := by
            rw [← zpow_natCast, ← zpow_add₀ two_ne_zero]
            rfl
    have powers : (2 : Nat) ^ 1024 < 10 ^ 310 := by decide +kernel
    have : (2 : ℚ) ^ (1024 : Int) < 10 ^ (310 : Int) := by exact_mod_cast powers
    exact absurd (lower.trans upper) this.not_ge
  rw [if_neg (by simp [present, large]), if_neg small]
  split
  · rename_i whole
    obtain ⟨n, rfl⟩ := Int.eq_ofNat_of_zero_le whole
    rw [ofRatio, nearestBits_of_attracts canonical nonzero Nat.one_pos]
    simpa using attracts
  · rename_i fractional
    obtain ⟨n, rfl⟩ : ∃ n : Nat, exponent = -(n : Int) := ⟨(-exponent).toNat, by omega⟩
    rw [ofRatio, nearestBits_of_attracts canonical nonzero (by positivity)]
    simpa [div_eq_mul_inv] using attracts

/-- Zero reads as zero with the sign that it has. -/
theorem ofDecimal_zero (negative : Bool) (exponent : Int) :
    ofDecimal negative 0 exponent = ofMagnitudeBits negative 0 := by
  simp [ofDecimal]

end PluginLisp.Number
