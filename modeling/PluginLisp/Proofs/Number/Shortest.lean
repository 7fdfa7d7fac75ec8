import PluginLisp.Proofs.Number.Rounding
import PluginLisp.Proofs.Number.Digits

/-!
The shortest digits of a float read back. The candidates that the search looks at are numbers that
round to the float, and one is found with seventeen digits at the latest, because there the multiples
of the power of ten lie closer together than the ends of the float's interval.

Main results: `shortestDigits_attracts`, `shortestDigits_places`.
-/

namespace PluginLisp.Number

open Binary

/-! ### The interval of a float -/

/-- The ratio of a float is its magnitude. -/
theorem Binary.ratio_eq (b : Binary) :
    0 < b.ratio.2 ∧ (b.ratio.1 : ℚ) = b.magnitude * b.ratio.2 := by
  unfold Binary.ratio Binary.magnitude
  split
  · rename_i whole
    obtain ⟨n, exponent⟩ := Int.eq_ofNat_of_zero_le whole
    simp [exponent]
  · rename_i fractional
    obtain ⟨n, exponent⟩ : ∃ n : Nat, b.exponent = -(n : Int) := ⟨(-b.exponent).toNat, by omega⟩
    simp [exponent]

/-- What it means for an interval to hold a multiple of a power of ten. -/
theorem Interval.holds_iff (i : Interval) (m : Nat) (k : Int) :
    i.holds m k = true ↔
      if i.closed then (i.low : ℚ) ≤ m * 10 ^ k * i.den ∧ m * 10 ^ k * i.den ≤ (i.high : ℚ)
      else (i.low : ℚ) < m * 10 ^ k * i.den ∧ m * 10 ^ k * i.den < (i.high : ℚ) := by
  -- both sides of every comparison are scaled by a power of ten that clears the denominator
  have scaled : ∃ scale : Nat, 0 < scale ∧
      (if 0 ≤ k then 1 else tenPow (-k).toNat) = scale ∧
      ((if 0 ≤ k then m * tenPow k.toNat * i.den else m * i.den : Nat) : ℚ) =
        m * 10 ^ k * i.den * scale := by
    by_cases whole : 0 ≤ k
    · obtain ⟨n, rfl⟩ := Int.eq_ofNat_of_zero_le whole
      exact ⟨1, Nat.one_pos, by simp, by simp⟩
    · obtain ⟨n, rfl⟩ : ∃ n : Nat, k = -(n : Int) := ⟨(-k).toNat, by omega⟩
      refine ⟨10 ^ n, by positivity, by rw [if_neg whole]; simp, ?_⟩
      rw [if_neg whole]
      push_cast
      rw [zpow_neg, zpow_natCast]
      field_simp
  obtain ⟨scale, positive, scaleEq, product⟩ := scaled
  have unit : (0 : ℚ) < scale := by exact_mod_cast positive
  unfold Interval.holds
  simp only [scaleEq]
  generalize (if 0 ≤ k then m * tenPow k.toNat * i.den else m * i.den) = x at product ⊢
  have le_left : i.low * scale ≤ x ↔ (i.low : ℚ) ≤ m * 10 ^ k * i.den := by
    rw [← mul_le_mul_iff_left₀ unit, ← product]; norm_cast
  have le_right : x ≤ i.high * scale ↔ m * 10 ^ k * i.den ≤ (i.high : ℚ) := by
    rw [← mul_le_mul_iff_left₀ unit, ← product]; norm_cast
  have lt_left : i.low * scale < x ↔ (i.low : ℚ) < m * 10 ^ k * i.den := by
    rw [← mul_lt_mul_iff_left₀ unit, ← product]; norm_cast
  have lt_right : x < i.high * scale ↔ m * 10 ^ k * i.den < (i.high : ℚ) := by
    rw [← mul_lt_mul_iff_left₀ unit, ← product]; norm_cast
  cases i.closed
  · simp [lt_left, lt_right]
  · simp [le_left, le_right]

/-- The interval of a float, in rational terms. -/
theorem Interval.of_spec {b : Binary} (nonzero : b.mantissa ≠ 0) :
    (0 : ℚ) < (Interval.of b).den ∧
      ((Interval.of b).low : ℚ) = (b.mantissa - b.reach) * 2 ^ b.exponent * (Interval.of b).den ∧
      ((Interval.of b).value : ℚ) = b.magnitude * (Interval.of b).den ∧
      ((Interval.of b).high : ℚ) = (b.mantissa + 1 / 2) * 2 ^ b.exponent * (Interval.of b).den := by
  obtain ⟨positive, unit⟩ := Binary.ratio_eq ⟨false, 1, b.exponent⟩
  unfold Interval.of
  simp only [Binary.magnitude] at unit ⊢
  generalize (Binary.ratio ⟨false, 1, b.exponent⟩).1 = n at unit ⊢
  generalize (Binary.ratio ⟨false, 1, b.exponent⟩).2 = d at unit positive ⊢
  have below : (if b.mantissa = twoPow 52 ∧ -1074 < b.exponent then 1 else 2) ≤ 4 * b.mantissa := by
    split <;> omega
  have quarter : ((if b.mantissa = twoPow 52 ∧ -1074 < b.exponent then 1 else 2 : Nat) : ℚ) =
      4 * b.reach := by
    unfold Binary.reach
    by_cases power : b.mantissa = 2 ^ 52 ∧ -1074 < b.exponent
    · rw [if_pos power, if_pos (by simpa using power)]
      norm_num
    · rw [if_neg power, if_neg (by simpa using power)]
      norm_num
  refine ⟨by exact_mod_cast (by omega : 0 < 4 * d), ?_, ?_, ?_⟩
  · rw [Nat.cast_mul, Nat.cast_sub below, quarter, unit]
    push_cast
    ring
  · push_cast
    rw [unit]
    ring
  · push_cast
    rw [unit]
    ring

/-- The interval of a float holds the numbers that round to it. -/
theorem Interval.holds_of_iff {b : Binary} (nonzero : b.mantissa ≠ 0) (m : Nat) (k : Int) :
    (Interval.of b).holds m k = true ↔ b.Attracts (m * 10 ^ k) := by
  obtain ⟨positive, low, -, high⟩ := Interval.of_spec nonzero
  have closed : (Interval.of b).closed = decide (b.mantissa % 2 = 0) := rfl
  rw [Interval.holds_iff, low, high, closed]
  simp only [mul_le_mul_iff_left₀ positive, mul_lt_mul_iff_left₀ positive, decide_eq_true_eq]
  constructor
  · intro within
    split at within
    · rename_i even
      exact ⟨within.1, within.2, fun odd => by omega⟩
    · exact ⟨within.1.le, within.2.le, fun _ => within⟩
  · intro attracts
    split
    · exact ⟨attracts.low, attracts.high⟩
    · exact attracts.inside (by omega)

/-! ### The candidates -/

theorem Interval.holds_of_candidate? {tie : Tie} {i : Interval} {k : Int} {m : Nat}
    (found : i.candidate? tie k = some m) : i.holds m k = true := by
  unfold Interval.candidate? at found
  extract_lets num den below rest at found
  split at found
  · rename_i first second
    split at found
    · exact Option.some.inj found ▸ first
    · split at found
      · exact Option.some.inj found ▸ second
      · split at found
        · exact Option.some.inj found ▸ first
        · exact Option.some.inj found ▸ second
  · rename_i first second
    exact Option.some.inj found ▸ first
  · rename_i first second
    exact Option.some.inj found ▸ second
  · cases found

/-- Without a candidate the value lies between two neighbouring multiples that the interval does not
    hold. -/
theorem Interval.neighbours_of_candidate?_none {tie : Tie} {i : Interval} {k : Int}
    (positive : 0 < i.den) (missing : i.candidate? tie k = none) :
    ∃ m : Nat, m * 10 ^ k * i.den ≤ (i.value : ℚ) ∧ (i.value : ℚ) < (m + 1) * 10 ^ k * i.den ∧
      i.holds m k = false ∧ i.holds (m + 1) k = false := by
  have scaled : ∃ num den : Nat, 0 < den ∧
      (if 0 ≤ k then i.value else i.value * tenPow (-k).toNat) = num ∧
      (if 0 ≤ k then i.den * tenPow k.toNat else i.den) = den ∧
      (num : ℚ) * (10 ^ k * i.den) = i.value * den := by
    by_cases whole : 0 ≤ k
    · obtain ⟨n, rfl⟩ := Int.eq_ofNat_of_zero_le whole
      refine ⟨i.value, i.den * 10 ^ n, by positivity, by simp, by simp, ?_⟩
      push_cast
      rw [zpow_natCast]
      ring
    · obtain ⟨n, rfl⟩ : ∃ n : Nat, k = -(n : Int) := ⟨(-k).toNat, by omega⟩
      refine ⟨i.value * 10 ^ n, i.den, positive, by rw [if_neg whole]; simp, if_neg whole, ?_⟩
      push_cast
      rw [zpow_neg, zpow_natCast]
      field_simp
  obtain ⟨num, den, denPos, numEq, denEq, ratio⟩ := scaled
  unfold Interval.candidate? at missing
  simp only [numEq, denEq] at missing
  have unit : (0 : ℚ) < 10 ^ k * i.den := by positivity
  have denPos' : (0 : ℚ) < den := by exact_mod_cast denPos
  have low : ((num / den : Nat) : ℚ) * den ≤ num := by exact_mod_cast Nat.div_mul_le_self num den
  have high : (num : ℚ) < ((num / den : Nat) + 1) * den := by
    exact_mod_cast Nat.lt_mul_of_div_lt (Nat.lt_succ_self (num / den)) denPos
  refine ⟨num / den, ?_, ?_, ?_⟩
  · rw [mul_assoc]
    refine le_of_mul_le_mul_right ?_ denPos'
    rw [← ratio]
    nlinarith
  · rw [mul_assoc]
    refine lt_of_mul_lt_mul_right ?_ denPos'.le
    rw [← ratio]
    nlinarith
  · split at missing
    · split at missing
      · cases missing
      · split at missing
        · cases missing
        · split at missing <;> cases missing
    · cases missing
    · cases missing
    · rename_i first second
      exact ⟨first, second⟩

theorem Binary.attracts_magnitude {b : Binary} : b.Attracts b.magnitude := by
  have unit : (0 : ℚ) < 2 ^ b.exponent := by positivity
  have reach : 0 < b.reach := by
    unfold Binary.reach
    split <;> norm_num
  have low : (b.mantissa - b.reach) * 2 ^ b.exponent < b.magnitude :=
    mul_lt_mul_of_pos_right (by linarith) unit
  have high : b.magnitude < (b.mantissa + 1 / 2) * 2 ^ b.exponent :=
    mul_lt_mul_of_pos_right (by linarith) unit
  exact ⟨low.le, high.le, fun _ => ⟨low, high⟩⟩

/-- A power of ten at which there is no candidate is at least as wide as the interval. -/
theorem Interval.width_le_of_candidate?_none {tie : Tie} {b : Binary} {k : Int}
    (nonzero : b.mantissa ≠ 0) (missing : (Interval.of b).candidate? tie k = none) :
    (b.reach + 1 / 2) * 2 ^ b.exponent ≤ 10 ^ k := by
  obtain ⟨positive, -, value, -⟩ := Interval.of_spec nonzero
  obtain ⟨m, below, above, first, second⟩ :=
    Interval.neighbours_of_candidate?_none (by exact_mod_cast positive) missing
  rw [value, mul_le_mul_iff_left₀ positive] at below
  rw [value, mul_lt_mul_iff_left₀ positive] at above
  obtain ⟨low, high, inside⟩ := b.attracts_magnitude
  have left : m * 10 ^ k ≤ (b.mantissa - b.reach) * (2 : ℚ) ^ b.exponent := by
    by_contra within
    have attracts : b.Attracts (m * 10 ^ k) :=
      ⟨(not_le.1 within).le, below.trans high, fun odd =>
        ⟨not_le.1 within, below.trans_lt (inside odd).2⟩⟩
    rw [← Interval.holds_of_iff nonzero, first] at attracts
    cases attracts
  have right : (b.mantissa + 1 / 2) * (2 : ℚ) ^ b.exponent ≤ (m + 1) * 10 ^ k := by
    by_contra within
    have attracts : b.Attracts ((m + 1 : Nat) * 10 ^ k) := by
      push_cast
      exact ⟨low.trans above.le, (not_le.1 within).le, fun odd =>
        ⟨(inside odd).1.trans above, not_le.1 within⟩⟩
    rw [← Interval.holds_of_iff nonzero, second] at attracts
    cases attracts
  linarith

/-! ### The place of the point -/

section Logarithm

/-! The ratio `b / a` is just above the decimal logarithm of two. -/

variable {a b : Nat} {t : Int}

theorem ten_zpow_le (below : 2 ^ a ≤ 10 ^ b) (above : 10 ^ b ≤ 2 ^ (a + 1)) (bounded : t ≤ a) :
    (10 : ℚ) ^ (t * b) ≤ 2 ^ (t * a) * 10 ^ a := by
  rcases le_or_gt 0 t with whole | negative
  · obtain ⟨n, rfl⟩ := Int.eq_ofNat_of_zero_le whole
    have excess : 2 ^ n ≤ 10 ^ a :=
      calc 2 ^ n ≤ 2 ^ a := Nat.pow_le_pow_right (by decide) (by exact_mod_cast bounded)
        _ ≤ 10 ^ a := Nat.pow_le_pow_left (by decide) a
    have natural : 10 ^ (n * b) ≤ 2 ^ (n * a) * 10 ^ a :=
      calc 10 ^ (n * b) = (10 ^ b) ^ n := by rw [← Nat.pow_mul, Nat.mul_comm]
        _ ≤ (2 ^ (a + 1)) ^ n := Nat.pow_le_pow_left above n
        _ = 2 ^ (n * a) * 2 ^ n := by rw [← Nat.pow_mul, ← Nat.pow_add]; congr 1; ring
        _ ≤ 2 ^ (n * a) * 10 ^ a := Nat.mul_le_mul_left _ excess
    exact_mod_cast natural
  · obtain ⟨n, rfl⟩ : ∃ n : Nat, t = -(n : Int) := ⟨(-t).toNat, by omega⟩
    have natural : 2 ^ (n * a) ≤ 10 ^ (n * b) * 10 ^ a :=
      calc 2 ^ (n * a) = (2 ^ a) ^ n := by rw [← Nat.pow_mul, Nat.mul_comm]
        _ ≤ (10 ^ b) ^ n := Nat.pow_le_pow_left below n
        _ = 10 ^ (n * b) := by rw [← Nat.pow_mul, Nat.mul_comm]
        _ ≤ 10 ^ (n * b) * 10 ^ a := Nat.le_mul_of_pos_right _ (by positivity)
    rw [neg_mul, neg_mul, zpow_neg, zpow_neg, inv_mul_eq_div, inv_eq_one_div,
      div_le_div_iff₀ (by positivity) (by positivity), one_mul, mul_comm (10 ^ a)]
    exact_mod_cast natural

/-- A decimal exponent computed from a binary one is too large by less than one. -/
theorem ten_zpow_guess_le (below : 2 ^ a ≤ 10 ^ b) (above : 10 ^ b ≤ 2 ^ (a + 1)) (positive : 0 < a)
    (bounded : t ≤ a) : (10 : ℚ) ^ (t * b / a - 1) ≤ 2 ^ t := by
  have whole : t * b / a * a ≤ t * b := Int.ediv_mul_le _ (by omega)
  have scaled : ((10 : ℚ) ^ (t * b / a - 1)) ^ a ≤ (2 ^ t) ^ a :=
    calc ((10 : ℚ) ^ (t * b / a - 1)) ^ a = 10 ^ (t * b / a * a) / 10 ^ a := by
          rw [← zpow_natCast, ← zpow_mul, sub_one_mul, zpow_sub₀ (by norm_num), zpow_natCast]
      _ ≤ 10 ^ (t * b) / 10 ^ a := by
          have := zpow_le_zpow_right₀ (a := (10 : ℚ)) (by norm_num) whole
          gcongr
      _ ≤ 2 ^ (t * a) := (div_le_iff₀ (by positivity)).2 (ten_zpow_le below above bounded)
      _ = (2 ^ t) ^ a := by rw [zpow_mul, zpow_natCast]
  exact le_of_pow_le_pow_left₀ positive.ne' (by positivity) scaled

end Logarithm

/-- A power of ten that a ratio reaches, in natural numbers. -/
theorem reached_iff (num den : Nat) (p : Int) :
    (if 0 ≤ p then decide (tenPow p.toNat * den ≤ num) else decide (den ≤ num * tenPow (-p).toNat)) =
      true ↔ (10 : ℚ) ^ p * den ≤ num := by
  by_cases whole : 0 ≤ p
  · obtain ⟨n, rfl⟩ := Int.eq_ofNat_of_zero_le whole
    rw [if_pos whole, decide_eq_true_eq]
    simp only [tenPow_eq, Int.toNat_natCast, zpow_natCast]
    norm_cast
  · obtain ⟨n, rfl⟩ : ∃ n : Nat, p = -(n : Int) := ⟨(-p).toNat, by omega⟩
    rw [if_neg whole, decide_eq_true_eq]
    simp only [tenPow_eq, neg_neg, Int.toNat_natCast, zpow_neg, zpow_natCast]
    rw [inv_mul_le_iff₀ (by positivity), mul_comm]
    norm_cast

/-- The first digit of a ratio stands at the place of the point or above. -/
theorem ten_zpow_pointOf_le {num den : Nat} (nonzero : num ≠ 0) (positive : 0 < den)
    (bounded : num.log2 ≤ 100000) : (10 : ℚ) ^ (pointOf num den - 1) * den ≤ num := by
  unfold pointOf
  extract_lets guess reached
  split
  · rename_i next
    rw [show guess + 2 - 1 = guess + 1 by ring]
    exact (reached_iff num den (guess + 1)).1 next
  · split
    · rename_i here
      rw [add_sub_cancel_right]
      exact (reached_iff num den guess).1 here
    · have below : 2 ^ 100000 ≤ 10 ^ 30103 := by decide +kernel
      have above : 10 ^ 30103 ≤ 2 ^ (100000 + 1) := by decide +kernel
      have guessed : (10 : ℚ) ^ (guess - 1) ≤ 2 ^ ((num.log2 : Int) - den.log2 - 1) :=
        ten_zpow_guess_le (a := 100000) (b := 30103) below above (by decide) (by push_cast; omega)
      calc (10 : ℚ) ^ (guess - 1) * den ≤ 2 ^ ((num.log2 : Int) - den.log2 - 1) * den := by gcongr
        _ ≤ num := (ratio_bounds nonzero positive).1.le

/-! ### The search -/

/-- A search that reaches a power of ten with a candidate ends with one. -/
theorem Interval.holds_search {tie : Tie} {i : Interval} {point : Int} {tries count n : Nat}
    (first : count ≤ n) (last : n < count + tries)
    (present : i.candidate? tie (point - n) ≠ none) :
    i.holds (i.search tie point tries count).1 (i.search tie point tries count).2 = true := by
  induction tries generalizing count with
  | zero => omega
  | succ tries ih =>
      unfold Interval.search
      simp only
      split
      · rename_i m found
        exact Interval.holds_of_candidate? found
      · rename_i missing
        have later : count ≠ n := by
          rintro rfl
          exact present missing
        exact ih (by omega) (by omega)

/-- The interval of a float is in the range of the powers that `pointOf` works with. -/
theorem Interval.log2_value_le {b : Binary} (canonical : b.Canonical) (nonzero : b.mantissa ≠ 0) :
    (Interval.of b).value ≠ 0 ∧ (Interval.of b).value.log2 ≤ 100000 := by
  obtain ⟨top, small, unit⟩ :
      ∃ top ≤ 971, (Binary.ratio ⟨false, 1, b.exponent⟩).1 = 2 ^ top := by
    unfold Binary.ratio
    split
    · exact ⟨b.exponent.toNat, by have := canonical.exponent_le; omega, by simp⟩
    · exact ⟨0, by omega, rfl⟩
  have value : (Interval.of b).value = 4 * b.mantissa * 2 ^ top := by rw [← unit]; rfl
  have present : (Interval.of b).value ≠ 0 := by simp [value, nonzero]
  have bounded : (Interval.of b).value < 2 ^ (55 + top) := by
    rw [value, Nat.pow_add]
    exact Nat.mul_lt_mul_of_pos_right (by have := canonical.mantissa_lt; omega) (by positivity)
  have := (Nat.log2_lt present).2 bounded
  exact ⟨present, by omega⟩

/-- With seventeen digits there is a candidate. -/
theorem Interval.candidate?_seventeen {tie : Tie} {b : Binary} (canonical : b.Canonical)
    (nonzero : b.mantissa ≠ 0) :
    (Interval.of b).candidate? tie (pointOf (Interval.of b).value (Interval.of b).den - 17) ≠
      none := by
  intro missing
  have wide := Interval.width_le_of_candidate?_none nonzero missing
  obtain ⟨positive, -, value, -⟩ := Interval.of_spec nonzero
  obtain ⟨present, bounded⟩ := Interval.log2_value_le canonical nonzero
  have first := ten_zpow_pointOf_le present (by exact_mod_cast positive) bounded
  rw [value, mul_le_mul_iff_left₀ positive] at first
  generalize pointOf (Interval.of b).value (Interval.of b).den = point at wide first
  have places : (10 : ℚ) ^ (point - 1) = 10 ^ 16 * 10 ^ (point - 17) := by
    rw [← zpow_natCast, ← zpow_add₀ (by norm_num)]
    congr 1
    push_cast
    ring
  have unit : (0 : ℚ) < 2 ^ b.exponent := by positivity
  -- in units of the last place, seventeen digits of the mantissa would have to be too many
  have many : 10 ^ 16 * (b.reach + 1 / 2) ≤ b.mantissa := by
    refine le_of_mul_le_mul_right ?_ unit
    calc 10 ^ 16 * (b.reach + 1 / 2) * 2 ^ b.exponent
        = 10 ^ 16 * ((b.reach + 1 / 2) * 2 ^ b.exponent) := by ring
      _ ≤ 10 ^ 16 * 10 ^ (point - 17) := by gcongr
      _ = 10 ^ (point - 1) := places.symm
      _ ≤ b.mantissa * 2 ^ b.exponent := first
  have few : (b.mantissa : ℚ) < 2 ^ 53 := by exact_mod_cast canonical.mantissa_lt
  unfold Binary.reach at many
  split at many
  · rename_i power
    rw [power.1] at many
    norm_num at many
  · linarith

/-! ### The digits -/

/-- The number that the digits stand for. -/
def Digits.magnitude (d : Digits) : ℚ :=
  digitsValue (digitChars d.digits) * 10 ^ (d.point - d.digits.length)

/-- Digits of a number without the zeros at its end, with the point kept in place. -/
theorem Digits.magnitude_of (m : Nat) (k : Int) :
    Digits.magnitude ⟨dropTrailingZeros (decimalDigits m), k + (decimalDigits m).length⟩ =
      m * 10 ^ k := by
  obtain ⟨zeros, split⟩ := dropTrailingZeros_append (decimalDigits m)
  have value : m = digitsValue (digitChars (dropTrailingZeros (decimalDigits m))) * 10 ^ zeros :=
    calc m = digitsValue (digitChars (decimalDigits m)) := by simp [digitChars_decimalDigits]
      _ = digitsValue (digitChars (dropTrailingZeros (decimalDigits m)) ++
            List.replicate zeros '0') := by
          conv_lhs => rw [split]
          simp
      _ = _ := by rw [digitsValue_append_zeros, tenPow_eq]
  have length : (decimalDigits m).length = (dropTrailingZeros (decimalDigits m)).length + zeros := by
    conv_lhs => rw [split]
    simp
  unfold Digits.magnitude
  simp only
  generalize dropTrailingZeros (decimalDigits m) = ds at value length ⊢
  rw [length, value, show k + ((ds.length + zeros : Nat) : Int) - ds.length = zeros + k by
    push_cast; ring, zpow_add₀ (by norm_num), zpow_natCast]
  push_cast
  ring

/-- The digits of a float stand for a number that rounds to it. -/
theorem shortestDigits_attracts {b : Binary} (tie : Tie) (canonical : b.Canonical)
    (nonzero : b.mantissa ≠ 0) :
    (∀ d ∈ (shortestDigits tie b).digits, d < 10) ∧ b.Attracts (shortestDigits tie b).magnitude := by
  have held : (Interval.of b).holds
      ((Interval.of b).search tie (pointOf (Interval.of b).value (Interval.of b).den) 17 1).1
      ((Interval.of b).search tie (pointOf (Interval.of b).value (Interval.of b).den) 17 1).2 = true :=
    Interval.holds_search (n := 17) (by decide) (by decide)
      (Interval.candidate?_seventeen canonical nonzero)
  rw [Interval.holds_of_iff nonzero] at held
  unfold shortestDigits
  rw [if_neg nonzero]
  simp only
  generalize (Interval.of b).search tie (pointOf (Interval.of b).value (Interval.of b).den) 17 1 =
    found at held ⊢
  constructor
  · intro d mem
    obtain ⟨zeros, split⟩ := dropTrailingZeros_append (decimalDigits found.1)
    refine decimalDigits_lt (n := found.1) ?_
    rw [split]
    exact List.mem_append_left _ mem
  · rw [Digits.magnitude_of]
    exact held

/-! ### How far the digits reach -/

/-- Nothing that rounds to a finite float has more than four hundred digits before the point. -/
theorem Binary.Canonical.high_le {b : Binary} (canonical : b.Canonical) :
    ((b.mantissa : ℚ) + 1 / 2) * 2 ^ b.exponent ≤ 10 ^ (400 : Int) := by
  have mantissa : (b.mantissa : ℚ) + 1 / 2 ≤ 2 ^ (54 : Int) := by
    have : (b.mantissa : ℚ) < 2 ^ 53 := by exact_mod_cast canonical.mantissa_lt
    rw [zpow_ofNat, pow_succ]
    linarith
  calc ((b.mantissa : ℚ) + 1 / 2) * 2 ^ b.exponent
      ≤ 2 ^ (54 : Int) * 2 ^ (971 : Int) := by
        gcongr
        · norm_num
        · exact canonical.exponent_le
    _ = 2 ^ (1025 : Int) := by rw [← zpow_add₀ (by norm_num)]; rfl
    _ ≤ 2 ^ ((3 : Int) * 400) := zpow_le_zpow_right₀ (by norm_num) (by norm_num)
    _ = 8 ^ (400 : Int) := by rw [zpow_mul]; norm_num
    _ ≤ 10 ^ (400 : Int) := by
        rw [zpow_ofNat, zpow_ofNat]
        gcongr
        norm_num

theorem shortestDigits_point_le {b : Binary} (tie : Tie) (canonical : b.Canonical)
    (nonzero : b.mantissa ≠ 0) :
    (shortestDigits tie b).point - (shortestDigits tie b).digits.length ≤ 400 := by
  obtain ⟨-, attracts⟩ := shortestDigits_attracts tie canonical nonzero
  have positive := attracts.pos nonzero
  have bounded := attracts.high.trans canonical.high_le
  generalize shortestDigits tie b = d at positive bounded ⊢
  unfold Digits.magnitude at positive bounded
  have digit : (1 : ℚ) ≤ digitsValue (digitChars d.digits) := by
    have := pos_of_mul_pos_left positive (by positivity)
    exact_mod_cast this
  have unit : (10 : ℚ) ^ (d.point - d.digits.length) ≤
      digitsValue (digitChars d.digits) * 10 ^ (d.point - d.digits.length) :=
    le_mul_of_one_le_left (by positivity) digit
  exact (zpow_le_zpow_iff_right₀ (by norm_num)).1 (unit.trans bounded)

theorem Interval.le_search (tie : Tie) (i : Interval) (point : Int) (tries count : Nat) :
    point - (count + tries : Nat) ≤ (i.search tie point tries count).2 := by
  induction tries generalizing count with
  | zero =>
      unfold Interval.search
      omega
  | succ tries ih =>
      unfold Interval.search
      simp only
      split
      · omega
      · have := ih (count + 1)
        omega

theorem Interval.log2_den_le {b : Binary} (canonical : b.Canonical) :
    (Interval.of b).den.log2 ≤ 1076 := by
  obtain ⟨places, small, unit⟩ :
      ∃ places ≤ 1074, (Binary.ratio ⟨false, 1, b.exponent⟩).2 = 2 ^ places := by
    unfold Binary.ratio
    split
    · exact ⟨0, by omega, rfl⟩
    · exact ⟨(-b.exponent).toNat, by have := canonical.exponent_ge; omega, by simp⟩
  have den : (Interval.of b).den = 2 ^ (places + 2) := by
    rw [Nat.pow_succ, Nat.pow_succ, ← unit]
    unfold Interval.of
    simp only
    omega
  rw [den, Nat.log2_two_pow]
  omega

theorem le_pointOf {num den : Nat} (bounded : den.log2 ≤ 1076) : -325 ≤ pointOf num den := by
  unfold pointOf
  simp only
  split
  · omega
  · split <;> omega

theorem le_shortestDigits_point {b : Binary} (tie : Tie) (canonical : b.Canonical)
    (nonzero : b.mantissa ≠ 0) :
    -400 ≤ (shortestDigits tie b).point - (shortestDigits tie b).digits.length := by
  have first : -325 ≤ pointOf (Interval.of b).value (Interval.of b).den :=
    le_pointOf (Interval.log2_den_le canonical)
  have tried := Interval.le_search tie (Interval.of b)
    (pointOf (Interval.of b).value (Interval.of b).den) 17 1
  unfold shortestDigits
  rw [if_neg nonzero]
  simp only
  generalize (Interval.of b).search tie (pointOf (Interval.of b).value (Interval.of b).den) 17 1 =
    found at tried ⊢
  obtain ⟨zeros, split⟩ := dropTrailingZeros_append (decimalDigits found.1)
  have length := congrArg List.length split
  rw [List.length_append, List.length_replicate] at length
  omega

/-- The last digit of a float stands at most four hundred places from the point. -/
theorem shortestDigits_places {b : Binary} (tie : Tie) (canonical : b.Canonical) :
    (((shortestDigits tie b).digits.length : Int) - (shortestDigits tie b).point).natAbs ≤ 400 := by
  by_cases zero : b.mantissa = 0
  · simp [shortestDigits, zero]
  · have above := shortestDigits_point_le tie canonical zero
    have below := le_shortestDigits_point tie canonical zero
    omega

end PluginLisp.Number
