import PluginLisp.Builtin.Comparison
import PluginLisp.Proofs.Decimal.Value
import PluginLisp.Proofs.Number.Text
import PluginLisp.Template

/-!
Numbers read as integers. A decimal is read as the integer that it is, or refused if sixty-four bits
cannot hold that. A float is never refused for its size: it is read as the nearest integer that
sixty-four bits hold. So below `2 ^ 63` the questions for a parity answer for the number itself, above
it for another one, and a template writes the number itself only where it fits.

Main result: `Value.asInt_exact_iff_fits`.
-/

namespace PluginLisp

namespace Number

/-! ### Integers of sixty-four bits -/

/-- A clamped integer fits. -/
theorem fitsWord_clampWord (n : Int) : fitsWord (clampWord n) = true := by
  have bound : wordBound = 2 ^ 63 := rfl
  rw [fitsWord_iff, clampWord, bound]
  omega

/-- Clamping keeps what fits, and nothing else. -/
theorem clampWord_eq_self_iff {n : Int} : clampWord n = n ↔ fitsWord n = true := by
  have bound : wordBound = 2 ^ 63 := rfl
  rw [fitsWord_iff, clampWord, bound]
  omega

/-- Integers with the same text are the same. -/
theorem integerText_inj {m n : Int} (same : integerText m = integerText n) : m = n := by
  have unsigned (k : Nat) : Unsigned (Nat.toDigits 10 k) :=
    Unsigned.of_digits Nat.toDigits_ne_nil fun _ => isDigit_of_mem_toDigits
  have parts := congrArg (fun text : String => splitSign text.toList) same
  simp only [integerText, Nat.toString_eq_ofList_toDigits, splitSign_signed _ (unsigned _),
    Prod.mk.injEq, decide_eq_decide] at parts
  have magnitude : m.natAbs = n.natAbs := by
    rw [← digitsValue_toDigits m.natAbs, parts.2, digitsValue_toDigits]
  omega

/-! ### Integral floats -/

/-- The number that the parts of a float make up. -/
def Binary.value (b : Binary) : ℚ := if b.negative then -b.magnitude else b.magnitude

/-- The sign does not change the magnitude. -/
theorem Binary.abs_value (b : Binary) : |b.value| = b.magnitude := by
  have nonneg : 0 ≤ b.magnitude := by
    unfold Binary.magnitude
    positivity
  unfold Binary.value
  split
  · rw [abs_neg, abs_of_nonneg nonneg]
  · exact abs_of_nonneg nonneg

/-- An integral float is the integer it is truncated to. -/
theorem Binary.value_of_isIntegral {b : Binary} (integral : b.isIntegral = true) :
    b.value = b.truncated := by
  rw [Binary.value, Binary.magnitude_of_isIntegral integral, b.truncated_eq]
  split
  · simp
  · simp

/-- A float has no fractional part exactly if it is an integer. -/
theorem Binary.isIntegral_iff {b : Binary} : b.isIntegral = true ↔ ∃ n : ℤ, b.value = n := by
  constructor
  · exact fun integral => ⟨_, Binary.value_of_isIntegral integral⟩
  · rintro ⟨n, value⟩
    obtain ⟨positive, ratio⟩ := b.ratio_eq
    have magnitude : b.magnitude = n.natAbs := by
      rw [← b.abs_value, value, Nat.cast_natAbs, Int.cast_abs]
    have exactly : b.ratio.1 = n.natAbs * b.ratio.2 := by
      rw [magnitude] at ratio
      exact_mod_cast ratio
    simp [Binary.isIntegral, exactly]

/-- An integral float beyond the mantissas is even, since its last place is above the units. -/
theorem Binary.even_of_large {x : Float} {b : Binary} {n : Int} (finite : Kind.ofFloat x = .finite b)
    (value : b.value = n) (large : 2 ^ 53 ≤ |n|) : Even n := by
  obtain ⟨canonical, -⟩ := canonical_of_finite finite
  have magnitude : b.mantissa * 2 ^ b.exponent = ((|n| : ℤ) : ℚ) := by
    rw [← Binary.magnitude, ← b.abs_value, value, Int.cast_abs]
  have mantissa : (b.mantissa : ℚ) < 2 ^ 53 := by exact_mod_cast canonical.mantissa_lt
  obtain ⟨e, exponent⟩ : ∃ e : Nat, b.exponent = e + 1 := by
    refine ⟨(b.exponent - 1).toNat, ?_⟩
    by_contra other
    have small : (2 : ℚ) ^ b.exponent ≤ 1 := zpow_le_one_of_nonpos₀ one_le_two (by omega)
    have below : ((|n| : ℤ) : ℚ) < 2 ^ 53 := by
      rw [← magnitude]
      exact (mul_le_of_le_one_right (Nat.cast_nonneg _) small).trans_lt mantissa
    exact large.not_gt (by exact_mod_cast below)
  have split : (b.mantissa : ℤ) * 2 ^ e * 2 = |n| := by
    rw [exponent, zpow_add_one₀ two_ne_zero, zpow_natCast, ← mul_assoc] at magnitude
    exact_mod_cast magnitude
  rw [← even_abs, ← split]
  exact even_two.mul_left _

end Number

open Number

namespace Value

/-! ### Numbers as integers -/

/-- The number that a value is, a float by its binary digits. What is not finite is none, and neither is
    what is not a number. -/
def numeric? : Value → Option ℚ
  | number x =>
      match Kind.ofFloat x with
      | .finite b => some b.value
      | _ => none
  | decimal d => some d.val
  | _ => none

/-- The number of a finite float is its value. -/
theorem numeric?_number_eq_some {x : Float} {q : ℚ} :
    (number x).numeric? = some q ↔ ∃ b, Kind.ofFloat x = .finite b ∧ b.value = q := by
  cases kind : Kind.ofFloat x with
  | nan => simp [numeric?, kind]
  | infinite negative => simp [numeric?, kind]
  | finite b => simp [numeric?, kind]

/-- A float is read as an integer if it is one, and then as the nearest one of sixty-four bits. -/
theorem asInt_number_iff {x : Float} {i : Int} :
    (number x).asInt = .ok i ↔ ∃ n : Int, (number x).numeric? = some (n : ℚ) ∧ i = clampWord n := by
  cases kind : Kind.ofFloat x with
  | nan => simp [asInt, numeric?, Number.isIntegral, kind]
  | infinite negative => simp [asInt, numeric?, Number.isIntegral, kind]
  | finite b =>
      have word : toWord x = clampWord b.truncated := by simp only [toWord, kind]
      simp only [asInt, numeric?, Number.isIntegral, kind, word, Option.some.injEq]
      split
      · rename_i integral
        rw [Binary.value_of_isIntegral integral, Except.ok.injEq]
        constructor
        · rintro rfl
          exact ⟨_, rfl, rfl⟩
        · rintro ⟨n, value, rfl⟩
          rw [Int.cast_inj.1 value]
      · rename_i broken
        simp only [reduceCtorEq, false_iff]
        rintro ⟨n, value, -⟩
        exact broken (Binary.isIntegral_iff.2 ⟨n, value⟩)

/-- A decimal without places is read as the integer that it is, if sixty-four bits hold that. -/
theorem asInt_decimal_iff {d : Decimal} {i : Int} :
    (decimal d).asInt = .ok i ↔ d.scale = 0 ∧ d.val = i ∧ fitsWord i = true := by
  by_cases integer : d.scale = 0
  · have whole : d.truncated = d.mantissa := by simp [Decimal.truncated, integer, Decimal.pow10_eq]
    have value : d.val = i ↔ d.mantissa = i := by simp [Decimal.val, integer]
    have whether : d.isInteger = true := by simpa [Decimal.isInteger] using integer
    simp only [asInt, Decimal.toWord?, value, whole, whether, if_true]
    split
    · rename_i n fits
      simp only [Option.ite_none_right_eq_some, Option.some.injEq] at fits
      obtain ⟨fits, rfl⟩ := fits
      rw [Except.ok.injEq]
      constructor
      · rintro rfl
        exact ⟨integer, rfl, fits⟩
      · exact fun reads => reads.2.1
    · rename_i beyond
      simp only [reduceCtorEq, false_iff]
      rintro ⟨-, rfl, fits⟩
      simp [fits] at beyond
  · simp [asInt, Decimal.isInteger, integer]

/-- What is read as an integer is one. A decimal is read as itself, a float as the nearest integer of
    sixty-four bits. -/
theorem integer_of_asInt {v : Value} {i : Int} (reads : v.asInt = .ok i) :
    ∃ n : Int, v.numeric? = some (n : ℚ) ∧ i = clampWord n ∧
      ((∃ x, v = number x) ∨ (∃ d, v = decimal d) ∧ fitsWord n = true) := by
  cases v with
  | number x =>
      obtain ⟨n, value, clamped⟩ := asInt_number_iff.1 reads
      exact ⟨n, value, clamped, Or.inl ⟨x, rfl⟩⟩
  | decimal d =>
      obtain ⟨-, value, fits⟩ := asInt_decimal_iff.1 reads
      exact ⟨i, congrArg some value, (clampWord_eq_self_iff.2 fits).symm, Or.inr ⟨⟨d, rfl⟩, fits⟩⟩
  | _ => cases reads

/-- A value that is read as an integer is one of sixty-four bits. -/
theorem fitsWord_of_asInt {v : Value} {n : Int} (reads : v.asInt = .ok n) : fitsWord n = true := by
  obtain ⟨m, -, rfl, -⟩ := integer_of_asInt reads
  exact fitsWord_clampWord m

/-- The integer that is read has the parity of the number, unless it is the largest one of sixty-four
    bits in place of a float beyond it: all of those are even. -/
theorem even_asInt_iff {v : Value} {n : Int} (value : v.numeric? = some (n : ℚ))
    (reads : v.asInt = .ok (clampWord n)) : (Even (clampWord n) ↔ Even n) ↔ n < 2 ^ 63 := by
  by_cases fits : fitsWord n = true
  · rw [clampWord_eq_self_iff.2 fits]
    exact iff_of_true Iff.rfl (fitsWord_iff.1 fits).2
  · have beyond : n < -2 ^ 63 ∨ 2 ^ 63 ≤ n := by
      rw [fitsWord_iff] at fits
      omega
    have even : Even n := by
      obtain ⟨m, same, -, ⟨x, rfl⟩ | ⟨-, fitting⟩⟩ := integer_of_asInt reads
      · obtain ⟨b, finite, value⟩ := numeric?_number_eq_some.1 value
        exact Binary.even_of_large finite value (le_abs.2 (by omega))
      · rw [value, Option.some.injEq, Int.cast_inj] at same
        exact absurd (same ▸ fitting) fits
    have bound : wordBound = 2 ^ 63 := rfl
    rcases beyond with below | above
    · have least : clampWord n = 2 * (-2 ^ 62) := by
        rw [clampWord, bound]
        omega
      rw [least]
      exact iff_of_true (iff_of_true (even_two_mul _) even) (by omega)
    · have largest : clampWord n = 2 * (2 ^ 62 - 1) + 1 := by
        rw [clampWord, bound]
        omega
      rw [largest]
      have odd := Int.not_even_two_mul_add_one (2 ^ 62 - 1)
      exact iff_of_false (fun same => odd (same.2 even)) (by omega)

/-- The questions for a parity ask for that of the integer that is read. -/
theorem parity_of_asInt {v : Value} {i : Int} (reads : v.asInt = .ok i) :
    ComparisonOp.isEven.holds [v] = .ok (decide (Even i)) ∧
      ComparisonOp.isOdd.holds [v] = .ok (decide (Odd i)) := by
  have even : decide (Even i) = (i % 2 == 0) := decide_eq_decide.2 Int.even_iff
  have odd : decide (Odd i) = (i % 2 != 0) := by simp [← Int.not_even_iff_odd, even, bne]
  rw [even, odd]
  simp only [ComparisonOp.holds, reads]
  exact ⟨rfl, rfl⟩

/-- A number that is read as an integer is an integer `n`, and it is read as the nearest one of
    sixty-four bits: as itself exactly if it fits, which a decimal always does. The answers about its
    parity are right exactly below `2 ^ 63`, and the directive for integers writes it exactly if it
    fits. -/
theorem asInt_exact_iff_fits {v : Value} {i : Int} (reads : v.asInt = .ok i) :
    ∃ n : Int, v.numeric? = some (n : ℚ) ∧ i = clampWord n ∧
      (i = n ↔ fitsWord n = true) ∧
      ((∃ d, v = decimal d) → fitsWord n = true) ∧
      (ComparisonOp.isEven.holds [v] = .ok (decide (Even n)) ↔ n < 2 ^ 63) ∧
      (ComparisonOp.isOdd.holds [v] = .ok (decide (Odd n)) ↔ n < 2 ^ 63) ∧
      ∀ cells places,
        Template.argumentText cells .integer places v = .ok (integerText n) ↔
          fitsWord n = true := by
  obtain ⟨n, value, rfl, kind⟩ := integer_of_asInt reads
  obtain ⟨even, odd⟩ := parity_of_asInt reads
  have parity := even_asInt_iff value reads
  refine ⟨n, value, rfl, clampWord_eq_self_iff, ?_, ?_, ?_, fun cells places => ?_⟩
  · rintro ⟨d, rfl⟩
    rcases kind with ⟨x, other⟩ | ⟨-, fits⟩
    · cases other
    · exact fits
  · rw [even, Except.ok.injEq, decide_eq_decide]
    exact parity
  · rw [odd, Except.ok.injEq, decide_eq_decide, ← Int.not_even_iff_odd, ← Int.not_even_iff_odd,
      not_iff_not]
    exact parity
  · have text : Template.argumentText cells .integer places v = .ok (integerText (clampWord n)) := by
      unfold Template.argumentText
      rw [reads]
      rfl
    rw [text, Except.ok.injEq, ← clampWord_eq_self_iff]
    exact ⟨integerText_inj, congrArg integerText⟩

theorem seven_exact :
    (number 7.0).asInt = .ok 7 ∧ ComparisonOp.isOdd.holds [number 7.0] = .ok (decide (Odd 7)) ∧
      ∀ cells, Template.argumentText cells .integer none (number 7.0) = .ok (integerText 7) := by
  have reads : (number 7.0).asInt = .ok 7 := rfl
  obtain ⟨n, -, clamped, exactly, -, -, odd, text⟩ := asInt_exact_iff_fits reads
  obtain rfl : 7 = n := by
    have bound : wordBound = 2 ^ 63 := rfl
    rw [clampWord, bound] at clamped
    omega
  have fits := exactly.1 rfl
  exact ⟨reads, odd.2 (fitsWord_iff.1 fits).2, fun cells => (text cells none).2 fits⟩

/-- Ten to the nineteenth is even and does not fit: as a float it is read as another number, which is
    odd, and as a decimal it is refused. -/
theorem asInt_not_exact :
    (number 1e19).asInt = .ok 9223372036854775807 ∧
      (number 1e19).numeric? = some ((10000000000000000000 : Int) : ℚ) ∧
      ComparisonOp.isOdd.holds [number 1e19] = .ok true ∧
      (∀ cells, Template.argumentText cells .integer none (number 1e19) = .ok "9223372036854775807") ∧
      (decimal ⟨10000000000000000000, 0⟩).asInt =
        .error (.type "integer" "bignumber out of range") := by
  refine ⟨rfl, ?_, rfl, fun _ => rfl, rfl⟩
  have finite : Kind.ofFloat 1e19 = .finite ⟨false, 4882812500000000, 11⟩ := rfl
  refine numeric?_number_eq_some.2 ⟨_, finite, ?_⟩
  norm_num [Binary.value, Binary.magnitude]

end Value

end PluginLisp
