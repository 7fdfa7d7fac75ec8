import PluginLisp.Builtin.Comparison
import PluginLisp.Proofs.Decimal.Floats
import PluginLisp.Proofs.Decimal.Remainder
import PluginLisp.Proofs.Number.Overflow

/-!
How the comparisons of numbers agree. Floats are compared with floats and decimals with decimals, and
a finite float is compared with a decimal as a decimal. There the order is that of equals exactly if
the numbers are equal. An infinity has no decimal, so a decimal is compared with it as a float; a
decimal so large that it rounds to that infinity is then neither below nor above it, but not equal to
it either. The questions for a sign answer for the order to zero, but a NaN, which is in no order to
anything, is taken for a zero.

Main results: `Value.comparisons_agree_unless_overflow`, `Value.compare_eq_iff`.
-/

namespace PluginLisp

open Number

namespace Value

/-! ### Floats and decimals -/

/-- The numbers: floats, finite or not, and decimals. -/
inductive IsNumber : Value → Prop where
  | number (x : Float) : IsNumber (number x)
  | decimal (d : Decimal) : IsNumber (decimal d)

/-- An infinity, and a decimal so large that it rounds to it. -/
def Overflows : Value → Value → Prop
  | number x, decimal d =>
      ∃ negative, x = infinity negative ∧ overflow ≤ if negative then -d.val else d.val
  | _, _ => False

/-- A float that is no decimal is equal to the float of a decimal exactly if the decimal overflows to
    it. -/
theorem beq_toFloat_iff {x : Float} (none : Decimal.ofFloat? x = none) (d : Decimal) :
    (x == d.toFloat) = true ↔ (number x).Overflows (decimal d) := by
  simp only [Overflows, ← Decimal.toFloat_eq_infinity_iff]
  rcases Decimal.ofFloat?_eq_none_iff.1 none with rfl | ⟨negative, rfl⟩
  · refine iff_of_false (by simp) ?_
    rintro ⟨negative, infinite, -⟩
    rw [← Kind.ofFloat_eq_infinite_iff, Kind.ofFloat_eq_nan_iff.2 rfl] at infinite
    cases infinite
  · rw [BEq.comm, beq_infinity_iff]
    constructor
    · intro reaches
      exact ⟨negative, rfl, reaches⟩
    · rintro ⟨sign, same, reaches⟩
      rw [reaches, same]

/-- A finite float is compared with a decimal as a decimal, and any other as a float. -/
theorem compare_mixed (x : Float) (d : Decimal) :
    (number x).compare (decimal d) = .ok (match Decimal.ofFloat? x with
      | some e => some (e.cmp d)
      | none => compareFloats x d.toFloat) ∧
    (decimal d).compare (number x) = .ok (match Decimal.ofFloat? x with
      | some e => some (d.cmp e)
      | none => compareFloats d.toFloat x) := by
  simp only [compare, toDecimal?]
  cases Decimal.ofFloat? x with
  | none => exact ⟨rfl, rfl⟩
  | some e => exact ⟨rfl, rfl⟩

/-- An order of equals with a finite float is equality, and with an infinity overflow. -/
theorem compare_number_decimal (x : Float) (d : Decimal) :
    (number x).compare (decimal d) = .ok (some .eq) ↔
      (number x).equal (decimal d) = true ∨ (number x).Overflows (decimal d) := by
  rw [(compare_mixed x d).1, Except.ok.injEq, equal, floatEqualsDecimal]
  cases made : Decimal.ofFloat? x with
  | none => simp [compareFloats_eq_eq_iff, beq_toFloat_iff made]
  | some e =>
      have finite : ¬ (number x).Overflows (decimal d) := by
        rintro ⟨negative, infinite, -⟩
        rw [Decimal.ofFloat?_eq_none_iff.2 (Or.inr ⟨negative, infinite⟩)] at made
        cases made
      simp [finite]

/-- It makes no difference which of the two comes first. -/
theorem compare_decimal_number (x : Float) (d : Decimal) :
    (decimal d).compare (number x) = .ok (some .eq) ↔
      (number x).compare (decimal d) = .ok (some .eq) := by
  rw [(compare_mixed x d).1, (compare_mixed x d).2, Except.ok.injEq, Except.ok.injEq]
  cases Decimal.ofFloat? x with
  | none =>
      simp only
      rw [compareFloats_eq_eq_iff, compareFloats_eq_eq_iff, BEq.comm]
  | some e =>
      simp only [Option.some.injEq]
      rw [Decimal.cmp_eq_eq_iff, Decimal.cmp_eq_eq_iff, eq_comm]

/-! ### Order and equality -/

/-- Numbers are in the order of equals exactly if they are equal, or if one of them is an infinity
    that the other one rounds to. -/
theorem compare_eq_iff {a b : Value} (left : a.IsNumber) (right : b.IsNumber) :
    a.compare b = .ok (some .eq) ↔ a.equal b = true ∨ a.Overflows b ∨ b.Overflows a := by
  cases left with
  | number x =>
    cases right with
    | number y => simp [compare, equal, Overflows, compareFloats_eq_eq_iff]
    | decimal d =>
      rw [compare_number_decimal]
      simp [Overflows]
  | decimal d =>
    cases right with
    | number x =>
      rw [compare_decimal_number, compare_number_decimal]
      simp [Overflows, equal]
    | decimal e => simp [compare, equal, Overflows, toDecimal?]

/-- The order of two numbers is found, though it may be none. -/
theorem exists_compare {a b : Value} (left : a.IsNumber) (right : b.IsNumber) :
    ∃ order, a.compare b = .ok order := by
  cases left with
  | number x =>
    cases right with
    | number y => exact ⟨_, rfl⟩
    | decimal d => exact ⟨_, (compare_mixed x d).1⟩
  | decimal d =>
    cases right with
    | number x => exact ⟨_, (compare_mixed x d).2⟩
    | decimal e => exact ⟨_, rfl⟩

theorem isMonotonic_pair {a b : Value} {order : Option Ordering} (compared : a.compare b = .ok order)
    (accept : Ordering → Bool) : isMonotonic accept [a, b] = .ok (order.any accept) := by
  unfold isMonotonic
  rw [compared]
  cases order with
  | none => rfl
  | some o => cases taken : accept o <;> simp [taken, isMonotonic, bind, Except.bind, pure, Except.pure]

/-! ### Order to zero -/

/-- The sign of a number is its order to zero, with that of equals for a NaN. -/
theorem sign_eq {n : Value} (isNumber : n.IsNumber) :
    ∃ order, n.compare (number 0) = .ok order ∧ n.sign = .ok (order.getD .eq) ∧
      (order = none ↔ n = number Float.nan) := by
  cases isNumber with
  | number x =>
      have unordered : compareFloats x 0 = none ↔ number x = number Float.nan := by
        rw [compareFloats_eq_none_iff, number.injEq, or_iff_left (by decide +kernel)]
      exact ⟨compareFloats x 0, rfl, rfl, unordered⟩
  | decimal d =>
      have zero : Decimal.ofFloat? 0 = some .zero := by decide +kernel
      refine ⟨some (d.cmp .zero), ?_, ?_, by simp⟩
      · rw [(compare_mixed 0 d).2, zero]
      · have order : Ord.compare d.signum 0 = d.cmp .zero := by
          have none : Decimal.zero.val = 0 := Decimal.val_eq_zero.2 rfl
          rw [Decimal.cmp_eq, none]
          rcases lt_trichotomy d.val 0 with below | same | above
          · rw [compare_lt_iff_lt.2 below, compare_lt_iff_lt]
            exact Decimal.signum_neg_iff.2 below
          · rw [compare_eq_iff_eq.2 same, compare_eq_iff_eq]
            exact Decimal.signum_eq_zero_iff.2 same
          · rw [compare_gt_iff_gt.2 above, compare_gt_iff_gt]
            exact Decimal.signum_pos_iff.2 above
        rw [sign, order]
        rfl

/-- Nothing overflows to zero. -/
theorem not_overflows_zero {n : Value} :
    ¬ n.Overflows (number 0) ∧ ¬ (number 0).Overflows n := by
  constructor
  · cases n <;> exact id
  · cases n with
    | decimal d =>
      rintro ⟨negative, infinite, -⟩
      cases negative <;> exact absurd infinite (by decide +kernel)
    | _ => exact id

/-- Two numbers are each at most and at least the other exactly if their order is that of equals,
    which is so if they are equal, and else only if one is an infinity and the other rounds to it. A
    number has the sign of its order to zero, and it is zero if it is equal to zero or a NaN. -/
theorem comparisons_agree_unless_overflow {a b : Value} (left : a.IsNumber) (right : b.IsNumber) :
    (a.compare b = .ok (some .eq) ↔ a.equal b = true ∨ a.Overflows b ∨ b.Overflows a) ∧
      (ComparisonOp.atMost.holds [a, b] = .ok true ∧ ComparisonOp.atLeast.holds [a, b] = .ok true ↔
        ComparisonOp.equal.holds [a, b] = .ok true ∨ a.Overflows b ∨ b.Overflows a) ∧
      (ComparisonOp.isZero.holds [a] = .ok true ↔
        ComparisonOp.equal.holds [a, number 0] = .ok true ∨ a = number Float.nan) ∧
      ComparisonOp.isPositive.holds [a] = ComparisonOp.greater.holds [a, number 0] ∧
      ComparisonOp.isNegative.holds [a] = ComparisonOp.less.holds [a, number 0] := by
  have equals (c : Value) : ComparisonOp.equal.holds [a, c] = .ok true ↔ a.equal c = true := by
    simp [ComparisonOp.holds, allEqual]
  have agree := compare_eq_iff left right
  obtain ⟨order, compared⟩ := exists_compare left right
  obtain ⟨toZero, comparedToZero, signed, nan⟩ := sign_eq left
  have zero := compare_eq_iff left (.number 0)
  simp only [not_overflows_zero.1, not_overflows_zero.2, or_false] at zero
  refine ⟨agree, ?_, ?_, ?_, ?_⟩
  · rw [equals, ← agree, compared]
    simp only [ComparisonOp.holds, isMonotonic_pair compared, Except.ok.injEq]
    rcases order with _ | _ | _ | _ <;> decide
  · have answer : ComparisonOp.isZero.holds [a] = .ok (toZero.getD .eq == .eq) := by
      simp only [ComparisonOp.holds, signed]
      rfl
    rw [equals, ← zero, ← nan, comparedToZero, answer, Except.ok.injEq, Except.ok.injEq]
    rcases toZero with _ | _ | _ | _ <;> decide
  · simp only [ComparisonOp.holds, signed, isMonotonic_pair comparedToZero]
    rcases toZero with _ | _ | _ | _ <;> rfl
  · simp only [ComparisonOp.holds, signed, isMonotonic_pair comparedToZero]
    rcases toZero with _ | _ | _ | _ <;> rfl

theorem half_compared_both_ways :
    ComparisonOp.atMost.holds [number 0.5, decimal ⟨5, 1⟩] = .ok true ∧
      ComparisonOp.atLeast.holds [number 0.5, decimal ⟨5, 1⟩] = .ok true := by
  have equal : (number 0.5).equal (decimal ⟨5, 1⟩) = true := by decide +kernel
  have agree := comparisons_agree_unless_overflow (.number 0.5) (.decimal ⟨5, 1⟩)
  exact agree.2.1.2 (Or.inl (by simp [ComparisonOp.holds, allEqual, equal]))

/-- Infinity is at most and at least a decimal with four hundred zeros, and not equal to it. A NaN is
    zero, and not equal to zero. -/
theorem order_without_equality :
    (number (infinity false)).compare (decimal ⟨10 ^ 400, 0⟩) = .ok (some .eq) ∧
      (number (infinity false)).equal (decimal ⟨10 ^ 400, 0⟩) = false ∧
      ComparisonOp.isZero.holds [number Float.nan] = .ok true ∧
      ComparisonOp.equal.holds [number Float.nan, number 0] = .ok false := by
  have none : Decimal.ofFloat? (infinity false) = none :=
    Decimal.ofFloat?_eq_none_iff.2 (Or.inr ⟨false, rfl⟩)
  have large : overflow ≤ (⟨10 ^ 400, 0⟩ : Decimal).val :=
    calc overflow ≤ 10 ^ (310 : ℤ) := overflow_le_ten_zpow
      _ ≤ 10 ^ (400 : ℤ) := zpow_le_zpow_right₀ (by norm_num) (by norm_num)
      _ = (⟨10 ^ 400, 0⟩ : Decimal).val := by
          rw [Decimal.val, UInt32.toNat_zero, pow_zero, div_one, Int.cast_pow]
          rfl
  refine ⟨?_, ?_, rfl, ?_⟩
  · exact (compare_number_decimal _ _).2 (Or.inr ⟨false, rfl, large⟩)
  · simp only [equal, floatEqualsDecimal, none]
  · simp [ComparisonOp.holds, allEqual, equal]

end Value

end PluginLisp
