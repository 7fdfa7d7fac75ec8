import PluginLisp.Proofs.Decimal.Value
import PluginLisp.Proofs.Number.Order
import PluginLisp.Proofs.Number.Text

/-!
Floats as decimals. Every finite float has a decimal, with the digits of its plain text, and the float
nearest to that decimal is the float itself. So different floats have different decimals, the two zeros
apart, which are equal as floats too.

Main results: `ofFloat?_eq_none_iff`, `beq_iff_of_ofFloat?`.
-/

namespace PluginLisp

open Number

theorem Number.digitsValue_digitChars {digits : List Nat} (small : ∀ d ∈ digits, d < 10) :
    digitsValue (digitChars digits) = digits.foldl (fun n digit => 10 * n + digit) 0 := by
  unfold digitsValue digitChars
  rw [List.foldl_map]
  refine List.foldl_ext _ _ _ fun n d mem => ?_
  rw [Nat.toNat_digitChar_of_lt_ten (small d mem), Nat.add_sub_cancel_left]

/-- The digits of a finite float are decimal digits. -/
theorem Number.shortestDigits_lt_ten {b : Binary} (canonical : b.Canonical) :
    ∀ d ∈ (shortestDigits .up b).digits, d < 10 := by
  by_cases zero : b.mantissa = 0
  · simp [shortestDigits, zero]
  · exact (shortestDigits_attracts .up canonical zero).1

namespace Decimal

variable {x y : Float} {d e : Decimal}

/-- The decimal of a finite float stands for the number that its digits stand for. -/
theorem exists_ofFloat?_of_finite {b : Binary} (finite : Kind.ofFloat x = .finite b) :
    ∃ d, ofFloat? x = some d ∧
      d.val = if b.negative then -(shortestDigits .up b).magnitude
        else (shortestDigits .up b).magnitude := by
  obtain ⟨canonical, -⟩ := canonical_of_finite finite
  have fits : 400 ≤ maxScale := by decide
  obtain ⟨d, made, -, value⟩ := ofScaled?_of_fits
    (if b.negative then -(digitsValue (digitChars (shortestDigits .up b).digits) : Int)
      else digitsValue (digitChars (shortestDigits .up b).digits))
    ((shortestDigits_places .up canonical).trans fits)
  refine ⟨d, ?_, ?_⟩
  · unfold ofFloat?
    rw [finite]
    simp only
    rw [← digitsValue_digitChars (shortestDigits_lt_ten canonical)]
    exact made
  · rw [value, neg_sub, Digits.magnitude]
    split
    · push_cast
      ring
    · push_cast
      ring

/-- A decimal in the interval of a float reads as that float. -/
theorem toFloat_of_attracts {b : Binary} (canonical : b.Canonical) (nonzero : b.mantissa ≠ 0)
    (attracts : b.Attracts |d.val|) :
    d.toFloat = ofMagnitudeBits (d.val < 0) b.magnitudeBits := by
  have scale : (0 : ℚ) < 10 ^ d.scale.toNat := by positivity
  have size : |d.val| = d.mantissa.natAbs * 10 ^ (-(d.scale.toNat : Int)) := by
    rw [val, abs_div, abs_of_pos scale, zpow_neg, zpow_natCast, Nat.cast_natAbs, Int.cast_abs,
      div_eq_mul_inv]
  have sign : decide (d.mantissa < 0) = decide (d.val < 0) := by
    rw [decide_eq_decide, val, div_lt_iff₀ scale, zero_mul, Int.cast_lt_zero]
  rw [toFloat, sign]
  exact ofDecimal_of_attracts _ canonical nonzero (size ▸ attracts)

/-- The float nearest to the decimal of a float is that float, or another zero. -/
theorem toFloat_beq_of_ofFloat? (made : ofFloat? x = some d) : (d.toFloat == x) = true := by
  cases kind : Kind.ofFloat x with
  | nan => simp [ofFloat?, kind] at made
  | infinite negative => simp [ofFloat?, kind] at made
  | finite b =>
      obtain ⟨canonical, -⟩ := canonical_of_finite kind
      obtain ⟨other, same, value⟩ := exists_ofFloat?_of_finite kind
      obtain rfl : other = d := Option.some.inj (same.symm.trans made)
      by_cases zero : b.mantissa = 0
      · have none : (shortestDigits .up b).magnitude = 0 := by
          simp [shortestDigits, zero, Digits.magnitude, digitChars, digitsValue]
        have vanishes : other.mantissa = 0 := by
          rw [← val_eq_zero, value, none, neg_zero, ite_self]
        have start : other.toFloat = ofMagnitudeBits false 0 := by
          rw [toFloat, vanishes]
          exact ofDecimal_zero _ _
        rw [start, ← ofMagnitudeBits_of_finite kind, Binary.magnitudeBits_of_zero canonical zero]
        cases b.negative <;> rfl
      · have attracts := (shortestDigits_attracts .up canonical zero).2
        have positive := attracts.pos zero
        have size : |other.val| = (shortestDigits .up b).magnitude := by
          rw [value]
          split
          · rw [abs_neg, abs_of_pos positive]
          · exact abs_of_pos positive
        have sign : decide (other.val < 0) = b.negative := by
          rw [value]
          cases b.negative with
          | true => simpa using positive
          | false => simpa using positive.le
        have some : x ≠ Float.nan := by
          rw [Ne, ← Kind.ofFloat_eq_nan_iff, kind]
          exact Kind.noConfusion
        rw [toFloat_of_attracts canonical zero (size ▸ attracts), sign, ofMagnitudeBits_of_finite kind]
        exact Float.beq_self_iff.2 some

theorem ofFloat?_eq_none_iff :
    ofFloat? x = none ↔ x = Float.nan ∨ ∃ negative, x = infinity negative := by
  simp only [← Kind.ofFloat_eq_nan_iff, ← Kind.ofFloat_eq_infinite_iff]
  cases kind : Kind.ofFloat x with
  | nan => simp [ofFloat?, kind]
  | infinite negative => simp [ofFloat?, kind]
  | finite b =>
      obtain ⟨d, made, -⟩ := exists_ofFloat?_of_finite kind
      simp [made]

/-- Finite floats are equal exactly if they have the same decimal. -/
theorem beq_iff_of_ofFloat? (left : ofFloat? x = some d) (right : ofFloat? y = some e) :
    (x == y) = true ↔ d.val = e.val := by
  constructor
  · intro equal
    have zeros : ofFloat? 0 = ofFloat? (-0) := by decide +kernel
    have same : ofFloat? x = ofFloat? y := by
      obtain ⟨-, -, rfl | ⟨rfl, rfl⟩ | ⟨rfl, rfl⟩⟩ := Float.beq_iff_ne_nan_and_eq.1 equal
      · rfl
      · exact zeros
      · exact zeros.symm
    rw [left, right, Option.some.injEq] at same
    rw [same]
  · intro value
    have same : d = e :=
      (lowestTerms_of_ofFloat? left).eq_of_val_eq (lowestTerms_of_ofFloat? right) value
    have back := toFloat_beq_of_ofFloat? left
    rw [same] at back
    exact BEq.trans (BEq.symm back) (toFloat_beq_of_ofFloat? right)

end Decimal

end PluginLisp
