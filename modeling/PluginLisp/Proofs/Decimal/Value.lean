import Mathlib.Algebra.Order.Field.Rat
import Mathlib.Tactic.FieldSimp
import Mathlib.Tactic.Positivity
import PluginLisp.Proofs.Decimal.Text

/-!
The rational number that a decimal stands for. Cancelling powers of ten keeps it, aligning two decimals
keeps both, and among the decimals in lowest terms each number has one only.

Main results: `val_make`, `cmp_eq`, `LowestTerms.eq_of_val_eq`.
-/

namespace PluginLisp.Decimal

/-- The number that a decimal stands for. -/
def val (d : Decimal) : ℚ := d.mantissa / 10 ^ d.scale.toNat

theorem pow10_eq (n : Nat) : pow10 n = 10 ^ n := by
  simp [pow10, Number.tenPow]

theorem val_eq_zero {d : Decimal} : d.val = 0 ↔ d.mantissa = 0 := by
  simp [val]

/-! ### Lowest terms -/

theorem cancelTens_val (mantissa : Int) (scale : Nat) :
    ((cancelTens mantissa scale).1 : ℚ) / 10 ^ (cancelTens mantissa scale).2 =
      mantissa / 10 ^ scale := by
  induction scale generalizing mantissa with
  | zero => rfl
  | succ scale ih =>
      unfold cancelTens
      split
      · rename_i divisible
        obtain ⟨rest, rfl⟩ := Int.dvd_of_emod_eq_zero divisible
        rw [ih, Int.mul_ediv_cancel_left rest (by decide), pow_succ]
        push_cast
        field_simp
      · rfl

theorem val_make (mantissa : Int) (scale : UInt32) :
    (make mantissa scale).val = mantissa / 10 ^ scale.toNat := by
  unfold make
  split
  · rename_i zero
    simp [val, zero]
  · have bound := (cancelTens_spec mantissa scale.toNat).1
    have small : (cancelTens mantissa scale.toNat).2 < 2 ^ 32 := by
      have := scale.toNat_lt
      omega
    have kept : (cancelTens mantissa scale.toNat).2.toUInt32.toNat =
        (cancelTens mantissa scale.toNat).2 := UInt32.toNat_ofNat_of_lt' small
    rw [← cancelTens_val, val, kept]

/-- A mantissa over a scale of either sign makes a decimal of that value, if the scale fits. -/
theorem ofScaled?_of_fits (mantissa : Int) {scale : Int} (fits : scale.natAbs ≤ maxScale) :
    ∃ d, ofScaled? mantissa scale = some d ∧ d.LowestTerms ∧ d.val = mantissa * 10 ^ (-scale) := by
  have bound : scale.natAbs < 2 ^ 32 := by
    have : maxScale = 2 ^ 32 - 1 := rfl
    omega
  unfold ofScaled?
  rw [if_neg (not_lt.2 fits)]
  split
  · rename_i nonneg
    have small : scale.toNat < 2 ^ 32 := by omega
    have kept : scale.toNat.toUInt32.toNat = scale.toNat := UInt32.toNat_ofNat_of_lt' small
    have places : (10 : ℚ) ^ scale = 10 ^ scale.toNat := by
      rw [← zpow_natCast, Int.toNat_of_nonneg nonneg]
    exact ⟨_, rfl, lowestTerms_make _ _, by rw [val_make, kept, zpow_neg, places, div_eq_mul_inv]⟩
  · rename_i negative
    have places : (10 : ℚ) ^ (-scale) = 10 ^ scale.natAbs := by
      rw [← zpow_natCast, Int.ofNat_natAbs_of_nonpos (by omega)]
    refine ⟨_, rfl, lowestTerms_make _ _, ?_⟩
    rw [val_make, places, pow10_eq]
    simp

/-- A decimal in lowest terms with a smaller scale than another one stands for another number. -/
theorem LowestTerms.scale_le {a b : Decimal} (lowest : b.LowestTerms) (same : a.val = b.val) :
    b.scale.toNat ≤ a.scale.toNat := by
  by_contra larger
  rw [not_le] at larger
  have mantissa : b.mantissa % 10 ≠ 0 := by
    refine lowest.resolve_left fun none => ?_
    simp [none] at larger
  obtain ⟨gap, scale⟩ := Nat.exists_eq_add_of_lt larger
  have shifted : a.mantissa * 10 ^ (gap + 1) = b.mantissa := by
    unfold val at same
    rw [scale, Nat.add_assoc, pow_add] at same
    field_simp at same
    exact_mod_cast same
  apply mantissa
  rw [← shifted, pow_succ, ← mul_assoc, Int.mul_emod_left]

/-- Decimals in lowest terms that stand for one number are the same. -/
theorem LowestTerms.eq_of_val_eq {a b : Decimal} (left : a.LowestTerms) (right : b.LowestTerms)
    (same : a.val = b.val) : a = b := by
  have scale : a.scale = b.scale :=
    UInt32.toNat_inj.1 (le_antisymm (left.scale_le same.symm) (right.scale_le same))
  have mantissa : a.mantissa = b.mantissa := by
    unfold val at same
    rw [scale] at same
    field_simp at same
    exact_mod_cast same
  cases a
  cases b
  simp_all

/-- A decimal in lowest terms has no places behind the point exactly if it is an integer. -/
theorem LowestTerms.isInteger_iff {d : Decimal} (lowest : d.LowestTerms) :
    d.isInteger = true ↔ ∃ n : ℤ, d.val = n := by
  constructor
  · intro integer
    have scale : d.scale = 0 := by simpa [isInteger] using integer
    exact ⟨d.mantissa, by simp [val, scale]⟩
  · rintro ⟨n, value⟩
    have same : (Decimal.mk n 0).val = d.val := by
      rw [value]
      simp [val]
    have scale := lowest.scale_le same
    have none : d.scale = 0 := UInt32.toNat_inj.1 (Nat.le_zero.1 scale)
    simp [isInteger, none]

/-! ### Alignment -/

/-- Moving to a larger scale keeps the number. -/
theorem val_rescaled {d : Decimal} {scale : UInt32} (le : d.scale ≤ scale) :
    d.val = ((d.mantissa * pow10 (scale - d.scale).toNat : ℤ) : ℚ) / 10 ^ scale.toNat := by
  have shift : scale.toNat = d.scale.toNat + (scale - d.scale).toNat := by
    rw [UInt32.toNat_sub_of_le _ _ le]
    have := UInt32.le_iff_toNat_le.1 le
    omega
  rw [shift, pow10_eq, pow_add, val]
  push_cast
  field_simp

/-- Both decimals keep their numbers over the common scale. -/
theorem align_val (a b : Decimal) :
    a.val = (align a b).1 / 10 ^ (align a b).2.2.toNat ∧
      b.val = (align a b).2.1 / 10 ^ (align a b).2.2.toNat := by
  unfold align
  split
  · rename_i same
    simp [val, same]
  · split
    · rename_i less
      exact ⟨val_rescaled (UInt32.le_of_lt less), rfl⟩
    · rename_i notLess
      exact ⟨rfl, val_rescaled (UInt32.not_lt.1 notLess)⟩

/-- The order of decimals is that of their numbers. -/
theorem cmp_eq (a b : Decimal) : a.cmp b = compare a.val b.val := by
  obtain ⟨left, right⟩ := align_val a b
  have positive : (0 : ℚ) < 10 ^ (align a b).2.2.toNat := by positivity
  have order : compare (align a b).1 (align a b).2.1 = compare a.val b.val := by
    rw [left, right]
    rcases lt_trichotomy (align a b).1 (align a b).2.1 with less | same | greater
    · rw [compare_lt_iff_lt.2 less, eq_comm, compare_lt_iff_lt, div_lt_div_iff_of_pos_right positive]
      exact_mod_cast less
    · rw [same, compare_eq_iff_eq.2 rfl, compare_eq_iff_eq.2 rfl]
    · rw [compare_gt_iff_gt.2 greater, eq_comm, compare_gt_iff_gt,
        div_lt_div_iff_of_pos_right positive]
      exact_mod_cast greater
  exact order

theorem cmp_eq_eq_iff {a b : Decimal} : a.cmp b = .eq ↔ a.val = b.val := by
  rw [cmp_eq, compare_eq_iff_eq]

end PluginLisp.Decimal
