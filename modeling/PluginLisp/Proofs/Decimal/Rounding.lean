import PluginLisp.Arithmetic
import PluginLisp.Proofs.Decimal.Arithmetic

/-!
What a rounded number is, said without the way in which it is computed: there is no nearer one with as
many places, and none that is as near is further from zero. Every number has exactly one of these, and
it is what a division of decimals answers with.

Main results: `RoundedTo.unique`, `divide_rounds_once`.
-/

namespace PluginLisp.Decimal

/-- `r` is `x` rounded to some places behind the point, a half going away from zero. -/
structure RoundedTo (places : Nat) (x r : ℚ) : Prop where
  whole : ∃ n : ℤ, r = n / 10 ^ places
  nearest : ∀ n : ℤ, |x - r| ≤ |x - n / 10 ^ places|
  furthest : ∀ n : ℤ, |x - r| = |x - n / 10 ^ places| → |(n : ℚ) / 10 ^ places| ≤ |r|

/-! ### Whole numbers -/

/-- Where another whole number is as near as the nearest one, it is on the other side, and nearer to
    zero. -/
theorem nearest_spec (x : ℚ) (n : ℤ) :
    |x - nearest x| ≤ |x - n| ∧ (|x - nearest x| = |x - n| → |(n : ℚ)| ≤ |(nearest x : ℚ)|) := by
  have positive {x : ℚ} (nonneg : 0 ≤ x) (n : ℤ) :
      |x - nearest x| ≤ |x - n| ∧
        (|x - nearest x| = |x - n| → |(n : ℚ)| ≤ |(nearest x : ℚ)|) := by
    have below := Int.floor_le (x + 1 / 2)
    have above := Int.lt_floor_add_one (x + 1 / 2)
    have floor : 0 ≤ ⌊x + 1 / 2⌋ := Int.floor_nonneg.2 (by linarith)
    rw [nearest_of_nonneg nonneg]
    generalize ⌊x + 1 / 2⌋ = k at below above floor
    have nonneg_k : (0 : ℚ) ≤ k := by exact_mod_cast floor
    have near : |x - k| ≤ 1 / 2 := abs_le.2 ⟨by linarith, by linarith⟩
    rw [abs_of_nonneg nonneg_k]
    rcases lt_trichotomy n k with less | rfl | greater
    · have gap : (n : ℚ) + 1 ≤ k := by exact_mod_cast less
      have apart : 1 / 2 ≤ |x - n| := le_trans (by linarith) (le_abs_self _)
      refine ⟨near.trans apart, fun tie => ?_⟩
      rw [abs_le]
      refine ⟨?_, by linarith⟩
      have far : x - n ≤ 1 / 2 := (le_abs_self _).trans (tie ▸ near)
      linarith
    · exact ⟨le_rfl, fun _ => (abs_of_nonneg nonneg_k).le⟩
    · have gap : (k : ℚ) + 1 ≤ n := by exact_mod_cast greater
      have apart : 1 / 2 < |x - n| := lt_of_lt_of_le (by linarith) (neg_le_abs _)
      exact ⟨near.trans apart.le, fun tie => absurd (tie ▸ near) (not_le.2 apart)⟩
  rcases le_total 0 x with nonneg | nonpos
  · exact positive nonneg n
  · have mirrored := positive (neg_nonneg.2 nonpos) (-n)
    have flip (y : ℚ) : |-x - -y| = |x - y| := by rw [neg_sub_neg, abs_sub_comm]
    rw [nearest_neg] at mirrored
    push_cast at mirrored
    simpa only [flip, abs_neg] using mirrored

/-! ### Places behind the point -/

variable {places : Nat} {x r r' : ℚ}

theorem roundedTo_toPlaces (places : Nat) (x : ℚ) : RoundedTo places x (toPlaces places x) := by
  have unit : (0 : ℚ) < 10 ^ places := by positivity
  have scaled (n : ℤ) : |x - n / 10 ^ places| = |x * 10 ^ places - n| / 10 ^ places := by
    rw [← abs_of_pos unit, ← abs_div, abs_of_pos unit, sub_div, mul_div_cancel_right₀ _ unit.ne']
  refine ⟨⟨_, rfl⟩, fun n => ?_, fun n tie => ?_⟩
  · rw [toPlaces, scaled, scaled, div_le_div_iff_of_pos_right unit]
    exact (nearest_spec _ n).1
  · rw [toPlaces, scaled, scaled, div_left_inj' unit.ne'] at tie
    rw [toPlaces, abs_div, abs_div, abs_of_pos unit, div_le_div_iff_of_pos_right unit]
    exact (nearest_spec _ n).2 tie

/-- Two numbers that are equally near and equally far from zero are the same, unless they lie on both
    sides of zero, which is nearer than either. -/
theorem RoundedTo.unique (left : RoundedTo places x r) (right : RoundedTo places x r') : r = r' := by
  obtain ⟨n, whole⟩ := left.whole
  obtain ⟨m, whole'⟩ := right.whole
  have tie : |x - r| = |x - r'| :=
    le_antisymm (whole' ▸ left.nearest m) (whole ▸ right.nearest n)
  have size : |r| = |r'| :=
    le_antisymm (whole ▸ right.furthest n (whole ▸ tie.symm)) (whole' ▸ left.furthest m (whole' ▸ tie))
  rcases abs_eq_abs.1 size with same | opposite
  · exact same
  have centre : x = 0 ∨ r' = 0 := by
    rw [opposite, sub_neg_eq_add] at tie
    rcases abs_eq_abs.1 tie with same | mirrored
    · right
      linarith
    · left
      linarith
  rcases centre with rfl | zero
  · have least : |r'| ≤ 0 := by simpa using right.nearest 0
    have zero : r' = 0 := abs_nonpos_iff.1 least
    rw [opposite, zero, neg_zero]
  · rw [opposite, zero, neg_zero]

theorem roundedTo_iff : RoundedTo places x r ↔ r = toPlaces places x :=
  ⟨fun rounded => rounded.unique (roundedTo_toPlaces places x),
    fun same => same ▸ roundedTo_toPlaces places x⟩

/-- A rounded number is off by half a unit of the last place at most. -/
theorem abs_toPlaces_sub_le (places : Nat) (x : ℚ) :
    |toPlaces places x - x| ≤ (1 / 10 ^ places) / 2 := by
  have unit : (0 : ℚ) < 10 ^ places := by positivity
  have scaled : toPlaces places x - x = (nearest (x * 10 ^ places) - x * 10 ^ places) / 10 ^ places := by
    rw [toPlaces, sub_div, mul_div_cancel_right₀ _ unit.ne']
  rw [scaled, abs_div, abs_of_pos unit, div_right_comm, div_le_div_iff_of_pos_right unit]
  exact abs_nearest_sub_le _

/-! ### Quotients -/

/-- A division fails exactly by zero. As long as the scale of the divisor leaves room for the places of
    the quotient, it answers with the exact quotient rounded once to fifty places, which is off by half
    a unit of the last one at most. -/
theorem divide_rounds_once (a b : Decimal) :
    (b.val = 0 → a.div b = .error .divisionByZero) ∧
      (b.val ≠ 0 → b.scale.toNat + 51 < UInt32.size →
        ∃ q, a.div b = .ok q ∧
          (∀ r, RoundedTo 50 (a.val / b.val) r ↔ r = q.val) ∧
          |q.val - a.val / b.val| ≤ (1 / 10 ^ 50) / 2) := by
  constructor
  · intro zero
    rw [div, if_pos (val_eq_zero.1 zero)]
  · intro nonzero fits
    obtain ⟨q, divides, value⟩ := (answers_div a nonzero).exact fits
    refine ⟨q, divides, fun r => ?_, ?_⟩
    · rw [value, roundedTo_iff]
    · rw [value]
      exact abs_toPlaces_sub_le _ _

/-- A negative quotient that is just a half goes away from zero. -/
theorem divide_rounds_negative_half :
    div ⟨-5, 51⟩ ⟨0, 3⟩ = .error .divisionByZero ∧
      div ⟨-5, 51⟩ ⟨1, 0⟩ = .ok ⟨-1, 50⟩ ∧
      RoundedTo 50 (val ⟨-5, 51⟩ / val ⟨1, 0⟩) (val ⟨-1, 50⟩) := by
  have computed : div ⟨-5, 51⟩ ⟨1, 0⟩ = .ok ⟨-1, 50⟩ := by decide +kernel
  refine ⟨(divide_rounds_once ⟨-5, 51⟩ ⟨0, 3⟩).1 (by simp [val]), computed, ?_⟩
  obtain ⟨q, divides, rounds, -⟩ :=
    (divide_rounds_once ⟨-5, 51⟩ ⟨1, 0⟩).2 (by simp [val]) (by decide)
  rw [computed] at divides
  cases divides
  exact (rounds _).2 rfl

end PluginLisp.Decimal
