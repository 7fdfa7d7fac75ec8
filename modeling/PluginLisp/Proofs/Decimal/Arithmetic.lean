import Mathlib.Algebra.Order.Floor.Semifield
import Mathlib.Data.Rat.Floor
import Mathlib.Tactic.Linarith
import Mathlib.Tactic.Ring
import PluginLisp.Proofs.Decimal.Value

/-!
Arithmetic of decimals over the rationals. Sums and differences are exact. Products, powers and
quotients compute a scale in a word of thirty-two bits. As long as the word holds it, products and
powers are exact and a quotient is the exact one, rounded once; otherwise the program breaks off
(`exact_iff_scale_fits`).

Main results: `answers_mul`, `answers_pow`, `answers_div`, and `exact_iff_scale_fits`.
-/

namespace PluginLisp.Decimal

/-! ### Sums and differences -/

/-- Sums are exact. -/
theorem val_add (a b : Decimal) : (a.add b).val = a.val + b.val := by
  obtain ⟨left, right⟩ := align_val a b
  rw [left, right, ← add_div, ← Int.cast_add]
  exact val_make _ _

/-- Differences are exact. -/
theorem val_sub (a b : Decimal) : (a.sub b).val = a.val - b.val := by
  obtain ⟨left, right⟩ := align_val a b
  rw [left, right, ← sub_div, ← Int.cast_sub]
  exact val_make _ _

theorem val_neg (a : Decimal) : a.neg.val = -a.val := by
  simp [val, neg, neg_div]

theorem val_abs (a : Decimal) : a.abs.val = |a.val| := by
  simp [val, Decimal.abs, abs_div]

/-! ### Products and powers -/

/-- What an operation answers that needs a scale of some places: a decimal with the value `x` if the
    word holds the scale. Otherwise the operation on words that computes the scale breaks off. -/
def Answers (answer : Except Error Decimal) (places : Nat) (operation : String) (x : ℚ) : Prop :=
  if places < UInt32.size then ∃ d, answer = .ok d ∧ d.val = x
  else answer = .error (Number.overflowError operation)

theorem Answers.exact {answer : Except Error Decimal} {places : Nat} {operation : String} {x : ℚ}
    (answers : Answers answer places operation x) (fits : places < UInt32.size) :
    ∃ d, answer = .ok d ∧ d.val = x := by
  rwa [Answers, if_pos fits] at answers

theorem Answers.broken {answer : Except Error Decimal} {places : Nat} {operation : String} {x : ℚ}
    (answers : Answers answer places operation x) (large : ¬ places < UInt32.size) :
    answer = .error (Number.overflowError operation) := by
  rwa [Answers, if_neg large] at answers

/-- Products are exact while their scale fits, and break off beyond. -/
theorem answers_mul (a b : Decimal) :
    Answers (a.mul b) (a.scale.toNat + b.scale.toNat) "add" (a.val * b.val) := by
  unfold Answers mul
  split
  · rename_i fits
    obtain ⟨scale, sum, places⟩ := Number.addUInt32_ok fits
    rw [sum]
    refine ⟨_, rfl, ?_⟩
    rw [val_make, places]
    simp only [val, pow_add]
    push_cast
    field_simp
  · rename_i large
    rw [Number.addUInt32_error large]
    rfl

/-- Powers are exact while their scale fits, and break off beyond. -/
theorem answers_pow (a : Decimal) (e : UInt32) :
    Answers (a.pow e) (a.scale.toNat * e.toNat) "multiply" (a.val ^ e.toNat) := by
  unfold Answers pow
  split
  · rename_i fits
    obtain ⟨scale, product, places⟩ := Number.mulUInt32_ok fits
    rw [product]
    refine ⟨_, rfl, ?_⟩
    rw [val_make, places, Int.pow_eq]
    simp only [val, div_pow, pow_mul]
    push_cast
    rfl
  · rename_i large
    rw [Number.mulUInt32_error large]
    rfl

/-! ### Rounding -/

/-- A number without what stands behind its point. -/
def towardZero (x : ℚ) : ℤ := if x < 0 then ⌈x⌉ else ⌊x⌋

/-- The nearest integer, a half going away from zero. -/
def nearest (x : ℚ) : ℤ := if x < 0 then ⌈x - 1 / 2⌉ else ⌊x + 1 / 2⌋

/-- A number rounded to some places behind the point, a half going away from zero. -/
def toPlaces (places : Nat) (x : ℚ) : ℚ := nearest (x * 10 ^ places) / 10 ^ places

theorem towardZero_of_nonneg {x : ℚ} (nonneg : 0 ≤ x) : towardZero x = ⌊x⌋ :=
  if_neg (not_lt.2 nonneg)

theorem nearest_of_nonneg {x : ℚ} (nonneg : 0 ≤ x) : nearest x = ⌊x + 1 / 2⌋ :=
  if_neg (not_lt.2 nonneg)

theorem towardZero_neg (x : ℚ) : towardZero (-x) = -towardZero x := by
  unfold towardZero
  rcases lt_trichotomy x 0 with negative | rfl | positive
  · rw [if_neg (by linarith), if_pos negative, Int.floor_neg]
  · simp
  · rw [if_pos (by linarith), if_neg (by linarith), Int.ceil_neg]

theorem nearest_neg (x : ℚ) : nearest (-x) = -nearest x := by
  unfold nearest
  rcases lt_trichotomy x 0 with negative | rfl | positive
  · rw [if_neg (by linarith), if_pos negative, ← Int.floor_neg]
    congr 1
    ring
  · norm_num
  · rw [if_pos (by linarith), if_neg (by linarith), ← Int.ceil_neg]
    congr 1
    ring

/-- The division of integers cuts the quotient toward zero. -/
theorem tdiv_eq_towardZero (n d : ℤ) : n.tdiv d = towardZero (n / d) := by
  have natural (m k : Nat) : (m : ℤ).tdiv k = towardZero (m / k) := by
    rw [towardZero_of_nonneg (by positivity), ← Int.ofNat_tdiv,
      ← Int.natCast_floor_eq_floor (by positivity), Nat.floor_div_eq_div]
  obtain ⟨m, rfl | rfl⟩ := n.eq_nat_or_neg
  · obtain ⟨k, rfl | rfl⟩ := d.eq_nat_or_neg
    · simpa using natural m k
    · simp [div_neg, towardZero_neg, natural]
  · obtain ⟨k, rfl | rfl⟩ := d.eq_nat_or_neg
    · simp [neg_div, towardZero_neg, natural]
    · simp [natural]

theorem roundTenth_neg (q : ℤ) : roundTenth (-q) = -roundTenth q := by
  unfold roundTenth
  rcases lt_trichotomy q 0 with negative | rfl | positive
  · rw [if_neg (by omega), if_pos negative, ← Int.neg_tdiv]
    congr 1
    omega
  · decide
  · rw [if_pos (by omega), if_neg (by omega), ← Int.neg_tdiv]
    congr 1
    omega

/-- Rounding what is left of a tenfold number rounds the number: the places that were cut off could
    not have made a half. -/
theorem roundTenth_towardZero (x : ℚ) : roundTenth (towardZero x) = nearest (x / 10) := by
  have nonnegative {x : ℚ} (nonneg : 0 ≤ x) : roundTenth (towardZero x) = nearest (x / 10) := by
    have floor : 0 ≤ ⌊x⌋ := Int.floor_nonneg.2 nonneg
    have half : x / 10 + 1 / 2 = (x + 5) / (10 : ℕ) := by
      push_cast
      ring
    rw [towardZero_of_nonneg nonneg, nearest_of_nonneg (by positivity), roundTenth, if_neg (by omega),
      Int.tdiv_eq_ediv_of_nonneg (by omega), half, Int.floor_div_natCast, Int.floor_add_ofNat]
    rfl
  rcases le_total 0 x with nonneg | nonpos
  · exact nonnegative nonneg
  · have mirrored := nonnegative (neg_nonneg.2 nonpos)
    rw [towardZero_neg, roundTenth_neg, neg_div, nearest_neg] at mirrored
    exact neg_inj.1 mirrored

/-- Rounding is off by no more than a half. -/
theorem abs_nearest_sub_le (x : ℚ) : |(nearest x : ℚ) - x| ≤ 1 / 2 := by
  unfold nearest
  split
  · have := Int.le_ceil (x - 1 / 2)
    have := Int.ceil_lt_add_one (x - 1 / 2)
    rw [abs_le]
    constructor <;> linarith
  · have := Int.floor_le (x + 1 / 2)
    have := Int.lt_floor_add_one (x + 1 / 2)
    rw [abs_le]
    constructor <;> linarith

/-! ### Quotients -/

/-- The scale to which a quotient is computed, if the word holds it. -/
theorem quotientScale_ok {scale : UInt32} (fits : scale.toNat + 51 < UInt32.size) :
    ∃ places, (Number.addUInt32 scale quotientPlaces >>= (Number.addUInt32 · 1)) = .ok places ∧
      places.toNat = scale.toNat + 51 := by
  have fifty : quotientPlaces.toNat = 50 := rfl
  have one : (1 : UInt32).toNat = 1 := rfl
  obtain ⟨most, first, fiftyMore⟩ :=
    Number.addUInt32_ok (a := scale) (b := quotientPlaces) (by omega)
  obtain ⟨places, second, oneMore⟩ := Number.addUInt32_ok (a := most) (b := 1) (by omega)
  refine ⟨places, ?_, by omega⟩
  rw [first]
  exact second

theorem quotientScale_error {scale : UInt32} (large : ¬ scale.toNat + 51 < UInt32.size) :
    (Number.addUInt32 scale quotientPlaces >>= (Number.addUInt32 · 1)) =
      .error (Number.overflowError "add") := by
  have fifty : quotientPlaces.toNat = 50 := rfl
  have one : (1 : UInt32).toNat = 1 := rfl
  by_cases fits : scale.toNat + quotientPlaces.toNat < UInt32.size
  · obtain ⟨most, first, fiftyMore⟩ := Number.addUInt32_ok fits
    rw [first]
    exact Number.addUInt32_error (by omega)
  · rw [Number.addUInt32_error fits]
    rfl

/-- The tenfold quotient of the mantissas, with fifty places and one more, is rounded just as the exact
    quotient is. -/
theorem roundTenth_quotient (a : Decimal) {b : Decimal} (nonzero : b.val ≠ 0) :
    roundTenth ((a.mantissa * pow10 (b.scale.toNat + 51)).tdiv
        (b.mantissa * pow10 a.scale.toNat)) = nearest (a.val / b.val * 10 ^ 50) := by
  have mantissa : (b.mantissa : ℚ) ≠ 0 := fun zero => nonzero (val_eq_zero.2 (by exact_mod_cast zero))
  have quotient : ((a.mantissa * pow10 (b.scale.toNat + 51) : ℤ) : ℚ) /
      ((b.mantissa * pow10 a.scale.toNat : ℤ) : ℚ) / 10 = a.val / b.val * 10 ^ 50 := by
    rw [pow10_eq, pow10_eq]
    push_cast
    simp only [val]
    field_simp
    ring
  rw [tdiv_eq_towardZero, roundTenth_towardZero, quotient]

/-- Quotients are rounded to fifty places while the scale fits, and break off beyond. -/
theorem answers_div (a : Decimal) {b : Decimal} (nonzero : b.val ≠ 0) :
    Answers (a.div b) (b.scale.toNat + 51) "add" (toPlaces 50 (a.val / b.val)) := by
  have mantissa : b.mantissa ≠ 0 := fun zero => nonzero (val_eq_zero.2 zero)
  have fifty : quotientPlaces.toNat = 50 := rfl
  unfold Answers div
  rw [if_neg mantissa, ← bind_assoc]
  split
  · rename_i fits
    obtain ⟨places, sum, number⟩ := quotientScale_ok fits
    rw [sum]
    refine ⟨_, rfl, ?_⟩
    rw [val_make, number, roundTenth_quotient a nonzero]
    rfl
  · rename_i large
    rw [quotientScale_error large]
    rfl

/-! ### When the scales fit -/

/-- Products and powers are exact just as long as the word holds their scales, and a quotient is the
    exact one, rounded to fifty places, just as long as it holds the divisor's scale and fifty-one more.
    Beyond that the program breaks off. -/
theorem exact_iff_scale_fits (a b : Decimal) (e : UInt32) :
    Answers (a.mul b) (a.scale.toNat + b.scale.toNat) "add" (a.val * b.val) ∧
      Answers (a.pow e) (a.scale.toNat * e.toNat) "multiply" (a.val ^ e.toNat) ∧
      (b.val ≠ 0 → Answers (a.div b) (b.scale.toNat + 51) "add" (toPlaces 50 (a.val / b.val))) :=
  ⟨answers_mul a b, answers_pow a e, answers_div a⟩

theorem exact_with_few_places :
    ofText "-2.5e-3" = .ok ⟨-25, 4⟩ ∧ ofText "3" = .ok ⟨3, 0⟩ ∧
      (∃ p, mul ⟨-25, 4⟩ ⟨3, 0⟩ = .ok p ∧ p.val = val ⟨-25, 4⟩ * val ⟨3, 0⟩) ∧
      (∃ p, pow ⟨-25, 4⟩ 7 = .ok p ∧ p.val = val ⟨-25, 4⟩ ^ 7) ∧
      ∃ q, div ⟨-25, 4⟩ ⟨3, 0⟩ = .ok q ∧ q.val = toPlaces 50 (val ⟨-25, 4⟩ / val ⟨3, 0⟩) := by
  obtain ⟨product, power, quotient⟩ := exact_iff_scale_fits ⟨-25, 4⟩ ⟨3, 0⟩ 7
  exact ⟨by decide +kernel, by decide +kernel, product.exact (by decide), power.exact (by decide),
    (quotient (by norm_num [val])).exact (by decide)⟩

/-- The least positive decimal. -/
def leastUnit : Decimal := ⟨1, 4294967295⟩

/-- The least decimal can be read, but a tenth of it, its square and quotients by it overflow. -/
theorem leastUnit_overflows :
    ofText "1e-4294967295" = .ok leastUnit ∧ ofText "0.1" = .ok ⟨1, 1⟩ ∧
      leastUnit.mul ⟨1, 1⟩ = .error (Number.overflowError "add") ∧
      leastUnit.pow 2 = .error (Number.overflowError "multiply") ∧
      div ⟨1, 1⟩ leastUnit = .error (Number.overflowError "add") :=
  ⟨by decide +kernel, by decide +kernel, (answers_mul _ _).broken (by decide),
    (answers_pow _ _).broken (by decide),
    (answers_div _ (by simp [val, leastUnit])).broken (by decide)⟩

end PluginLisp.Decimal
