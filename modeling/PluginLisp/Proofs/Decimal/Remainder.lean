import PluginLisp.Builtin.Math
import PluginLisp.Proofs.Decimal.Obtainable
import PluginLisp.Proofs.Decimal.Rounding

/-!
Remainders and whole numbers. A remainder is what is left of the dividend after the divisor was taken
away a whole number of times; the one of the division that truncates has the sign of the dividend, and
the modulus the sign of the divisor. Rounding a decimal in lowest terms gives the integer that it
says.

Main result: `remainders_and_whole_numbers`.
-/

namespace PluginLisp.Decimal

/-! ### Remainders of numbers -/

/-- `r` is left of `x` after `y` was taken away a whole number of times. It is smaller than `y`, and
    unless it is zero it has the sign of `leader`. -/
structure IsRest (x y leader r : ℚ) : Prop where
  multiple : ∃ q : ℤ, x = q * y + r
  small : |r| < |y|
  sign : r = 0 ∨ 0 < r * leader

/-- The remainder of integers has the sign of the dividend. -/
theorem isRest_tmod (x : ℤ) {y : ℤ} (nonzero : y ≠ 0) : IsRest x y x (x.tmod y) := by
  constructor
  case multiple =>
      have parts := Int.tmod_add_mul_tdiv x y
      refine ⟨x.tdiv y, ?_⟩
      rw [mul_comm, add_comm]
      exact_mod_cast parts.symm
  case small =>
      have less : (x.tmod y).natAbs < y.natAbs := by
        rw [Int.natAbs_tmod]
        exact Nat.mod_lt _ (Int.natAbs_pos.2 nonzero)
      rw [← Int.cast_abs, ← Int.cast_abs, Int.cast_lt, Int.abs_eq_natAbs, Int.abs_eq_natAbs]
      exact_mod_cast less
  case sign =>
      have natural (n : Nat) : 0 ≤ (n : ℤ).tmod y * n :=
        mul_nonneg (Int.tmod_nonneg y (Int.natCast_nonneg n)) (Int.natCast_nonneg n)
      have together : 0 ≤ x.tmod y * x := by
        obtain ⟨n, rfl | rfl⟩ := x.eq_nat_or_neg
        · exact natural n
        · rw [Int.neg_tmod, neg_mul_neg]
          exact natural n
      rcases together.eq_or_lt with none | positive
      · left
        rcases mul_eq_zero.1 none.symm with zero | rfl
        · exact_mod_cast zero
        · simp
      · right
        exact_mod_cast positive

theorem IsRest.scaled {x y leader r unit : ℚ} (rest : IsRest x y leader r) (positive : 0 < unit) :
    IsRest (x / unit) (y / unit) (leader / unit) (r / unit) := by
  constructor
  case multiple =>
      obtain ⟨q, parts⟩ := rest.multiple
      exact ⟨q, by rw [parts, add_div, mul_div_assoc]⟩
  case small =>
      rw [abs_div, abs_div, abs_of_pos positive, div_lt_div_iff_of_pos_right positive]
      exact rest.small
  case sign =>
      rcases rest.sign with rfl | same
      · exact Or.inl (zero_div unit)
      · right
        rw [div_mul_div_comm]
        exact div_pos same (mul_pos positive positive)

/-- A remainder that differs in sign from the divisor is one divisor away from the one that does
    not. -/
theorem IsRest.shift {x y leader r : ℚ} (rest : IsRest x y leader r) (differs : r * y < 0) :
    IsRest x y y (r + y) := by
  have small := rest.small
  constructor
  case multiple =>
      obtain ⟨q, parts⟩ := rest.multiple
      refine ⟨q - 1, ?_⟩
      push_cast
      linarith
  case small =>
      rcases mul_neg_iff.1 differs with ⟨positive, negative⟩ | ⟨negative, positive⟩
      · rw [abs_of_pos positive, abs_of_neg negative] at small
        rw [abs_of_neg negative, abs_of_neg (by linarith)]
        linarith
      · rw [abs_of_neg negative, abs_of_pos positive] at small
        rw [abs_of_pos positive, abs_of_pos (by linarith)]
        linarith
  case sign =>
      right
      rcases mul_neg_iff.1 differs with ⟨positive, negative⟩ | ⟨negative, positive⟩
      · rw [abs_of_pos positive, abs_of_neg negative] at small
        exact mul_pos_of_neg_of_neg (by linarith) negative
      · rw [abs_of_neg negative, abs_of_pos positive] at small
        exact mul_pos (by linarith) positive

/-! ### Remainders of decimals -/

section

variable {a b d : Decimal}

theorem signum_neg_iff : d.signum < 0 ↔ d.val < 0 := by
  have unit : (0 : ℚ) < 10 ^ d.scale.toNat := by positivity
  rw [signum, Int.sign_neg_iff, val, div_neg_iff]
  simp [unit, unit.not_gt]

theorem signum_eq_zero_iff : d.signum = 0 ↔ d.val = 0 := by
  rw [signum, Int.sign_eq_zero_iff_zero, val_eq_zero]

theorem signum_pos_iff : 0 < d.signum ↔ 0 < d.val := by
  have mirrored := signum_neg_iff (d := d.neg)
  rw [val_neg, neg_lt_zero] at mirrored
  rw [← mirrored, signum, signum, neg, Int.sign_neg, neg_lt_zero]

/-- The remainder of a division has the sign of the dividend. -/
theorem rem?_isRest (a : Decimal) (nonzero : b.val ≠ 0) :
    ∃ r, a.rem? b = some r ∧ IsRest a.val b.val a.val r.val := by
  obtain ⟨left, right⟩ := align_val a b
  have divisor : (align a b).2.1 ≠ 0 := by
    intro zero
    rw [zero, Int.cast_zero, zero_div] at right
    exact nonzero right
  refine ⟨_, if_neg fun zero => nonzero (val_eq_zero.2 zero), ?_⟩
  rw [val_make, left, right]
  exact (isRest_tmod _ divisor).scaled (by positivity)

theorem onDecimals_rem_isRest (a : Decimal) (nonzero : b.val ≠ 0) :
    ∃ r, Operator.rem.onDecimals [a, b] = .ok r ∧ IsRest a.val b.val a.val r.val := by
  obtain ⟨r, remainder, rest⟩ := rem?_isRest a nonzero
  exact ⟨r, by rw [Operator.onDecimals, remainder], rest⟩

theorem onDecimals_rem_of_zero (a : Decimal) (zero : b.val = 0) :
    Operator.rem.onDecimals [a, b] = .error .divisionByZero := by
  rw [Operator.onDecimals, rem?, if_pos (val_eq_zero.1 zero)]

/-- The modulus of decimals is made of their remainder, which is moved if its sign differs. -/
theorem flooredMod_decimals (a b : Decimal) :
    MathOp.flooredMod (.decimal a) (.decimal b) = (Operator.rem.onDecimals [a, b]).map fun r =>
      .decimal (if MathOp.needsShift (b.signum < 0) (.decimal r) then (zero.add r).add b else r) := by
  have remainder : Operator.rem.apply [.decimal a, .decimal b] =
      (Operator.rem.onDecimals [a, b]).map .decimal := rfl
  rw [MathOp.flooredMod, remainder]
  cases Operator.rem.onDecimals [a, b] with
  | error e => rfl
  | ok r =>
      change (if MathOp.needsShift (b.signum < 0) (.decimal r) then
        Except.ok (Value.decimal ((zero.add r).add b)) else .ok (.decimal r)) = _
      rw [Except.map, apply_ite Value.decimal, apply_ite Except.ok]

/-- A remainder is shifted if its sign differs from that of the divisor. -/
theorem needsShift_iff {r : Decimal} (nonzero : b.val ≠ 0) :
    MathOp.needsShift (b.signum < 0) (.decimal r) = true ↔ r.val * b.val < 0 := by
  have asked : MathOp.needsShift (b.signum < 0) (.decimal r) = true ↔
      r.val ≠ 0 ∧ ¬(r.val < 0 ↔ b.val < 0) := by
    simp only [MathOp.needsShift, Bool.and_eq_true, bne_iff_ne, ne_eq, decide_eq_decide,
      signum_neg_iff, signum_eq_zero_iff]
  rw [asked, mul_neg_iff]
  grind

/-- The modulus of a division has the sign of the divisor. -/
theorem flooredMod_isRest (a : Decimal) (nonzero : b.val ≠ 0) :
    ∃ m, MathOp.flooredMod (.decimal a) (.decimal b) = .ok (.decimal m) ∧
      IsRest a.val b.val b.val m.val := by
  obtain ⟨r, remainder, rest⟩ := onDecimals_rem_isRest a nonzero
  refine ⟨_, by rw [flooredMod_decimals, remainder]; rfl, ?_⟩
  split
  next shifts =>
    have none : zero.val = 0 := val_eq_zero.2 rfl
    rw [val_add, val_add, none, zero_add]
    exact rest.shift ((needsShift_iff nonzero).1 shifts)
  next stays =>
    refine ⟨rest.multiple, rest.small, ?_⟩
    rw [needsShift_iff nonzero, not_lt] at stays
    refine stays.eq_or_lt.imp_left fun none => ?_
    exact (mul_eq_zero.1 none.symm).resolve_right nonzero

/-! ### Whole numbers -/

theorem truncated_eq (a : Decimal) : a.truncated = towardZero a.val := by
  rw [truncated, tdiv_eq_towardZero, pow10_eq]
  push_cast
  rfl

theorem val_trunc (a : Decimal) : a.trunc.val = towardZero a.val := by
  rw [trunc, val_make, truncated_eq, UInt32.toNat_zero, pow_zero, div_one]

theorem val_one : one.val = 1 := by
  simp [val, one]

/-- A decimal in lowest terms that stands for an integer has it as its mantissa. -/
theorem LowestTerms.eq_whole {n : ℤ} (lowest : d.LowestTerms) (whole : d.val = n) : d = ⟨n, 0⟩ := by
  refine lowest.eq_of_val_eq (Or.inl rfl) ?_
  rw [whole]
  simp [val]

/-- A number that is negative and not an integer is cut to the integer above it. -/
theorem towardZero_eq_floor_add_one {x : ℚ} (negative : x < 0) (broken : ¬∃ n : ℤ, x = n) :
    towardZero x = ⌊x⌋ + 1 := by
  rw [towardZero, if_pos negative, Int.ceil_eq_floor_add_one_iff_notMem]
  rintro ⟨n, same⟩
  exact broken ⟨n, same.symm⟩

/-- Any other number is cut to the integer below it. -/
theorem towardZero_eq_floor {x : ℚ} (other : ¬(x < 0 ∧ ¬∃ n : ℤ, x = n)) : towardZero x = ⌊x⌋ := by
  rcases le_or_gt 0 x with nonneg | negative
  · exact towardZero_of_nonneg nonneg
  · obtain ⟨n, rfl⟩ : ∃ n : ℤ, x = n := by
      by_contra broken
      exact other ⟨negative, broken⟩
    simp [towardZero]

/-- Rounding down is exact on decimals in lowest terms. -/
theorem LowestTerms.val_floor (lowest : a.LowestTerms) : a.floor.val = ⌊a.val⌋ := by
  have asked : (decide (a.signum < 0) && !a.isInteger) = true ↔ a.val < 0 ∧ ¬∃ n : ℤ, a.val = n := by
    rw [Bool.and_eq_true, decide_eq_true_eq, signum_neg_iff, Bool.not_eq_true', ← Bool.not_eq_true,
      lowest.isInteger_iff]
  rw [floor]
  split
  next below =>
    obtain ⟨negative, broken⟩ := asked.1 below
    rw [val_sub, val_trunc, val_one, towardZero_eq_floor_add_one negative broken]
    push_cast
    ring
  next other => rw [val_trunc, towardZero_eq_floor (asked.not.1 other)]

theorem val_ceil_eq_neg (a : Decimal) : a.ceil.val = -a.neg.floor.val := by
  have mirrored : a.neg.signum < 0 ↔ 0 < a.signum := by
    rw [signum_neg_iff, val_neg, neg_lt_zero, signum_pos_iff]
  have cut : a.neg.trunc.val = -a.trunc.val := by
    rw [val_trunc, val_trunc, val_neg, towardZero_neg, Int.cast_neg]
  have same : a.neg.isInteger = a.isInteger := rfl
  rw [ceil, floor]
  simp only [mirrored, same]
  split
  · rw [val_add, val_sub, cut]
    ring
  · rw [cut, neg_neg]

/-- Rounding up is exact on decimals in lowest terms. -/
theorem LowestTerms.val_ceil (lowest : a.LowestTerms) : a.ceil.val = ⌈a.val⌉ := by
  rw [val_ceil_eq_neg, lowest.neg.val_floor, val_neg, Int.floor_neg, Int.cast_neg, neg_neg]

/-- Rounding goes to the nearest whole number, with ties away from zero. -/
theorem val_round (a : Decimal) : a.round.val = nearest a.val := by
  have half : (make 5 1).val = 1 / 2 := by
    rw [val_make, UInt32.toNat_one]
    norm_num
  have towards : a.round.val = towardZero (if a.val < 0 then a.val - 1 / 2 else a.val + 1 / 2) := by
    rw [round]
    simp only [signum_neg_iff]
    split
    · rw [val_trunc, val_sub, half]
    · rw [val_trunc, val_add, half]
  rw [towards, nearest]
  split
  next negative => rw [towardZero, if_pos (by linarith)]
  next nonneg => rw [towardZero_of_nonneg (by linarith)]

/-- A decimal is truncated to a word just if the word holds the result. -/
theorem toWord?_eq_some_iff {n : ℤ} :
    a.toWord? = some n ↔ n = towardZero a.val ∧ -2 ^ 63 ≤ n ∧ n < 2 ^ 63 := by
  have bound : Number.wordBound = 2 ^ 63 := rfl
  rw [toWord?, truncated_eq]
  simp only [Number.fitsWord, bound, Bool.and_eq_true, decide_eq_true_eq]
  split
  next fits =>
    rw [Option.some_inj, eq_comm]
    constructor
    · rintro rfl
      exact ⟨rfl, fits⟩
    · exact And.left
  next tooLarge =>
    simp only [reduceCtorEq, false_iff]
    rintro ⟨rfl, fits⟩
    exact tooLarge fits

/-- Dividing decimals leaves a remainder with the sign of the dividend, and a modulus with the sign of
    the divisor; by zero both fail. A decimal in lowest terms is rounded to the integers below, above
    and next to it and toward zero, and it gives the last of these as a word if that can hold it. -/
theorem remainders_and_whole_numbers (a b : Decimal) :
    (b.val ≠ 0 →
      (∃ r, Operator.rem.onDecimals [a, b] = .ok r ∧ IsRest a.val b.val a.val r.val) ∧
      ∃ m, MathOp.flooredMod (.decimal a) (.decimal b) = .ok (.decimal m) ∧
        IsRest a.val b.val b.val m.val) ∧
    (b.val = 0 →
      Operator.rem.onDecimals [a, b] = .error .divisionByZero ∧
      MathOp.flooredMod (.decimal a) (.decimal b) = .error .divisionByZero) ∧
    (a.LowestTerms →
      a.trunc = ⟨towardZero a.val, 0⟩ ∧ a.floor = ⟨⌊a.val⌋, 0⟩ ∧ a.ceil = ⟨⌈a.val⌉, 0⟩ ∧
      (∃ n : ℤ, a.round = ⟨n, 0⟩ ∧ ∀ r, RoundedTo 0 a.val r ↔ r = n) ∧
      ∀ n, a.toWord? = some n ↔ n = towardZero a.val ∧ -2 ^ 63 ≤ n ∧ n < 2 ^ 63) := by
  refine ⟨fun nonzero => ⟨onDecimals_rem_isRest a nonzero, flooredMod_isRest a nonzero⟩,
    fun zero => ?_, fun lowest => ?_⟩
  · have fails := onDecimals_rem_of_zero a zero
    exact ⟨fails, by rw [flooredMod_decimals, fails]; rfl⟩
  · refine ⟨(lowestTerms_make _ _).eq_whole (val_trunc a),
      (lowestTerms_floor a).eq_whole lowest.val_floor, (lowestTerms_ceil a).eq_whole lowest.val_ceil,
      ⟨nearest a.val, (lowestTerms_round a).eq_whole (val_round a), fun r => ?_⟩,
      fun n => toWord?_eq_some_iff⟩
    rw [roundedTo_iff, toPlaces]
    simp

/-- A negative dividend leaves a negative remainder and a positive modulus, and just a half goes away
    from zero. -/
theorem negative_dividend_remainders :
    Operator.rem.onDecimals [⟨-75, 1⟩, ⟨2, 0⟩] = .ok ⟨-15, 1⟩ ∧
      MathOp.flooredMod (.decimal ⟨-75, 1⟩) (.decimal ⟨2, 0⟩) = .ok (.decimal ⟨5, 1⟩) ∧
      IsRest (val ⟨-75, 1⟩) (val ⟨2, 0⟩) (val ⟨-75, 1⟩) (val ⟨-15, 1⟩) ∧
      IsRest (val ⟨-75, 1⟩) (val ⟨2, 0⟩) (val ⟨2, 0⟩) (val ⟨5, 1⟩) ∧
      MathOp.flooredMod (.decimal ⟨-75, 1⟩) (.decimal ⟨0, 3⟩) = .error .divisionByZero ∧
      floor ⟨-75, 1⟩ = ⟨⌊val ⟨-75, 1⟩⌋, 0⟩ ∧ RoundedTo 0 (val ⟨-75, 1⟩) (-8) := by
  have remainder : Operator.rem.onDecimals [⟨-75, 1⟩, ⟨2, 0⟩] = .ok ⟨-15, 1⟩ := by
    have rest : rem? ⟨-75, 1⟩ ⟨2, 0⟩ = some ⟨-15, 1⟩ := by decide +kernel
    rw [Operator.onDecimals, rest]
  have modulus : MathOp.flooredMod (.decimal ⟨-75, 1⟩) (.decimal ⟨2, 0⟩) = .ok (.decimal ⟨5, 1⟩) := by
    have sum : (zero.add ⟨-15, 1⟩).add ⟨2, 0⟩ = ⟨5, 1⟩ := by decide +kernel
    rw [flooredMod_decimals, remainder, Except.map, if_pos (by decide), sum]
  obtain ⟨divides, -, rounds⟩ := remainders_and_whole_numbers ⟨-75, 1⟩ ⟨2, 0⟩
  obtain ⟨⟨r, remainder', rest⟩, m, modulus', restToo⟩ := divides (by norm_num [val])
  obtain ⟨-, below, -, ⟨n, nearest, unique⟩, -⟩ := rounds (Or.inr (by decide))
  rw [remainder] at remainder'
  rw [modulus] at modulus'
  cases remainder'
  cases modulus'
  have whole : round ⟨-75, 1⟩ = ⟨-8, 0⟩ := by decide +kernel
  rw [whole] at nearest
  cases nearest
  refine ⟨remainder, modulus, rest, restToo, ?_, below, (unique _).2 (by norm_num)⟩
  exact ((remainders_and_whole_numbers ⟨-75, 1⟩ ⟨0, 3⟩).2.1 (by simp [val])).2

end

end PluginLisp.Decimal
