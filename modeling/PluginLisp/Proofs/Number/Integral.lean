import PluginLisp.Proofs.Data.Integers
import PluginLisp.Proofs.Number.Order

/-!
Integers as floats. A finite float is taken apart into the same parts by `Kind.ofFloat` and by the
operations on floats, so the absolute value and the comparison with a bound can be told from the
parts. Every integer of at most fifty-three binary digits is a float, and a float that is an integer is
the float of that integer, but for the negative zero.

Main results: `value_ofInt`, `eq_ofInt`, `abs_lt_iff`.
-/

namespace PluginLisp.Number

open Float.Model (UnpackedFloat)

namespace Binary

/-- The sign. -/
def sign (b : Binary) : UnpackedFloat.Sign := if b.negative then .negative else .positive

/-- The parts as the operations on floats have them: a zero is a case of its own. -/
def unpacked (b : Binary) : UnpackedFloat :=
  if zero : b.mantissa = 0 then .zero b.sign
  else .finite b.sign b.mantissa b.exponent (Nat.pos_of_ne_zero zero)

/-- The same parts with another sign. -/
def withSign (b : Binary) (negative : Bool) : Binary := ⟨negative, b.mantissa, b.exponent⟩

end Binary

/-! ### Computing with the parts -/

/-- The fields of a word as the operations on floats read them. -/
theorem unpackFields_eq (bits : UInt64) :
    UnpackedFloat.Sign.ofBitVec (@UnpackedFloat.unpackSign .binary64 bits.toBitVec) =
        (if bits >>> 63 != 0 then .negative else .positive) ∧
      (@UnpackedFloat.unpackExponent .binary64 bits.toBitVec).toNat =
        ((bits >>> 52) &&& 0x7ff).toNat ∧
      (@UnpackedFloat.unpackMantissa .binary64 bits.toBitVec).toNat =
        (bits &&& 0xfffffffffffff).toNat := by
  obtain ⟨small, exponent, fraction, whole⟩ := fields_eq bits
  have sign : (@UnpackedFloat.unpackSign .binary64 bits.toBitVec).toNat = (bits >>> 63).toNat := by
    rw [UnpackedFloat.unpackSign_def]
    simp only [BitVec.extractLsb'_toNat, UInt64.toNat_toBitVec, Nat.shiftRight_eq_div_pow]
    omega
  have positive : @UnpackedFloat.unpackSign .binary64 bits.toBitVec = 0#1 ↔ bits >>> 63 = 0 := by
    rw [← BitVec.toNat_inj, sign, ← UInt64.toNat_inj]
    rfl
  rw [UnpackedFloat.unpackExponent_def, UnpackedFloat.unpackMantissa_def]
  simp only [BitVec.extractLsb'_toNat, UInt64.toNat_toBitVec, Nat.shiftRight_eq_div_pow]
  refine ⟨?_, by omega, by omega⟩
  unfold UnpackedFloat.Sign.ofBitVec
  by_cases zero : bits >>> 63 = 0 <;> simp [positive, zero]

/-- The operations on floats take a finite float apart into the same parts. -/
theorem unpack_of_finite {x : Float} {b : Binary} (finite : Kind.ofFloat x = .finite b) :
    x.toModel.unpack = b.unpacked := by
  obtain ⟨sign, exponent, fraction⟩ := unpackFields_eq x.toBits
  have largest : @UnpackedFloat.unpackExponent .binary64 x.toBits.toBitVec = -1#_ ↔
      ((x.toBits >>> 52) &&& 0x7ff).toNat = 2047 := by
    rw [← BitVec.toNat_inj, exponent]
    rfl
  have least : @UnpackedFloat.unpackExponent .binary64 x.toBits.toBitVec = 0#_ ↔
      ((x.toBits >>> 52) &&& 0x7ff).toNat = 0 := by
    rw [← BitVec.toNat_inj, exponent]
    rfl
  have empty : @UnpackedFloat.unpackMantissa .binary64 x.toBits.toBitVec = 0#_ ↔
      (x.toBits &&& 0xfffffffffffff).toNat = 0 := by
    rw [← BitVec.toNat_inj, fraction]
    rfl
  have implicit : (1#1 ++ @UnpackedFloat.unpackMantissa .binary64 x.toBits.toBitVec).toNat =
      (x.toBits &&& 0xfffffffffffff).toNat + twoPow 52 := by
    have small := (@UnpackedFloat.unpackMantissa .binary64 x.toBits.toBitVec).isLt
    rw [BitVec.toNat_append, ← Nat.shiftLeft_add_eq_or_of_lt small, fraction, add_comm]
    rfl
  change UnpackedFloat.unpack .binary64 x.toBits.toBitVec = _
  unfold UnpackedFloat.unpack
  unfold Kind.ofFloat at finite
  simp only [largest, least, empty, sign, exponent, fraction, implicit] at finite ⊢
  split at finite
  · split at finite <;> cases finite
  · next other =>
    rw [if_neg other]
    split at finite
    · next subnormal =>
      cases finite
      rw [if_pos subnormal, subnormal]
      rfl
    · next normal =>
      cases finite
      rw [if_neg normal, Binary.unpacked, dif_neg (by simp)]
      rfl

/-- What a float is taken apart into is put together again. -/
theorem ofModel_pack_unpack (x : Float) : Float.ofModel (Float.Model.pack x.toModel.unpack) = x := by
  rw [← Float.toBits_inj, ← UInt64.toBitVec_inj]
  exact UnpackedFloat.pack_unpack_of_valid x.toModel.valid

/-- The float with given parts and a sign. -/
theorem Kind.ofFloat_ofMagnitudeBits {b : Binary} (canonical : b.Canonical) (negative : Bool) :
    Kind.ofFloat (ofMagnitudeBits negative b.magnitudeBits) = .finite (b.withSign negative) := by
  obtain ⟨mantissa, low, high, normal⟩ := canonical
  have bounded : b.magnitudeBits < 2047 * 2 ^ 52 := by
    unfold Binary.magnitudeBits
    omega
  have whole := toBits_ofMagnitudeBits negative bounded.le
  generalize ofMagnitudeBits negative b.magnitudeBits = x at whole ⊢
  obtain ⟨sign, exponent, fraction, fields⟩ := fields_eq x.toBits
  have top : (x.toBits >>> 63).toNat = if negative then 1 else 0 := by
    cases negative <;> simp at whole ⊢ <;> omega
  have rest : ((x.toBits >>> 52) &&& 0x7ff).toNat * 2 ^ 52 + (x.toBits &&& 0xfffffffffffff).toNat =
      (b.exponent + 1074).toNat * 2 ^ 52 + b.mantissa := by
    rw [← Binary.magnitudeBits]
    cases negative <;> simp only [if_true, Bool.false_eq_true, if_false] at whole top <;> omega
  have signed : (x.toBits >>> 63 != 0) = negative := by
    rw [Bool.eq_iff_iff, bne_iff_ne, ne_eq, ← UInt64.toNat_inj, top]
    cases negative <;> simp
  unfold Kind.ofFloat Binary.withSign
  simp only [signed]
  by_cases subnormal : b.mantissa < 2 ^ 52
  · rw [if_neg (by omega), if_pos (by omega)]
    congr 2 <;> omega
  · rw [if_neg (by omega), if_neg (by omega)]
    congr 2
    · rw [twoPow_eq]
      omega
    · omega

/-- The absolute value has no sign. -/
theorem Kind.ofFloat_abs {x : Float} {b : Binary} (finite : Kind.ofFloat x = .finite b) :
    Kind.ofFloat x.abs = .finite (b.withSign false) := by
  obtain ⟨canonical, -⟩ := canonical_of_finite finite
  have parts := Kind.ofFloat_ofMagnitudeBits canonical false
  generalize ofMagnitudeBits false b.magnitudeBits = y at parts
  have same : x.toModel.unpack.abs = y.toModel.unpack := by
    rw [unpack_of_finite finite, unpack_of_finite parts]
    unfold Binary.unpacked Binary.withSign Binary.sign
    by_cases zero : b.mantissa = 0 <;> simp [zero, UnpackedFloat.abs]
  have positive : x.abs = Float.ofModel (Float.Model.pack x.toModel.unpack.abs) := rfl
  rw [positive, same, ofModel_pack_unpack, parts]

/-! ### Integers below `2 ^ 53` -/

/-- An integer of at most fifty-three binary digits is a float. -/
theorem exists_canonical {k : Nat} (small : k < 2 ^ 53) :
    ∃ b : Binary, b.Canonical ∧ b.magnitude = k ∧ nearestBits k 1 = b.magnitudeBits := by
  rcases Nat.eq_zero_or_pos k with rfl | positive
  · have canonical : Binary.Canonical ⟨false, 0, -1074⟩ := ⟨by decide, by decide, by decide, Or.inl rfl⟩
    exact ⟨_, canonical, by simp [Binary.magnitude], rfl⟩
  · have nonzero : k ≠ 0 := positive.ne'
    obtain ⟨low, high⟩ := (Nat.log2_eq_iff nonzero).1 rfl
    have few : k.log2 < 53 := (Nat.log2_lt nonzero).2 small
    obtain ⟨places, split⟩ : ∃ places : Nat, k.log2 + places = 52 := ⟨52 - k.log2, by omega⟩
    have most : k * 2 ^ places < 2 ^ 53 :=
      calc k * 2 ^ places < 2 ^ (k.log2 + 1) * 2 ^ places :=
            Nat.mul_lt_mul_of_pos_right high (by positivity)
        _ = 2 ^ 53 := by rw [← pow_add]; congr 1; omega
    have least : 2 ^ 52 ≤ k * 2 ^ places :=
      calc 2 ^ 52 = 2 ^ k.log2 * 2 ^ places := by rw [← pow_add, split]
        _ ≤ k * 2 ^ places := Nat.mul_le_mul_right _ low
    have canonical : Binary.Canonical ⟨false, k * 2 ^ places, -places⟩ :=
      ⟨most, by simp only; omega, by simp only; omega, Or.inr least⟩
    have magnitude : Binary.magnitude ⟨false, k * 2 ^ places, -places⟩ = k := by
      simp [Binary.magnitude]
    refine ⟨_, canonical, magnitude, nearestBits_of_attracts canonical (by positivity) Nat.one_pos ?_⟩
    rw [Nat.cast_one, div_one, ← magnitude]
    exact Binary.attracts_magnitude

/-- The parts of the float of a natural number, with either sign. -/
theorem Kind.ofFloat_ofRatio {k : Nat} (small : k < 2 ^ 53) :
    ∃ b : Binary, b.magnitude = k ∧
      ∀ negative, Kind.ofFloat (ofRatio negative k 1) = .finite (b.withSign negative) := by
  obtain ⟨b, canonical, magnitude, bits⟩ := exists_canonical small
  refine ⟨b, magnitude, fun negative => ?_⟩
  rw [ofRatio, bits]
  exact Kind.ofFloat_ofMagnitudeBits canonical negative

/-- The float of an integer is the integer. -/
theorem value_ofInt {n : Int} (small : n.natAbs < 2 ^ 53) :
    ∃ b, Kind.ofFloat (ofInt n) = .finite b ∧ b.value = n := by
  obtain ⟨b, magnitude, parts⟩ := Kind.ofFloat_ofRatio small
  refine ⟨_, parts (n < 0), ?_⟩
  change (if decide (n < 0) = true then -b.magnitude else b.magnitude) = n
  rw [magnitude, Nat.cast_natAbs, Int.cast_abs]
  by_cases negative : n < 0
  · rw [if_pos (decide_eq_true negative), abs_of_neg (Int.cast_lt_zero.2 negative), neg_neg]
  · rw [if_neg (by simpa using negative), abs_of_nonneg (Int.cast_nonneg (not_lt.1 negative))]

/-- A float that is an integer is the float of that integer, or the negative zero. -/
theorem eq_ofInt {x : Float} {b : Binary} {n : Int} (finite : Kind.ofFloat x = .finite b)
    (value : b.value = n) : x = ofInt n ∨ n = 0 ∧ x = -0.0 := by
  obtain ⟨canonical, -⟩ := canonical_of_finite finite
  have magnitude : b.magnitude = (n.natAbs : ℚ) := by
    rw [← b.abs_value, value, Nat.cast_natAbs, Int.cast_abs]
  by_cases zero : b.mantissa = 0
  · obtain rfl : n = 0 := by
      rw [Binary.magnitude, zero, Nat.cast_zero, zero_mul] at magnitude
      exact Int.natAbs_eq_zero.1 (Nat.cast_eq_zero.1 magnitude.symm)
    cases negative : b.negative with
    | true => exact Or.inr ⟨rfl, eq_negative_zero finite negative zero⟩
    | false =>
        left
        rw [← ofMagnitudeBits_of_finite finite, Binary.magnitudeBits_of_zero canonical zero, negative]
        rfl
  · have positive : 0 < b.magnitude := by
      have := Nat.pos_of_ne_zero zero
      unfold Binary.magnitude
      positivity
    have sign : decide (n < 0) = b.negative := by
      rw [Binary.value] at value
      cases negative : b.negative with
      | true =>
          rw [negative, if_pos rfl] at value
          rw [decide_eq_true_eq, ← Int.cast_lt_zero (R := ℚ), ← value]
          exact neg_neg_of_pos positive
      | false =>
          rw [negative, if_neg Bool.false_ne_true] at value
          rw [decide_eq_false_iff_not, not_lt, ← Int.cast_nonneg_iff (R := ℚ), ← value]
          exact positive.le
    left
    rw [← ofMagnitudeBits_of_finite finite, ofInt, ofRatio, sign,
      nearestBits_of_attracts canonical zero Nat.one_pos]
    rw [Nat.cast_one, div_one, ← magnitude]
    exact Binary.attracts_magnitude

theorem lt_iff_compare {x y : Float} :
    x < y ↔ x.toModel.unpack.compare y.toModel.unpack = some .lt :=
  decide_eq_true_iff.trans beq_iff_eq

/-- A float is below `2 ^ 53` in magnitude exactly if the number that its parts make up is. -/
theorem abs_lt_iff {x : Float} {b : Binary} (finite : Kind.ofFloat x = .finite b) :
    x.abs < 9007199254740992.0 ↔ b.magnitude < 2 ^ 53 := by
  obtain ⟨⟨mantissa, low, high, normal⟩, -⟩ := canonical_of_finite finite
  have limit : (9007199254740992.0 : Float).toModel.unpack =
      .finite .positive (2 ^ 52) 1 (by decide) := by
    have parts : Kind.ofFloat 9007199254740992.0 = .finite ⟨false, 2 ^ 52, 1⟩ := rfl
    rw [unpack_of_finite parts, Binary.unpacked, dif_neg (by decide)]
    rfl
  rw [lt_iff_compare, limit, unpack_of_finite (Kind.ofFloat_abs finite)]
  by_cases zero : b.mantissa = 0
  · refine iff_of_true ?_ ?_
    · simp [Binary.unpacked, Binary.withSign, Binary.sign, zero, UnpackedFloat.compare]
    · simp [Binary.magnitude, zero]
  · have compared : ((b.withSign false).unpacked.compare
        (.finite .positive (2 ^ 52) 1 (by decide)) = some .lt) ↔ b.exponent < 1 := by
      have ordered : (b.withSign false).unpacked.compare (.finite .positive (2 ^ 52) 1 (by decide)) =
          some ((compare b.exponent 1).then (compare b.mantissa (2 ^ 52))) := by
        simp [Binary.unpacked, Binary.withSign, Binary.sign, zero, UnpackedFloat.compare]
      rw [ordered, Option.some.injEq, Ordering.then_eq_lt, compare_lt_iff_lt, compare_lt_iff_lt,
        compare_eq_iff_eq]
      omega
    have few : (b.mantissa : ℚ) < 2 ^ 53 := by exact_mod_cast mantissa
    rw [compared, Binary.magnitude]
    constructor
    · intro below
      have fraction : (2 : ℚ) ^ b.exponent ≤ 1 := zpow_le_one_of_nonpos₀ one_le_two (by omega)
      exact (mul_le_of_le_one_right (Nat.cast_nonneg _) fraction).trans_lt few
    · contrapose!
      intro above
      have many : (2 : ℚ) ^ 52 ≤ b.mantissa := by exact_mod_cast normal.resolve_left (by omega)
      have even : (2 : ℚ) ^ (1 : Int) ≤ 2 ^ b.exponent := zpow_le_zpow_right₀ one_le_two above
      calc (2 : ℚ) ^ 53 = 2 ^ 52 * 2 ^ (1 : Int) := by norm_num
        _ ≤ (b.mantissa : ℚ) * 2 ^ b.exponent := by gcongr

end PluginLisp.Number
