import PluginLisp.Proofs.Number.Rounding
import PluginLisp.Value.Order

/-!
The order of floats. It is the comparison of floats taken apart, in which the two zeros are one
number, an infinity is beyond every other number, and a NaN has no place. So floats are in no order,
or in exactly one of three.

Main results: `compareFloats_eq_eq_iff`, `Kind.ofFloat_eq_nan_iff`.
-/

namespace PluginLisp

open Float.Model (UnpackedFloat)

/-! ### Comparing -/

/-- Compared the other way round, floats are in the opposite order. -/
theorem compare_unpacked_swap (a b : UnpackedFloat) :
    (a.compare b).map Ordering.swap = b.compare a := by
  have signs (s t : UnpackedFloat.Sign) : (compare s t).swap = compare t s := by
    cases s <;> cases t <;> rfl
  rcases a with ⟨_ | _⟩ | _ | _ | ⟨_ | _, _, _⟩ <;> rcases b with ⟨_ | _⟩ | _ | _ | ⟨_ | _, _, _⟩ <;>
    simp [UnpackedFloat.compare, signs, Ordering.swap_then, Int.compare_swap, Nat.compare_swap]

theorem beq_iff_compare {x y : Float} :
    (x == y) = true ↔ x.toModel.unpack.compare y.toModel.unpack = some .eq := by
  change (x.toModel.unpack.compare y.toModel.unpack == some .eq) = true ↔ _
  exact beq_iff_eq

theorem compareFloats_eq_compare (x y : Float) :
    compareFloats x y = x.toModel.unpack.compare y.toModel.unpack := by
  have less (u v : Float) : u < v ↔ u.toModel.unpack.compare v.toModel.unpack = some .lt :=
    decide_eq_true_iff.trans beq_iff_eq
  unfold compareFloats
  simp only [less, beq_iff_compare, ← compare_unpacked_swap x.toModel.unpack y.toModel.unpack]
  rcases x.toModel.unpack.compare y.toModel.unpack with _ | _ | _ | _
  all_goals rfl

/-- Floats are in the order of equals exactly if they are equal. -/
theorem compareFloats_eq_eq_iff {x y : Float} : compareFloats x y = some .eq ↔ (x == y) = true := by
  rw [compareFloats_eq_compare]
  exact beq_iff_compare.symm

/-- Floats are in no order exactly if one of them is a NaN. -/
theorem compareFloats_eq_none_iff {x y : Float} :
    compareFloats x y = none ↔ x = Float.nan ∨ y = Float.nan := by
  have notANumber (z : Float) : z.toModel.unpack = .notANumber ↔ z = Float.nan := by
    rw [← Float.toBits_inj, ← UInt64.toBitVec_inj]
    exact UnpackedFloat.unpack_eq_notANumber_iff_of_valid z.toModel.valid
  have unordered (a b : UnpackedFloat) :
      a.compare b = none ↔ a = .notANumber ∨ b = .notANumber := by
    rcases a with ⟨_ | _⟩ | _ | _ | ⟨_ | _, _, _⟩ <;>
      rcases b with ⟨_ | _⟩ | _ | _ | ⟨_ | _, _, _⟩ <;> simp [UnpackedFloat.compare]
  rw [compareFloats_eq_compare, unordered, notANumber, notANumber]

namespace Number

/-! ### Putting floats together -/

/-- The bits of a NaN, without the sign, are beyond those of infinity. -/
theorem not_isNaNBits {bits : UInt64} (bounded : bits.toNat % 2 ^ 63 ≤ 2047 * 2 ^ 52) :
    @UnpackedFloat.isNaNBits .binary64 bits.toBitVec = false := by
  rw [UnpackedFloat.isNaNBits, decide_eq_false_iff_not]
  rintro ⟨exponent, fraction⟩
  rw [UnpackedFloat.unpackExponent_def] at exponent
  rw [UnpackedFloat.unpackMantissa_def] at fraction
  have exponent := congrArg BitVec.toNat exponent
  have fraction : bits.toNat % 2 ^ 52 ≠ 0 := by
    intro zero
    apply fraction
    apply BitVec.eq_of_toNat_eq
    simpa using zero
  simp [Nat.shiftRight_eq_div_pow] at exponent
  omega

/-- The parts of a word that is put together from a sign and a magnitude up to infinity. -/
theorem toBits_ofMagnitudeBits (negative : Bool) {bits : Nat} (bounded : bits ≤ 2047 * 2 ^ 52) :
    (ofMagnitudeBits negative bits).toBits.toNat = (if negative then 2 ^ 63 else 0) + bits := by
  have kept (word : UInt64) (small : word.toNat % 2 ^ 63 ≤ 2047 * 2 ^ 52) :
      (Float.ofBits word).toBits = word := by
    apply UInt64.toBitVec_inj.1
    refine (@UnpackedFloat.pack_unpack .binary64 word.toBitVec (by decide)).trans ?_
    rw [not_isNaNBits small, if_neg Bool.false_ne_true]
  unfold ofMagnitudeBits
  cases negative with
  | true =>
    have word : (bits + twoPow 63).toUInt64.toNat = 2 ^ 63 + bits := by
      simp; omega
    rw [if_pos rfl, kept _ (by omega), word, if_pos rfl]
  | false =>
    have word : bits.toUInt64.toNat = bits := by
      simp; omega
    rw [if_neg Bool.false_ne_true, kept _ (by omega), word, if_neg Bool.false_ne_true, zero_add]

/-! ### Infinities and NaNs -/

/-- The infinity of a sign. -/
def infinity (negative : Bool) : Float := ofMagnitudeBits negative (2047 * twoPow 52)

theorem ofMagnitudeBits_eq_infinity_iff {negative sign : Bool} {bits : Nat}
    (bounded : bits ≤ 2047 * 2 ^ 52) :
    ofMagnitudeBits negative bits = infinity sign ↔ negative = sign ∧ bits = 2047 * 2 ^ 52 := by
  constructor
  · intro same
    have whole := congrArg (fun x : Float => x.toBits.toNat) same
    simp only [infinity, twoPow_eq, toBits_ofMagnitudeBits _ bounded,
      toBits_ofMagnitudeBits _ le_rfl] at whole
    cases negative <;> cases sign <;> simp at whole ⊢ <;> omega
  · rintro ⟨rfl, rfl⟩
    rfl

/-- Only an infinity is equal to it. -/
theorem beq_infinity_iff {x : Float} {negative : Bool} :
    (x == infinity negative) = true ↔ x = infinity negative := by
  have other : infinity negative ≠ 0 ∧ infinity negative ≠ -0 ∧ infinity negative ≠ Float.nan := by
    cases negative <;> decide +kernel
  rw [Float.beq_iff_ne_nan_and_eq]
  constructor
  · rintro ⟨-, -, same | ⟨-, zero⟩ | ⟨-, zero⟩⟩
    · exact same
    · exact absurd zero other.2.1
    · exact absurd zero other.1
  · rintro rfl
    exact ⟨other.2.2, other.2.2, Or.inl rfl⟩

/-- What is not finite has the largest exponent, and its fraction tells the rest. -/
theorem Kind.ofFloat_of_not_finite {x : Float} (other : ∀ b, Kind.ofFloat x ≠ .finite b) :
    ((x.toBits >>> 52) &&& 0x7ff).toNat = 2047 ∧
      Kind.ofFloat x = if (x.toBits &&& 0xfffffffffffff).toNat = 0
        then .infinite (x.toBits >>> 63 != 0) else .nan := by
  unfold Kind.ofFloat at other ⊢
  by_cases special : ((x.toBits >>> 52) &&& 0x7ff).toNat = 2047
  · exact ⟨special, if_pos special⟩
  · exfalso
    simp only [special, if_false] at other
    split at other
    · exact other _ rfl
    · exact other _ rfl

theorem Kind.ofFloat_eq_infinite_iff {x : Float} {negative : Bool} :
    Kind.ofFloat x = .infinite negative ↔ x = infinity negative := by
  constructor
  · intro infinite
    obtain ⟨special, kind⟩ := Kind.ofFloat_of_not_finite (x := x) (by simp [infinite])
    obtain ⟨sign, -, -, whole⟩ := fields_eq x.toBits
    rw [infinite] at kind
    split at kind
    next none =>
      cases kind
      rw [← Float.toBits_inj, ← UInt64.toNat_inj, infinity, twoPow_eq,
        toBits_ofMagnitudeBits _ le_rfl, whole, special, none]
      by_cases zero : x.toBits >>> 63 = 0
      · simp [zero]
      · have : (x.toBits >>> 63).toNat ≠ 0 := fun none => zero (UInt64.toNat_inj.1 none)
        simp only [bne_iff_ne, ne_eq, zero, not_false_eq_true, if_true]
        omega
    next => cases kind
  · rintro rfl
    cases negative <;> rfl

theorem Kind.ofFloat_eq_nan_iff {x : Float} : Kind.ofFloat x = .nan ↔ x = Float.nan := by
  constructor
  · intro nan
    obtain ⟨special, kind⟩ := Kind.ofFloat_of_not_finite (x := x) (by simp [nan])
    obtain ⟨sign, -, fraction, whole⟩ := fields_eq x.toBits
    rw [nan] at kind
    split at kind
    next => cases kind
    next some =>
      rw [← Float.toBits_inj, ← UInt64.toBitVec_inj]
      refine x.toModel.valid.eq_packedNaN ?_ ?_
      · rw [UnpackedFloat.unpackExponent_def]
        apply BitVec.eq_of_toNat_eq
        change x.toBits.toNat >>> 52 % 2 ^ 11 = 2047
        rw [Nat.shiftRight_eq_div_pow]
        omega
      · rw [UnpackedFloat.unpackMantissa_def]
        intro none
        have none : x.toBits.toNat >>> 0 % 2 ^ 52 = 0 := congrArg BitVec.toNat none
        rw [Nat.shiftRight_zero] at none
        omega
  · rintro rfl
    rfl

end Number

end PluginLisp
