import Mathlib.Algebra.Group.Int.Defs
import PluginLisp.Number.Checked

/-!
Checked arithmetic by the exact result: an operation on words answers with it as long as the word holds
it, and breaks off otherwise.

Main result: `fitsWord_iff`, and for each operation when it answers and when it breaks off.
-/

namespace PluginLisp.Number

/-- A word holds an integer if it is at least `-2 ^ 63` and below `2 ^ 63`. -/
theorem fitsWord_iff {n : Int} : fitsWord n = true ↔ -2 ^ 63 ≤ n ∧ n < 2 ^ 63 := by
  have bound : wordBound = 2 ^ 63 := rfl
  simp [fitsWord, bound]

section

variable {a b : UInt32}

theorem addUInt32_ok (fits : a.toNat + b.toNat < UInt32.size) :
    ∃ n, addUInt32 a b = .ok n ∧ n.toNat = a.toNat + b.toNat :=
  ⟨a + b, if_pos fits, by rw [UInt32.toNat_add, Nat.mod_eq_of_lt fits]⟩

theorem addUInt32_error (large : ¬ a.toNat + b.toNat < UInt32.size) :
    addUInt32 a b = .error (overflowError "add") := if_neg large

theorem mulUInt32_ok (fits : a.toNat * b.toNat < UInt32.size) :
    ∃ n, mulUInt32 a b = .ok n ∧ n.toNat = a.toNat * b.toNat :=
  ⟨a * b, if_pos fits, by rw [UInt32.toNat_mul, Nat.mod_eq_of_lt fits]⟩

theorem mulUInt32_error (large : ¬ a.toNat * b.toNat < UInt32.size) :
    mulUInt32 a b = .error (overflowError "multiply") := if_neg large

end

/-- The next one of a word that is not the largest. -/
theorem toNat_add_one {a : UInt64} (small : a.toNat + 1 < UInt64.size) :
    (a + 1).toNat = a.toNat + 1 := by
  rw [UInt64.toNat_add, UInt64.toNat_one, Nat.mod_eq_of_lt small]

theorem addUInt64_one {a : UInt64} (small : a.toNat + 1 < UInt64.size) :
    addUInt64 a 1 = .ok (a + 1) := if_pos small

section

variable {a b : Int64}

theorem addInt64_ok (fits : fitsWord (a.toInt + b.toInt) = true) :
    ∃ n, addInt64 a b = .ok n ∧ n.toInt = a.toInt + b.toInt := by
  refine ⟨a + b, if_pos fits, ?_⟩
  have bounds := fitsWord_iff.1 fits
  rw [Int64.toInt_add, Int.bmod_def]
  omega

theorem addInt64_error (large : ¬ fitsWord (a.toInt + b.toInt) = true) :
    addInt64 a b = .error (overflowError "add") := if_neg large

end

section

variable {a b : Int}

theorem subWord_ok (fits : fitsWord (a - b) = true) : subWord a b = .ok (a - b) := if_pos fits

theorem subWord_error (large : ¬ fitsWord (a - b) = true) :
    subWord a b = .error (overflowError "subtract") := if_neg large

end

end PluginLisp.Number
