import PluginLisp.Proofs.Number.Shortest

/-!
Printed numbers read back. The text of a finite float is a sign, digits and at most one point, and
reading it rounds a number in the interval of the float.

Main result: `readFloat?_render`.
-/

namespace PluginLisp.Number

/-! ### Reading unsigned texts -/

theorem readFloat?_signed (negative : Bool) {cs : List Char} (unsigned : Unsigned cs) :
    readFloat? (signed negative (String.ofList cs)) = readUnsigned? negative cs := by
  unfold readFloat?
  rw [splitSign_signed negative unsigned]
  obtain ⟨c, rest, rfl, digit⟩ := unsigned.starts
  have bounds := isDigit_iff.1 digit
  have lower : c.toLower = c := by
    unfold Char.toLower
    rw [dif_neg]
    intro upper
    have : 65 ≤ c.toNat := upper.1
    omega
  -- a text that starts with a digit is no name
  have other (name : String) {d : Char} {ds : List Char} (start : name.toList = d :: ds)
      (letter : 57 < d.toNat) : String.ofList ((c :: rest).map Char.toLower) ≠ name := by
    rintro rfl
    simp only [List.map_cons, String.toList_ofList, List.cons.injEq] at start
    rw [← start.1, lower] at letter
    omega
  simp only
  rw [if_neg, if_neg]
  · exact other "nan" rfl (by decide)
  · rintro (inf | infinity)
    · exact other "inf" rfl (by decide) inf
    · exact other "infinity" rfl (by decide) infinity

theorem readUnsigned?_digits (negative : Bool) {cs : List Char} (nonempty : cs ≠ [])
    (digits : ∀ c ∈ cs, isDigit c = true) :
    readUnsigned? negative cs = some (ofDecimal negative (digitsValue cs) 0) := by
  obtain ⟨taken, dropped⟩ := allWhile digits
  unfold readUnsigned?
  simp [taken, dropped, nonempty, readExponent?]

theorem readUnsigned?_point (negative : Bool) {whole fraction : List Char} (nonempty : whole ≠ [])
    (digits : ∀ c ∈ whole ++ fraction, isDigit c = true) :
    readUnsigned? negative (whole ++ '.' :: fraction) =
      some (ofDecimal negative (digitsValue (whole ++ fraction)) (-fraction.length)) := by
  have before : ∀ c ∈ whole, isDigit c = true := fun c mem => digits c (List.mem_append_left _ mem)
  have after : ∀ c ∈ fraction, isDigit c = true := fun c mem => digits c (List.mem_append_right _ mem)
  obtain ⟨taken, dropped⟩ := splitWhile ('.' :: fraction) before (by simp; decide)
  obtain ⟨taken', dropped'⟩ := allWhile after
  unfold readUnsigned?
  simp [taken, dropped, taken', dropped', nonempty, readExponent?]

/-! ### Positional texts -/

/-- The positional text of digits is unsigned, and reads as the number that the digits stand for. -/
theorem Digits.positional_spec (d : Digits) (nonempty : d.digits ≠ [])
    (small : ∀ digit ∈ d.digits, digit < 10) (negative : Bool) :
    Unsigned d.positional ∧ ∃ (mantissa : Nat) (exponent : Int),
      readUnsigned? negative d.positional = some (ofDecimal negative mantissa exponent) ∧
      (mantissa : ℚ) * 10 ^ exponent = d.magnitude := by
  have digits : ∀ c ∈ digitChars d.digits, isDigit c = true := fun c =>
    isDigit_of_mem_digitChars small
  have written : digitChars d.digits ≠ [] := by simpa [digitChars] using nonempty
  have present : d.digits.isEmpty = false := by simpa using nonempty
  unfold Digits.positional Digits.magnitude
  simp only [present, Bool.false_eq_true, if_false]
  split
  · -- the point stands before all digits
    rename_i small
    have all : ∀ c ∈ ['0'] ++ (List.replicate (-d.point).toNat '0' ++ digitChars d.digits),
        isDigit c = true := by
      intro c mem
      simp only [List.mem_append] at mem
      rcases mem with zero | zero | digit
      · exact isDigit_of_mem_zeros (n := 1) zero
      · exact isDigit_of_mem_zeros zero
      · exact digits c digit
    refine ⟨Unsigned.of_point (by simp) all, _, _, readUnsigned?_point negative (by simp) all, ?_⟩
    have value : digitsValue (['0'] ++ (List.replicate (-d.point).toNat '0' ++ digitChars d.digits)) =
        digitsValue (digitChars d.digits) := by
      rw [← List.append_assoc]
      exact digitsValue_zeros_append ((-d.point).toNat + 1) _
    rw [value]
    congr 2
    simp only [List.length_append, List.length_replicate, length_digitChars]
    omega
  · split
    · -- behind all digits
      rename_i large
      have all : ∀ c ∈ digitChars d.digits ++
          List.replicate (d.point - d.digits.length).toNat '0', isDigit c = true := by
        intro c mem
        rcases List.mem_append.1 mem with digit | zero
        · exact digits c digit
        · exact isDigit_of_mem_zeros zero
      refine ⟨Unsigned.of_digits (by simp [written]) all, _, _,
        readUnsigned?_digits negative (by simp [written]) all, ?_⟩
      rw [digitsValue_append_zeros, tenPow_eq]
      push_cast
      rw [← zpow_natCast, Int.toNat_of_nonneg (by omega)]
      simp
    · -- between two of them
      have split : digitChars (d.digits.take d.point.toNat) ++ digitChars (d.digits.drop d.point.toNat) =
          digitChars d.digits := by
        rw [← digitChars_append, List.take_append_drop]
      have all : ∀ c ∈ digitChars (d.digits.take d.point.toNat) ++
          digitChars (d.digits.drop d.point.toNat), isDigit c = true := by
        rw [split]
        exact digits
      have first : digitChars (d.digits.take d.point.toNat) ≠ [] := by
        simp only [digitChars, ne_eq, List.map_eq_nil_iff, List.take_eq_nil_iff, not_or]
        exact ⟨by omega, nonempty⟩
      refine ⟨Unsigned.of_point first all, _, _, readUnsigned?_point negative first all, ?_⟩
      rw [split]
      congr 2
      simp only [length_digitChars, List.length_drop]
      omega

/-! ### Printed floats -/

theorem Binary.magnitudeBits_of_zero {b : Binary} (canonical : b.Canonical) (zero : b.mantissa = 0) :
    b.magnitudeBits = 0 := by
  have exponent : b.exponent = -1074 := canonical.normal.resolve_right (by omega)
  simp [Binary.magnitudeBits, exponent, zero]

/-- The plain text of a finite float is a numeral, and it reads back. -/
theorem readFloat?_display {x : Float} {b : Binary} (finite : Kind.ofFloat x = .finite b) :
    readFloat? (display x) = some x ∧ IsNumeral (display x) := by
  obtain ⟨canonical, -⟩ := canonical_of_finite finite
  have whole := ofMagnitudeBits_of_finite finite
  have shown : display x = signed b.negative (String.ofList (shortestDigits .up b).positional) := by
    simp [display, finite]
  by_cases zero : b.mantissa = 0
  · have digit : ∀ c ∈ ['0'], isDigit c = true := fun c => isDigit_of_mem_zeros (n := 1)
    have unsigned : Unsigned ['0'] := Unsigned.of_digits (by simp) digit
    have digits : (shortestDigits .up b).positional = ['0'] := by
      simp [shortestDigits, zero, Digits.positional]
    rw [digits] at shown
    refine ⟨?_, b.negative, ['0'], shown, unsigned⟩
    rw [shown, readFloat?_signed _ unsigned, readUnsigned?_digits _ (by simp) digit]
    rw [show digitsValue ['0'] = 0 from rfl, ofDecimal_zero,
      ← Binary.magnitudeBits_of_zero canonical zero, whole]
  · obtain ⟨small, attracts⟩ := shortestDigits_attracts .up canonical zero
    have nonempty : (shortestDigits .up b).digits ≠ [] := by
      intro none
      have positive := attracts.pos zero
      simp [Digits.magnitude, none, digitChars, digitsValue] at positive
    obtain ⟨unsigned, mantissa, exponent, read, value⟩ :=
      Digits.positional_spec _ nonempty small b.negative
    refine ⟨?_, _, _, shown, unsigned⟩
    rw [← value] at attracts
    rw [shown, readFloat?_signed _ unsigned, read, ofDecimal_of_attracts _ canonical zero attracts,
      whole]

theorem Binary.natAbs_truncated (b : Binary) : b.truncated.natAbs = b.ratio.1 / b.ratio.2 := by
  unfold Binary.truncated
  simp only
  cases b.negative with
  | true => rw [if_pos rfl, Int.natAbs_neg, Int.natAbs_natCast]
  | false => rw [if_neg Bool.false_ne_true, Int.natAbs_natCast]

theorem Binary.truncated_eq (b : Binary) :
    b.truncated = if b.negative then -(b.truncated.natAbs : Int) else b.truncated.natAbs := by
  rw [b.natAbs_truncated]
  rfl

/-- A finite float with no fractional part is the integer that is left of it. -/
theorem Binary.magnitude_of_isIntegral {b : Binary} (integral : b.isIntegral = true) :
    b.magnitude = b.truncated.natAbs := by
  obtain ⟨positive, ratio⟩ := b.ratio_eq
  have exactly : b.ratio.1 / b.ratio.2 * b.ratio.2 = b.ratio.1 :=
    Nat.div_mul_cancel (Nat.dvd_of_mod_eq_zero (by simpa [Binary.isIntegral] using integral))
  refine mul_right_cancel₀ (b := (b.ratio.2 : ℚ)) (by exact_mod_cast positive.ne') ?_
  rw [← ratio, b.natAbs_truncated]
  exact_mod_cast exactly.symm

/-- The only float with a negative zero for its parts. -/
theorem eq_negative_zero {x : Float} {b : Binary} (finite : Kind.ofFloat x = .finite b)
    (negative : b.negative = true) (zero : b.mantissa = 0) : x = -0.0 := by
  obtain ⟨canonical, -⟩ := canonical_of_finite finite
  rw [← ofMagnitudeBits_of_finite finite, Binary.magnitudeBits_of_zero canonical zero, negative]
  rfl

/-- The text of a finite float as a value is a numeral, and it reads back unless the float is the
    negative zero, which loses its sign. -/
theorem readFloat?_render {x : Float} (finite : isFinite x = true) (nonzero : x ≠ -0.0) :
    readFloat? (render x) = some x ∧ IsNumeral (render x) := by
  obtain ⟨b, parts⟩ : ∃ b, Kind.ofFloat x = .finite b := by
    unfold isFinite at finite
    split at finite
    · rename_i b parts
      exact ⟨b, parts⟩
    · cases finite
  by_cases integer : b.isIntegral = true ∧ b.truncated.natAbs < tenPow 15
  · obtain ⟨canonical, -⟩ := canonical_of_finite parts
    have value := Binary.magnitude_of_isIntegral integer.1
    have truncated := b.truncated_eq
    have digits : ∀ c ∈ Nat.toDigits 10 b.truncated.natAbs, isDigit c = true :=
      fun c => isDigit_of_mem_toDigits
    have unsigned : Unsigned (Nat.toDigits 10 b.truncated.natAbs) :=
      Unsigned.of_digits Nat.toDigits_ne_nil digits
    have zero : b.mantissa = 0 ↔ b.truncated.natAbs = 0 := by
      rw [← Nat.cast_eq_zero (R := ℚ) (n := b.truncated.natAbs), ← value, Binary.magnitude,
        mul_eq_zero, Nat.cast_eq_zero]
      exact ⟨Or.inl, fun either => either.resolve_right (by positivity)⟩
    have sign : decide (b.truncated < 0) = b.negative := by
      by_cases negative : b.negative = true
      · have : b.mantissa ≠ 0 := fun vanishes => nonzero (eq_negative_zero parts negative vanishes)
        rw [if_pos negative] at truncated
        simp only [negative, decide_eq_true_eq]
        omega
      · rw [if_neg negative] at truncated
        simp only [negative, decide_eq_false_iff_not]
        omega
    have shown : render x =
        signed b.negative (String.ofList (Nat.toDigits 10 b.truncated.natAbs)) := by
      simp only [render, parts]
      rw [if_pos (by rw [integer.1, decide_eq_true integer.2]; rfl), integerText, sign,
        Nat.toString_eq_ofList_toDigits]
    refine ⟨?_, _, _, shown, unsigned⟩
    rw [shown, readFloat?_signed _ unsigned, readUnsigned?_digits _ Nat.toDigits_ne_nil digits,
      digitsValue_toDigits, ← ofMagnitudeBits_of_finite parts]
    by_cases vanishes : b.mantissa = 0
    · rw [zero.1 vanishes, ofDecimal_zero, Binary.magnitudeBits_of_zero canonical vanishes]
    · have attracts : b.Attracts (b.truncated.natAbs * 10 ^ (0 : Int)) := by
        rw [zpow_zero, mul_one, ← value]
        exact b.attracts_magnitude
      rw [ofDecimal_of_attracts _ canonical vanishes attracts]
  · have shown : render x = display x := by
      simp only [render, parts]
      rw [if_neg]
      intro both
      rw [Bool.and_eq_true, decide_eq_true_eq] at both
      exact integer both
    rw [shown]
    exact readFloat?_display parts

end PluginLisp.Number
