import PluginLisp.Decimal.Text
import PluginLisp.Proofs.Data.Results
import PluginLisp.Proofs.Number.Checked
import PluginLisp.Proofs.Number.Digits

/-!
The text of a decimal reads back as the decimal. The reader brings what it reads into lowest terms,
which is the form that every operation leaves its result in.

Main result: `ofText_text`.
-/

namespace PluginLisp.Decimal

open Number (IsNumeral Unsigned isDigit digitsValue splitSign signed)

/-! ### Lowest terms -/

/-- In lowest terms: no power of ten is left to cancel. -/
def LowestTerms (d : Decimal) : Prop := d.scale = 0 ∨ d.mantissa % 10 ≠ 0

/-- Tens are cancelled until the scale is zero or the last digit is not. -/
theorem cancelTens_spec (mantissa : Int) (scale : Nat) :
    (cancelTens mantissa scale).2 ≤ scale ∧
      ((cancelTens mantissa scale).2 = 0 ∨ (cancelTens mantissa scale).1 % 10 ≠ 0) := by
  induction scale generalizing mantissa with
  | zero => exact ⟨Nat.le_refl 0, Or.inl rfl⟩
  | succ scale ih =>
      unfold cancelTens
      split
      · obtain ⟨bound, lowest⟩ := ih (mantissa / 10)
        exact ⟨by omega, lowest⟩
      · rename_i stays
        exact ⟨Nat.le_refl _, Or.inr stays⟩

/-- What `make` builds is in lowest terms. -/
theorem lowestTerms_make (mantissa : Int) (scale : UInt32) : (make mantissa scale).LowestTerms := by
  unfold make
  split
  · exact Or.inl rfl
  · rcases cancelTens_spec mantissa scale.toNat with ⟨bound, lowest | lowest⟩
    · refine Or.inl ?_
      simp [lowest]
    · exact Or.inr lowest

theorem LowestTerms.neg {d : Decimal} (lowest : d.LowestTerms) : d.neg.LowestTerms := by
  refine lowest.imp id fun mantissa => ?_
  simp only [Decimal.neg]
  omega

theorem LowestTerms.abs {d : Decimal} (lowest : d.LowestTerms) : d.abs.LowestTerms := by
  refine lowest.imp id fun mantissa => ?_
  simp only [Decimal.abs]
  omega

theorem lowestTerms_of_mul {a b d : Decimal} (product : a.mul b = .ok d) : d.LowestTerms := by
  obtain ⟨scale, -, made⟩ := bind_eq_ok_iff.1 product
  cases made
  exact lowestTerms_make _ _

theorem lowestTerms_of_pow {a d : Decimal} {e : UInt32} (power : a.pow e = .ok d) :
    d.LowestTerms := by
  obtain ⟨scale, -, made⟩ := bind_eq_ok_iff.1 power
  cases made
  exact lowestTerms_make _ _

theorem lowestTerms_of_div {a b d : Decimal} (quotient : a.div b = .ok d) : d.LowestTerms := by
  unfold div at quotient
  split at quotient
  · cases quotient
  · obtain ⟨_, -, rest⟩ := bind_eq_ok_iff.1 quotient
    obtain ⟨_, -, made⟩ := bind_eq_ok_iff.1 rest
    cases made
    exact lowestTerms_make _ _

theorem lowestTerms_of_rem? {a b d : Decimal} (remainder : a.rem? b = some d) : d.LowestTerms := by
  unfold rem? at remainder
  split at remainder
  · cases remainder
  · cases remainder
    exact lowestTerms_make _ _

/-- What is made of a mantissa and places is in lowest terms. -/
theorem lowestTerms_of_ofScaled? {mantissa scale : Int} {d : Decimal}
    (made : ofScaled? mantissa scale = some d) : d.LowestTerms := by
  unfold ofScaled? at made
  split at made
  · cases made
  · split at made
    · cases made
      exact lowestTerms_make _ _
    · cases made
      exact lowestTerms_make _ _

/-- What is read is the mantissa of a numeral over its places. -/
theorem exists_numeral_of_ofText {s : String} {d : Decimal} (reads : ofText s = .ok d) :
    ∃ n places, numeral? s = some n ∧ ofScaled? n.mantissa places = some d := by
  unfold ofText at reads
  split at reads
  · cases reads
  next n split =>
    obtain ⟨places, -, made⟩ := bind_eq_ok_iff.1 reads
    cases scaled : ofScaled? n.mantissa places with
    | none =>
        rw [scaled] at made
        cases made
    | some d' =>
        rw [scaled] at made
        cases made
        exact ⟨n, places, split, scaled⟩

/-- A decimal that is read is in lowest terms. -/
theorem lowestTerms_of_ofText {s : String} {d : Decimal} (reads : ofText s = .ok d) :
    d.LowestTerms := by
  obtain ⟨n, places, -, made⟩ := exists_numeral_of_ofText reads
  exact lowestTerms_of_ofScaled? made

/-- A decimal that a float becomes is in lowest terms. -/
theorem lowestTerms_of_ofFloat? {x : Float} {d : Decimal} (made : ofFloat? x = some d) :
    d.LowestTerms := by
  unfold ofFloat? at made
  split at made
  · exact lowestTerms_of_ofScaled? made
  · cases made

/-- A decimal in lowest terms is what `make` builds from its parts. -/
theorem make_of_lowestTerms {d : Decimal} (lowest : d.LowestTerms) :
    make d.mantissa d.scale = d := by
  unfold make
  by_cases zero : d.mantissa = 0
  · have scale : d.scale = 0 := lowest.resolve_right (by simp [zero])
    rw [if_pos zero, ← zero, ← scale]
  · have kept : cancelTens d.mantissa d.scale.toNat = (d.mantissa, d.scale.toNat) := by
      rcases lowest with scale | mantissa
      · rw [scale]
        rfl
      · cases d.scale.toNat with
        | zero => rfl
        | succ n => rw [cancelTens, if_neg mantissa]
    rw [if_neg zero, kept]
    simp

/-! ### The text -/

/-- The digits of a decimal before and behind its point. -/
structure Parted (digits : List Char) (scale : Nat) (whole fraction : List Char) : Prop where
  nonempty : whole ≠ []
  places : fraction.length = scale
  decimal : ∀ c ∈ whole ++ fraction, isDigit c = true
  value : digitsValue (whole ++ fraction) = digitsValue digits
  placed : placePoint digits scale = if scale = 0 then whole else whole ++ '.' :: fraction

/-- Placing the point parts the digits into whole and fraction. -/
theorem placePoint_parted (digits : List Char) (scale : Nat) (nonempty : digits ≠ [])
    (decimal : ∀ c ∈ digits, isDigit c = true) :
    ∃ whole fraction, Parted digits scale whole fraction := by
  by_cases integer : scale = 0
  · refine ⟨digits, [], nonempty, integer.symm, by simpa using decimal, by simp, ?_⟩
    rw [placePoint, if_pos integer, if_pos integer]
  · generalize padding : List.replicate (scale + 1 - digits.length) '0' ++ digits = padded
    have length : scale < padded.length := by
      rw [← padding, List.length_append, List.length_replicate]
      omega
    refine ⟨padded.take (padded.length - scale), padded.drop (padded.length - scale), ?_, ?_, ?_, ?_, ?_⟩
    · intro empty
      have := congrArg List.length empty
      rw [List.length_take, List.length_nil] at this
      omega
    · rw [List.length_drop]
      omega
    · rw [List.take_append_drop, ← padding]
      intro c mem
      rcases List.mem_append.1 mem with zero | digit
      · exact Number.isDigit_of_mem_zeros zero
      · exact decimal c digit
    · rw [List.take_append_drop, ← padding, Number.digitsValue_zeros_append]
    · simp only [placePoint, if_neg integer, padding]

/-- The text of a decimal behind its sign. -/
theorem Parted.unsigned {digits whole fraction : List Char} {scale : Nat}
    (parted : Parted digits scale whole fraction) : Unsigned (placePoint digits scale) := by
  rw [parted.placed]
  split
  · exact Unsigned.of_digits parted.nonempty fun c mem =>
      parted.decimal c (List.mem_append_left _ mem)
  · exact Unsigned.of_point parted.nonempty parted.decimal

/-- Parted digits are split at the point again. -/
theorem Parted.splitPoint {digits whole fraction : List Char} {scale : Nat}
    (parted : Parted digits scale whole fraction) :
    splitPoint (placePoint digits scale) = (whole, fraction) := by
  have inside : ∀ c ∈ whole, (c != '.') = true := by
    intro c mem
    rw [bne_iff_ne]
    exact Number.ne_of_isDigit (parted.decimal c (List.mem_append_left _ mem)) rfl
  rw [parted.placed, Decimal.splitPoint]
  split
  · rename_i integer
    have fraction : fraction = [] := List.length_eq_zero_iff.1 (parted.places.trans integer)
    obtain ⟨taken, dropped⟩ := Number.allWhile inside
    rw [taken, dropped, fraction]
    rfl
  · obtain ⟨taken, dropped⟩ := Number.splitWhile ('.' :: fraction) inside (by simp)
    rw [taken, dropped]
    rfl

/-- No digit and no point is the mark of an exponent. -/
theorem not_mark {c : Char} (either : isDigit c = true ∨ c = '.') :
    (!(c == 'e' || c == 'E')) = true := by
  rcases either with digit | rfl
  · rw [Bool.not_eq_true', Bool.or_eq_false_iff, beq_eq_false_iff_ne, beq_eq_false_iff_ne]
    exact ⟨Number.ne_of_isDigit digit rfl, Number.ne_of_isDigit digit rfl⟩
  · rfl

/-- There is no exponent behind digits and points. -/
theorem splitExponent?_unsigned {cs : List Char} (unsigned : Unsigned cs) :
    splitExponent? cs = some (cs, 0) := by
  have inside : ∀ c ∈ cs, (!(c == 'e' || c == 'E')) = true := fun c mem =>
    not_mark (unsigned.chars c mem)
  obtain ⟨taken, dropped⟩ := Number.allWhile inside
  simp only [splitExponent?, dropped, taken]

theorem not_blank_of_mem_signed {negative : Bool} {cs : List Char} (unsigned : Unsigned cs) {c : Char}
    (mem : c ∈ (signed negative (String.ofList cs)).toList) : Text.isBlank c = false := by
  rcases unsigned.mem_signed mem with digit | rfl | rfl
  · have := Number.isDigit_iff.1 digit
    simp only [Text.isBlank, Bool.or_eq_false_iff, Bool.and_eq_false_iff, beq_eq_false_iff_ne,
      decide_eq_false_iff_not]
    omega
  · decide
  · decide

theorem stripBoth_eq_self {p : Char → Bool} {cs : List Char} (none : ∀ c ∈ cs, p c = false) :
    Text.stripBoth p cs = cs := by
  have keeps {ds : List Char} (none : ∀ c ∈ ds, p c = false) : ds.dropWhile p = ds := by
    cases ds with
    | nil => rfl
    | cons c ds => simp [none c List.mem_cons_self]
  rw [Text.stripBoth, keeps none, keeps (by simpa using none), List.reverse_reverse]

/-- A numeral is read if its places, which a word has to hold, fit a scale. -/
theorem ofText_of_numeral? {s : String} {n : Numeral} (split : numeral? s = some n)
    (fits : Number.fitsWord (n.fraction.length - n.exponent) = true) :
    ofText s = match ofScaled? n.mantissa (n.fraction.length - n.exponent) with
      | some d => .ok d
      | none => .error (.invalidDecimal s) := by
  unfold ofText
  simp only [split, Number.subWord_ok fits]
  rfl

/-- The text of a decimal is a numeral, and it reads back. -/
theorem ofText_text {d : Decimal} (lowest : d.LowestTerms) :
    ofText d.text = .ok d ∧ IsNumeral d.text := by
  obtain ⟨whole, fraction, parted⟩ :=
    placePoint_parted (Nat.toDigits 10 d.mantissa.natAbs) d.scale.toNat Nat.toDigits_ne_nil
      fun c => Number.isDigit_of_mem_toDigits
  refine ⟨?_, _, _, rfl, parted.unsigned⟩
  have stripped : Text.stripBoth Text.isBlank d.text.toList = d.text.toList :=
    stripBoth_eq_self fun c => not_blank_of_mem_signed parted.unsigned
  have sign : splitSign d.text.toList = (decide (d.mantissa < 0), _) :=
    Number.splitSign_signed _ parted.unsigned
  have digits : ((whole ++ fraction).isEmpty || !(whole ++ fraction).all isDigit) = false := by
    simp only [Bool.or_eq_false_iff, Bool.not_eq_false', List.all_eq_true]
    exact ⟨by simp [parted.nonempty], parted.decimal⟩
  have parts : numeral? d.text = some ⟨decide (d.mantissa < 0), whole, fraction, 0⟩ := by
    unfold numeral?
    simp only [stripped, sign, splitExponent?_unsigned parted.unsigned, parted.splitPoint,
      Numeral.digits, digits, Option.bind_eq_bind, Option.bind_some, Bool.false_eq_true, if_false]
  have mantissa : Numeral.mantissa ⟨decide (d.mantissa < 0), whole, fraction, 0⟩ = d.mantissa := by
    simp only [Numeral.mantissa, Numeral.digits, parted.value, Number.digitsValue_toDigits,
      decide_eq_true_eq]
    split <;> omega
  have bound := d.scale.toNat_lt
  have scaled : ofScaled? d.mantissa ((d.scale.toNat : Int) - 0) = some d := by
    have bounded : ¬ maxScale < ((d.scale.toNat : Int) - 0).natAbs := by
      have : maxScale = 2 ^ 32 - 1 := rfl
      omega
    rw [ofScaled?, if_neg bounded, if_pos (by omega)]
    simpa using make_of_lowestTerms lowest
  have fits : Number.fitsWord ((fraction.length : Int) - 0) = true :=
    Number.fitsWord_iff.2 (by rw [parted.places]; omega)
  rw [ofText_of_numeral? parts fits]
  simp only [mantissa, parted.places, scaled]

end PluginLisp.Decimal
