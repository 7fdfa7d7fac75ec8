import PluginLisp.Proofs.Decimal.Value
import PluginLisp.Value.Code

/-!
How decimals are spelled. The reader accepts exactly the spellings of the grammar below whose scale fits
the word, with white space around them, and reads each as the number that it spells
(`readDecimal_iff_spelled`). It refuses any other text, but for the spellings whose places do not even
fit sixty-four bits: there the program breaks off.

Main results: `Spells.reads`, `Overflows.breaks`, `readDecimal_iff_spelled`.
-/

namespace PluginLisp.Decimal

open Number (isDigit digitsValue splitSign readWord? fitsWord)

/-! ### The grammar -/

/-- What stands in front of digits. -/
inductive Sign where
  | absent
  | plus
  | minus
deriving DecidableEq, Repr

namespace Sign

def chars : Sign → List Char
  | absent => []
  | plus => ['+']
  | minus => ['-']

/-- The integer that a sign makes of a natural number. -/
def apply (sign : Sign) (n : Nat) : Int := if sign = minus then -n else n

end Sign

/-- A mark and an integer of sixty-four bits. -/
structure Exponent where
  mark : Char
  sign : Sign
  digits : List Char
  isMark : mark = 'e' ∨ mark = 'E'
  nonempty : digits ≠ []
  decimal : ∀ c ∈ digits, isDigit c = true
  fits : fitsWord (sign.apply (digitsValue digits)) = true

namespace Exponent

def chars (x : Exponent) : List Char := x.mark :: (x.sign.chars ++ x.digits)

def value (x : Exponent) : Int := x.sign.apply (digitsValue x.digits)

end Exponent

/-- A sign, digits with at most one point among, before or behind them, and an exponent. Only the digits
    have to be there. -/
structure Spelling where
  sign : Sign
  whole : List Char
  fraction : Option (List Char)
  exponent : Option Exponent
  nonempty : whole ++ fraction.getD [] ≠ []
  decimal : ∀ c ∈ whole ++ fraction.getD [], isDigit c = true

namespace Spelling

/-- The digits and the point. -/
def number (w : Spelling) : List Char :=
  w.whole ++ w.fraction.elim [] ('.' :: ·)

def chars (w : Spelling) : List Char :=
  w.sign.chars ++ (w.number ++ w.exponent.elim [] Exponent.chars)

/-- All digits as one integer, with the sign. -/
def mantissa (w : Spelling) : Int := w.sign.apply (digitsValue (w.whole ++ w.fraction.getD []))

/-- The number of places behind the point, once the exponent has moved it. -/
def places (w : Spelling) : Int := (w.fraction.getD []).length - w.exponent.elim 0 Exponent.value

/-- The number that is spelled. -/
def value (w : Spelling) : ℚ := w.mantissa * 10 ^ (-w.places)

/-- A text spells a decimal if it does so without the white space around it, and if the places fit. -/
def Spells (w : Spelling) (s : String) : Prop :=
  w.chars = (Text.trim s).toList ∧ w.places.natAbs ≤ maxScale

/-- A text overflows if it spells more places than a word of sixty-four bits counts. -/
def Overflows (w : Spelling) (s : String) : Prop :=
  w.chars = (Text.trim s).toList ∧ 2 ^ 63 ≤ w.places

/-- The parts of a spelling. -/
def numeral (w : Spelling) : Numeral where
  negative := decide (w.sign = .minus)
  whole := w.whole
  fraction := w.fraction.getD []
  exponent := w.exponent.elim 0 Exponent.value

end Spelling

/-! ### Signs and exponents -/

theorem splitSign_chars (sign : Sign) {cs : List Char} (unsigned : ∀ c ∈ cs.head?, c ≠ '+' ∧ c ≠ '-') :
    splitSign (sign.chars ++ cs) = (decide (sign = .minus), cs) := by
  cases sign with
  | plus => rfl
  | minus => rfl
  | absent =>
      cases cs with
      | nil => rfl
      | cons c rest =>
          obtain ⟨notPlus, notMinus⟩ := unsigned c (by simp)
          unfold splitSign
          split
          · rename_i same
            cases same
            exact absurd rfl notMinus
          · rename_i same
            cases same
            exact absurd rfl notPlus
          · rfl

/-- What is split off is a sign. -/
theorem exists_sign (cs : List Char) :
    ∃ sign : Sign, cs = sign.chars ++ (splitSign cs).2 ∧ (splitSign cs).1 = decide (sign = .minus) := by
  unfold splitSign
  split
  · exact ⟨.minus, rfl, rfl⟩
  · exact ⟨.plus, rfl, rfl⟩
  · exact ⟨.absent, rfl, rfl⟩

theorem sign_apply_eq (sign : Sign) (n : Nat) :
    (if decide (sign = .minus) = true then -(n : Int) else n) = sign.apply n := by
  simp [Sign.apply]

theorem not_sign {c : Char} (either : isDigit c = true ∨ c = '.') : c ≠ '+' ∧ c ≠ '-' := by
  rcases either with digit | rfl
  · exact ⟨Number.ne_of_isDigit digit rfl, Number.ne_of_isDigit digit rfl⟩
  · decide

/-- Digits are read as the number that they write. -/
theorem readDigits?_eq_some_iff {cs : List Char} {n : Nat} :
    Number.readDigits? cs = some n ↔
      (cs ≠ [] ∧ ∀ c ∈ cs, isDigit c = true) ∧ digitsValue cs = n := by
  unfold Number.readDigits?
  split
  · rename_i refused
    simp only [Bool.or_eq_true, Bool.not_eq_true', List.isEmpty_iff] at refused
    constructor
    · intro reads
      cases reads
    · rintro ⟨⟨nonempty, digits⟩, -⟩
      rcases refused with empty | stray
      · exact absurd empty nonempty
      · rw [List.all_eq_true.2 digits] at stray
        cases stray
  · rename_i accepted
    have digits : cs ≠ [] ∧ ∀ c ∈ cs, isDigit c = true := by simpa using accepted
    rw [Option.some.injEq]
    exact ⟨fun value => ⟨digits, value⟩, fun both => both.2⟩

theorem readInteger?_eq (cs : List Char) :
    Number.readInteger? cs = (Number.readDigits? (splitSign cs).2).map fun n : Nat =>
      if (splitSign cs).1 = true then -(n : Int) else (n : Int) := by
  unfold Number.readInteger?
  cases digits : Number.readDigits? (splitSign cs).2 <;> simp [digits]

/-- The text of an exponent reads as its value. -/
theorem Exponent.readWord?_chars (x : Exponent) :
    readWord? (x.sign.chars ++ x.digits) = some x.value := by
  have unsigned : ∀ c ∈ x.digits.head?, c ≠ '+' ∧ c ≠ '-' := fun c first =>
    not_sign (Or.inl (x.decimal c (List.mem_of_mem_head? first)))
  rw [readWord?, readInteger?_eq, splitSign_chars _ unsigned,
    readDigits?_eq_some_iff.2 ⟨⟨x.nonempty, x.decimal⟩, rfl⟩, Option.map_some, sign_apply_eq]
  exact Option.filter_eq_some_iff.2 ⟨rfl, x.fits⟩

/-- A text behind a mark that reads as a word is an exponent. -/
theorem exists_exponent {mark : Char} {cs : List Char} {e : Int} (isMark : mark = 'e' ∨ mark = 'E')
    (reads : readWord? cs = some e) : ∃ x : Exponent, x.chars = mark :: cs ∧ x.value = e := by
  obtain ⟨integer, fits⟩ := Option.filter_eq_some_iff.1 reads
  rw [readInteger?_eq] at integer
  obtain ⟨n, digits, value⟩ := Option.map_eq_some_iff.1 integer
  obtain ⟨⟨nonempty, decimal⟩, rfl⟩ := readDigits?_eq_some_iff.1 digits
  obtain ⟨sign, text, negative⟩ := exists_sign cs
  rw [negative, sign_apply_eq] at value
  exact ⟨⟨mark, sign, _, isMark, nonempty, decimal, by rw [value]; exact fits⟩,
    congrArg (mark :: ·) text.symm, value⟩

/-! ### Digits, point and exponent mark -/

namespace Spelling

theorem number_ne_nil (w : Spelling) : w.number ≠ [] := by
  intro empty
  apply w.nonempty
  unfold number at empty
  cases fraction : w.fraction with
  | none => simpa [fraction] using empty
  | some digits => simp [fraction] at empty

/-- A number is spelled with digits and a point. -/
theorem mem_number {w : Spelling} {c : Char} (mem : c ∈ w.number) : isDigit c = true ∨ c = '.' := by
  have decimal := w.decimal
  unfold number at mem
  cases fraction : w.fraction with
  | none =>
      rw [fraction] at mem decimal
      exact Or.inl (decimal c (by simpa using mem))
  | some digits =>
      rw [fraction] at mem decimal
      rcases List.mem_append.1 mem with before | behind
      · exact Or.inl (decimal c (List.mem_append_left _ before))
      · rcases List.mem_cons.1 behind with point | after
        · exact Or.inr point
        · exact Or.inl (decimal c (List.mem_append_right _ after))

theorem splitSign_chars (w : Spelling) :
    splitSign w.chars =
      (decide (w.sign = .minus), w.number ++ w.exponent.elim [] Exponent.chars) := by
  apply Decimal.splitSign_chars
  intro c first
  rw [List.head?_append_of_ne_nil _ w.number_ne_nil] at first
  exact not_sign (mem_number (List.mem_of_mem_head? first))

/-- The first mark is that of the exponent: there is none among digits and points. -/
theorem splitExponent?_chars (w : Spelling) :
    splitExponent? (w.number ++ w.exponent.elim [] Exponent.chars) =
      some (w.number, w.exponent.elim 0 Exponent.value) := by
  have inside : ∀ c ∈ w.number, (!(c == 'e' || c == 'E')) = true := fun c mem =>
    not_mark (mem_number mem)
  cases exponent : w.exponent with
  | none =>
      obtain ⟨taken, dropped⟩ := Number.allWhile inside
      simp only [Option.elim_none, List.append_nil, splitExponent?, taken, dropped]
  | some x =>
      have stops : ∀ c ∈ x.chars.head?, (!(c == 'e' || c == 'E')) = false := by
        intro c first
        obtain rfl : x.mark = c := by simpa [Exponent.chars] using first
        rcases x.isMark with mark | mark <;> rw [mark] <;> decide
      obtain ⟨taken, dropped⟩ := Number.splitWhile x.chars inside stops
      simp only [Option.elim_some, splitExponent?, taken, dropped]
      simp only [Exponent.chars, x.readWord?_chars, Option.map_some]

theorem splitPoint_number (w : Spelling) : splitPoint w.number = (w.whole, w.fraction.getD []) := by
  have inside : ∀ c ∈ w.whole, (c != '.') = true := by
    intro c mem
    rw [bne_iff_ne]
    exact Number.ne_of_isDigit (w.decimal c (List.mem_append_left _ mem)) rfl
  unfold number splitPoint
  cases w.fraction with
  | none =>
      obtain ⟨taken, dropped⟩ := Number.allWhile inside
      simp [taken, dropped]
  | some digits =>
      obtain ⟨taken, dropped⟩ := Number.splitWhile ('.' :: digits) inside (by simp)
      simp [taken, dropped]

/-- The parts of a text that spells a decimal are those of the spelling. -/
theorem numeral?_of_chars {w : Spelling} {s : String} (text : w.chars = (Text.trim s).toList) :
    numeral? s = some w.numeral := by
  have stripped : Text.stripBoth Text.isBlank s.toList = w.chars := by
    rw [text, Text.trim, String.toList_ofList]
  have digits : ((w.whole ++ w.fraction.getD []).isEmpty ||
      !(w.whole ++ w.fraction.getD []).all isDigit) = false := by
    rw [Bool.or_eq_false_iff, Bool.not_eq_false', List.all_eq_true, List.isEmpty_eq_false_iff]
    exact ⟨w.nonempty, w.decimal⟩
  unfold numeral?
  simp only [stripped, w.splitSign_chars, w.splitExponent?_chars, w.splitPoint_number,
    Numeral.digits, digits, Option.bind_eq_bind, Option.bind_some, Bool.false_eq_true, if_false]
  rfl

theorem numeral_mantissa (w : Spelling) : w.numeral.mantissa = w.mantissa := sign_apply_eq _ _

/-- The places of a spelling are no fewer than the least word. -/
theorem places_lower (w : Spelling) : -2 ^ 63 ≤ w.places := by
  unfold places
  cases w.exponent with
  | none =>
      rw [Option.elim_none]
      omega
  | some x =>
      have bounds := Number.fitsWord_iff.1 x.fits
      rw [Option.elim_some, Exponent.value]
      omega

/-- The places of a spelling fit a word unless they overflow. -/
theorem fitsWord_places {w : Spelling} :
    fitsWord (w.numeral.fraction.length - w.numeral.exponent) = true ↔ ¬ 2 ^ 63 ≤ w.places := by
  have lower := w.places_lower
  rw [Number.fitsWord_iff]
  change -2 ^ 63 ≤ w.places ∧ w.places < 2 ^ 63 ↔ _
  omega

/-- A spelling is read as its mantissa over its places, as long as these fit a word. -/
theorem ofText_of_chars {w : Spelling} {s : String} (text : w.chars = (Text.trim s).toList)
    (fits : ¬ 2 ^ 63 ≤ w.places) :
    ofText s = match ofScaled? w.mantissa w.places with
      | some d => .ok d
      | none => .error (.invalidDecimal s) := by
  rw [ofText_of_numeral? (numeral?_of_chars text) (fitsWord_places.2 fits), numeral_mantissa]
  rfl

/-- A text that spells a decimal is read as the one decimal in lowest terms of that value. -/
theorem Spells.reads {w : Spelling} {s : String} (spells : w.Spells s) :
    ∃ d, ofText s = .ok d ∧ d.LowestTerms ∧ d.val = w.value := by
  obtain ⟨d, made, lowest, value⟩ := ofScaled?_of_fits w.mantissa spells.2
  have fits : ¬ 2 ^ 63 ≤ w.places := by
    have bound := spells.2
    have : maxScale = 2 ^ 32 - 1 := rfl
    omega
  exact ⟨d, by rw [ofText_of_chars spells.1 fits, made], lowest, value⟩

/-- A spelling whose places overflow breaks off when it is read. -/
theorem Overflows.breaks {w : Spelling} {s : String} (overflows : w.Overflows s) :
    ofText s = .error (Number.overflowError "subtract") := by
  have large := fitsWord_places.not.2 (not_not.2 overflows.2)
  unfold ofText
  simp only [numeral?_of_chars overflows.1, Number.subWord_error large]
  rfl

end Spelling

/-! ### Everything that is read is spelled -/

theorem exists_exponent_of_splitExponent? {cs number : List Char} {e : Int}
    (split : splitExponent? cs = some (number, e)) :
    ∃ x : Option Exponent, cs = number ++ x.elim [] Exponent.chars ∧ x.elim 0 Exponent.value = e := by
  have whole := List.takeWhile_append_dropWhile (p := fun c => !(c == 'e' || c == 'E')) (l := cs)
  unfold splitExponent? at split
  simp only at split
  split at split
  · rename_i empty
    cases split
    rw [empty] at whole
    exact ⟨none, whole.symm, rfl⟩
  · rename_i mark rest found
    obtain ⟨e, reads, same⟩ := Option.map_eq_some_iff.1 split
    cases same
    have isMark : mark = 'e' ∨ mark = 'E' := by
      have stops := List.head?_dropWhile_not (fun c => !(c == 'e' || c == 'E')) cs
      rw [found] at stops
      simpa [or_iff_not_imp_left] using stops
    obtain ⟨x, text, value⟩ := exists_exponent isMark reads
    rw [found, ← text] at whole
    exact ⟨some x, whole.symm, value⟩

/-- A number with a point has a fraction behind it. -/
theorem exists_fraction (cs : List Char) :
    ∃ fraction : Option (List Char), cs = (splitPoint cs).1 ++ fraction.elim [] ('.' :: ·) ∧
      (splitPoint cs).2 = fraction.getD [] := by
  have whole := List.takeWhile_append_dropWhile (p := (· != '.')) (l := cs)
  unfold splitPoint
  cases found : cs.dropWhile (· != '.') with
  | nil =>
      rw [found] at whole
      exact ⟨none, whole.symm, rfl⟩
  | cons point rest =>
      have isPoint : point = '.' := by
        have stops := List.head?_dropWhile_not (· != '.') cs
        rw [found] at stops
        simpa using stops
      rw [found, isPoint] at whole
      exact ⟨some rest, whole.symm, rfl⟩

/-- A text that has the parts of a numeral is spelled. -/
theorem exists_spelling {s : String} {n : Numeral} (parts : numeral? s = some n) :
    ∃ w : Spelling, w.chars = (Text.trim s).toList := by
  unfold numeral? at parts
  obtain ⟨⟨number, e⟩, split, made⟩ := Option.bind_eq_some_iff.1 parts
  obtain ⟨sign, text, -⟩ := exists_sign (Text.stripBoth Text.isBlank s.toList)
  obtain ⟨exponent, body, -⟩ := exists_exponent_of_splitExponent? split
  change (splitSign (Text.stripBoth Text.isBlank s.toList)).2 = _ at body
  obtain ⟨fraction, digits, places⟩ := exists_fraction number
  simp only [Numeral.digits] at made
  obtain ⟨accepted, -⟩ := Option.ite_none_left_eq_some.1 made
  rw [Bool.not_eq_true, Bool.or_eq_false_iff, Bool.not_eq_false', List.all_eq_true,
    List.isEmpty_eq_false_iff, places] at accepted
  refine ⟨⟨sign, _, fraction, exponent, accepted.1, accepted.2⟩, ?_⟩
  rw [Text.trim, String.toList_ofList, text, body]
  exact congrArg (fun cs => sign.chars ++ (cs ++ exponent.elim [] Exponent.chars)) digits.symm

/-- What is not spelled with places that fit, and does not overflow either, is refused. -/
theorem ofText_of_unspelled {s : String} (unspelled : ¬ ∃ w : Spelling, w.Spells s)
    (counted : ¬ ∃ w : Spelling, w.Overflows s) : ofText s = .error (.invalidDecimal s) := by
  cases parts : numeral? s with
  | none =>
      unfold ofText
      simp only [parts]
  | some n =>
      obtain ⟨w, text⟩ := exists_spelling parts
      have fits : ¬ 2 ^ 63 ≤ w.places := fun large => counted ⟨w, text, large⟩
      have beyond : maxScale < w.places.natAbs := not_le.1 fun small => unspelled ⟨w, text, small⟩
      rw [Spelling.ofText_of_chars text fits, ofScaled?, if_pos beyond]

/-- A decimal is read from exactly the texts that spell one with places that fit its scale, and is the
    number that they spell. On a text whose places do not fit a word, their computation breaks off; any
    other text is reported as it stands. The text of a decimal in lowest terms reads back. -/
theorem readDecimal_iff_spelled (s : String) :
    ((∃ d, readDecimal s = .ok d) ↔ ∃ w : Spelling, w.Spells s) ∧
      (∀ w : Spelling, w.Spells s →
        ∃ d, readDecimal s = .ok d ∧ d.LowestTerms ∧ d.val = w.value) ∧
      (∀ w : Spelling, w.Overflows s → readDecimal s = .error (Number.overflowError "subtract")) ∧
      ((¬ ∃ w : Spelling, w.Spells s) → (¬ ∃ w : Spelling, w.Overflows s) →
        readDecimal s = .error (.invalidDecimal s)) ∧
      ∀ d : Decimal, d.LowestTerms → readDecimal d.text = .ok d := by
  refine ⟨⟨?_, ?_⟩, fun w spells => spells.reads, fun w overflows => overflows.breaks,
    ofText_of_unspelled, fun d lowest => (ofText_text lowest).1⟩
  · rintro ⟨d, reads⟩
    by_contra unspelled
    have refused : readDecimal s ≠ .ok d := by
      by_cases counted : ∃ w : Spelling, w.Overflows s
      · obtain ⟨w, overflows⟩ := counted
        simp [readDecimal, overflows.breaks]
      · simp [readDecimal, ofText_of_unspelled unspelled counted]
    exact refused reads
  · rintro ⟨w, spells⟩
    obtain ⟨d, reads, -⟩ := spells.reads
    exact ⟨d, reads⟩

/-- `-.50E+1`: no digits before the point, and an exponent with a sign. -/
def minusFive : Spelling where
  sign := .minus
  whole := []
  fraction := some ['5', '0']
  exponent := some
    { mark := 'E', sign := .plus, digits := ['1'], isMark := Or.inr rfl, nonempty := by simp,
      decimal := List.all_eq_true.1 rfl, fits := by decide }
  nonempty := by simp
  decimal := List.all_eq_true.1 rfl

/-- A spelling of one in the last place but too many. -/
def tiniest : Spelling where
  sign := .absent
  whole := ['1']
  fraction := none
  exponent := some
    { mark := 'e', sign := .minus, digits := "9223372036854775808".toList, isMark := Or.inl rfl,
      nonempty := by decide, decimal := List.all_eq_true.1 (by decide), fits := by decide }
  nonempty := by simp
  decimal := List.all_eq_true.1 rfl

theorem readDecimal_minusFive :
    minusFive.Spells "\t-.50E+1 " ∧
      (∃ d, readDecimal "\t-.50E+1 " = .ok d ∧ d.LowestTerms ∧ d.val = minusFive.value) ∧
      tiniest.Overflows "1e-9223372036854775808" ∧
      readDecimal "1e-9223372036854775808" = .error (Number.overflowError "subtract") ∧
      (¬ ∃ w : Spelling, w.Spells "-.50E+") ∧ (¬ ∃ w : Spelling, w.Overflows "-.50E+") ∧
      readDecimal "-.50E+" = .error (.invalidDecimal "-.50E+") ∧
      LowestTerms ⟨-5, 0⟩ ∧ readDecimal (text ⟨-5, 0⟩) = .ok ⟨-5, 0⟩ := by
  have spells : minusFive.Spells "\t-.50E+1 " := ⟨by decide +kernel, by decide +kernel⟩
  have overflows : tiniest.Overflows "1e-9223372036854775808" :=
    ⟨by decide +kernel, by decide +kernel⟩
  have none : numeral? "-.50E+" = none := by decide +kernel
  have stray : ∀ w : Spelling, w.chars ≠ (Text.trim "-.50E+").toList := by
    intro w text
    have parts := Spelling.numeral?_of_chars text
    rw [none] at parts
    cases parts
  have unspelled : ¬ ∃ w : Spelling, w.Spells "-.50E+" := fun ⟨w, text, _⟩ => stray w text
  have counted : ¬ ∃ w : Spelling, w.Overflows "-.50E+" := fun ⟨w, text, _⟩ => stray w text
  obtain ⟨-, reads, -, -, readsBack⟩ := readDecimal_iff_spelled "\t-.50E+1 "
  obtain ⟨-, -, breaks, -, -⟩ := readDecimal_iff_spelled "1e-9223372036854775808"
  obtain ⟨-, -, -, refused, -⟩ := readDecimal_iff_spelled "-.50E+"
  exact ⟨spells, reads minusFive spells, overflows, breaks tiniest overflows, unspelled, counted,
    refused unspelled counted, Or.inl rfl, readsBack ⟨-5, 0⟩ (Or.inl rfl)⟩

/-- Beyond the word there is no report: a spelling with too many places for any scale breaks the program
    off. -/
theorem readDecimal_tiniest :
    (¬ ∃ w : Spelling, w.Spells "1e-9223372036854775808") ∧
      readDecimal "1e-9223372036854775808" ≠
        .error (.invalidDecimal "1e-9223372036854775808") := by
  have overflows : tiniest.Overflows "1e-9223372036854775808" :=
    ⟨by decide +kernel, by decide +kernel⟩
  have breaks : readDecimal "1e-9223372036854775808" = .error (Number.overflowError "subtract") :=
    overflows.breaks
  rw [breaks]
  constructor
  · rintro ⟨w, spells⟩
    obtain ⟨d, reads, -⟩ := spells.reads
    rw [readDecimal, reads] at breaks
    cases breaks
  · simp [Number.overflowError]

end PluginLisp.Decimal
