import PluginLisp.Number.Layout
import PluginLisp.Number.Reading

/-!
Digits as characters and as numbers: the number that a run of digits writes, the digits of a number,
and the texts that consist of digits, a point and a sign.

Main results: `digitsValue_toDigits`, `splitSign_signed`.
-/

namespace PluginLisp.Number

/-- A run of characters that ends where a property does. -/
theorem splitWhile {p : Char → Bool} {cs : List Char} (rest : List Char)
    (inside : ∀ c ∈ cs, p c = true) (stops : ∀ c ∈ rest.head?, p c = false) :
    (cs ++ rest).takeWhile p = cs ∧ (cs ++ rest).dropWhile p = rest := by
  rw [List.takeWhile_append_of_pos inside, List.dropWhile_append_of_pos inside]
  cases rest with
  | nil => simp
  | cons c rest => simp [stops c (by simp)]

theorem allWhile {p : Char → Bool} {cs : List Char} (inside : ∀ c ∈ cs, p c = true) :
    cs.takeWhile p = cs ∧ cs.dropWhile p = [] := by
  have whole := splitWhile [] inside (by simp)
  rwa [List.append_nil] at whole

/-! ### Digits -/

/-- The digits are the ten characters from zero to nine. -/
theorem isDigit_iff {c : Char} : isDigit c = true ↔ 48 ≤ c.toNat ∧ c.toNat ≤ 57 := by
  simp only [isDigit, Bool.and_eq_true, decide_eq_true_eq]
  exact Iff.rfl

theorem ne_of_isDigit {c d : Char} (digit : isDigit c = true) (other : isDigit d = false) : c ≠ d := by
  rintro rfl
  rw [digit] at other
  cases other

/-- A number is written with digits. -/
theorem isDigit_of_mem_toDigits {n : Nat} {c : Char} (mem : c ∈ Nat.toDigits 10 n) :
    isDigit c = true := by
  have digit := Nat.isDigit_of_mem_toDigits (by decide) (by decide) mem
  simp only [Char.isDigit, ge_iff_le, Bool.and_eq_true, decide_eq_true_eq] at digit
  exact isDigit_iff.2 digit

theorem isDigit_digitChar {d : Nat} (small : d < 10) : isDigit (Nat.digitChar d) = true := by
  rw [isDigit_iff, Nat.toNat_digitChar_of_lt_ten small]
  omega

theorem isDigit_of_mem_zeros {n : Nat} {c : Char} (mem : c ∈ List.replicate n '0') :
    isDigit c = true := by
  rw [List.eq_of_mem_replicate mem]
  decide

theorem digitChar_toNat_sub {c : Char} (digit : isDigit c = true) :
    Nat.digitChar (c.toNat - 48) = c := by
  have bounds := isDigit_iff.1 digit
  apply Char.toNat_inj.1
  rw [Nat.toNat_digitChar_of_lt_ten (by omega)]
  omega

@[simp] theorem digitChars_append (ds es : List Nat) :
    digitChars (ds ++ es) = digitChars ds ++ digitChars es := List.map_append

@[simp] theorem length_digitChars (ds : List Nat) : (digitChars ds).length = ds.length :=
  List.length_map _

@[simp] theorem digitChars_zeros (n : Nat) :
    digitChars (List.replicate n 0) = List.replicate n '0' := List.map_replicate

theorem isDigit_of_mem_digitChars {ds : List Nat} (small : ∀ d ∈ ds, d < 10) {c : Char}
    (mem : c ∈ digitChars ds) : isDigit c = true := by
  obtain ⟨d, member, rfl⟩ := List.mem_map.1 mem
  exact isDigit_digitChar (small d member)

theorem digitChars_decimalDigits (n : Nat) : digitChars (decimalDigits n) = Nat.toDigits 10 n := by
  unfold digitChars decimalDigits
  rw [List.map_map]
  conv => rhs; rw [← List.map_id (Nat.toDigits 10 n)]
  exact List.map_congr_left fun c mem => digitChar_toNat_sub (isDigit_of_mem_toDigits mem)

theorem decimalDigits_lt {n d : Nat} (mem : d ∈ decimalDigits n) : d < 10 := by
  obtain ⟨c, member, rfl⟩ := List.mem_map.1 mem
  have := isDigit_iff.1 (isDigit_of_mem_toDigits member)
  omega

/-! ### The number that digits write -/

/-- Digits in a row count by their places. -/
theorem digitsValue_append (cs ds : List Char) :
    digitsValue (cs ++ ds) = tenPow ds.length * digitsValue cs + digitsValue ds :=
  calc digitsValue (cs ++ ds) = Nat.ofDigitChars 10 ds (digitsValue cs) := Nat.ofDigitChars_append 0
    _ = tenPow ds.length * digitsValue cs + digitsValue ds := Nat.ofDigitChars_eq_ofDigitChars_zero

/-- The digits of a number write that number. -/
@[simp] theorem digitsValue_toDigits (n : Nat) : digitsValue (Nat.toDigits 10 n) = n :=
  Nat.ofDigitChars_ten_toDigits

@[simp] theorem digitsValue_zeros (n : Nat) : digitsValue (List.replicate n '0') = 0 :=
  Nat.ofDigitChars_replicate_zero

/-- Zeros in front of digits change nothing. -/
theorem digitsValue_zeros_append (n : Nat) (cs : List Char) :
    digitsValue (List.replicate n '0' ++ cs) = digitsValue cs := by
  simp [digitsValue_append]

/-- Zeros behind digits multiply by powers of ten. -/
theorem digitsValue_append_zeros (cs : List Char) (n : Nat) :
    digitsValue (cs ++ List.replicate n '0') = digitsValue cs * tenPow n := by
  simp [digitsValue_append, Nat.mul_comm]

/-- Only zeros are dropped at the end. -/
theorem dropTrailingZeros_append (ds : List Nat) :
    ∃ zeros, ds = dropTrailingZeros ds ++ List.replicate zeros 0 := by
  refine ⟨(ds.reverse.takeWhile (· == 0)).length, ?_⟩
  have zeros : ds.reverse.takeWhile (· == 0) =
      List.replicate (ds.reverse.takeWhile (· == 0)).length 0 := by
    refine List.eq_replicate_iff.2 ⟨rfl, fun d mem => ?_⟩
    have all := List.all_takeWhile (p := (· == 0)) (l := ds.reverse)
    simpa using List.all_eq_true.1 all d mem
  have split := List.takeWhile_append_dropWhile (p := (· == 0)) (l := ds.reverse)
  calc ds = ds.reverse.reverse := ds.reverse_reverse.symm
    _ = (ds.reverse.takeWhile (· == 0) ++ ds.reverse.dropWhile (· == 0)).reverse := by rw [split]
    _ = dropTrailingZeros ds ++ (ds.reverse.takeWhile (· == 0)).reverse := List.reverse_append
    _ = dropTrailingZeros ds ++ List.replicate (ds.reverse.takeWhile (· == 0)).length 0 := by
        rw [zeros, List.reverse_replicate, List.length_replicate]

/-! ### Unsigned texts -/

/-- The text of a number without its sign: a digit, and then digits and points. -/
structure Unsigned (cs : List Char) : Prop where
  starts : ∃ c rest, cs = c :: rest ∧ isDigit c = true
  chars : ∀ c ∈ cs, isDigit c = true ∨ c = '.'

theorem Unsigned.of_digits {cs : List Char} (nonempty : cs ≠ []) (digits : ∀ c ∈ cs, isDigit c = true) :
    Unsigned cs := by
  obtain ⟨c, rest, rfl⟩ := List.exists_cons_of_ne_nil nonempty
  exact ⟨⟨c, rest, rfl, digits c List.mem_cons_self⟩, fun d mem => Or.inl (digits d mem)⟩

theorem Unsigned.of_point {whole fraction : List Char} (nonempty : whole ≠ [])
    (digits : ∀ c ∈ whole ++ fraction, isDigit c = true) : Unsigned (whole ++ '.' :: fraction) := by
  obtain ⟨c, rest, rfl⟩ := List.exists_cons_of_ne_nil nonempty
  refine ⟨⟨c, rest ++ '.' :: fraction, rfl, digits c (by simp)⟩, fun d mem => ?_⟩
  rcases List.mem_append.1 mem with before | behind
  · exact Or.inl (digits d (List.mem_append_left _ before))
  · rcases List.mem_cons.1 behind with point | after
    · exact Or.inr point
    · exact Or.inl (digits d (List.mem_append_right _ after))

/-- The text of a number: an unsigned text, with a minus in front of it or without. -/
def IsNumeral (text : String) : Prop :=
  ∃ negative cs, text = signed negative (String.ofList cs) ∧ Unsigned cs

theorem Unsigned.mem_signed {negative : Bool} {cs : List Char} (unsigned : Unsigned cs) {c : Char}
    (mem : c ∈ (signed negative (String.ofList cs)).toList) :
    isDigit c = true ∨ c = '.' ∨ c = '-' := by
  cases negative with
  | true =>
      have : c = '-' ∨ c ∈ cs := by simpa [signed] using mem
      rcases this with rfl | inside
      · exact Or.inr (Or.inr rfl)
      · exact (unsigned.chars c inside).imp id Or.inl
  | false =>
      have inside : c ∈ cs := by simpa [signed] using mem
      exact (unsigned.chars c inside).imp id Or.inl

/-- The sign in front of an unsigned text is split off again. -/
theorem splitSign_signed (negative : Bool) {cs : List Char} (unsigned : Unsigned cs) :
    splitSign (signed negative (String.ofList cs)).toList = (negative, cs) := by
  obtain ⟨c, rest, rfl, digit⟩ := unsigned.starts
  have bounds := isDigit_iff.1 digit
  cases negative with
  | true => simp [signed, splitSign]
  | false =>
      simp only [signed, Bool.false_eq_true, if_false, String.toList_ofList]
      unfold splitSign
      split
      · rename_i same
        cases same
        exact absurd bounds (by decide)
      · rename_i same
        cases same
        exact absurd bounds (by decide)
      · rfl

end PluginLisp.Number
