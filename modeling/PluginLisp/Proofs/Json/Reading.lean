import PluginLisp.Proofs.Json.Encoding

/-!
Reading back the text of a document. A reader that has two steps for each character never runs out of
them, so all that can go wrong is the depth: a document whose numbers are integers that a word holds is
read back exactly if its arrays and objects nest less deep than the limit. The text may be set apart by
white space in any way, so the libraries that interpreters run with keep documents both on one line and
set out over several (`Libraries.standard_keepsJson`).

Main results: `readsAs_write`, `read?_write`, `Libraries.standard_keepsJson`.
-/

namespace PluginLisp.Json

open Number

/-! ### Texts -/

/-- The code of a control character. -/
theorem readUnit?_code {k : Nat} (small : k < 32) (rest : List Char) :
    readUnit? ('0' :: '0' :: Nat.digitChar (k / 16) :: Nat.digitChar (k % 16) :: rest) =
      some (k, rest) := by
  interval_cases k <;> rfl

/-- A character that needs no escape is read as it stands. -/
theorem readText?_plain {c : Char} (quote : c ≠ '\x22') (backslash : c ≠ '\x5c')
    (visible : ¬ c.toNat < 0x20) (steps : Nat) (content rest : List Char) :
    readText? (steps + 1) content (c :: rest) = readText? steps (c :: content) rest := by
  rw [readText?]
  · rw [if_neg visible]
  all_goals grind

/-- Reading takes one step for each character that is written. -/
theorem readText?_escapeChar (c : Char) (steps : Nat) (content rest : List Char) :
    readText? (steps + 1) content (escapeChar c ++ rest) = readText? steps (c :: content) rest := by
  unfold escapeChar
  split
  iterate 7 rfl
  split
  · next control =>
    have code : readCode? ('0' :: '0' :: Nat.digitChar (c.toNat / 16) ::
        Nat.digitChar (c.toNat % 16) :: rest) = some (c, rest) := by
      have low : ¬ (0xdc00 ≤ c.toNat ∧ c.toNat ≤ 0xdfff) := by omega
      have high : ¬ (0xd800 ≤ c.toNat ∧ c.toNat ≤ 0xdbff) := by omega
      rw [readCode?, readUnit?_code control]
      simp only [Option.bind_eq_bind, Option.bind_some, if_neg low, if_neg high, Char.ofNat_toNat]
    simp only [List.cons_append, List.nil_append, readText?, code, Option.bind_eq_bind, Option.bind_some]
  · exact readText?_plain ‹_› ‹_› ‹_› steps content rest

/-- Escaped characters up to a quotation mark are read back. -/
theorem readText?_escaped (cs : List Char) {steps : Nat} (enough : cs.length < steps)
    (content rest : List Char) :
    readText? steps content (cs.flatMap escapeChar ++ '\x22' :: rest) =
      some (String.ofList (content.reverse ++ cs), rest) := by
  induction cs generalizing steps content with
  | nil =>
      obtain ⟨n, rfl⟩ : ∃ n, steps = n + 1 := ⟨steps - 1, by simp at enough; omega⟩
      simp [readText?]
  | cons c cs ih =>
      obtain ⟨n, rfl⟩ : ∃ n, steps = n + 1 := ⟨steps - 1, by simp at enough; omega⟩
      rw [List.flatMap_cons, List.append_assoc, readText?_escapeChar, ih (by simpa using enough)]
      simp

theorem one_le_length_escapeChar (c : Char) : 1 ≤ (escapeChar c).length := by
  unfold escapeChar
  split
  iterate 7 exact Nat.le_add_left ..
  split <;> simp

theorem length_le_length_escaped (cs : List Char) : cs.length ≤ (cs.flatMap escapeChar).length := by
  induction cs with
  | nil => simp
  | cons c cs ih =>
      have := one_le_length_escapeChar c
      rw [List.flatMap_cons, List.length_append, List.length_cons]
      omega

/-- A quoted text, read behind its opening quote. -/
theorem readText?_quote (s : String) (rest : List Char) :
    readText? ((s.toList.flatMap escapeChar ++ '\x22' :: rest).length + 1) []
      (s.toList.flatMap escapeChar ++ '\x22' :: rest) = some (s, rest) := by
  have enough := length_le_length_escaped s.toList
  rw [readText?_escaped s.toList (by rw [List.length_append]; omega)]
  simp

/-! ### Integers -/

/-- A digit more makes no number smaller. -/
theorem le_ofDigitChars (cs : List Char) (n : Nat) : n ≤ Nat.ofDigitChars 10 cs n :=
  calc n ≤ 10 ^ cs.length * n := Nat.le_mul_of_pos_left n (by positivity)
    _ ≤ 10 ^ cs.length * n + Nat.ofDigitChars 10 cs 0 := Nat.le_add_right ..
    _ = Nat.ofDigitChars 10 cs n := Nat.ofDigitChars_eq_ofDigitChars_zero.symm

/-- All digits of a number below `2 ^ 64` fit. -/
theorem addDigits_of_fits (cs : List Char) {significand : Nat} (added : Nat)
    (fits : Nat.ofDigitChars 10 cs significand < 2 ^ 64) :
    addDigits significand added cs = (Nat.ofDigitChars 10 cs significand, added + cs.length, 0) := by
  induction cs generalizing significand added with
  | nil => rfl
  | cons c cs ih =>
      rw [Nat.ofDigitChars_cons] at fits ⊢
      have next : digitFits significand (c.toNat - 48) = true := by
        have := le_ofDigitChars cs (10 * significand + (c.toNat - 48))
        rw [digitFits, decide_eq_true_eq, twoPow_eq, Nat.mul_comm]
        exact this.trans_lt fits
      have rest := ih (added + 1) fits
      rw [Nat.add_right_comm, Nat.add_assoc] at rest
      rw [addDigits, if_pos next, Nat.mul_comm significand]
      exact rest

/-- The digits of a number start with a digit. -/
theorem exists_toDigits (n : Nat) : ∃ c cs, Nat.toDigits 10 n = c :: cs ∧ isDigit c = true := by
  obtain ⟨c, cs, split⟩ := List.exists_cons_of_ne_nil (@Nat.toDigits_ne_nil n 10)
  exact ⟨c, cs, split, isDigit_of_mem_toDigits (split ▸ List.mem_cons_self)⟩

/-- A number is written without zeros in front. -/
theorem head?_toDigits {n : Nat} (nonzero : n ≠ 0) : (Nat.toDigits 10 n).head? ≠ some '0' := by
  induction n using Nat.strong_induction_on with
  | _ n ih =>
    rw [Nat.toDigits_eq_if (by decide)]
    split
    · next small => interval_cases n <;> simp_all
    · next large =>
      rw [List.head?_append_of_ne_nil _ Nat.toDigits_ne_nil]
      exact ih (n / 10) (by omega) (by omega)

/-- What may stand behind a document: the end, white space, or a mark. -/
def Closes (rest : List Char) : Prop :=
  ∀ c ∈ rest.head?, isSpace c = true ∨ c = ',' ∨ c = ']' ∨ c = '\x7d'

/-- A number ends before what may stand behind a document. -/
theorem Closes.ends_number {rest : List Char} (closes : Closes rest) :
    ∀ c ∈ rest.head?, isDigit c = false ∧ c ≠ '.' ∧ c ≠ 'e' ∧ c ≠ 'E' := by
  intro c first
  rcases closes c first with space | rfl | rfl | rfl
  · simp only [isSpace, Bool.or_eq_true, beq_iff_eq] at space
    rcases space with ((rfl | rfl) | rfl) | rfl <;> decide
  all_goals decide

/-- Neither a fraction nor an exponent follows. -/
theorem Closes.goesOn {rest : List Char} (closes : Closes rest) : goesOn rest = false := by
  cases rest with
  | nil => rfl
  | cons c rest =>
      obtain ⟨-, point, small, large⟩ := closes.ends_number c rfl
      simp [Json.goesOn, point, small, large]

/-- The digits of a number that fits are read back, whatever closes it. -/
theorem readNumber?_toDigits {k : Nat} (small : k < 2 ^ 64) {negative : Bool}
    (whole : isWhole negative k = true) {rest : List Char} (closes : Closes rest) :
    readNumber? negative (Nat.toDigits 10 k ++ rest) =
      some (integer (if negative then -(k : Int) else k), rest) := by
  have inside : ∀ c ∈ Nat.toDigits 10 k, isDigit c = true := fun c => isDigit_of_mem_toDigits
  obtain ⟨taken, dropped⟩ := splitWhile rest inside fun c first => (closes.ends_number c first).1
  have fits : Nat.ofDigitChars 10 (Nat.toDigits 10 k) 0 < 2 ^ 64 := by
    rwa [Nat.ofDigitChars_ten_toDigits]
  have digits := addDigits_of_fits _ 0 fits
  rw [Nat.ofDigitChars_ten_toDigits] at digits
  have leading : ¬ ((Nat.toDigits 10 k).isEmpty ||
      ((Nat.toDigits 10 k).head? == some '0' && 1 < (Nat.toDigits 10 k).length)) = true := by
    by_cases zero : k = 0
    · subst zero
      decide
    · simp [Nat.toDigits_ne_nil, head?_toDigits zero]
  unfold readNumber?
  simp only [taken, dropped, digits]
  rw [if_neg leading, closes.goesOn, whole]
  rfl

/-! ### What is read -/

/-- A style that sets the parts of a document apart by white space. -/
structure Style.IsBlank (style : Style) : Prop where
  lineBreak : ∀ level, ∀ c ∈ (style.lineBreak level).toList, isSpace c = true
  afterName : ∃ spaces, style.afterName.toList = ':' :: spaces ∧ ∀ c ∈ spaces, isSpace c = true

theorem compactStyle_isBlank : compactStyle.IsBlank where
  lineBreak _ _ none := nomatch none
  afterName := ⟨[], rfl, fun _ none => nomatch none⟩

theorem toList_pushn (c : Char) (n : Nat) : ("".pushn c n).toList = List.replicate n c := by
  rw [String.pushn_eq_repeat_push]
  induction n with
  | zero => rfl
  | succ n ih => rw [Nat.repeat, String.toList_push, ih, List.replicate_succ']

theorem prettyStyle_isBlank : prettyStyle.IsBlank where
  lineBreak level c member := by
    have spaces : (prettyStyle.lineBreak level).toList = '\n' :: List.replicate (2 * level) ' ' := by
      simp [prettyStyle, toList_pushn]
    rw [spaces, List.mem_cons, List.mem_replicate] at member
    rcases member with rfl | ⟨-, rfl⟩ <;> rfl
  afterName := ⟨[' '], rfl, by simp [isSpace]⟩

/-! ### White space -/

section

variable {spaces cs : List Char} (blank : ∀ c ∈ spaces, isSpace c = true) {steps depth : Nat}
include blank

/-- White space in front of a value is skipped. -/
theorem readValue?_blank : readValue? steps depth (spaces ++ cs) = readValue? steps depth cs := by
  cases steps with
  | zero => rfl
  | succ n => rw [readValue?, readValue?, List.dropWhile_append_of_pos blank]

/-- White space in front of items is skipped. -/
theorem readItems?_blank {items : List Json} :
    readItems? steps depth items (spaces ++ cs) = readItems? steps depth items cs := by
  cases steps with
  | zero => rfl
  | succ n => rw [readItems?, readItems?, readValue?_blank blank]

/-- White space in front of members is skipped. -/
theorem readMembers?_blank {members : Assoc Json} :
    readMembers? steps depth members (spaces ++ cs) = readMembers? steps depth members cs := by
  cases steps with
  | zero => rfl
  | succ n => rw [readMembers?, readMembers?, List.dropWhile_append_of_pos blank]

/-- White space does not keep a value from being closed. -/
theorem Closes.behind_blank (closes : Closes cs) : Closes (spaces ++ cs) := by
  cases spaces with
  | nil => exact closes
  | cons c spaces =>
      rintro _ ⟨⟩
      exact Or.inl (blank c List.mem_cons_self)

end

/-! ### Documents without parts -/

section

variable {steps depth : Nat} {rest : List Char}

theorem isSpace_of_isDigit {c : Char} (digit : isDigit c = true) : isSpace c = false := by
  have differs {d : Char} (other : isDigit d = false) : (c == d) = false := by
    simpa using ne_of_isDigit digit other
  rw [isSpace, differs rfl, differs rfl, differs rfl, differs rfl]
  rfl

/-- Only white space is skipped. -/
theorem dropWhile_visible {c : Char} (visible : isSpace c = false) (cs : List Char) :
    (c :: cs).dropWhile isSpace = c :: cs := by
  rw [List.dropWhile_cons, visible]
  rfl

theorem readValue?_digit {c : Char} (digit : isDigit c = true) (cs : List Char) :
    readValue? (steps + 1) depth (c :: cs) =
      readNumber? false (c :: cs) := by
  have space : (c :: cs).dropWhile isSpace = c :: cs := dropWhile_visible (isSpace_of_isDigit digit) cs
  rw [readValue?, space]
  split
  iterate 7
    next same => exact absurd digit (by rw [(List.cons.inj same).1]; decide)
  · rfl

/-- An integer is read back. -/
theorem readValue?_integer {n : Int} (fits : -2 ^ 63 ≤ n ∧ n < 2 ^ 64) (closes : Closes rest) :
    readValue? (steps + 1) depth ((integerText n).toList ++ rest) = some (integer n, rest) := by
  have small : n.natAbs < 2 ^ 64 := by omega
  by_cases negative : n < 0
  · have written : (integerText n).toList ++ rest = '-' :: (Nat.toDigits 10 n.natAbs ++ rest) := by
      simp [integerText, signed, negative]
    have whole : isWhole true n.natAbs = true := by
      simp only [isWhole, twoPow_eq, Bool.not_true, Bool.false_or, Bool.and_eq_true]
      exact ⟨decide_eq_true (by omega), decide_eq_true (by omega)⟩
    have same : -(n.natAbs : Int) = n := by omega
    have number := readNumber?_toDigits small whole closes
    rw [if_pos rfl, same] at number
    rw [written, readValue?]
    simp only [dropWhile_visible (c := '-') rfl, number]
  · have written : (integerText n).toList ++ rest = Nat.toDigits 10 n.natAbs ++ rest := by
      simp [integerText, signed, negative]
    have same : (n.natAbs : Int) = n := by omega
    have whole : isWhole false n.natAbs = true := rfl
    have number := readNumber?_toDigits small whole closes
    rw [if_neg Bool.false_ne_true, same] at number
    obtain ⟨c, digits, split, digit⟩ := exists_toDigits n.natAbs
    rw [split] at number
    rw [written, split, List.cons_append, readValue?_digit digit, ← List.cons_append, number]

/-- A quoted text is read back. -/
theorem readValue?_text (s : String) :
    readValue? (steps + 1) depth ((quote s).toList ++ rest) = some (text s, rest) := by
  have written : (quote s).toList ++ rest =
      '\x22' :: (s.toList.flatMap escapeChar ++ '\x22' :: rest) := by
    simp [quote]
  rw [written, readValue?]
  simp only [dropWhile_visible (c := '\x22') rfl, readText?_quote, Option.bind_eq_bind,
    Option.bind_some, pure]

/-! ### Arrays and objects -/

/-- A text that starts with something that is neither white space nor the end of an array. -/
def Opens (cs : List Char) : Prop := ∃ c more, cs = c :: more ∧ isSpace c = false ∧ c ≠ ']'

theorem Opens.append {cs : List Char} (opens : Opens cs) (ds : List Char) : Opens (cs ++ ds) := by
  obtain ⟨c, more, rfl, space, closing⟩ := opens
  exact ⟨c, more ++ ds, rfl, space, closing⟩

/-- A quotation mark opens a value. -/
theorem opens_quote (s : String) : Opens (quote s).toList :=
  ⟨'\x22', s.toList.flatMap escapeChar ++ ['\x22'], by simp [quote], by decide, by decide⟩

/-- White space in front of a mark is skipped, and the mark is not. -/
theorem dropWhile_mark {spaces : List Char} (blank : ∀ c ∈ spaces, isSpace c = true) {mark : Char}
    (visible : isSpace mark = false) : (spaces ++ mark :: rest).dropWhile isSpace = mark :: rest := by
  rw [List.dropWhile_append_of_pos blank, dropWhile_visible visible]

section

variable {spaces cs more : List Char} {item : Json} {items : List Json} {members : Assoc Json}

/-- A bracket opens an array, unless it is one too deep. -/
theorem readValue?_array (blank : ∀ c ∈ spaces, isSpace c = true) (opens : Opens cs) :
    readValue? (steps + 1) depth ('[' :: (spaces ++ cs)) =
      if depthLimit ≤ depth + 1 then none else readItems? steps (depth + 1) [] cs := by
  obtain ⟨c, more, rfl, space, closing⟩ := opens
  have dropped : (spaces ++ c :: more).dropWhile isSpace = c :: more := dropWhile_mark blank space
  rw [readValue?]
  simp only [dropWhile_visible (c := '[') rfl, dropped]
  split
  · rfl
  · split
    · next same => exact absurd (List.cons.inj same).1 closing
    · rfl

/-- A brace opens an object, unless it is one too deep. -/
theorem readValue?_object (blank : ∀ c ∈ spaces, isSpace c = true) :
    readValue? (steps + 1) depth ('\x7b' :: (spaces ++ '\x22' :: cs)) =
      if depthLimit ≤ depth + 1 then none else readMembers? steps (depth + 1) [] ('\x22' :: cs) := by
  have dropped : (spaces ++ '\x22' :: cs).dropWhile isSpace = '\x22' :: cs := dropWhile_mark blank rfl
  rw [readValue?]
  simp only [dropWhile_visible (c := '\x7b') rfl, dropped]
  rfl

variable {name : String}

/-- A member is read up to its value, and then on from there. -/
theorem readMembers?_quote :
    readMembers? (steps + 1) depth members ((quote name).toList ++ ':' :: cs) =
      (readValue? steps depth cs).bind fun (value, rest) =>
        match rest.dropWhile isSpace with
        | ',' :: rest => readMembers? steps depth (members.put name value) rest
        | '\x7d' :: rest => some (object (members.put name value), rest)
        | _ => none := by
  have written : (quote name).toList ++ ':' :: cs =
      '\x22' :: (name.toList.flatMap escapeChar ++ '\x22' :: ':' :: cs) := by
    simp [quote]
  have read := readText?_quote name (':' :: cs)
  rw [written, readMembers?]
  simp only [List.dropWhile_cons, isSpace]
  simp only [Char.reduceBEq, Bool.or_self, Bool.false_eq_true, if_false, read, Option.bind_eq_bind,
    Option.bind_some]
  rfl

end

/-- A text that is read as a document if the document, which nests `nesting` deep, does not reach the
    limit, and is refused else. -/
def ReadsAs (steps depth : Nat) (cs : List Char) (j : Json) (nesting : Nat) : Prop :=
  ∀ rest, Closes rest → readValue? steps depth (cs ++ rest) =
    if depth + nesting < depthLimit then some (j, rest) else none

/-- A comma or a closing bracket closes the value before it. -/
theorem closes_mark {mark : Char} (marks : mark = ',' ∨ mark = ']' ∨ mark = '\x7d') (rest : List Char) :
    Closes (mark :: rest) := by
  rintro _ ⟨⟩
  exact Or.inr marks

namespace ReadsAs

variable {spaces cs more : List Char} {item value : Json} {items : List Json} {members : Assoc Json}
  {name : String} {nesting : Nat}

/-- White space in front of a document is skipped. -/
theorem behind_blank (blank : ∀ c ∈ spaces, isSpace c = true)
    (reads : ReadsAs steps depth cs value nesting) :
    ReadsAs steps depth (spaces ++ cs) value nesting := by
  intro rest closes
  rw [List.append_assoc, readValue?_blank blank, reads rest closes]

/-- The last item of an array. -/
theorem last_item (reads : ReadsAs steps depth cs item nesting) (blank : ∀ c ∈ spaces, isSpace c = true) :
    readItems? (steps + 1) depth items (cs ++ (spaces ++ ']' :: rest)) =
      if depth + nesting < depthLimit then some (array (item :: items).reverse, rest) else none := by
  have first := reads _ ((closes_mark (Or.inr (Or.inl rfl)) rest).behind_blank blank)
  rw [readItems?, first]
  split
  · simp only [Option.bind_eq_bind, Option.bind_some,
      dropWhile_mark blank (rfl : isSpace ']' = false), pure]
  · rfl

/-- An item with others behind it. -/
theorem next_item (reads : ReadsAs steps depth cs item nesting) :
    readItems? (steps + 1) depth items (cs ++ ',' :: more) =
      if depth + nesting < depthLimit then readItems? steps depth (item :: items) more else none := by
  rw [readItems?, reads _ (closes_mark (Or.inl rfl) more)]
  split <;> rfl

/-- The last member of an object. -/
theorem last_member (reads : ReadsAs steps depth cs value nesting)
    (blank : ∀ c ∈ spaces, isSpace c = true) :
    readMembers? (steps + 1) depth members
        ((quote name).toList ++ ':' :: (cs ++ (spaces ++ '\x7d' :: rest))) =
      if depth + nesting < depthLimit then some (object (members.put name value), rest) else none := by
  have first := reads _ ((closes_mark (Or.inr (Or.inr rfl)) rest).behind_blank blank)
  rw [readMembers?_quote, first]
  split
  · simp only [Option.bind_some, dropWhile_mark blank (by decide : isSpace '\x7d' = false)]
  · rfl

/-- A member with others behind it. -/
theorem next_member (reads : ReadsAs steps depth cs value nesting) :
    readMembers? (steps + 1) depth members ((quote name).toList ++ ':' :: (cs ++ ',' :: more)) =
      if depth + nesting < depthLimit then readMembers? steps depth (members.put name value) more
        else none := by
  rw [readMembers?_quote, reads _ (closes_mark (Or.inl rfl) more)]
  split <;> rfl

end ReadsAs

end

/-! ### Reading back what is written -/

/-- Items or members as they stand between the brackets. -/
def joined (style : Style) (level : Nat) (texts : List String) : List Char :=
  (("," ++ style.lineBreak level).intercalate texts).toList

section

variable {style : Style} {level : Nat}

theorem joined_singleton (t : String) : joined style level [t] = t.toList := by simp [joined]

theorem joined_cons_cons (t u : String) (texts : List String) :
    joined style level (t :: u :: texts) =
      t.toList ++ ',' :: ((style.lineBreak level).toList ++ joined style level (u :: texts)) := by
  simp [joined, String.intercalate_cons_cons]

/-- Items in brackets are written with line breaks around them. -/
theorem toList_bracketed (left right t : String) (texts : List String) :
    (bracketed style level left right (t :: texts)).toList =
      left.toList ++ ((style.lineBreak (level + 1)).toList ++ (joined style (level + 1) (t :: texts) ++
        ((style.lineBreak level).toList ++ right.toList))) := by
  simp [bracketed, joined]

/-- Nothing is written between the brackets of an empty document. -/
theorem toList_write_nil :
    (write style level (array [])).toList = ['[', ']'] ∧
      (write style level (object [])).toList = ['\x7b', '\x7d'] := by
  simp [write, writeAll, writeMembers, bracketed]

/-- An array with items is written as its items in brackets. -/
theorem toList_write_array (j : Json) (items : List Json) :
    (write style level (array (j :: items))).toList =
      '[' :: ((style.lineBreak (level + 1)).toList ++
        (joined style (level + 1) (writeAll style (level + 1) (j :: items)) ++
          ((style.lineBreak level).toList ++ [']']))) := by
  rw [write, writeAll, toList_bracketed]
  rfl

/-- An object with members is written as its members in braces. -/
theorem toList_write_object (member : String × Json) (members : List (String × Json)) :
    (write style level (object (member :: members))).toList =
      '\x7b' :: ((style.lineBreak (level + 1)).toList ++
        (joined style (level + 1) (writeMembers style (level + 1) (member :: members)) ++
          ((style.lineBreak level).toList ++ ['\x7d']))) := by
  rw [write, writeMembers, toList_bracketed]
  rfl

theorem opens_integerText (n : Int) : Opens (integerText n).toList := by
  by_cases negative : n < 0
  · exact ⟨'-', Nat.toDigits 10 n.natAbs, by simp [integerText, signed, negative], by decide, by decide⟩
  · have written : (integerText n).toList = Nat.toDigits 10 n.natAbs := by
      simp [integerText, signed, negative]
    obtain ⟨c, digits, split, digit⟩ := exists_toDigits n.natAbs
    exact ⟨c, digits, written.trans split, isSpace_of_isDigit digit, ne_of_isDigit digit rfl⟩

/-- A document starts neither with white space nor with the end of an array. -/
theorem opens_write (j : Json) (exact : j.Exact) : Opens (write style level j).toList := by
  cases j with
  | null => exact ⟨'n', ['u', 'l', 'l'], by rw [write]; rfl, by decide, by decide⟩
  | boolean b =>
      cases b with
      | false => exact ⟨'f', ['a', 'l', 's', 'e'], by rw [write]; rfl, by decide, by decide⟩
      | true => exact ⟨'t', ['r', 'u', 'e'], by rw [write]; rfl, by decide, by decide⟩
  | integer n =>
      rw [write]
      exact opens_integerText n
  | float x => exact exact.elim
  | text s =>
      rw [write]
      exact opens_quote s
  | array items =>
      cases items with
      | nil => exact ⟨'[', [']'], toList_write_nil.1, by decide, by decide⟩
      | cons j items => exact ⟨'[', _, toList_write_array j items, by decide, by decide⟩
  | object members =>
      cases members with
      | nil => exact ⟨'\x7b', ['\x7d'], toList_write_nil.2, by decide, by decide⟩
      | cons member members => exact ⟨'\x7b', _, toList_write_object member members, by decide, by decide⟩

end

/-- There is a step for the first character. -/
theorem Opens.exists_steps {cs : List Char} (opens : Opens cs) {steps : Nat}
    (enough : 2 * cs.length ≤ steps) : ∃ n, steps = n + 1 ∧ 2 * cs.length ≤ n + 1 := by
  obtain ⟨c, more, rfl, -, -⟩ := opens
  rw [List.length_cons] at enough
  exact ⟨steps - 1, by omega, by rw [List.length_cons]; omega⟩

theorem opens_joined {style : Style} {level : Nat} {t : String} (opens : Opens t.toList)
    (texts : List String) : Opens (joined style level (t :: texts)) := by
  cases texts with
  | nil =>
      rw [joined_singleton]
      exact opens
  | cons u texts =>
      rw [joined_cons_cons]
      exact opens.append _

theorem exists_joined_members {style : Style} {level : Nat} (member : String × Json)
    (members : List (String × Json)) :
    ∃ more, joined style level (writeMembers style level (member :: members)) = '\x22' :: more := by
  have starts : ∃ more, (quote member.1 ++ style.afterName ++ write style level member.2).toList =
      '\x22' :: more := by
    simp [quote]
  obtain ⟨more, starts⟩ := starts
  cases members with
  | nil => exact ⟨more, by rw [writeMembers, writeMembers, joined_singleton, starts]⟩
  | cons other members =>
      exact ⟨_, by rw [writeMembers, writeMembers, joined_cons_cons, starts, List.cons_append]⟩

variable {style : Style} (blank : style.IsBlank)
include blank

/-- A member as it is written. -/
theorem exists_toList_member (name : String) (t : String) :
    ∃ spaces, (∀ c ∈ spaces, isSpace c = true) ∧
      (quote name ++ style.afterName ++ t).toList =
        (quote name).toList ++ ':' :: (spaces ++ t.toList) := by
  obtain ⟨spaces, after, gap⟩ := blank.afterName
  exact ⟨spaces, gap, by simp [after]⟩

omit blank in
/-- Two parts that must both stay under the limit. -/
theorem ite_and_lt_max {α : Type} {depth m n limit : Nat} (o : Option α) :
    (if depth + m < limit then if depth + n < limit then o else none else none) =
      if depth + max m n < limit then o else none := by
  simp only [← ite_and, ← Nat.add_max_add_left, max_lt_iff]

mutual

/-- A document is read back if its arrays and objects nest no deeper than the limit, and refused if they
    do. Two steps for each character are enough. -/
theorem readsAs_write : ∀ j : Json, j.Exact → ∀ {level steps depth : Nat}, depth < depthLimit →
    2 * (write style level j).toList.length ≤ steps →
      ReadsAs steps depth (write style level j).toList j j.nesting
  | null => by
      intro exact level steps depth within enough rest closes
      obtain ⟨n, rfl, -⟩ := (opens_write null exact).exists_steps enough
      have fits : depth + nesting null < depthLimit := within
      rw [if_pos fits, write]
      rfl
  | boolean b => by
      intro exact level steps depth within enough rest closes
      obtain ⟨n, rfl, -⟩ := (opens_write (boolean b) exact).exists_steps enough
      have fits : depth + nesting (boolean b) < depthLimit := within
      rw [if_pos fits, write]
      cases b <;> rfl
  | integer i => by
      intro small level steps depth within enough rest closes
      obtain ⟨n, rfl, -⟩ := (opens_write (integer i) small).exists_steps enough
      have fits : depth + nesting (integer i) < depthLimit := within
      rw [if_pos fits, write]
      exact readValue?_integer small closes
  | float _ => fun inexact => inexact.elim
  | text s => by
      intro exact level steps depth within enough rest closes
      obtain ⟨n, rfl, -⟩ := (opens_write (text s) exact).exists_steps enough
      have fits : depth + nesting (text s) < depthLimit := within
      rw [if_pos fits, write]
      exact readValue?_text s
  | array [] => by
      intro exact level steps depth within enough rest closes
      obtain ⟨n, rfl, -⟩ := (opens_write (array []) exact).exists_steps enough
      rw [toList_write_nil.1, nesting, nestingAll]
      by_cases deep : depthLimit ≤ depth + 1
      · rw [if_neg (by omega)]
        exact if_pos deep
      · rw [if_pos (by omega)]
        exact if_neg deep
  | array (j :: items) => by
      intro exact level steps depth within enough rest closes
      obtain ⟨n, rfl, enough⟩ := (opens_write (array (j :: items)) exact).exists_steps enough
      rw [toList_write_array] at enough ⊢
      simp only [List.length_cons, List.length_append, List.length_nil] at enough
      have opens : Opens (joined style (level + 1) (writeAll style (level + 1) (j :: items))) :=
        opens_joined (opens_write j exact.1) _
      rw [List.cons_append, List.append_assoc, List.append_assoc, List.append_assoc,
        readValue?_array (blank.lineBreak _) (opens.append _)]
      by_cases deep : depthLimit ≤ depth + 1
      · rw [if_pos deep, nesting, if_neg (by omega)]
      · rw [if_neg deep, List.singleton_append,
          readItems?_write (j :: items) (by simp) exact (not_le.1 deep) (blank.lineBreak level)
            (by omega), nesting, Nat.add_assoc, Nat.add_comm 1]
        rfl
  | object [] => by
      intro exact level steps depth within enough rest closes
      obtain ⟨n, rfl, -⟩ := (opens_write (object []) exact).exists_steps enough
      rw [toList_write_nil.2, nesting, nestingMembers]
      by_cases deep : depthLimit ≤ depth + 1
      · rw [if_neg (by omega)]
        exact if_pos deep
      · rw [if_pos (by omega)]
        exact if_neg deep
  | object (member :: members) => by
      intro exact level steps depth within enough rest closes
      obtain ⟨n, rfl, enough⟩ := (opens_write (object (member :: members)) exact).exists_steps enough
      rw [toList_write_object] at enough ⊢
      simp only [List.length_cons, List.length_append, List.length_nil] at enough
      obtain ⟨more, starts⟩ := @exists_joined_members style (level + 1) member members
      rw [List.cons_append, List.append_assoc, List.append_assoc, List.append_assoc, starts,
        List.cons_append, readValue?_object (blank.lineBreak _), ← List.cons_append, ← starts]
      by_cases deep : depthLimit ≤ depth + 1
      · rw [if_pos deep, nesting, if_neg (by omega)]
      · rw [if_neg deep, List.singleton_append,
          readMembers?_write (member :: members) (by simp) exact.2 (not_le.1 deep) (blank.lineBreak level)
            exact.1 (by omega),
          nesting, Nat.add_assoc, Nat.add_comm 1]
        rfl

/-- Items that are written are read back, with those read before. -/
theorem readItems?_write : ∀ items : List Json, items ≠ [] → Json.AllExact items →
    ∀ {level steps depth : Nat} {before : List Json} {spaces rest : List Char}, depth < depthLimit →
      (∀ c ∈ spaces, isSpace c = true) →
        2 * (joined style level (writeAll style level items)).length < steps →
          readItems? steps depth before
              (joined style level (writeAll style level items) ++ (spaces ++ ']' :: rest)) =
            if depth + nestingAll items < depthLimit
              then some (array (before.reverse ++ items), rest) else none
  | [], nonempty => (nonempty rfl).elim
  | [j], _ => by
      intro exact level steps depth before spaces rest within gap enough
      obtain ⟨n, rfl⟩ : ∃ n, steps = n + 1 := ⟨steps - 1, by omega⟩
      rw [writeAll, writeAll, joined_singleton] at enough ⊢
      rw [(readsAs_write j exact.1 within (Nat.lt_succ_iff.1 enough)).last_item gap, nestingAll,
        nestingAll, Nat.max_zero, List.reverse_cons]
  | j :: i :: items, _ => by
      intro exact level steps depth before spaces rest within gap enough
      obtain ⟨n, rfl⟩ : ∃ n, steps = n + 1 := ⟨steps - 1, by omega⟩
      rw [writeAll, writeAll, joined_cons_cons, ← writeAll] at enough ⊢
      simp only [List.length_cons, List.length_append] at enough
      have item : ReadsAs n depth (write style level j).toList j j.nesting :=
        readsAs_write j exact.1 within (by omega)
      rw [List.append_assoc, List.cons_append, List.append_assoc, item.next_item,
        readItems?_blank (blank.lineBreak _),
        readItems?_write (i :: items) (by simp) exact.2 within gap (by omega), ite_and_lt_max]
      rw [List.reverse_cons, List.append_assoc]
      rfl

/-- Members that are written are read back, with those read before. -/
theorem readMembers?_write : ∀ members : List (String × Json), members ≠ [] →
    Json.MembersExact members → ∀ {level steps depth : Nat} {before : Assoc Json}
      {spaces rest : List Char}, depth < depthLimit → (∀ c ∈ spaces, isSpace c = true) →
        Assoc.Sorted (before ++ members) →
          2 * (joined style level (writeMembers style level members)).length < steps →
            readMembers? steps depth before
                (joined style level (writeMembers style level members) ++ (spaces ++ '\x7d' :: rest)) =
              if depth + nestingMembers members < depthLimit
                then some (object (before ++ members), rest) else none
  | [], nonempty => (nonempty rfl).elim
  | [(name, j)], _ => by
      intro exact level steps depth before spaces rest within gap sorted enough
      obtain ⟨n, rfl⟩ : ∃ n, steps = n + 1 := ⟨steps - 1, by omega⟩
      obtain ⟨after, afterBlank, written⟩ := exists_toList_member blank name (write style level j)
      rw [writeMembers, writeMembers, joined_singleton, written] at enough ⊢
      simp only [List.length_cons, List.length_append] at enough
      have reads : ReadsAs n depth (write style level j).toList j j.nesting :=
        readsAs_write j exact.1 within (by omega)
      have value := reads.behind_blank afterBlank
      rw [List.append_assoc, List.cons_append, value.last_member gap, nestingMembers, nestingMembers,
        Nat.max_zero, sorted.put_next]
  | (name, j) :: (other, i) :: members, _ => by
      intro exact level steps depth before spaces rest within gap sorted enough
      obtain ⟨n, rfl⟩ : ∃ n, steps = n + 1 := ⟨steps - 1, by omega⟩
      obtain ⟨after, afterBlank, written⟩ := exists_toList_member blank name (write style level j)
      rw [writeMembers, writeMembers, joined_cons_cons, ← writeMembers, written] at enough ⊢
      simp only [List.length_cons, List.length_append] at enough
      have reads : ReadsAs n depth (write style level j).toList j j.nesting :=
        readsAs_write j exact.1 within (by omega)
      have value := reads.behind_blank afterBlank
      have put := sorted.put_next
      rw [List.append_cons] at sorted
      simp only [List.append_assoc, List.cons_append]
      rw [← List.append_assoc after, value.next_member, put, readMembers?_blank (blank.lineBreak _),
        readMembers?_write ((other, i) :: members) (by simp) exact.2 within gap sorted (by omega),
        ite_and_lt_max]
      rw [List.append_assoc]
      rfl

end

/-- The text of a document is read back exactly if its arrays and objects nest less deep than the
    limit. -/
theorem read?_write {j : Json} (exact : j.Exact) :
    read? (write style 0 j) = if j.nesting < depthLimit then some j else none := by
  have reads : ReadsAs _ 0 (write style 0 j).toList j j.nesting :=
    readsAs_write blank j exact (Nat.zero_lt_succ 127) (Nat.le_add_right _ 2)
  have whole := reads [] nofun
  rw [List.append_nil, Nat.zero_add] at whole
  rw [read?]
  simp only [whole]
  split <;> rfl

end PluginLisp.Json

namespace PluginLisp.Libraries

open Json

/-- The libraries that interpreters run with keep documents. -/
theorem standard_keepsJson : standard.KeepsJson := by
  have reads (pretty : Bool) {j : Json} (exact : j.Exact) :
      read? (standard.writeJson pretty j) = if j.nesting < depthLimit then some j else none := by
    cases pretty with
    | false => exact read?_write compactStyle_isBlank exact
    | true => exact read?_write prettyStyle_isBlank exact
  constructor
  · intro pretty j exact shallow
    have whole := reads pretty exact
    rw [depthLimit, if_pos shallow] at whole
    simp only [standard] at whole ⊢
    rw [whole]
  · intro pretty j exact deep
    have refused := reads pretty exact
    rw [depthLimit, if_neg (Nat.not_lt.2 deep)] at refused
    simp only [standard] at refused ⊢
    exact ⟨"the text is not a JSON document", by rw [refused]⟩

end PluginLisp.Libraries
