import PluginLisp.Proofs.Number.Digits
import PluginLisp.Syntax.Scan
import PluginLisp.Text.Quoted

/-!
What the scanner makes of a text that is put together from parts. A part is read on its own as long as
a delimiter or the end follows it, so parts may be put between brackets and one after the other with a
space between them. The parts are words, keywords and text literals; and every name that comes out of
the scanner is one that it reads again.

Main results: `Scans.scan`, `scanFrom_spec`.
-/

namespace PluginLisp

/-- What follows cannot prolong a word: it is a delimiter, or the end. -/
def Stops (rest : List Char) : Prop := ∀ c ∈ rest.head?, isDelimiter c = true

/-- Characters that are read as tokens of the given kinds, wherever they stand, if what follows
    stops them. -/
def Scans (cs : List Char) (kinds : List TokenKind) : Prop :=
  ∀ rest, Stops rest → ∀ p, ∃ tokens p', tokens.map Token.kind = kinds ∧
    scanFrom p (cs ++ rest) = (scanFrom p' rest).map (tokens ++ ·)

/-! ### Parts put together -/

theorem stops_cons {c : Char} (rest : List Char) (delimiter : isDelimiter c = true) :
    Stops (c :: rest) := by
  simp [Stops, delimiter]

/-- The scanner at a token. -/
theorem scanFrom_token (p : Position) (c : Char) (more rest : List Char) (kind : TokenKind)
    (gap : isGap c = false) (comment : c ≠ ';')
    (reads : scanToken c (more ++ rest) = .ok (kind, more.length)) :
    scanFrom p (c :: more ++ rest) =
      (scanFrom (p.past (c :: more)) rest).map (⟨kind, String.ofList (c :: more), p⟩ :: ·) := by
  rw [List.cons_append, scanFrom, if_neg (by simp [gap]), if_neg comment, reads]
  simp

namespace Scans

theorem nil : Scans [] [] := fun rest _ p =>
  ⟨[], p, rfl, by rw [List.nil_append]; cases scanFrom p rest <;> rfl⟩

/-- Nothing is read as no tokens at all. -/
theorem eq_nil {kinds : List TokenKind} (scans : Scans [] kinds) : kinds = [] := by
  obtain ⟨tokens, p, rfl, reads⟩ := scans [] (by simp [Stops]) .start
  simp only [List.append_nil, scanFrom, Except.map, Except.ok.injEq] at reads
  have length := congrArg List.length reads
  rw [List.length_append] at length
  exact List.map_eq_nil_iff.2 (List.length_eq_zero_iff.1 (by simpa using length))

/-- One part after the other, if the second one stops the first. -/
theorem append {cs ds : List Char} {ks ls : List TokenKind} (first : Scans cs ks)
    (second : Scans ds ls) (stops : ∀ rest, Stops rest → Stops (ds ++ rest)) :
    Scans (cs ++ ds) (ks ++ ls) := by
  intro rest stopsRest p
  obtain ⟨tokens, p', rfl, reads⟩ := first (ds ++ rest) (stops rest stopsRest) p
  obtain ⟨tokens', p'', rfl, reads'⟩ := second rest stopsRest p'
  refine ⟨tokens ++ tokens', p'', by simp, ?_⟩
  rw [List.append_assoc, reads, reads']
  cases scanFrom p'' rest <;> simp [Except.map]

/-- A space before a part. -/
theorem space {cs : List Char} {ks : List TokenKind} (scans : Scans cs ks) : Scans (' ' :: cs) ks := by
  intro rest stops p
  obtain ⟨tokens, p', kinds, reads⟩ := scans rest stops (p.next ' ')
  refine ⟨tokens, p', kinds, ?_⟩
  rw [← reads, List.cons_append, scanFrom, if_pos (by decide)]

/-- One more part at the front of several that stand with spaces between them. -/
theorem intercalate_cons {text : String} {texts : List String} {ks ls : List TokenKind}
    (first : Scans text.toList ks) (others : Scans (" ".intercalate texts).toList ls) :
    Scans (" ".intercalate (text :: texts)).toList (ks ++ ls) := by
  cases texts with
  | nil =>
      obtain rfl := others.eq_nil
      simpa using first
  | cons next texts =>
      have spaced := first.append others.space fun rest _ => stops_cons _ (by decide)
      simpa [String.intercalate_cons_cons] using spaced

/-- One token, which does not depend on what stops it. -/
theorem token {c : Char} {more : List Char} {kind : TokenKind} (gap : isGap c = false)
    (comment : c ≠ ';')
    (reads : ∀ rest, Stops rest → scanToken c (more ++ rest) = .ok (kind, more.length)) :
    Scans (c :: more) [kind] := fun rest stops p =>
  ⟨[⟨kind, String.ofList (c :: more), p⟩], p.past (c :: more), rfl,
    scanFrom_token p c more rest kind gap comment (reads rest stops)⟩

end Scans

/-- The character that opens a bracket. -/
def Bracket.left : Bracket → Char
  | round => '('
  | square => '['
  | curly => '\x7b'

/-- The character that closes it. -/
def Bracket.right : Bracket → Char
  | round => ')'
  | square => ']'
  | curly => '\x7d'

/-- A part between brackets. -/
theorem Scans.enclose {cs : List Char} {ks : List TokenKind} (b : Bracket) (scans : Scans cs ks) :
    Scans (b.left :: (cs ++ [b.right])) (.opening b :: (ks ++ [.closing b])) := by
  intro rest _ p
  obtain ⟨tokens, p', rfl, reads⟩ :=
    scans (b.right :: rest) (stops_cons rest (by cases b <;> decide)) (p.past [b.left])
  have opened := scanFrom_token p b.left [] (cs ++ b.right :: rest) (.opening b)
    (by cases b <;> decide) (by cases b <;> decide) (by cases b <;> rfl)
  have closed := scanFrom_token p' b.right [] rest (.closing b)
    (by cases b <;> decide) (by cases b <;> decide) (by cases b <;> rfl)
  generalize opens : Token.mk (.opening b) (String.ofList [b.left]) p = opener at opened
  generalize closes : Token.mk (.closing b) (String.ofList [b.right]) p' = closer at closed
  refine ⟨opener :: (tokens ++ [closer]), p'.past [b.right], ?_, ?_⟩
  · simp [← opens, ← closes]
  · calc scanFrom p (b.left :: (cs ++ [b.right]) ++ rest)
        = scanFrom p ([b.left] ++ (cs ++ b.right :: rest)) := by simp
      _ = (scanFrom p' ([b.right] ++ rest)).map fun more => opener :: (tokens ++ more) := by
          rw [opened, reads, List.singleton_append]
          cases scanFrom p' (b.right :: rest) <;> rfl
      _ = (scanFrom (p'.past [b.right]) rest).map (opener :: (tokens ++ [closer]) ++ ·) := by
          rw [closed]
          cases scanFrom (p'.past [b.right]) rest <;> simp [Except.map]

/-- A whole text is read as the tokens of its parts, and the end. -/
theorem Scans.scan {source : String} {ks : List TokenKind} (scans : Scans source.toList ks) :
    ∃ tokens last, scan source = .ok (tokens ++ [last]) ∧ tokens.map Token.kind = ks ∧
      last.kind = .finish := by
  obtain ⟨tokens, p, kinds, reads⟩ := scans [] (by simp [Stops]) .start
  refine ⟨tokens, ⟨.finish, "", p⟩, ?_, kinds, rfl⟩
  rw [List.append_nil] at reads
  rw [PluginLisp.scan, reads, scanFrom]
  rfl

/-! ### Words -/

/-- The characters that are tokens, or that start tokens other than words. -/
def tokenStarts : List Char :=
  ['(', ')', '[', ']', '\x7b', '\x7d', '\x27', '\x60', '~', '\x22', ':']

/-- The characters that start a word. -/
def startsWord (c : Char) : Bool := !isGap c && c != ';' && !tokenStarts.contains c

/-- A word that stands for a token. -/
inductive IsWord : List Char → TokenKind → Prop where
  | intro {c : Char} {more : List Char} {kind : TokenKind} (starts : startsWord c = true)
      (continues : ∀ d ∈ more, isWordChar d = true) (classified : classifyWord (c :: more) = .ok kind) :
      IsWord (c :: more) kind

theorem IsWord.of_all {c : Char} {more : List Char} {kind : TokenKind} (starts : startsWord c = true)
    (continues : more.all isWordChar = true) (classified : classifyWord (c :: more) = .ok kind) :
    IsWord (c :: more) kind :=
  .intro starts (fun d mem => List.all_eq_true.1 continues d mem) classified

/-- A word is scanned up to the next character that cannot belong to it. -/
theorem scanToken_word {c : Char} (rest : List Char) (starts : startsWord c = true) :
    scanToken c rest = (classifyWord (c :: rest.takeWhile isWordChar)).map fun kind =>
      (kind, (rest.takeWhile isWordChar).length) := by
  unfold scanToken
  split <;> first | rfl | exact absurd starts (by decide)

theorem takeWhile_isWordChar {word rest : List Char} (inside : ∀ c ∈ word, isWordChar c = true)
    (stops : Stops rest) : (word ++ rest).takeWhile isWordChar = word := by
  refine (Number.splitWhile rest inside fun c mem => ?_).1
  simp [isWordChar, stops c mem]

/-- A word is scanned as the token that it is classified as. -/
theorem IsWord.scans {word : List Char} {kind : TokenKind} (isWord : IsWord word kind) :
    Scans word [kind] := by
  obtain ⟨starts, continues, classified⟩ := isWord
  have first := starts
  simp only [startsWord, Bool.and_eq_true, Bool.not_eq_true', bne_iff_ne] at first
  refine Scans.token first.1.1 first.1.2 fun rest stops => ?_
  rw [scanToken_word _ starts, takeWhile_isWordChar continues stops, classified]
  rfl

theorem startsWord_digit {c : Char} (digit : Number.isDigit c = true) : startsWord c = true := by
  have bounds := Number.isDigit_iff.1 digit
  have other (d : Char) (outside : d.toNat < 48 ∨ 57 < d.toNat) : c ≠ d := by
    rintro rfl
    omega
  simp [startsWord, isGap, tokenStarts, other]

theorem isWordChar_digit {c : Char} (digit : Number.isDigit c = true) : isWordChar c = true := by
  have bounds := Number.isDigit_iff.1 digit
  have other (d : Char) (outside : d.toNat < 48 ∨ 57 < d.toNat) : c ≠ d := by
    rintro rfl
    omega
  simp [isWordChar, isDelimiter, Text.isBlank, other]
  omega

/-- The text of a number, with a sign or without one, is a word that looks like a number. -/
theorem isWord_number {negative : Bool} {cs ending : List Char} {kind : TokenKind}
    (unsigned : Number.Unsigned cs) (continues : ∀ d ∈ ending, isWordChar d = true)
    (classified : classifyNumber ((Number.signed negative (String.ofList cs)).toList ++ ending) =
      .ok kind) :
    IsWord ((Number.signed negative (String.ofList cs)).toList ++ ending) kind := by
  obtain ⟨c, more, rfl, digit⟩ := unsigned.starts
  have inside : ∀ d ∈ c :: more ++ ending, isWordChar d = true := by
    intro d mem
    rcases List.mem_append.1 mem with number | suffix
    · rcases unsigned.chars d number with digit | rfl
      · exact isWordChar_digit digit
      · decide
    · exact continues d suffix
  cases negative with
  | true =>
      have shown : (Number.signed true (String.ofList (c :: more))).toList ++ ending =
          '-' :: (c :: more ++ ending) := by
        simp [Number.signed]
      rw [shown] at classified ⊢
      refine .intro (by decide) inside ?_
      rw [classifyWord, if_pos (by simp [looksNumeric, digit]), classified]
  | false =>
      have shown : (Number.signed false (String.ofList (c :: more))).toList ++ ending =
          c :: (more ++ ending) := by
        simp [Number.signed]
      rw [shown] at classified ⊢
      refine .intro (startsWord_digit digit) (fun d mem => inside d (List.mem_cons_of_mem c mem)) ?_
      rw [classifyWord, if_pos (by simp [looksNumeric, digit]), classified]

/-- A numeral that reads as a float is the word of that number. -/
theorem isWord_float {text : String} {x : Float} (numeral : Number.IsNumeral text)
    (reads : Number.readFloat? text = some x) : IsWord text.toList (.number x) := by
  obtain ⟨negative, cs, shown, unsigned⟩ := numeral
  have word : text.toList = (Number.signed negative (String.ofList cs)).toList ++ [] := by
    rw [shown, List.append_nil]
  rw [word]
  refine isWord_number unsigned (by simp) ?_
  rw [← word, classifyNumber, if_neg, String.ofList_toList, reads]
  intro last
  have mem := List.mem_of_getLast? last
  rw [shown] at mem
  rcases unsigned.mem_signed mem with digit | point | sign
  · exact absurd digit (by decide)
  · exact absurd point (by decide)
  · exact absurd sign (by decide)

/-- A numeral with an `N` behind it is the word of a decimal. -/
theorem isWord_big {text : String} (numeral : Number.IsNumeral text) :
    IsWord (text.toList ++ ['N']) (.big text) := by
  obtain ⟨negative, cs, rfl, unsigned⟩ := numeral
  refine isWord_number unsigned (List.forall_mem_singleton.2 (by decide)) ?_
  simp [classifyNumber]

/-- A name for keywords and keys: it is not empty, and no delimiter ends it. -/
def IsName (name : String) : Prop := name.toList ≠ [] ∧ ∀ c ∈ name.toList, isDelimiter c = false

/-- A colon and a name are scanned as a keyword. -/
theorem IsName.scans {name : String} (isName : IsName name) :
    Scans (":" ++ name).toList [.keyword name] := by
  have inside : ∀ c ∈ name.toList, isWordChar c = true := by
    intro c mem
    simp [isWordChar, isName.2 c mem]
  have shown : (":" ++ name).toList = ':' :: name.toList := by simp
  rw [shown]
  refine Scans.token (c := ':') (by decide) (by decide) fun rest stops => ?_
  simp only [scanToken]
  rw [takeWhile_isWordChar inside stops]
  simp [isName.1]

/-! ### Text literals -/

namespace Text

/-- A character that a text literal shows as it is, or with an escape that can be read. -/
def Readable (c : Char) : Prop :=
  escape '\x22' c = [c] ∨
    escape '\x22' c ∈ [['\x5c', 'n'], ['\x5c', 'r'], ['\x5c', 't'], ['\x5c', '\x5c'], ['\x5c', '\x22']]

instance (c : Char) : Decidable (Readable c) := inferInstanceAs (Decidable (_ ∨ _))

theorem scanText_plain {c : Char} (quote : c ≠ '\x22') (backslash : c ≠ '\x5c') (rest : List Char) :
    scanText (c :: rest) = (scanText rest).map fun (cs, n) => (c :: cs, n + 1) := by
  rw [scanText]
  · exact quote
  · exact fun first _ => backslash first
  · exact fun _ _ first _ => backslash first

/-- What one character of a literal brings to the rest of it. -/
theorem scanText_escape {c : Char} (readable : Readable c) (rest : List Char) :
    scanText (escape '\x22' c ++ rest) =
      (scanText rest).map fun (cs, n) => (c :: cs, n + (escape '\x22' c).length) := by
  by_cases quote : c = '\x22'
  · subst quote
    rfl
  · have short : shortEscape? c = none ∨ c ∈ ['\n', '\r', '\t', '\x5c', '\x00'] := by
      unfold shortEscape?
      split <;> simp
    rcases short with unescaped | known
    · have escaped : escape '\x22' c = if isShown c then [c] else codeEscape c := by
        rw [escape, if_neg quote, unescaped]
      have backslash : c ≠ '\x5c' := by
        rintro rfl
        cases unescaped
      unfold Readable at readable
      rw [escaped] at readable ⊢
      split at readable
      · rename_i shown
        rw [if_pos shown, List.singleton_append, scanText_plain quote backslash]
        rfl
      · exact absurd readable (by simp [codeEscape])
    · simp only [List.mem_cons, List.not_mem_nil, or_false] at known
      rcases known with rfl | rfl | rfl | rfl | rfl
      · rfl
      · rfl
      · rfl
      · rfl
      · exact absurd readable (by decide)

/-- What the characters of a text bring to the rest of the literal. -/
theorem scanText_escapes {cs : List Char} (readable : ∀ c ∈ cs, Readable c) (rest : List Char) :
    scanText (cs.flatMap (escape '\x22') ++ rest) = (scanText rest).map fun (more, n) =>
      (cs ++ more, n + (cs.flatMap (escape '\x22')).length) := by
  induction cs with
  | nil => cases scanned : scanText rest <;> simp [scanned, Except.map]
  | cons c cs ih =>
      have others := ih fun d mem => readable d (List.mem_cons_of_mem c mem)
      rw [List.flatMap_cons, List.append_assoc, scanText_escape (readable c List.mem_cons_self), others]
      cases scanText rest with
      | error reason => rfl
      | ok read =>
          simp only [Except.map, List.cons_append, List.length_append]
          congr 2
          omega

/-- A text between quotes is a literal. -/
theorem scanText_quoted {cs : List Char} (readable : ∀ c ∈ cs, Readable c) (rest : List Char) :
    scanText (cs.flatMap (escape '\x22') ++ '\x22' :: rest) =
      .ok (cs, (cs.flatMap (escape '\x22')).length + 1) := by
  rw [scanText_escapes readable, scanText]
  simp [Except.map, Nat.add_comm]

theorem scans_quote {s : String} (readable : ∀ c ∈ s.toList, Readable c) :
    Scans (quote s).toList [.text s] := by
  rw [quote, String.toList_ofList]
  refine Scans.token (by decide) (by decide) fun rest _ => ?_
  simp only [scanToken]
  rw [List.append_assoc, List.singleton_append, scanText_quoted readable]
  simp [Except.map]

end Text

/-! ### What comes out of the scanner -/

/-- A token whose name, if it has one, the scanner reads again. -/
def TokenKind.Lexical : TokenKind → Prop
  | .big digits => IsWord (digits.toList ++ ['N']) (.big digits)
  | .keyword name => IsName name
  | .symbol name => IsWord name.toList (.symbol name)
  | .finish => False
  | _ => True

/-- The end of the input is none. -/
theorem TokenKind.Lexical.ne_finish {kind : TokenKind} (lexical : kind.Lexical) : kind ≠ .finish := by
  rintro rfl
  exact lexical

theorem isWordChar_of_mem_takeWhile {c : Char} {rest : List Char}
    (mem : c ∈ rest.takeWhile isWordChar) : isWordChar c = true :=
  List.all_eq_true.1 List.all_takeWhile c mem

/-- What a word is classified as has that word as a lexeme. -/
theorem lexical_of_classifyWord {c : Char} {more : List Char} {kind : TokenKind}
    (starts : startsWord c = true) (continues : ∀ d ∈ more, isWordChar d = true)
    (classified : classifyWord (c :: more) = .ok kind) : kind.Lexical := by
  have isWord : IsWord (c :: more) kind := .intro starts continues classified
  generalize c :: more = word at isWord classified
  unfold classifyWord at classified
  split at classified
  · unfold classifyNumber at classified
    split at classified
    · rename_i ends
      cases classified
      have whole : word.dropLast ++ ['N'] = word := by
        rw [List.getLast?_eq_some_iff] at ends
        obtain ⟨front, rfl⟩ := ends
        simp
      show IsWord ((String.ofList word.dropLast).toList ++ ['N']) _
      rw [String.toList_ofList, whole]
      exact isWord
    · split at classified
      · cases classified
        trivial
      · cases classified
  · split at classified
    · cases classified
      trivial
    · cases classified
      trivial
    · cases classified
      show IsWord (String.ofList word).toList _
      rw [String.toList_ofList]
      exact isWord

theorem lexical_of_scanToken {c : Char} {rest : List Char} {kind : TokenKind} {extra : Nat}
    (gap : isGap c = false) (comment : c ≠ ';') (reads : scanToken c rest = .ok (kind, extra)) :
    kind.Lexical := by
  unfold scanToken at reads
  split at reads
  case h_9 =>
    -- a tilde, with an at sign behind it or without
    split at reads <;> cases reads <;> trivial
  case h_10 =>
    cases literal : scanText rest with
    | error reason => rw [literal] at reads; cases reads
    | ok result => rw [literal] at reads; cases reads; trivial
  case h_11 =>
    simp only at reads
    split at reads
    · cases reads
    · rename_i nonempty
      cases reads
      refine ⟨by simpa using nonempty, fun d mem => ?_⟩
      rw [String.toList_ofList] at mem
      simpa [isWordChar] using isWordChar_of_mem_takeWhile mem
  case h_12 =>
    have starts : startsWord c = true := by
      simp_all [startsWord, tokenStarts]
    simp only at reads
    cases word : classifyWord (c :: rest.takeWhile isWordChar) with
    | error reason => rw [word] at reads; cases reads
    | ok kind' =>
        rw [word] at reads
        cases reads
        exact lexical_of_classifyWord starts (fun d => isWordChar_of_mem_takeWhile) word
  all_goals
    cases reads
    trivial

/-- The scanner ends with the end of the input, and nothing before it is that end. -/
theorem scanFrom_spec {p : Position} {cs : List Char} {tokens : List Token}
    (reads : scanFrom p cs = .ok tokens) :
    ∃ inner last, tokens = inner ++ [last] ∧ last.kind = .finish ∧
      ∀ t ∈ inner, t.kind.Lexical := by
  fun_induction scanFrom p cs generalizing tokens with
  | case1 p =>
      cases reads
      exact ⟨[], _, rfl, rfl, by simp⟩
  | case2 p c rest gap ih => exact ih reads
  | case3 p rest comment gap =>
      rename_i ih
      exact ih reads
  | case4 p c rest gap comment reason fails => cases reads
  | case5 p c rest gap comment kind extra token lexeme =>
      rename_i ih
      cases others : scanFrom (p.past (c :: rest.take extra)) (rest.drop extra) with
      | error e => rw [others] at reads; cases reads
      | ok more =>
          rw [others] at reads
          cases reads
          obtain ⟨inner, last, rfl, ends, lexical⟩ := ih others
          refine ⟨⟨kind, String.ofList (c :: rest.take extra), p⟩ :: inner, last, rfl, ends, ?_⟩
          intro t mem
          rcases List.mem_cons.1 mem with rfl | mem
          · exact lexical_of_scanToken (by simpa using gap) comment token
          · exact lexical t mem

end PluginLisp
