import PluginLisp.Proofs.Syntax.Layout

/-!
Words and white space. A word goes on to the next delimiter, and all white space is among the
delimiters; but where a token may start, only spaces, tabs, line ends and commas are passed over. So
white space of any other kind ends a word, and then begins the next one: it is the first character of
a symbol. Where no token starts with such a character, words are free of delimiters, and white space
stands between tokens, in comments and in text literals only.

Main result: `delimited_iff_of_scan`.
-/

namespace PluginLisp

/-- The tokens that go on to the next delimiter: symbols, keywords, numbers, decimals and booleans. -/
def TokenKind.isWord : TokenKind → Bool
  | .number _ | .big _ | .boolean _ | .keyword _ | .symbol _ => true
  | _ => false

/-- Whether the token is a text literal. -/
def TokenKind.isText : TokenKind → Bool
  | .text _ => true
  | _ => false

/-- White space that is not passed over where a token may start. -/
def isStray (c : Char) : Bool := Text.isBlank c && !isGap c

/-- No word has a delimiter in it, and no token but a text literal has white space in it. -/
structure Delimited (tokens : List Token) : Prop where
  words : ∀ t ∈ tokens, t.kind.isWord = true → ∀ c ∈ t.lexeme.toList, isDelimiter c = false
  blanks : ∀ t ∈ tokens, t.kind.isText = false → ∀ c ∈ t.lexeme.toList, Text.isBlank c = false

/-! ### The characters of a lexeme -/

section

variable {c : Char} {cs more lexeme following rest : List Char} {kind : TokenKind}

theorem isDelimiter_of_isBlank (blank : Text.isBlank c = true) : isDelimiter c = true := by
  simp [isDelimiter, blank]

/-- A word may start with a delimiter, but only with white space that is not passed over. -/
theorem isStray_of_startsWord (starts : startsWord c = true) (delimiter : isDelimiter c = true) :
    isStray c = true := by
  obtain ⟨⟨gap, comment⟩, special⟩ : (isGap c = false ∧ c ≠ ';') ∧ c ∉ tokenStarts := by
    simpa [startsWord] using starts
  have blank : Text.isBlank c = true := by
    simp only [isDelimiter, Bool.or_eq_true, beq_iff_eq] at delimiter
    simp only [tokenStarts, List.mem_cons, List.not_mem_nil, or_false, not_or] at special
    simp only [isGap, Bool.or_eq_false_iff, beq_eq_false_iff_ne] at gap
    grind
  simp [isStray, blank, gap]

/-- What starts with such white space is a symbol. -/
theorem classifyWord_stray (stray : isStray c = true) (more : List Char) :
    classifyWord (c :: more) = .ok (.symbol (String.ofList (c :: more))) := by
  have other (d : Char) (plain : Text.isBlank d = false) : c ≠ d := by
    rintro rfl
    simp [isStray, plain] at stray
  have digit : Number.isDigit c = false := by
    rw [Bool.eq_false_iff]
    intro digit
    have word := isWordChar_digit digit
    simp only [isStray, Bool.and_eq_true] at stray
    simp [isWordChar, isDelimiter_of_isBlank stray.1] at word
  have numeric : looksNumeric (c :: more) = false := by
    simp [looksNumeric, digit, other '-' (by decide), other '+' (by decide)]
  have apart (d : Char) (name : List Char) (plain : Text.isBlank d = false) :
      String.ofList (c :: more) ≠ String.ofList (d :: name) := by
    intro same
    exact other d plain (List.cons_eq_cons.1 (String.ofList_injective same)).1
  rw [classifyWord, if_neg (by simp [numeric])]
  split
  next same => exact absurd same (apart 't' "rue".toList (by decide))
  next same => exact absurd same (apart 'f' "alse".toList (by decide))
  next => rfl

theorem isDelimiter_of_isWordChar (inside : isWordChar c = true) : isDelimiter c = false := by
  simpa [isWordChar] using inside

/-- How the characters of a token other than a text literal stand to the delimiters: none of them is
    one behind the first; and if the first is one, the token is a bracket, or it is a symbol that
    starts with white space which is not passed over. -/
structure Contained (lexeme : List Char) (kind : TokenKind) : Prop where
  behind : ∀ d ∈ lexeme.tail, isDelimiter d = false
  first : ∀ c ∈ lexeme.head?, isDelimiter c = true →
    (∃ b : Bracket, c = b.left ∧ kind = .opening b ∨ c = b.right ∧ kind = .closing b) ∨
      isStray c = true ∧ kind = .symbol (String.ofList lexeme)

theorem Contained.of_plain (behind : ∀ d ∈ more, isDelimiter d = false)
    (plain : isDelimiter c = false) : Contained (c :: more) kind :=
  ⟨behind, by simp [plain]⟩

/-- The characters of any lexeme but a text literal stand so. -/
theorem Lexeme.contained (is : Lexeme lexeme following kind) (other : kind.isText = false) :
    Contained lexeme kind := by
  cases is with
  | opening b => exact ⟨by simp, fun c first _ => by cases first; exact Or.inl ⟨b, Or.inl ⟨rfl, rfl⟩⟩⟩
  | closing b => exact ⟨by simp, fun c first _ => by cases first; exact Or.inl ⟨b, Or.inr ⟨rfl, rfl⟩⟩⟩
  | quote => exact .of_plain (by simp) (by decide)
  | quasiquote => exact .of_plain (by simp) (by decide)
  | unquote => exact .of_plain (by simp) (by decide)
  | splice => exact .of_plain (List.forall_mem_singleton.2 (by decide)) (by decide)
  | text literal => cases other
  | keyword nonempty inside =>
      exact .of_plain (fun d mem => isDelimiter_of_isWordChar (inside d mem)) (by decide)
  | word isWord =>
      obtain ⟨starts, continues, classified⟩ := isWord
      refine ⟨fun d mem => isDelimiter_of_isWordChar (continues d mem), fun c first delimiter => ?_⟩
      cases first
      have stray := isStray_of_startsWord starts delimiter
      exact Or.inr ⟨stray, Except.ok.inj (classified.symm.trans (classifyWord_stray stray _))⟩

end

/-! ### White space between tokens -/

/-- What follows these characters of a gap between tokens is in a comment: there is a semicolon before
    it on its line. -/
def InComment (before : List Char) : Prop :=
  ∃ spacing text, before = spacing ++ ';' :: text ∧ Spacing spacing ∧ '\n' ∉ text

theorem InComment.behind {cs before : List Char} (spacing : Spacing cs) (comment : InComment before) :
    InComment (cs ++ before) := by
  obtain ⟨front, text, rfl, spaced, line⟩ := comment
  exact ⟨cs ++ front, text, by rw [List.append_assoc], spacing.append spaced, line⟩

section

variable {cs before after : List Char} {c : Char}

/-- White space in spacing is a separator, if it is not in a comment. -/
theorem Spacing.blank (spacing : Spacing cs) (split : cs = before ++ c :: after)
    (blank : Text.isBlank c = true) : InComment before ∨ c ∈ separators := by
  induction spacing generalizing before with
  | nil => simp at split
  | @separator d rest mem more ih =>
      rcases List.cons_eq_append_iff.1 split with ⟨rfl, same⟩ | ⟨front, rfl, same⟩
      · cases same
        exact Or.inr mem
      · exact (ih same).imp_left (InComment.behind (.separator mem .nil))
  | @comment text rest line more ih =>
      rcases List.cons_eq_append_iff.1 split with ⟨rfl, same⟩ | ⟨front, rfl, same⟩
      · cases same
        exact absurd blank (by decide)
      · rcases List.append_eq_append_iff.1 same with ⟨inner, rfl, others⟩ | ⟨inner, rfl, -⟩
        · rcases List.cons_eq_append_iff.1 others with ⟨rfl, ends⟩ | ⟨front, rfl, ends⟩
          · cases ends
            exact Or.inr (by decide)
          · have passed : Spacing (';' :: (text ++ ['\n'])) := .comment line .nil
            refine (ih ends).imp_left fun inside => ?_
            simpa using inside.behind passed
        · exact Or.inl ⟨[], front, rfl, .nil, fun mem => line (List.mem_append_left _ mem)⟩

/-- The same for an ending, which is spacing once its last line is ended. -/
theorem Ending.blank (ending : Ending cs) (split : cs = before ++ c :: after)
    (blank : Text.isBlank c = true) : InComment before ∨ c ∈ separators := by
  cases ending with
  | spacing spacing => exact spacing.blank split blank
  | @comment front text spacing line =>
      have ended : Spacing (front ++ ';' :: (text ++ '\n' :: [])) :=
        spacing.append (.comment line .nil)
      have longer : front ++ ';' :: (text ++ '\n' :: []) = before ++ c :: (after ++ ['\n']) := by
        simpa using congrArg (· ++ ['\n']) split
      exact ended.blank longer blank

end

/-! ### Texts that are scanned -/

theorem Fit.lexeme {pieces : List Piece} {rest : List Char} (fit : Fit pieces rest) {piece : Piece}
    (mem : piece ∈ pieces) : ∃ following, Lexeme piece.lexeme following piece.kind := by
  induction fit with
  | nil => cases mem
  | cons spacing lexeme others ih =>
      rcases List.mem_cons.1 mem with rfl | member
      · exact ⟨_, lexeme⟩
      · exact ih member

theorem exists_piece {before : List Char} {pieces : List Piece} {t : Token}
    (mem : t ∈ tokensAfter before pieces) :
    ∃ piece ∈ pieces, t.kind = piece.kind ∧ t.lexeme.toList = piece.lexeme := by
  have content : t.content ∈ (tokensAfter before pieces).map Token.content := List.mem_map_of_mem mem
  rw [content_tokensAfter] at content
  obtain ⟨piece, member, same⟩ := List.mem_map.1 content
  obtain ⟨kind, lexeme⟩ := Prod.mk.inj same
  exact ⟨piece, member, kind.symm, by rw [← lexeme, String.toList_ofList]⟩

/-- The characters of tokens are characters of the text. -/
theorem Cut.mem_of_lexeme {text : List Char} {pieces : List Piece} {ending : List Char}
    (cut : Cut text pieces ending) {piece : Piece} (mem : piece ∈ pieces) {c : Char}
    (inside : c ∈ piece.lexeme) : c ∈ text := by
  rw [cut.whole]
  refine List.mem_append_left _ (List.mem_flatMap.2 ⟨piece, mem, ?_⟩)
  exact List.mem_append_right _ inside

/-- A delimiter in a token stands at its start. -/
theorem Contained.mem_head? {lexeme : List Char} {kind : TokenKind} {c : Char}
    (contained : Contained lexeme kind) (mem : c ∈ lexeme) (delimiter : isDelimiter c = true) :
    c ∈ lexeme.head? := by
  cases lexeme with
  | nil => cases mem
  | cons first more =>
      rcases List.mem_cons.1 mem with rfl | member
      · rfl
      · exact absurd delimiter (by simp [contained.behind c member])

/-- Tokens are free of delimiters if none of the symbols starts with one. -/
theorem delimited_iff {tokens : List Token}
    (contained : ∀ t ∈ tokens, t.kind.isText = false → Contained t.lexeme.toList t.kind) :
    Delimited tokens ↔ ∀ t ∈ tokens, ∀ name, t.kind = .symbol name →
      ∀ c ∈ t.lexeme.toList.head?, isStray c = false := by
  constructor
  · intro delimited t mem name symbol c first
    have plain := delimited.words t mem (by rw [symbol]; rfl) c (List.mem_of_mem_head? first)
    rw [Bool.eq_false_iff]
    intro stray
    simp only [isStray, Bool.and_eq_true] at stray
    simp [isDelimiter_of_isBlank stray.1] at plain
  · intro noStray
    -- a delimiter in a token other than a text literal can only be a bracket
    have bracket {t : Token} {c : Char} (mem : t ∈ tokens) (other : t.kind.isText = false)
        (inside : c ∈ t.lexeme.toList) (delimiter : isDelimiter c = true) :
        ∃ b : Bracket, c = b.left ∧ t.kind = .opening b ∨ c = b.right ∧ t.kind = .closing b := by
      have here := contained t mem other
      have first := here.mem_head? inside delimiter
      rcases here.first c first delimiter with bracket | ⟨stray, symbol⟩
      · exact bracket
      · exact absurd stray (by simp [noStray t mem _ symbol c first])
    refine ⟨fun t mem isWord c inside => ?_, fun t mem other c inside => ?_⟩
    · have other : t.kind.isText = false := by
        cases kind : t.kind <;> simp_all [TokenKind.isWord, TokenKind.isText]
      rw [Bool.eq_false_iff]
      intro delimiter
      obtain ⟨b, ⟨-, kind⟩ | ⟨-, kind⟩⟩ := bracket mem other inside delimiter
      all_goals simp [kind, TokenKind.isWord] at isWord
    · rw [Bool.eq_false_iff]
      intro blank
      obtain ⟨b, ⟨rfl, -⟩ | ⟨rfl, -⟩⟩ := bracket mem other inside (isDelimiter_of_isBlank blank)
      all_goals exact absurd blank (by cases b <;> decide)

/-- White space of a scanned text. Words are free of delimiters, and text literals apart no token has
    white space in it, if and only if no symbol starts with white space other than a space, a tab or a
    line end; so this holds of every text that has no other white space. Delimiters can stand nowhere
    else in such tokens: none is behind the first character, and a first one is a bracket or makes the
    token a symbol. Between tokens, white space that is not in a comment is a separator. -/
theorem delimited_iff_of_scan {source : String} {tokens : List Token} {last : Token}
    (scanned : scan source = .ok (tokens ++ [last])) :
    (Delimited tokens ↔ ∀ t ∈ tokens, ∀ name, t.kind = .symbol name →
        ∀ c ∈ t.lexeme.toList.head?, isStray c = false) ∧
      ((∀ c ∈ source.toList, Text.isBlank c = true → c ∈ separators) → Delimited tokens) ∧
      (∀ t ∈ tokens, t.kind.isText = false → Contained t.lexeme.toList t.kind) ∧
      ∃ pieces ending, Cut source.toList pieces ending ∧ tokens = tokensAfter [] pieces ∧
        ∀ gap ∈ ending :: pieces.map Piece.spacing, ∀ before c after, gap = before ++ c :: after →
          Text.isBlank c = true → InComment before ∨ c ∈ separators := by
  obtain ⟨pieces, ending, cut, rfl⟩ := cut_of_scan scanned
  have contained : ∀ t ∈ tokensAfter [] pieces, t.kind.isText = false →
      Contained t.lexeme.toList t.kind := by
    intro t mem other
    obtain ⟨piece, member, kind, lexeme⟩ := exists_piece mem
    obtain ⟨following, is⟩ := cut.fit.lexeme member
    rw [kind] at other ⊢
    rw [lexeme]
    exact is.contained other
  have delimited := delimited_iff contained
  refine ⟨delimited, fun plain => delimited.2 ?_, contained, pieces, ending, cut, rfl, ?_⟩
  · intro t mem name symbol c first
    obtain ⟨piece, member, -, lexeme⟩ := exists_piece mem
    rw [lexeme] at first
    have inText := cut.mem_of_lexeme member (List.mem_of_mem_head? first)
    cases blank : Text.isBlank c with
    | false => simp [isStray, blank]
    | true => simp [isStray, isGap_iff.2 (plain c inText blank)]
  · intro gap mem before c after split blank
    rcases List.mem_cons.1 mem with rfl | member
    · exact cut.ends.blank split blank
    · obtain ⟨piece, inPieces, rfl⟩ := List.mem_map.1 member
      exact (cut.fit.spacing inPieces).blank split blank

/-- The tokens of a name and a text literal, where a no-break space is in the literal, and another one
    in a comment. -/
def spacedTokens : List Token :=
  [⟨.symbol "f", "f", ⟨1, 1⟩⟩, ⟨.text "\u00a0", "\"\u00a0\"", ⟨1, 3⟩⟩]

theorem delimited_spacedTokens :
    scan "f \"\u00a0\" ;\u00a0" = .ok (spacedTokens ++ [⟨.finish, "", ⟨1, 9⟩⟩]) ∧
      Delimited spacedTokens := by
  have scanned : scan "f \"\u00a0\" ;\u00a0" =
      .ok (spacedTokens ++ [⟨.finish, "", ⟨1, 9⟩⟩]) := by cbv
  refine ⟨scanned, (delimited_iff_of_scan scanned).1.2 ?_⟩
  intro t mem name symbol c first
  rcases List.mem_cons.1 mem with rfl | mem
  · cases first
    decide
  · obtain rfl := List.mem_singleton.1 mem
    cases symbol

/-- The tokens of a sum in which a no-break space stands before the second number. -/
def strayTokens : List Token :=
  [⟨.opening .round, "(", ⟨1, 1⟩⟩, ⟨.symbol "+", "+", ⟨1, 2⟩⟩, ⟨.number 1, "1", ⟨1, 4⟩⟩,
    ⟨.symbol "\u00a02", "\u00a02", ⟨1, 5⟩⟩, ⟨.closing .round, ")", ⟨1, 7⟩⟩]

/-- The no-break space is taken into a symbol with the number, though it is white space and a
    delimiter. -/
theorem not_delimited_strayTokens :
    scan "(+ 1\u00a02)" = .ok (strayTokens ++ [⟨.finish, "", ⟨1, 8⟩⟩]) ∧
      Text.isBlank '\u00a0' = true ∧ isDelimiter '\u00a0' = true ∧ ¬ Delimited strayTokens := by
  refine ⟨?_, by decide, by decide, fun delimited => ?_⟩
  · have read : Number.readFloat? "1" = some 1 := by decide +kernel
    simp [scan, scanFrom, isGap, scanToken, isWordChar, isDelimiter, Text.isBlank, classifyWord,
      looksNumeric, Number.isDigit, classifyNumber, read, Except.map, Position.start, Position.past,
      Position.next, strayTokens]
  · have plain := delimited.words ⟨.symbol "\u00a02", "\u00a02", ⟨1, 5⟩⟩ (by simp [strayTokens]) rfl
      '\u00a0' (by simp)
    exact absurd plain (by decide)

end PluginLisp
