import PluginLisp.Proofs.Syntax.Scanning

/-!
The lexical grammar. A lexeme is the text of one token; whether characters are one depends on nothing
but what follows them: a word goes on to the next delimiter, and a tilde takes an at sign with it. There
are four ways in which characters can fail to begin a lexeme. The scanner, standing at the start of a
token, reads exactly what the grammar says, and fails exactly where no lexeme begins.

Main results: `Lexeme.reads`, `Malformed.fails`, `StartsToken.lexeme_or_malformed`.
-/

namespace PluginLisp

/-! ### Text literals -/

/-- The characters between the quotes of a text literal, and those that they stand for. -/
inductive Text.Literal : (written content : List Char) → Prop where
  | nil : Literal [] []
  | plain {c : Char} {written content : List Char} (quote : c ≠ '\x22') (backslash : c ≠ '\x5c')
      (rest : Literal written content) : Literal (c :: written) (c :: content)
  | escaped {e c : Char} {written content : List Char} (stands : unescape? e = some c)
      (rest : Literal written content) : Literal ('\x5c' :: e :: written) (c :: content)

section

variable {written content after cs : List Char} {reason : String}

/-- Reading the characters of a literal and then what follows them. -/
theorem Text.Literal.scanText (literal : Text.Literal written content) (after : List Char) :
    PluginLisp.scanText (written ++ after) =
      (PluginLisp.scanText after).map fun (cs, n) => (content ++ cs, n + written.length) := by
  induction literal with
  | nil =>
      rw [List.nil_append]
      cases PluginLisp.scanText after <;> simp [Except.map]
  | plain quote backslash rest ih =>
      rw [List.cons_append, Text.scanText_plain quote backslash, ih]
      cases PluginLisp.scanText after <;> simp [Except.map, Nat.add_assoc]
  | escaped stands rest ih =>
      rw [List.cons_append, List.cons_append, PluginLisp.scanText, stands]
      simp only [ih]
      cases PluginLisp.scanText after <;> simp [Except.map, Nat.add_assoc]

/-- What follows the opening quote of a literal that cannot be read. -/
inductive Text.Broken : List Char → (reason : String) → Prop where
  | unterminated {written content : List Char} (literal : Literal written content) :
      Broken written "Unterminated string"
  | unfinished {written content : List Char} (literal : Literal written content) :
      Broken (written ++ ['\x5c']) "Unterminated string"
  | escape {written content after : List Char} {e : Char} (literal : Literal written content)
      (unknown : unescape? e = none) :
      Broken (written ++ '\x5c' :: e :: after) ("Invalid escape sequence \\" ++ e.toString)

theorem Text.Broken.scanText (broken : Text.Broken cs reason) :
    PluginLisp.scanText cs = .error reason := by
  cases broken with
  | unterminated literal =>
      have read := literal.scanText []
      rw [List.append_nil] at read
      rw [read, PluginLisp.scanText]
      rfl
  | unfinished literal =>
      rw [literal.scanText, PluginLisp.scanText]
      rfl
  | escape literal unknown =>
      rw [literal.scanText, PluginLisp.scanText, unknown]
      rfl

/-- What follows an opening quote is a literal up to a closing quote, or it is broken. The induction is
    on what follows; each character or escape prolongs the literal of those after it. -/
theorem literal_or_broken (cs : List Char) :
    (∃ written content after, cs = written ++ '\x22' :: after ∧ Text.Literal written content) ∨
      ∃ reason, Text.Broken cs reason := by
  fun_induction scanText cs with
  | case1 => exact Or.inr ⟨_, .unterminated .nil⟩
  | case2 rest => exact Or.inl ⟨[], [], rest, rfl, .nil⟩
  | case3 => exact Or.inr ⟨_, .unfinished .nil⟩
  | case4 e rest c stands ih =>
      rcases ih with ⟨written, content, after, rfl, literal⟩ | ⟨reason, broken⟩
      · exact Or.inl ⟨_, _, after, rfl, .escaped stands literal⟩
      · refine Or.inr ⟨reason, ?_⟩
        cases broken with
        | unterminated literal => exact .unterminated (.escaped stands literal)
        | unfinished literal => exact .unfinished (.escaped stands literal)
        | escape literal unknown => exact .escape (.escaped stands literal) unknown
  | case5 e rest unknown => exact Or.inr ⟨_, .escape .nil unknown⟩
  | case6 c rest quote unfinished escaped ih =>
      have backslash : c ≠ '\x5c' := by
        rintro rfl
        cases rest with
        | nil => exact unfinished rfl rfl
        | cons e rest => exact escaped e rest rfl rfl
      rcases ih with ⟨written, content, after, rfl, literal⟩ | ⟨reason, broken⟩
      · exact Or.inl ⟨_, _, after, rfl, .plain quote backslash literal⟩
      · refine Or.inr ⟨reason, ?_⟩
        cases broken with
        | unterminated literal => exact .unterminated (.plain quote backslash literal)
        | unfinished literal => exact .unfinished (.plain quote backslash literal)
        | escape literal unknown => exact .escape (.plain quote backslash literal) unknown

end

/-! ### Lexemes -/

/-- The characters of one token of the given kind, as they can stand before what follows. -/
inductive Lexeme : (lexeme following : List Char) → TokenKind → Prop where
  | opening (b : Bracket) (following : List Char) : Lexeme [b.left] following (.opening b)
  | closing (b : Bracket) (following : List Char) : Lexeme [b.right] following (.closing b)
  | quote (following : List Char) : Lexeme ['\x27'] following (.mark .quote)
  | quasiquote (following : List Char) : Lexeme ['\x60'] following (.mark .quasiquote)
  | splice (following : List Char) : Lexeme ['~', '@'] following (.mark .splice)
  | unquote {following : List Char} (apart : following.head? ≠ some '@') :
      Lexeme ['~'] following (.mark .unquote)
  | text {written content : List Char} (literal : Text.Literal written content)
      (following : List Char) :
      Lexeme ('\x22' :: (written ++ ['\x22'])) following (.text (String.ofList content))
  | keyword {name following : List Char} (nonempty : name ≠ [])
      (inside : ∀ c ∈ name, isWordChar c = true) (stops : Stops following) :
      Lexeme (':' :: name) following (.keyword (String.ofList name))
  | word {word following : List Char} {kind : TokenKind} (isWord : IsWord word kind)
      (stops : Stops following) : Lexeme word following kind

/-- The text that starts with these characters cannot be cut there, for the given reason: a colon has
    no name behind it, a word starts like a number and is none, or a text literal does not end or has
    an escape that stands for nothing. -/
inductive Malformed : List Char → (reason : String) → Prop where
  | keyword {following : List Char} (stops : Stops following) :
      Malformed (':' :: following) "Keyword must have a name after `:`"
  | number {c : Char} {more following : List Char} (starts : startsWord c = true)
      (inside : ∀ d ∈ more, isWordChar d = true) (stops : Stops following)
      (numeric : looksNumeric (c :: more) = true) (plain : (c :: more).getLast? ≠ some 'N')
      (invalid : Number.readFloat? (String.ofList (c :: more)) = none) :
      Malformed (c :: more ++ following) ("Invalid number: " ++ String.ofList (c :: more))
  | text {cs : List Char} {reason : String} (broken : Text.Broken cs reason) :
      Malformed ('\x22' :: cs) reason

/-! ### The scanner at the start of a token -/

section

variable {c : Char} {cs lexeme following rest : List Char} {kind : TokenKind} {reason : String}

/-- A character that starts a token. -/
def StartsToken (c : Char) : Prop := isGap c = false ∧ c ≠ ';'

theorem startsToken_of_startsWord (starts : startsWord c = true) : StartsToken c := by
  simp only [startsWord, Bool.and_eq_true, Bool.not_eq_true', bne_iff_ne] at starts
  exact starts.1

/-- A token starts with one of the characters that are special there, or it is a word. -/
theorem StartsToken.special_or_word (starts : StartsToken c) :
    c ∈ tokenStarts ∨ startsWord c = true := by
  by_cases special : c ∈ tokenStarts
  · exact Or.inl special
  · refine Or.inr ?_
    simp [startsWord, starts.1, starts.2, special]

/-- A lexeme is one wherever a delimiter or the end follows it. -/
theorem Lexeme.before_stop (is : Lexeme lexeme following kind) (stops : Stops rest) :
    Lexeme lexeme rest kind := by
  cases is with
  | opening b => exact .opening b rest
  | closing b => exact .closing b rest
  | quote => exact .quote rest
  | quasiquote => exact .quasiquote rest
  | splice => exact .splice rest
  | unquote =>
      -- an at sign is no delimiter, so what stops a word is not one either
      refine .unquote fun at_sign => ?_
      exact absurd (stops '@' at_sign) (by decide)
  | text literal => exact .text literal rest
  | keyword nonempty inside => exact .keyword nonempty inside stops
  | word isWord => exact .word isWord stops

/-- The scanner reads a lexeme, all of it and nothing more. -/
theorem Lexeme.reads (is : Lexeme lexeme following kind) :
    ∃ c more, lexeme = c :: more ∧ StartsToken c ∧
      scanToken c (more ++ following) = .ok (kind, more.length) := by
  cases is with
  | opening b => exact ⟨b.left, [], rfl, by cases b <;> exact ⟨rfl, by decide⟩, by cases b <;> rfl⟩
  | closing b => exact ⟨b.right, [], rfl, by cases b <;> exact ⟨rfl, by decide⟩, by cases b <;> rfl⟩
  | quote => exact ⟨_, [], rfl, ⟨rfl, by decide⟩, rfl⟩
  | quasiquote => exact ⟨_, [], rfl, ⟨rfl, by decide⟩, rfl⟩
  | splice => exact ⟨_, ['@'], rfl, ⟨rfl, by decide⟩, rfl⟩
  | unquote apart =>
      refine ⟨_, [], rfl, ⟨rfl, by decide⟩, ?_⟩
      cases following with
      | nil => rfl
      | cons d following =>
          have other : d ≠ '@' := fun at_sign => apart (congrArg some at_sign)
          simp only [List.nil_append, scanToken]
          split
          · rename_i same
            cases same
            exact absurd rfl other
          · rfl
  | text literal =>
      refine ⟨_, _, rfl, ⟨rfl, by decide⟩, ?_⟩
      rw [List.append_assoc, scanToken, literal.scanText, List.singleton_append, scanText]
      simp [Except.map, Nat.add_comm]
  | keyword nonempty inside stops =>
      refine ⟨_, _, rfl, ⟨rfl, by decide⟩, ?_⟩
      simp only [scanToken]
      rw [takeWhile_isWordChar inside stops]
      simp [nonempty]
  | word isWord stops =>
      obtain ⟨starts, continues, classified⟩ := isWord
      refine ⟨_, _, rfl, startsToken_of_startsWord starts, ?_⟩
      rw [scanToken_word _ starts, takeWhile_isWordChar continues stops, classified]
      rfl

/-- The scanner fails where the text cannot be cut. -/
theorem Malformed.fails (malformed : Malformed cs reason) :
    ∃ c rest, cs = c :: rest ∧ StartsToken c ∧ scanToken c rest = .error reason := by
  cases malformed with
  | @keyword following stops =>
      refine ⟨_, _, rfl, ⟨rfl, by decide⟩, ?_⟩
      have none : following.takeWhile isWordChar = [] := by
        rw [← List.nil_append following]
        exact takeWhile_isWordChar (by simp) stops
      simp only [scanToken]
      rw [none]
      rfl
  | number starts inside stops numeric plain invalid =>
      refine ⟨_, _, List.cons_append, startsToken_of_startsWord starts, ?_⟩
      rw [scanToken_word _ starts, takeWhile_isWordChar inside stops, classifyWord, if_pos numeric,
        classifyNumber, if_neg plain, invalid]
      rfl
  | text broken =>
      refine ⟨_, _, rfl, ⟨rfl, by decide⟩, ?_⟩
      rw [scanToken, broken.scanText]
      rfl

theorem stops_dropWhile (rest : List Char) : Stops (rest.dropWhile isWordChar) := by
  intro c mem
  have := List.head?_dropWhile_not isWordChar rest
  simp only [Option.mem_def] at mem
  rw [mem] at this
  simpa [isWordChar] using this

/-- A word is classified, or it starts like a number and is none. -/
theorem classifyWord_cases (word : List Char) :
    (∃ kind, classifyWord word = .ok kind) ∨
      looksNumeric word = true ∧ word.getLast? ≠ some 'N' ∧
        Number.readFloat? (String.ofList word) = none := by
  unfold classifyWord classifyNumber
  split
  next numeric =>
    split
    next => exact Or.inl ⟨_, rfl⟩
    next plain =>
      split
      next => exact Or.inl ⟨_, rfl⟩
      next invalid => exact Or.inr ⟨numeric, plain, invalid⟩
  next =>
    split <;> exact Or.inl ⟨_, rfl⟩

/-- Where a token starts, there is a lexeme or the text cannot be cut. -/
theorem StartsToken.lexeme_or_malformed (starts : StartsToken c) (rest : List Char) :
    (∃ more following kind, rest = more ++ following ∧ Lexeme (c :: more) following kind) ∨
      ∃ reason, Malformed (c :: rest) reason := by
  have whole : rest = rest.takeWhile isWordChar ++ rest.dropWhile isWordChar :=
    List.takeWhile_append_dropWhile.symm
  have inside : ∀ d ∈ rest.takeWhile isWordChar, isWordChar d = true :=
    fun d => isWordChar_of_mem_takeWhile
  have stops := stops_dropWhile rest
  rcases starts.special_or_word with special | isWord
  · simp only [tokenStarts, List.mem_cons, List.not_mem_nil, or_false] at special
    rcases special with rfl | rfl | rfl | rfl | rfl | rfl | rfl | rfl | rfl | rfl | rfl
    · exact Or.inl ⟨[], rest, _, rfl, .opening .round rest⟩
    · exact Or.inl ⟨[], rest, _, rfl, .closing .round rest⟩
    · exact Or.inl ⟨[], rest, _, rfl, .opening .square rest⟩
    · exact Or.inl ⟨[], rest, _, rfl, .closing .square rest⟩
    · exact Or.inl ⟨[], rest, _, rfl, .opening .curly rest⟩
    · exact Or.inl ⟨[], rest, _, rfl, .closing .curly rest⟩
    · exact Or.inl ⟨[], rest, _, rfl, .quote rest⟩
    · exact Or.inl ⟨[], rest, _, rfl, .quasiquote rest⟩
    · by_cases follows : rest.head? = some '@'
      · obtain ⟨following, rfl⟩ := List.head?_eq_some_iff.1 follows
        exact Or.inl ⟨['@'], following, _, rfl, .splice following⟩
      · exact Or.inl ⟨[], rest, _, rfl, .unquote follows⟩
    · rcases literal_or_broken rest with ⟨written, content, after, rfl, literal⟩ | ⟨reason, broken⟩
      · exact Or.inl ⟨written ++ ['\x22'], after, _, by simp, .text literal after⟩
      · exact Or.inr ⟨reason, .text broken⟩
    · by_cases nonempty : rest.takeWhile isWordChar = []
      · rw [nonempty, List.nil_append] at whole
        exact Or.inr ⟨_, .keyword (whole ▸ stops)⟩
      · exact Or.inl ⟨_, _, _, whole, .keyword nonempty inside stops⟩
  · rcases classifyWord_cases (c :: rest.takeWhile isWordChar) with
      ⟨kind, classified⟩ | ⟨numeric, plain, invalid⟩
    · exact Or.inl ⟨_, _, kind, whole, .word (.intro isWord inside classified) stops⟩
    · have malformed := Malformed.number isWord inside stops numeric plain invalid
      rw [List.cons_append, ← whole] at malformed
      exact Or.inr ⟨_, malformed⟩

end

end PluginLisp
