import PluginLisp.Proofs.Syntax.Lexemes

/-!
Nothing of a text is lost when it is cut into tokens, and tokens know where they stand. A text that can
be cut is lexemes with spacing before them and an ending after them; the tokens are these lexemes, each
with the line and the column that the characters before it make up. In a text that cannot be cut the
error names the place where no lexeme starts, and the characters up to there are lexemes and spacing
again.

Main results: `cut_or_uncut`, `scan_cuts`.
-/

namespace PluginLisp

/-! ### Spacing -/

/-- The characters that may stand between tokens. -/
def separators : List Char := [' ', '\t', '\r', '\n', ',']

theorem isGap_iff {c : Char} : isGap c = true ↔ c ∈ separators := by
  simp only [isGap, separators, Bool.or_eq_true, beq_iff_eq, List.mem_cons, List.not_mem_nil]
  grind

/-- What stands between tokens: separators, and comments with the line ends after them. -/
inductive Spacing : List Char → Prop where
  | nil : Spacing []
  | separator {c : Char} {rest : List Char} (mem : c ∈ separators) (more : Spacing rest) :
      Spacing (c :: rest)
  | comment {text rest : List Char} (line : '\n' ∉ text) (more : Spacing rest) :
      Spacing (';' :: (text ++ '\n' :: rest))

/-- What stands after the last token: spacing, and at the very end perhaps a comment without a line end
    after it. -/
inductive Ending : List Char → Prop where
  | spacing {cs : List Char} (spacing : Spacing cs) : Ending cs
  | comment {cs text : List Char} (spacing : Spacing cs) (line : '\n' ∉ text) :
      Ending (cs ++ ';' :: text)

theorem Spacing.append {cs ds : List Char} (first : Spacing cs) (second : Spacing ds) :
    Spacing (cs ++ ds) := by
  induction first with
  | nil => exact second
  | separator mem more ih => exact .separator mem ih
  | comment line more ih =>
      rw [List.cons_append, List.append_assoc]
      exact .comment line ih

theorem Spacing.ending {cs ds : List Char} (spacing : Spacing cs) (ending : Ending ds) :
    Ending (cs ++ ds) := by
  cases ending with
  | spacing more => exact .spacing (spacing.append more)
  | comment more line =>
      rw [← List.append_assoc]
      exact .comment (spacing.append more) line

/-- Any text is spacing up to its end, or up to a last comment or the start of a token. -/
theorem exists_spacing : ∀ cs : List Char, Ending cs ∨
    ∃ spacing c rest, cs = spacing ++ c :: rest ∧ Spacing spacing ∧ StartsToken c
  | [] => Or.inl (.spacing .nil)
  | c :: rest => by
      by_cases gap : isGap c = true
      · have separator : Spacing [c] := .separator (isGap_iff.1 gap) .nil
        rcases exists_spacing rest with ending | ⟨spacing, d, more, rfl, spaced, starts⟩
        · exact Or.inl (separator.ending ending)
        · exact Or.inr ⟨c :: spacing, d, more, rfl, separator.append spaced, starts⟩
      · by_cases comment : c = ';'
        · subst comment
          -- up to the first line end it is spacing; without one, it is the end of the text
          by_cases line : '\n' ∈ rest
          · obtain ⟨text, after, rfl, first⟩ := List.eq_append_cons_of_mem line
            have comment : Spacing (';' :: (text ++ ['\n'])) := .comment first .nil
            have whole : ';' :: (text ++ '\n' :: after) = ';' :: (text ++ ['\n']) ++ after := by
              simp
            have shorter : after.length < (';' :: (text ++ '\n' :: after)).length := by
              simp
              omega
            rw [whole]
            rcases exists_spacing after with ending | ⟨spacing, d, more, rfl, spaced, starts⟩
            · exact Or.inl (comment.ending ending)
            · exact Or.inr ⟨_, d, more, (List.append_assoc ..).symm, comment.append spaced, starts⟩
          · exact Or.inl (.comment .nil line)
        · exact Or.inr ⟨[], c, rest, rfl, .nil, by simpa using gap, comment⟩
termination_by cs => cs.length

theorem takeWhile_line {text : List Char} (line : '\n' ∉ text) (rest : List Char)
    (ends : ∀ c ∈ rest.head?, c = '\n') : (text ++ rest).takeWhile (· != '\n') = text := by
  refine (Number.splitWhile rest (fun c mem => ?_) fun c mem => ?_).1
  · simpa using ne_of_mem_of_not_mem mem line
  · simp [ends c mem]

/-- The scanner passes spacing. -/
theorem scanFrom_spacing {cs : List Char} (spacing : Spacing cs) (rest : List Char) (p : Position) :
    scanFrom p (cs ++ rest) = scanFrom (p.past cs) rest := by
  induction spacing generalizing p with
  | nil => rfl
  | separator mem more ih =>
      rw [List.cons_append, scanFrom, if_pos (isGap_iff.2 mem), ih]
      rfl
  | @comment text others line more ih =>
      have stops := takeWhile_line line ('\n' :: (others ++ rest)) (by simp)
      rw [List.cons_append, List.append_assoc, List.cons_append, scanFrom, if_neg (by decide),
        if_pos rfl]
      simp only [stops, List.drop_left]
      rw [scanFrom, if_pos (by decide), ih]
      simp [Position.past]

/-- The scanner answers with the end of the text at an ending. -/
theorem scanFrom_ending {cs : List Char} (ending : Ending cs) (p : Position) :
    scanFrom p cs = .ok [⟨.finish, "", p.past cs⟩] := by
  cases ending with
  | spacing spacing =>
      have passed := scanFrom_spacing spacing [] p
      rw [List.append_nil] at passed
      rw [passed, scanFrom]
  | @comment before text spacing line =>
      have whole := takeWhile_line line [] (by simp)
      rw [List.append_nil] at whole
      rw [scanFrom_spacing spacing, scanFrom, if_neg (by decide), if_pos rfl]
      simp only [whole, List.drop_length]
      rw [scanFrom]
      simp [Position.past]

/-! ### Places -/

namespace Position

/-- The place that comes after some text: its line is the number of line ends so far and one, its column
    is the number of characters since the last of them and one. -/
def after (text : List Char) : Position :=
  ⟨1 + text.count '\n', 1 + (text.reverse.takeWhile (· != '\n')).length⟩

example : after "(a\n  ".toList = ⟨2, 3⟩ := by decide

theorem after_concat (text : List Char) (c : Char) : after (text ++ [c]) = (after text).next c := by
  by_cases line : c = '\n'
  · simp [after, next, line, Nat.add_assoc]
  · simp [after, next, line, Nat.add_comm]

/-- Passing characters one by one leads to the place that comes after them. -/
theorem past_after (text cs : List Char) : (after text).past cs = after (text ++ cs) := by
  induction cs generalizing text with
  | nil => simp [past]
  | cons c rest ih =>
      calc (after text).past (c :: rest)
          = (after (text ++ [c])).past rest := by rw [after_concat]; rfl
        _ = after (text ++ c :: rest) := by rw [ih]; simp

end Position

/-! ### Texts in pieces -/

/-- A lexeme with the spacing before it. -/
structure Piece where
  spacing : List Char
  lexeme : List Char
  kind : TokenKind

/-- The characters of a piece. -/
def Piece.written (piece : Piece) : List Char := piece.spacing ++ piece.lexeme

/-- The characters of several pieces. -/
def written (pieces : List Piece) : List Char := pieces.flatMap Piece.written

/-- The tokens of pieces that stand after some text. -/
def tokensAfter (before : List Char) : List Piece → List Token
  | [] => []
  | piece :: rest =>
      ⟨piece.kind, String.ofList piece.lexeme, .after (before ++ piece.spacing)⟩ ::
        tokensAfter (before ++ piece.written) rest

/-- Pieces that can stand one after the other before the rest of a text. -/
inductive Fit : List Piece → (rest : List Char) → Prop where
  | nil (rest : List Char) : Fit [] rest
  | cons {piece : Piece} {pieces : List Piece} {rest : List Char} (spacing : Spacing piece.spacing)
      (lexeme : Lexeme piece.lexeme (written pieces ++ rest) piece.kind) (others : Fit pieces rest) :
      Fit (piece :: pieces) rest

theorem Fit.spacing {pieces : List Piece} {rest : List Char} (fit : Fit pieces rest) {piece : Piece}
    (mem : piece ∈ pieces) : Spacing piece.spacing := by
  induction fit with
  | nil => cases mem
  | cons spacing lexeme others ih =>
      rcases List.mem_cons.1 mem with rfl | member
      · exact spacing
      · exact ih member

/-- A text that is pieces and an ending. -/
structure Cut (text : List Char) (pieces : List Piece) (ending : List Char) : Prop where
  whole : text = written pieces ++ ending
  fit : Fit pieces ending
  ends : Ending ending

/-- A text that is pieces and then, after some spacing, something that is no lexeme. -/
structure Uncut (text : List Char) (pieces : List Piece) (spacing offending : List Char)
    (reason : String) : Prop where
  whole : text = written pieces ++ (spacing ++ offending)
  fit : Fit pieces (spacing ++ offending)
  spaced : Spacing spacing
  malformed : Malformed offending reason

/-- A piece more at the front. -/
theorem written_cons (piece : Piece) (pieces : List Piece) (rest : List Char) :
    written (piece :: pieces) ++ rest =
      piece.spacing ++ (piece.lexeme ++ (written pieces ++ rest)) := by
  simp [written, Piece.written]

/-- The scanner at a lexeme. -/
theorem scanFrom_lexeme {lexeme rest : List Char} {kind : TokenKind} (is : Lexeme lexeme rest kind)
    (p : Position) : scanFrom p (lexeme ++ rest) =
      (scanFrom (p.past lexeme) rest).map (⟨kind, String.ofList lexeme, p⟩ :: ·) := by
  obtain ⟨c, more, rfl, starts, reads⟩ := is.reads
  exact scanFrom_token p c more rest kind starts.1 starts.2 reads

/-- The scanner passes pieces and answers with their tokens. -/
theorem scanFrom_pieces {pieces : List Piece} {rest : List Char} (fit : Fit pieces rest)
    (before : List Char) : scanFrom (.after before) (written pieces ++ rest) =
      (scanFrom (.after (before ++ written pieces)) rest).map (tokensAfter before pieces ++ ·) := by
  induction fit generalizing before with
  | nil rest =>
      cases scanned : scanFrom (.after before) rest <;>
        simp [written, tokensAfter, scanned, Except.map]
  | @cons piece pieces rest spacing lexeme others ih =>
      have place : (Position.after (before ++ piece.spacing)).past piece.lexeme =
          .after (before ++ piece.written) := by
        rw [Position.past_after, List.append_assoc, Piece.written]
      have behind : before ++ piece.written ++ written pieces =
          before ++ written (piece :: pieces) := by
        simp [written]
      rw [written_cons, scanFrom_spacing spacing, Position.past_after, scanFrom_lexeme lexeme, place,
        ih, behind]
      cases scanFrom (.after (before ++ written (piece :: pieces))) rest <;>
        simp [tokensAfter, Except.map]

/-- The scanner on a text that is cut. -/
theorem Cut.scanFrom {text : List Char} {pieces : List Piece} {ending : List Char}
    (cut : Cut text pieces ending) : PluginLisp.scanFrom .start text =
      .ok (tokensAfter [] pieces ++ [⟨.finish, "", .after text⟩]) := by
  obtain ⟨rfl, fit, ends⟩ := cut
  have passed := scanFrom_pieces fit []
  rw [scanFrom_ending ends, Position.past_after] at passed
  exact passed

/-- The scanner on a text that cannot be cut. -/
theorem Uncut.scanFrom {text : List Char} {pieces : List Piece} {spacing offending : List Char}
    {reason : String} (uncut : Uncut text pieces spacing offending reason) :
    PluginLisp.scanFrom .start text =
      .error (.syntaxFault (Position.after (written pieces ++ spacing)).line
        (Position.after (written pieces ++ spacing)).column reason) := by
  obtain ⟨rfl, fit, spaced, malformed⟩ := uncut
  obtain ⟨c, rest, rfl, starts, fails⟩ := malformed.fails
  have passed := scanFrom_pieces fit []
  rw [scanFrom_spacing spaced, Position.past_after, PluginLisp.scanFrom,
    if_neg (by simp [starts.1]), if_neg starts.2, fails] at passed
  exact passed

/-- Any text is cut, or it cannot be. The induction is on the length of the text, a piece at a time. -/
theorem cut_or_uncut (text : List Char) :
    (∃ pieces ending, Cut text pieces ending) ∨
      ∃ pieces spacing offending reason, Uncut text pieces spacing offending reason := by
  rcases exists_spacing text with ending | ⟨spacing, c, rest, rfl, spaced, starts⟩
  · exact Or.inl ⟨[], text, rfl, .nil text, ending⟩
  · rcases starts.lexeme_or_malformed rest with
      ⟨more, following, kind, rfl, lexeme⟩ | ⟨reason, malformed⟩
    · have shorter : following.length < (spacing ++ c :: (more ++ following)).length := by
        simp
        omega
      rcases cut_or_uncut following with
        ⟨pieces, ending, rfl, fit, ends⟩ |
          ⟨pieces, spacing', offending, reason, rfl, fit, spaced', malformed⟩
      · refine Or.inl ⟨⟨spacing, c :: more, kind⟩ :: pieces, ending, ?_,
          .cons spaced lexeme fit, ends⟩
        rw [written_cons]
        rfl
      · refine Or.inr ⟨⟨spacing, c :: more, kind⟩ :: pieces, spacing', offending, reason, ?_,
          .cons spaced lexeme fit, spaced', malformed⟩
        rw [written_cons]
        rfl
    · exact Or.inr ⟨[], spacing, c :: rest, reason, rfl, .nil _, spaced, malformed⟩
termination_by text.length

/-- A text is scanned exactly if it is lexemes with spacing before them and an ending, and the tokens
    are these lexemes, in order and with their places, and the end of the text at its place. Scanning
    fails exactly if, after lexemes and spacing, something stands that is no lexeme, and the error is
    at its place. -/
theorem scan_cuts (source : String) :
    (∀ tokens, scan source = .ok tokens ↔ ∃ pieces ending, Cut source.toList pieces ending ∧
        tokens = tokensAfter [] pieces ++ [⟨.finish, "", .after source.toList⟩]) ∧
      ∀ e, scan source = .error e ↔ ∃ pieces spacing offending reason,
        Uncut source.toList pieces spacing offending reason ∧
          e = .syntaxFault (Position.after (written pieces ++ spacing)).line
            (Position.after (written pieces ++ spacing)).column reason := by
  refine ⟨fun tokens => ⟨fun scanned => ?_, ?_⟩, fun e => ⟨fun fails => ?_, ?_⟩⟩
  · rcases cut_or_uncut source.toList with
      ⟨pieces, ending, cut⟩ | ⟨pieces, spacing, offending, reason, uncut⟩
    · exact ⟨pieces, ending, cut, Except.ok.inj (scanned.symm.trans cut.scanFrom)⟩
    · exact absurd (scanned.symm.trans uncut.scanFrom) (by simp)
  · rintro ⟨pieces, ending, cut, rfl⟩
    exact cut.scanFrom
  · rcases cut_or_uncut source.toList with
      ⟨pieces, ending, cut⟩ | ⟨pieces, spacing, offending, reason, uncut⟩
    · exact absurd (fails.symm.trans cut.scanFrom) (by simp)
    · exact ⟨pieces, spacing, offending, reason, uncut,
        Except.error.inj (fails.symm.trans uncut.scanFrom)⟩
  · rintro ⟨pieces, spacing, offending, reason, uncut, rfl⟩
    exact uncut.scanFrom

example : scan "(a ; b\n  \"c" = .error (.syntaxFault 2 3 "Unterminated string") := by
  cbv

end PluginLisp
