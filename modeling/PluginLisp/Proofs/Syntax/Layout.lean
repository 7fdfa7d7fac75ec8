import PluginLisp.Proofs.Syntax.Grammar
import PluginLisp.Proofs.Syntax.Places

/-!
The layout of a text does not matter. A lexeme is one before any spacing, so the lexemes of a text may
be set out again with other spacing between them: as long as there is some between any two, the scanner
reads the same tokens at other places, and the reader builds the same forms.

Main result: `scan_layOut`.
-/

namespace PluginLisp

/-! ### Lexemes apart -/

theorem stops_separator {c : Char} (mem : c ∈ separators) (rest : List Char) : Stops (c :: rest) := by
  have delimiters : separators.all isDelimiter = true := by decide
  exact stops_cons rest (List.all_eq_true.1 delimiters c mem)

/-- Spacing stops what stands before it, unless there is none and what follows does not either. -/
theorem Spacing.stops {cs : List Char} (spacing : Spacing cs) (rest : List Char)
    (otherwise : cs = [] → Stops rest) : Stops (cs ++ rest) := by
  cases spacing with
  | nil => exact otherwise rfl
  | separator mem more => exact stops_separator mem _
  | comment line more => exact stops_cons _ (by decide)

/-- An ending stops what stands before it. -/
theorem Ending.stops {cs : List Char} (ending : Ending cs) : Stops cs := by
  cases ending with
  | spacing spacing =>
      rw [← List.append_nil cs]
      exact spacing.stops [] fun _ => by simp [Stops]
  | comment spacing line => exact spacing.stops _ fun _ => stops_cons _ (by decide)

/-! ### Other spacing -/

/-- The lexemes of tokens, each with a spacing before it, and an ending. -/
def layOut (spacings : List (List Char)) (tokens : List Token) (ending : List Char) : String :=
  String.ofList
    ((List.zipWith (fun spacing t => spacing ++ t.lexeme.toList) spacings tokens).flatten ++ ending)

/-- What may stand before each of the tokens, and after them. -/
structure Layout (spacings : List (List Char)) (tokens : List Token) (ending : List Char) : Prop where
  length : spacings.length = tokens.length
  spaced : ∀ spacing ∈ spacings, Spacing spacing
  ends : Ending ending

/-- What a token says, wherever it stands. -/
def Token.content (t : Token) : TokenKind × String := (t.kind, t.lexeme)

/-- Pieces with other spacing. -/
def respace (spacings : List (List Char)) (pieces : List Piece) : List Piece :=
  List.zipWith (fun spacing piece => { piece with spacing := spacing }) spacings pieces

section

variable {spacings : List (List Char)} {pieces : List Piece} {rest ending before : List Char}

theorem respace_self (pieces : List Piece) : respace (pieces.map Piece.spacing) pieces = pieces := by
  induction pieces with
  | nil => rfl
  | cons piece pieces ih => exact congrArg (piece :: ·) ih

@[simp] theorem length_tokensAfter : (tokensAfter before pieces).length = pieces.length := by
  induction pieces generalizing before with
  | nil => rfl
  | cons piece pieces ih => simp [tokensAfter, ih]

/-- What tokens say depends on the lexemes of the pieces alone. -/
theorem content_tokensAfter : (tokensAfter before pieces).map Token.content =
    pieces.map fun piece => (piece.kind, String.ofList piece.lexeme) := by
  induction pieces generalizing before with
  | nil => rfl
  | cons piece pieces ih => simp [tokensAfter, Token.content, ih]

theorem content_respace (length : spacings.length = pieces.length) (before after : List Char) :
    (tokensAfter after (respace spacings pieces)).map Token.content =
      (tokensAfter before pieces).map Token.content := by
  rw [content_tokensAfter, content_tokensAfter]
  induction spacings generalizing pieces with
  | nil =>
      obtain rfl := List.length_eq_zero_iff.1 length.symm
      rfl
  | cons spacing spacings ih =>
      cases pieces with
      | nil => cases length
      | cons piece pieces => exact congrArg (_ :: ·) (ih (Nat.succ.inj length))

theorem layOut_tokensAfter (spacings : List (List Char)) (ending : List Char) :
    layOut spacings (tokensAfter before pieces) ending =
      String.ofList (written (respace spacings pieces) ++ ending) := by
  suffices same : List.zipWith (fun spacing t => spacing ++ t.lexeme.toList) spacings
      (tokensAfter before pieces) = (respace spacings pieces).map Piece.written by
    rw [layOut, same, written, List.flatMap_def]
  induction pieces generalizing spacings before with
  | nil => simp [tokensAfter, respace]
  | cons piece pieces ih =>
      cases spacings with
      | nil => rfl
      | cons spacing spacings =>
          have others := @ih (before ++ piece.written) spacings
          simpa [tokensAfter, respace, Piece.written] using others

/-- Pieces fit with other spacing, if there is some between any two. -/
theorem Fit.respace (fit : Fit pieces rest) (length : spacings.length = pieces.length)
    (spaced : ∀ spacing ∈ spacings, Spacing spacing)
    (apart : ∀ spacing ∈ spacings.tail, spacing ≠ []) (stops : Stops ending) :
    Fit (PluginLisp.respace spacings pieces) ending := by
  induction fit generalizing spacings with
  | nil rest =>
      obtain rfl := List.length_eq_zero_iff.1 length
      exact .nil ending
  | @cons piece pieces rest spacing lexeme others ih =>
      obtain ⟨first, spacings, rfl⟩ := List.exists_cons_of_length_eq_add_one length
      have follows : Stops (written (PluginLisp.respace spacings pieces) ++ ending) := by
        cases spacings with
        | nil => simpa [PluginLisp.respace, written] using stops
        | cons next spacings =>
            obtain ⟨piece', pieces, rfl⟩ :=
              List.exists_cons_of_length_eq_add_one (Nat.succ.inj length).symm
            have nonempty := apart next List.mem_cons_self
            have between := spaced next (by simp)
            rw [PluginLisp.respace, List.zipWith_cons_cons, written_cons]
            exact between.stops _ fun empty => absurd empty nonempty
      refine .cons (spaced first List.mem_cons_self) (lexeme.before_stop follows) ?_
      refine ih (Nat.succ.inj length) (fun s mem => spaced s (List.mem_cons_of_mem first mem)) ?_
      exact fun s mem => apart s (List.mem_of_mem_tail mem)

end

/-! ### The same forms -/

/-- What the reader makes of tokens does not depend on their places. -/
theorem readAll_of_kinds {tokens tokens' : List Token} {last last' : Token} {forms : List Form}
    (ends : last.kind = .finish) (ends' : last'.kind = .finish)
    (inner : ∀ t ∈ tokens, t.kind ≠ .finish)
    (same : tokens'.map Token.kind = tokens.map Token.kind)
    (reads : readAll (tokens ++ [last]) = .ok forms) : readAll (tokens' ++ [last']) = .ok forms := by
  have start : readForms (Derivation.forms []).reverse [] (tokens ++ [last]) = .ok forms := reads
  obtain ⟨ds, uses, rfl⟩ := Covers.readForms ends inner .nil start
  have kinds : tokens'.map Token.kind = Derivation.kindsAll ds := by
    simpa [Derivation.kindsAll] using same.trans uses.symm
  simpa [readAll] using readForms_derivations ends' ds kinds []

theorem kind_eq_of_content {tokens tokens' : List Token}
    (same : tokens'.map Token.content = tokens.map Token.content) :
    tokens'.map Token.kind = tokens.map Token.kind := by
  have kinds := congrArg (List.map Prod.fst) same
  rwa [List.map_map, List.map_map] at kinds

/-- The end of a text is the last of its tokens, and no other token is that. -/
theorem finish_of_scan {source : String} {tokens : List Token} {last : Token}
    (scanned : scan source = .ok (tokens ++ [last])) :
    last.kind = .finish ∧ ∀ t ∈ tokens, t.kind ≠ .finish := by
  obtain ⟨inner, last', same, ends, lexical⟩ := scanFrom_spec scanned
  obtain ⟨rfl, rfl⟩ : tokens = inner ∧ last = last' := by simpa using same
  exact ⟨ends, fun t mem => (lexical t mem).ne_finish⟩

/-- Two texts with the same tokens at other places are read as the same forms. -/
theorem parse_of_content {source text : String} {tokens tokens' : List Token} {last last' : Token}
    {forms : List Form} (scanned : scan source = .ok (tokens ++ [last]))
    (scanned' : scan text = .ok (tokens' ++ [last']))
    (same : tokens'.map Token.content = tokens.map Token.content)
    (parsed : parse source = .ok forms) : parse text = .ok forms := by
  obtain ⟨ends, inner⟩ := finish_of_scan scanned
  obtain ⟨ends', -⟩ := finish_of_scan scanned'
  have reads : readAll (tokens ++ [last]) = .ok forms := by
    rw [parse, scanned] at parsed
    exact parsed
  rw [parse, scanned']
  exact readAll_of_kinds ends ends' inner (kind_eq_of_content same) reads

/-- The pieces of a text that is scanned. -/
theorem cut_of_scan {source : String} {tokens : List Token} {last : Token}
    (scanned : scan source = .ok (tokens ++ [last])) :
    ∃ pieces ending, Cut source.toList pieces ending ∧ tokens = tokensAfter [] pieces := by
  rcases cut_or_uncut source.toList with
    ⟨pieces, ending, cut⟩ | ⟨pieces, spacing, offending, reason, uncut⟩
  · have same := Except.ok.inj (scanned.symm.trans cut.scanFrom)
    exact ⟨pieces, ending, cut, (List.append_inj' same rfl).1⟩
  · exact absurd (scanned.symm.trans uncut.scanFrom) (by simp)

/-- The lexemes of a text may be set out with any other spacing, if there is some between any two. The
    text as it is is one way to set them out; every other one is scanned as tokens of the same kinds and
    with the same lexemes, in the same order, and read as the same forms. -/
theorem scan_layOut {source : String} {tokens : List Token} {last : Token}
    (scanned : scan source = .ok (tokens ++ [last])) :
    (∃ spacings ending, Layout spacings tokens ending ∧ layOut spacings tokens ending = source) ∧
      ∀ spacings ending, Layout spacings tokens ending → (∀ spacing ∈ spacings.tail, spacing ≠ []) →
        (∃ tokens' last', scan (layOut spacings tokens ending) = .ok (tokens' ++ [last']) ∧
          last'.kind = .finish ∧ tokens'.map Token.content = tokens.map Token.content) ∧
        ∀ forms, parse (layOut spacings tokens ending) = .ok forms ↔ parse source = .ok forms := by
  obtain ⟨pieces, ending, cut, rfl⟩ := cut_of_scan scanned
  refine ⟨⟨pieces.map Piece.spacing, ending, ⟨by simp, ?_, cut.ends⟩, ?_⟩, ?_⟩
  · intro spacing mem
    obtain ⟨piece, member, rfl⟩ := List.mem_map.1 mem
    exact cut.fit.spacing member
  · rw [layOut_tokensAfter, respace_self, ← cut.whole, String.ofList_toList]
  · intro spacings ending layout apart
    have length : spacings.length = pieces.length := by simpa using layout.length
    have recut : Cut (layOut spacings (tokensAfter [] pieces) ending).toList
        (respace spacings pieces) ending :=
      ⟨by rw [layOut_tokensAfter, String.toList_ofList],
        cut.fit.respace length layout.spaced apart layout.ends.stops, layout.ends⟩
    have rescanned : scan (layOut spacings (tokensAfter [] pieces) ending) = .ok _ := recut.scanFrom
    have same := content_respace length [] []
    exact ⟨⟨_, _, rescanned, rfl, same⟩, fun forms =>
      ⟨parse_of_content rescanned scanned same.symm, parse_of_content scanned rescanned same⟩⟩

/-- The tokens of a text in which some stand next to each other: a tilde that is not to meet the at sign
    of a name, and a text literal with the signs of a comment and of a bracket in it. -/
def crowdedTokens : List Token :=
  [⟨.opening .round, "(", ⟨1, 1⟩⟩, ⟨.mark .unquote, "~", ⟨1, 2⟩⟩, ⟨.symbol "@x", "@x", ⟨1, 4⟩⟩,
    ⟨.text "; )", "\"; )\"", ⟨1, 6⟩⟩, ⟨.mark .quote, "\x27", ⟨1, 11⟩⟩, ⟨.symbol "y", "y", ⟨1, 12⟩⟩,
    ⟨.closing .round, ")", ⟨1, 13⟩⟩]

/-- Other spacing for them: nothing at the front, and two line ends, one of them after a comment. -/
def looseSpacings : List (List Char) :=
  [[], [' '], [','], ['\n', '\t'], [';', 'c', '\n'], [' '], [' ']]

theorem scan_layOut_crowdedTokens :
    scan "(~ @x\"; )\"\x27y)" = .ok (crowdedTokens ++ [⟨.finish, "", ⟨1, 14⟩⟩]) ∧
      Layout looseSpacings crowdedTokens [';'] ∧ (∀ spacing ∈ looseSpacings.tail, spacing ≠ []) ∧
      (∃ tokens' last', scan "( ~,@x\n\t\"; )\";c\n\x27 y );" = .ok (tokens' ++ [last']) ∧
        last'.kind = .finish ∧ tokens'.map Token.content = crowdedTokens.map Token.content) ∧
      ∀ forms, parse "( ~,@x\n\t\"; )\";c\n\x27 y );" = .ok forms ↔
        parse "(~ @x\"; )\"\x27y)" = .ok forms := by
  have scanned : scan "(~ @x\"; )\"\x27y)" =
      .ok (crowdedTokens ++ [⟨.finish, "", ⟨1, 14⟩⟩]) := by
    simp [scan, scanFrom, isGap, scanToken, isWordChar, isDelimiter, Text.isBlank, classifyWord,
      looksNumeric, Number.isDigit, scanText, Except.map, Position.start, Position.past,
      Position.next, crowdedTokens]
  have blank {c : Char} (mem : c ∈ separators) : Spacing [c] := .separator mem .nil
  have comment : Spacing (';' :: (['c'] ++ ['\n'])) := .comment (by decide) .nil
  have layout : Layout looseSpacings crowdedTokens [';'] := by
    refine ⟨rfl, fun spacing mem => ?_, .comment .nil List.not_mem_nil⟩
    simp only [looseSpacings, List.mem_cons, List.not_mem_nil, or_false] at mem
    rcases mem with rfl | rfl | rfl | rfl | rfl | rfl | rfl
    · exact .nil
    · exact blank (by decide)
    · exact blank (by decide)
    · exact .separator (by decide) (blank (by decide))
    · exact comment
    · exact blank (by decide)
    · exact blank (by decide)
  have apart : ∀ spacing ∈ looseSpacings.tail, spacing ≠ [] := by decide
  have shown : layOut looseSpacings crowdedTokens [';'] =
      "( ~,@x\n\t\"; )\";c\n\x27 y );" := by
    decide
  have loose := (scan_layOut scanned).2 looseSpacings [';'] layout apart
  rw [shown] at loose
  exact ⟨scanned, layout, apart, loose⟩

end PluginLisp
