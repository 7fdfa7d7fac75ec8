import PluginLisp.Evaluator.Primitives
import PluginLisp.Proofs.Syntax.Scanning

/-!
Which printed texts read back. The printer has more escapes than the scanner: where it writes `\0` or a
code point, the scanner knows no escape of that letter. A printed text is a literal if it has no such
character; otherwise the first of them breaks the literal, and the fault is at the opening quote.

Main result: `scan_show_text`.
-/

namespace PluginLisp

namespace Text

/-- A character that is printed as `\0` or by its code point. -/
def Coded (c : Char) : Prop := escape '\x22' c = ['\x5c', '0'] ∨ escape '\x22' c = codeEscape c

instance (c : Char) : Decidable (Coded c) := inferInstanceAs (Decidable (_ ∨ _))

section

variable {c : Char} {s : String}

/-- Every character is shown as it is, or with an escape that can be read, or it is coded. -/
theorem readable_or_coded (c : Char) : Readable c ∨ Coded c := by
  by_cases quote : c = '\x22'
  · subst quote
    exact Or.inl (by decide)
  · fun_cases shortEscape? c with
    | case1 => exact Or.inl (by decide)
    | case2 => exact Or.inl (by decide)
    | case3 => exact Or.inl (by decide)
    | case4 => exact Or.inl (by decide)
    | case5 => exact Or.inr (by decide)
    | case6 =>
        have escaped : escape '\x22' c = if isShown c then [c] else codeEscape c := by
          simp only [escape, if_neg quote, shortEscape?]
        by_cases shown : isShown c = true
        · exact Or.inl (Or.inl (by rw [escaped, if_pos shown]))
        · exact Or.inr (Or.inr (by rw [escaped, if_neg shown]))

theorem readable_of_not_coded (plain : ¬ Coded c) : Readable c :=
  (readable_or_coded c).resolve_right plain

/-- The letter behind the backslash of a coded character stands for nothing. -/
theorem Coded.unknown (coded : Coded c) :
    ∃ e more, escape '\x22' c = '\x5c' :: e :: more ∧ unescape? e = none := by
  rcases coded with nul | code
  · exact ⟨'0', [], nul, rfl⟩
  · exact ⟨'u', _, code, rfl⟩

/-- A text has no coded character, or it has a first one. -/
theorem plain_or_first (s : String) : (∀ c ∈ s.toList, ¬ Coded c) ∨
    ∃ front c back, s.toList = front ++ c :: back ∧ (∀ d ∈ front, ¬ Coded d) ∧ Coded c := by
  cases found : s.toList.find? (Coded ·) with
  | none => exact Or.inl (by simpa using List.find?_eq_none.1 found)
  | some c =>
      obtain ⟨coded, front, back, split, plain⟩ := List.find?_eq_some_iff_append.1 found
      exact Or.inr ⟨front, c, back, split, by simpa using plain, by simpa using coded⟩

/-- A text without coded characters is read back as one token. -/
theorem scan_quote_of_plain (plain : ∀ c ∈ s.toList, ¬ Coded c) :
    ∃ t last, scan (quote s) = .ok [t, last] ∧ t.kind = .text s ∧ last.kind = .finish := by
  obtain ⟨tokens, last, scanned, kinds, ends⟩ :=
    (scans_quote fun c mem => readable_of_not_coded (plain c mem)).scan
  obtain ⟨t, none, rfl, kind, nothing⟩ := List.map_eq_cons_iff.1 kinds
  obtain rfl := List.map_eq_nil_iff.1 nothing
  exact ⟨t, last, scanned, kind, ends⟩

/-- A text with a coded character cannot be read back: the fault is at the opening quote, and it names
    the first of these characters by the letter of its escape. -/
theorem scan_quote_of_coded {front back : List Char} (split : s.toList = front ++ c :: back)
    (plain : ∀ d ∈ front, ¬ Coded d) (coded : Coded c) :
    ∃ e more, escape '\x22' c = '\x5c' :: e :: more ∧
      scan (quote s) = .error (.syntaxFault 1 1 ("Invalid escape sequence \\" ++ e.toString)) := by
  obtain ⟨e, more, escaped, unknown⟩ := coded.unknown
  refine ⟨e, more, escaped, ?_⟩
  have fails : scanText (s.toList.flatMap (escape '\x22') ++ ['\x22']) =
      .error ("Invalid escape sequence \\" ++ e.toString) := by
    rw [split, List.flatMap_append, List.flatMap_cons, escaped, List.append_assoc,
      scanText_escapes fun d mem => readable_of_not_coded (plain d mem)]
    simp only [List.cons_append, scanText, unknown]
    rfl
  rw [scan, quote, String.toList_ofList, scanFrom, if_neg (by decide), if_neg (by decide), scanToken,
    fails]
  rfl

end

end Text

open Text

/-- The printed text of a text is scanned as one token, which is that text, if and only if no
    character is printed as `\0` or by its code point; if there is one, scanning fails at the opening
    quote. A text without such characters comes back from the printer of the language and the reader.
    -/
theorem scan_show_text (s : String) (cells : Cells) :
    ((∃ t last, scan ((Value.text s).show cells) = .ok [t, last] ∧ t.kind = .text s ∧
        last.kind = .finish) ↔ ∀ c ∈ s.toList, ¬ Coded c) ∧
      ((∃ reason, scan ((Value.text s).show cells) = .error (.syntaxFault 1 1 reason)) ↔
        ∃ c ∈ s.toList, Coded c) ∧
      ((∀ c ∈ s.toList, ¬ Coded c) → ∃ shown, parse shown = .ok [.text s] ∧
        ∀ (ev : Evaluator) (scope : Nat) (state : State),
          ev.runConsole .readable [.text s] scope state = .done (.ok (.text shown)) state) := by
  have shows : (Value.text s).show cells = quote s := rfl
  rw [shows]
  rcases plain_or_first s with plain | ⟨front, c, back, split, before, coded⟩
  · obtain ⟨t, last, scanned, kind, ends⟩ := scan_quote_of_plain plain
    refine ⟨⟨fun _ => plain, fun _ => ⟨t, last, scanned, kind, ends⟩⟩, ⟨?_, ?_⟩,
      fun _ => ⟨quote s, ?_, fun _ _ _ => rfl⟩⟩
    · rintro ⟨reason, fails⟩
      cases scanned.symm.trans fails
    · rintro ⟨c, mem, coded⟩
      exact absurd coded (plain c mem)
    · rw [parse, scanned]
      simp [bind, Except.bind, readAll, readForms, readStep, supply, kind, ends]
  · have mem : c ∈ s.toList := by simp [split]
    obtain ⟨e, more, -, fails⟩ := scan_quote_of_coded split before coded
    refine ⟨⟨?_, fun plain => absurd coded (plain c mem)⟩,
      ⟨fun _ => ⟨c, mem, coded⟩, fun _ => ⟨_, fails⟩⟩, fun plain => absurd coded (plain c mem)⟩
    rintro ⟨t, last, scanned, -⟩
    cases scanned.symm.trans fails

/-- A text with both kinds of quotes, a backslash and a line end. -/
def quotedPath : String := "\"c:\\\"\n\x27"

theorem scan_show_quotedPath :
    (∀ c ∈ quotedPath.toList, ¬ Coded c) ∧
      ∃ t last, scan ((Value.text quotedPath).show Cells.none) = .ok [t, last] ∧
        t.kind = .text quotedPath ∧ last.kind = .finish := by
  have chars : quotedPath.toList = ['\x22', 'c', ':', '\x5c', '\x22', '\n', '\x27'] := rfl
  have plain : ∀ c ∈ quotedPath.toList, ¬ Coded c := by
    simp only [chars, List.forall_mem_cons, List.not_mem_nil, false_implies, implies_true, and_true]
    decide
  exact ⟨plain, (scan_show_text quotedPath Cells.none).1.2 plain⟩

end PluginLisp
