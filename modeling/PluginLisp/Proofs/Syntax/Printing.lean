import PluginLisp.Proofs.Number.Text
import PluginLisp.Proofs.Syntax.Grammar
import PluginLisp.Proofs.Syntax.Scanning
import PluginLisp.Value.Text

/-!
Printed code reads back. What the reader builds from a text has names that the scanner reads again, and
the printer puts a space or a bracket between any two tokens, so the tokens of a printed form are those
of a derivation of the form. A mark comes back as the list that it abbreviates.

Main results: `Form.parse_show`, `parse_show_of_mem_parse`.
-/

namespace PluginLisp

open PluginLisp.Derivation

mutual

/-- The literals of a form are such that their texts read back: numbers are finite and not the negative
    zero, and texts hold no character that is shown by its code point. -/
def Form.Printable : Form → Prop
  | .number x => Number.isFinite x = true ∧ x ≠ -0.0
  | .text s => ∀ c ∈ s.toList, Text.Readable c
  | .list items => Form.AllPrintable items
  | .vector items => Form.AllPrintable items
  | .table items => Form.AllPrintable items
  | _ => True

/-- The literals of all of the forms are such that their texts read back. -/
def Form.AllPrintable : List Form → Prop
  | [] => True
  | f :: rest => f.Printable ∧ Form.AllPrintable rest

end

mutual

/-- A form as the reader builds it: its names are those of tokens, the items of a map literal come in
    pairs, and no value is embedded. -/
def Form.Lexical : Form → Prop
  | .big digits => (TokenKind.big digits).Lexical
  | .keyword name => (TokenKind.keyword name).Lexical
  | .symbol name => (TokenKind.symbol name).Lexical
  | .list items => Form.AllLexical items
  | .vector items => Form.AllLexical items
  | .table items => items.length % 2 = 0 ∧ Form.AllLexical items
  | .literal _ => False
  | _ => True

/-- All of the forms are as the reader builds them. -/
def Form.AllLexical : List Form → Prop
  | [] => True
  | f :: rest => f.Lexical ∧ Form.AllLexical rest

end

theorem Form.allLexical_iff {fs : List Form} : Form.AllLexical fs ↔ ∀ f ∈ fs, f.Lexical := by
  induction fs with
  | nil => simp [Form.AllLexical]
  | cons f rest ih => simp [Form.AllLexical, ih]

/-! ### What is derived from scanned tokens -/

/-- The names that marks abbreviate are names of tokens. -/
theorem Mark.symbol_lexical (m : Mark) : (TokenKind.symbol m.symbol).Lexical := by
  cases m with
  | quote => exact .of_all (c := 'q') rfl rfl rfl
  | quasiquote => exact .of_all (c := 'q') rfl rfl rfl
  | unquote => exact .of_all (c := 'u') rfl rfl rfl
  | splice => exact .of_all (c := 'u') rfl rfl rfl

theorem Leaf.form_lexical {l : Leaf} (lexical : l.kind.Lexical) : l.form.Lexical := by
  cases l <;> exact lexical

mutual

/-- A form that is derived from tokens of the scanner is as the reader builds it. -/
theorem Derivation.form_lexical : ∀ d : Derivation, (∀ k ∈ d.kinds, k.Lexical) → d.form.Lexical
  | leaf l, lexical => by
      rw [form]
      exact Leaf.form_lexical (lexical l.kind (by simp [kinds]))
  | list items, lexical => by
      rw [form]
      exact forms_lexical items fun k mem => lexical k (by simp [kinds, mem])
  | vector items, lexical => by
      rw [form]
      exact forms_lexical items fun k mem => lexical k (by simp [kinds, mem])
  | table entries, lexical => by
      rw [form]
      exact ⟨length_formsPairs entries,
        formsPairs_lexical entries fun k mem => lexical k (by simp [kinds, mem])⟩
  | marked m inner, lexical => by
      rw [form]
      exact ⟨m.symbol_lexical, inner.form_lexical fun k mem => lexical k (by simp [kinds, mem]),
        trivial⟩

theorem Derivation.forms_lexical : ∀ ds : List Derivation, (∀ k ∈ kindsAll ds, k.Lexical) →
    Form.AllLexical (forms ds)
  | [], _ => by
      rw [forms]
      trivial
  | d :: rest, lexical => by
      rw [forms]
      exact ⟨d.form_lexical fun k mem => lexical k (by simp [kindsAll, mem]),
        forms_lexical rest fun k mem => lexical k (by simp [kindsAll, mem])⟩

theorem Derivation.formsPairs_lexical : ∀ entries : List (Derivation × Derivation),
    (∀ k ∈ kindsPairs entries, k.Lexical) → Form.AllLexical (formsPairs entries)
  | [], _ => by
      rw [formsPairs]
      trivial
  | (key, value) :: rest, lexical => by
      rw [formsPairs]
      exact ⟨key.form_lexical fun k mem => lexical k (by simp [kindsPairs, mem]),
        value.form_lexical fun k mem => lexical k (by simp [kindsPairs, mem]),
        formsPairs_lexical rest fun k mem => lexical k (by simp [kindsPairs, mem])⟩

end

/-- The forms of a text are as the reader builds them. -/
theorem allLexical_of_parse {source : String} {fs : List Form} (parsed : parse source = .ok fs) :
    Form.AllLexical fs := by
  cases scanned : scan source with
  | error e =>
      rw [parse, scanned] at parsed
      cases parsed
  | ok tokens =>
      obtain ⟨inner, last, rfl, ends, lexical⟩ := scanFrom_spec scanned
      have reads : readForms (forms []).reverse [] (inner ++ [last]) = .ok fs := by
        rw [parse, scanned] at parsed
        exact parsed
      have proper : ∀ t ∈ inner, t.kind ≠ .finish := fun t mem => (lexical t mem).ne_finish
      obtain ⟨ds, uses, rfl⟩ := Covers.readForms ends proper .nil reads
      refine forms_lexical ds fun k mem => ?_
      rw [uses] at mem
      obtain ⟨t, member, rfl⟩ := List.mem_map.1 (by simpa [kindsAll] using mem)
      exact lexical t member

/-! ### What is printed -/

theorem Scans.enclosed {texts : List String} {ks : List TokenKind} (b : Bracket)
    (scans : Scans (" ".intercalate texts).toList ks) :
    Scans (PluginLisp.enclose (String.singleton b.left) texts (String.singleton b.right)).toList
      (.opening b :: (ks ++ [.closing b])) := by
  have enclosed := scans.enclose b
  simpa [PluginLisp.enclose] using enclosed

mutual

/-- The printed text of a form is read as the tokens of a derivation of the form. -/
theorem Form.show_scans (cells : Cells) : ∀ f : Form, f.Lexical → f.Printable →
    ∃ d : Derivation, d.form = f ∧ Scans (f.show cells).toList d.kinds
  | .number x, _, printable => by
      obtain ⟨reads, numeral⟩ := Number.readFloat?_render printable.1 printable.2
      refine ⟨leaf (.number x), by rw [form]; rfl, ?_⟩
      rw [Form.show, kinds]
      exact (isWord_float numeral reads).scans
  | .big digits, lexical, _ => by
      refine ⟨leaf (.big digits), by rw [form]; rfl, ?_⟩
      rw [Form.show, kinds, String.toList_append]
      exact IsWord.scans lexical
  | .text s, _, printable => by
      refine ⟨leaf (.text s), by rw [form]; rfl, ?_⟩
      rw [Form.show, kinds]
      exact Text.scans_quote printable
  | .boolean b, _, _ => by
      refine ⟨leaf (.boolean b), by rw [form]; rfl, ?_⟩
      rw [Form.show, kinds]
      cases b with
      | true => exact (IsWord.of_all (c := 't') rfl rfl rfl).scans
      | false => exact (IsWord.of_all (c := 'f') rfl rfl rfl).scans
  | .keyword name, lexical, _ => by
      refine ⟨leaf (.keyword name), by rw [form]; rfl, ?_⟩
      rw [Form.show, kinds]
      exact IsName.scans lexical
  | .symbol name, lexical, _ => by
      refine ⟨leaf (.symbol name), by rw [form]; rfl, ?_⟩
      rw [Form.show, kinds]
      exact IsWord.scans lexical
  | .list items, lexical, printable => by
      obtain ⟨ds, rfl, scans⟩ := Form.showAll_scans cells items lexical printable
      refine ⟨Derivation.list ds, by rw [form], ?_⟩
      rw [Form.show, kinds]
      exact scans.enclosed .round
  | .vector items, lexical, printable => by
      obtain ⟨ds, rfl, scans⟩ := Form.showAll_scans cells items lexical printable
      refine ⟨Derivation.vector ds, by rw [form], ?_⟩
      rw [Form.show, kinds]
      exact scans.enclosed .square
  | .table items, lexical, printable => by
      obtain ⟨ds, rfl, scans⟩ := Form.showAll_scans cells items lexical.2 printable
      have even := lexical.1
      rw [length_forms] at even
      obtain ⟨entries, sameKinds, sameForms⟩ := exists_pairs ds even
      refine ⟨Derivation.table entries, by rw [form, sameForms], ?_⟩
      rw [Form.show, kinds, sameKinds]
      exact scans.enclosed .curly
  | .literal _, lexical, _ => lexical.elim

/-- The printed texts of several forms, with spaces between them, are read as the tokens of
    derivations of the forms. -/
theorem Form.showAll_scans (cells : Cells) : ∀ fs : List Form, Form.AllLexical fs →
    Form.AllPrintable fs → ∃ ds : List Derivation, forms ds = fs ∧
      Scans (" ".intercalate (Form.showAll cells fs)).toList (kindsAll ds)
  | [], _, _ => ⟨[], by rw [forms], by simpa [Form.showAll, kindsAll] using Scans.nil⟩
  | f :: rest, lexical, printable => by
      obtain ⟨d, rfl, first⟩ := f.show_scans cells lexical.1 printable.1
      obtain ⟨ds, rfl, others⟩ := Form.showAll_scans cells rest lexical.2 printable.2
      refine ⟨d :: ds, by rw [forms], ?_⟩
      rw [Form.showAll, kindsAll]
      exact first.intercalate_cons others

end

/-- A form as the reader builds it, with literals that read back, is what its text reads as. -/
theorem Form.parse_show {f : Form} (cells : Cells) (lexical : f.Lexical) (printable : f.Printable) :
    parse (f.show cells) = .ok [f] := by
  obtain ⟨d, rfl, scans⟩ := f.show_scans cells lexical printable
  obtain ⟨tokens, last, scanned, uses, ends⟩ := scans.scan
  have read := readForms_derivations ends [d] (uses.trans (by simp [kindsAll])) []
  rw [parse, scanned]
  exact read.trans (by simp [forms])

/-- A form of any text that can be read, once printed, is read as the same form. -/
theorem parse_show_of_mem_parse {source : String} {fs : List Form} {f : Form}
    (parsed : parse source = .ok fs) (mem : f ∈ fs) (printable : f.Printable) (cells : Cells) :
    parse (f.show cells) = .ok [f] :=
  f.parse_show cells (Form.allLexical_iff.1 (allLexical_of_parse parsed) f mem) printable

/-- A quoted list with a number, a decimal literal that ends in two letters, a text with an escape and
    a mark inside a map literal. -/
def quotedMixture : Form :=
  .list [.symbol "quote", .list [.number (-1.5), .big "5N", .text "\n",
    .table [.keyword "k", .list [.symbol "unquote-splicing", .symbol "b"]]]]

theorem parse_show_quotedMixture :
    parse "\x27(-1.5 5NN \"\\n\" \x7b:k ~@b\x7d)" = .ok [quotedMixture] ∧
      parse (quotedMixture.show Cells.none) = .ok [quotedMixture] := by
  have parsed : parse "\x27(-1.5 5NN \"\\n\" \x7b:k ~@b\x7d)" = .ok [quotedMixture] := by
    have read : Number.readFloat? "-1.5" = some (-1.5) := by decide +kernel
    simp [parse, scan, scanFrom, isGap, scanToken, isWordChar, isDelimiter, Text.isBlank, classifyWord,
      looksNumeric, Number.isDigit, classifyNumber, read, scanText, unescape?, readAll, readForms,
      readStep, supply, closeBracket, Mark.symbol, Except.map, bind, Except.bind, quotedMixture]
  have number : Number.isFinite (-1.5) = true ∧ (-1.5 : Float) ≠ -0.0 := by decide +kernel
  have text : ∀ c ∈ "\n".toList, Text.Readable c := by
    intro c mem
    obtain rfl : c = '\n' := by simpa using mem
    decide
  have printable : quotedMixture.Printable := by
    simp only [quotedMixture, Form.Printable, Form.AllPrintable]
    exact ⟨trivial, ⟨number, trivial, text, ⟨trivial, ⟨trivial, trivial, trivial⟩, trivial⟩, trivial⟩,
      trivial⟩
  exact ⟨parsed, parse_show_of_mem_parse parsed List.mem_cons_self printable Cells.none⟩

end PluginLisp
