import PluginLisp.Proofs.Data.Entries
import PluginLisp.Proofs.Decimal.Text
import PluginLisp.Proofs.Syntax.Printing
import PluginLisp.Value.Code

/-!
Printed data reads back. The text of a value is the text of a form, in which `nil` is a symbol, a
decimal a literal and the entries of a map are keywords and values in turn; and quoting that form gives
the value.

Main results: `Value.show_written`, `Value.parse_show_quote`.
-/

namespace PluginLisp

/-- A name that the scanner reads as a symbol. -/
def ReadsAsSymbol (name : String) : Prop :=
  ∃ tokens, scan name = .ok tokens ∧ tokens.map Token.kind = [.symbol name, .finish]

mutual

/-- Data that can be written as code: it is built from `nil`, booleans, numbers, decimals, texts,
    keywords, symbols, lists, vectors and maps, and its literals and names are such that they read back.
    Decimals are in lowest terms and the entries of maps are sorted, as all operations leave them. -/
def Value.Printable : Value → Prop
  | .nil => True
  | .boolean _ => True
  | .number x => Number.isFinite x = true ∧ x ≠ -0.0
  | .decimal d => d.LowestTerms
  | .text s => ∀ c ∈ s.toList, Text.Readable c
  | .keyword name => IsName name
  | .symbol name => ReadsAsSymbol name ∧ name ≠ "nil"
  | .list items => Value.AllPrintable items
  | .vector items => Value.AllPrintable items
  | .map entries => Assoc.Sorted entries ∧ Value.EntriesPrintable entries
  | _ => False

/-- All of the values can be written as code. -/
def Value.AllPrintable : List Value → Prop
  | [] => True
  | v :: rest => v.Printable ∧ Value.AllPrintable rest

/-- The keys and the values of all entries can be written as code. -/
def Value.EntriesPrintable : List (String × Value) → Prop
  | [] => True
  | (key, v) :: rest => IsName key ∧ v.Printable ∧ Value.EntriesPrintable rest

end

mutual

/-- The form that a value is written as. -/
def Value.written : Value → Form
  | .nil => .symbol "nil"
  | .boolean b => .boolean b
  | .number x => .number x
  | .decimal d => .big d.text
  | .text s => .text s
  | .keyword name => .keyword name
  | .symbol name => .symbol name
  | .list items => .list (Value.writtenAll items)
  | .vector items => .vector (Value.writtenAll items)
  | .map entries => .table (Value.writtenEntries entries)
  | v => .literal v

/-- The forms that several values are written as. -/
def Value.writtenAll : List Value → List Form
  | [] => []
  | v :: rest => v.written :: Value.writtenAll rest

/-- The keys and values of entries, in turn. -/
def Value.writtenEntries : List (String × Value) → List Form
  | [] => []
  | (key, v) :: rest => .keyword key :: v.written :: Value.writtenEntries rest

end

/-! ### The texts agree -/

/-- The texts of keys and values in turn, and those of the entries that they make up. -/
inductive ItemsShown : List String → List String → Prop where
  | nil : ItemsShown [] []
  | entry {items entries : List String} (others : ItemsShown items entries) (key value : String) :
      ItemsShown (key :: value :: items) ((key ++ " " ++ value) :: entries)

/-- The text of a map is that of a map literal with its keys and values in turn. -/
theorem ItemsShown.intercalate_eq {items entries : List String} (shown : ItemsShown items entries) :
    " ".intercalate items = " ".intercalate entries := by
  induction shown with
  | nil => rfl
  | entry others key value ih => cases others with
      | nil => simp
      | entry others key' value' =>
          rw [String.intercalate_cons_cons, String.intercalate_cons_cons, ih,
            String.intercalate_cons_cons]
          simp only [String.append_assoc]

mutual

/-- A value has the text of the form that it is written as. -/
theorem Value.show_written (cells : Cells) : ∀ v : Value, v.written.show cells = v.show cells
  | .nil => rfl
  | .boolean _ => rfl
  | .number _ => rfl
  | .decimal _ => rfl
  | .text _ => rfl
  | .keyword _ => rfl
  | .symbol _ => rfl
  | .list items => congrArg (enclose "(" · ")") (Value.showAll_written cells items)
  | .vector items => congrArg (enclose "[" · "]") (Value.showAll_written cells items)
  | .map entries =>
      congrArg ("\x7b" ++ · ++ "\x7d") (Value.showEntries_written cells entries).intercalate_eq
  | .function _ => rfl
  | .transformer _ => rfl
  | .builtin _ => rfl
  | .operator _ => rfl
  | .partialCall _ _ => rfl
  | .complement _ => rfl
  | .juxt _ => rfl
  | .comp _ => rfl
  | .atom _ => rfl
  | .channel _ => rfl
  | .future _ => rfl
  | .waitGroup _ => rfl
  | .pending _ _ => rfl

theorem Value.showAll_written (cells : Cells) : ∀ vs : List Value,
    Form.showAll cells (Value.writtenAll vs) = Value.showAll cells vs
  | [] => rfl
  | v :: rest => by
      rw [Value.writtenAll, Form.showAll, Value.showAll, v.show_written cells,
        Value.showAll_written cells rest]

theorem Value.showEntries_written (cells : Cells) : ∀ entries : List (String × Value),
    ItemsShown (Form.showAll cells (Value.writtenEntries entries)) (Value.showEntries cells entries)
  | [] => .nil
  | (key, v) :: rest => by
      have others := Value.showEntries_written cells rest
      rw [Value.writtenEntries, Form.showAll, Form.showAll, Value.showEntries, ← v.show_written cells]
      exact others.entry _ _

end

/-! ### The forms are read and quoted -/

/-- The scanner reads a name as a symbol if and only if it is the word of a symbol. -/
theorem readsAsSymbol_iff {name : String} :
    ReadsAsSymbol name ↔ (TokenKind.symbol name).Lexical := by
  constructor
  · rintro ⟨tokens, scanned, kinds⟩
    obtain ⟨inner, last, rfl, ends, lexical⟩ := scanFrom_spec scanned
    cases inner with
    | nil => simp at kinds
    | cons first more =>
        have kind : first.kind = .symbol name := by
          simp only [List.cons_append, List.map_cons, List.cons.injEq] at kinds
          exact kinds.1
        rw [← kind]
        exact lexical first List.mem_cons_self
  · intro lexical
    obtain ⟨tokens, last, scanned, kinds, ends⟩ := (IsWord.scans lexical).scan
    exact ⟨tokens ++ [last], scanned, by simp [kinds, ends]⟩

/-- What the entries of a map are written as. -/
structure Value.EntriesWritten (entries : Assoc Value) : Prop where
  even : (Value.writtenEntries entries).length % 2 = 0
  lexical : Form.AllLexical (Value.writtenEntries entries)
  printable : Form.AllPrintable (Value.writtenEntries entries)
  quoted : ∀ before : Assoc Value, Assoc.Sorted (before ++ entries) →
    Form.quotePairs before (Value.writtenEntries entries) = .ok (before ++ entries)

mutual

/-- The form that a printable value is written as can be read, and quoting it gives the value. -/
theorem Value.written_spec : ∀ v : Value, v.Printable →
    v.written.Lexical ∧ v.written.Printable ∧ v.written.quote = .ok v
  | .nil, _ => ⟨.of_all (c := 'n') rfl rfl rfl, trivial, by simp [Value.written, Form.quote]⟩
  | .boolean b, _ => ⟨trivial, trivial, by simp [Value.written, Form.quote]⟩
  | .number x, printable => ⟨trivial, printable, by simp [Value.written, Form.quote]⟩
  | .decimal d, lowest => by
      obtain ⟨reads, numeral⟩ := Decimal.ofText_text lowest
      refine ⟨isWord_big numeral, trivial, ?_⟩
      simp [Value.written, Form.quote, readDecimal, reads, Except.map]
  | .text s, printable => ⟨trivial, printable, by simp [Value.written, Form.quote]⟩
  | .keyword name, isName => ⟨isName, trivial, by simp [Value.written, Form.quote]⟩
  | .symbol name, printable =>
      ⟨readsAsSymbol_iff.1 printable.1, trivial, by simp [Value.written, Form.quote, printable.2]⟩
  | .list items, printable => by
      obtain ⟨lexical, literals, quoted⟩ := Value.writtenAll_spec items printable
      refine ⟨lexical, literals, ?_⟩
      rw [Value.written, Form.quote, quoted]
      rfl
  | .vector items, printable => by
      obtain ⟨lexical, literals, quoted⟩ := Value.writtenAll_spec items printable
      refine ⟨lexical, literals, ?_⟩
      rw [Value.written, Form.quote, quoted]
      rfl
  | .map entries, printable => by
      have written := Value.writtenEntries_spec entries printable.2
      refine ⟨⟨written.even, written.lexical⟩, written.printable, ?_⟩
      rw [Value.written, Form.quote, written.quoted [] printable.1]
      rfl

theorem Value.writtenAll_spec : ∀ vs : List Value, Value.AllPrintable vs →
    Form.AllLexical (Value.writtenAll vs) ∧ Form.AllPrintable (Value.writtenAll vs) ∧
      Form.quoteAll (Value.writtenAll vs) = .ok vs
  | [], _ => ⟨trivial, trivial, rfl⟩
  | v :: rest, printable => by
      obtain ⟨lexical, literals, quoted⟩ := v.written_spec printable.1
      obtain ⟨lexicalRest, literalsRest, quotedRest⟩ := Value.writtenAll_spec rest printable.2
      refine ⟨⟨lexical, lexicalRest⟩, ⟨literals, literalsRest⟩, ?_⟩
      rw [Value.writtenAll, Form.quoteAll, quoted, quotedRest]
      rfl

theorem Value.writtenEntries_spec : ∀ entries : List (String × Value),
    Value.EntriesPrintable entries → Value.EntriesWritten entries
  | [], _ => ⟨rfl, trivial, trivial, fun before _ => by simp [Value.writtenEntries, Form.quotePairs]⟩
  | (key, v) :: rest, printable => by
      obtain ⟨isName, printableValue, printableRest⟩ := printable
      obtain ⟨lexical, literals, quoted⟩ := v.written_spec printableValue
      have others := Value.writtenEntries_spec rest printableRest
      refine ⟨?_, ⟨isName, lexical, others.lexical⟩, ⟨trivial, literals, others.printable⟩, ?_⟩
      · have := others.even
        simp only [Value.writtenEntries, List.length_cons]
        omega
      · -- the keys come in order, so each entry is added behind those before it
        intro before sorted
        have added := sorted.put_next
        rw [List.append_cons] at sorted ⊢
        rw [Value.writtenEntries, Form.quotePairs, Form.quote, quoted, ← others.quoted _ sorted,
          ← added]
        rfl

end

/-- The text of a value is read as exactly one form, and quoting that form gives the value back. -/
theorem Value.parse_show_quote {v : Value} (printable : v.Printable) (cells : Cells) :
    ∃ f, parse (v.show cells) = .ok [f] ∧ f.quote = .ok v := by
  obtain ⟨lexical, literals, quoted⟩ := v.written_spec printable
  refine ⟨v.written, ?_, quoted⟩
  rw [← v.show_written cells]
  exact v.written.parse_show cells lexical literals

/-- A map of a list and a vector, with every kind of data that is not a collection. -/
def mixedData : Value :=
  .map [("left", .list [.nil, .decimal ⟨-15, 1⟩, .symbol "x:y"]),
    ("right", .vector [.number 0.5, .text "\n", .boolean true, .keyword "k"])]

theorem mixedData_parse_show_quote :
    mixedData.Printable ∧
      ∃ f, parse (mixedData.show Cells.none) = .ok [f] ∧ f.quote = .ok mixedData := by
  have number : Number.isFinite 0.5 = true ∧ (0.5 : Float) ≠ -0.0 := by decide +kernel
  have text : ∀ c ∈ "\n".toList, Text.Readable c := by
    intro c mem
    obtain rfl : c = '\n' := by simpa using mem
    decide
  have symbol : ReadsAsSymbol "x:y" := readsAsSymbol_iff.2 (.of_all (c := 'x') rfl rfl rfl)
  have isName (name : String) (nonempty : name.toList.isEmpty = false)
      (word : name.toList.all isWordChar = true) : IsName name :=
    ⟨by simpa using nonempty, fun c mem => by
      simpa [isWordChar] using List.all_eq_true.1 word c mem⟩
  have printable : mixedData.Printable := by
    simp only [mixedData, Value.Printable, Value.AllPrintable, Value.EntriesPrintable]
    exact ⟨List.pairwise_pair.2 (by decide), isName "left" rfl rfl,
      ⟨trivial, Or.inr (by decide), ⟨symbol, by decide⟩, trivial⟩,
      isName "right" rfl rfl, ⟨number, text, trivial, isName "k" rfl rfl, trivial⟩, trivial⟩
  exact ⟨printable, Value.parse_show_quote printable Cells.none⟩

end PluginLisp
