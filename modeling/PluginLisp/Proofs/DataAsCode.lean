import PluginLisp.Proofs.Data.Printing

/-!
Data that has passed through code. What a macro answers, and what is to be evaluated, is turned into
code first; what has no literal form is embedded in it. The code has the text of the value, and
quoting it gives the value again, except that a symbol `nil` comes back as the value of that name.

Main result: `Value.comesBack_iff`.
-/

namespace PluginLisp

mutual

/-- Whether a symbol of that name occurs in a value: in lists, vectors and maps, at any depth. -/
def Value.mentions (name : String) : Value → Bool
  | .symbol other => other == name
  | .list items => Value.anyMentions name items
  | .vector items => Value.anyMentions name items
  | .map entries => Value.entriesMention name entries
  | _ => false

/-- Whether a symbol of that name occurs in one of the values. -/
def Value.anyMentions (name : String) : List Value → Bool
  | [] => false
  | v :: rest => v.mentions name || Value.anyMentions name rest

/-- Whether a symbol of that name occurs in the value of an entry; the keys are not symbols. -/
def Value.entriesMention (name : String) : List (String × Value) → Bool
  | [] => false
  | (_, v) :: rest => v.mentions name || Value.entriesMention name rest

end

mutual

/-- The entries of the maps in a value are sorted, as all operations leave them. -/
def Value.InOrder : Value → Prop
  | .list items => Value.AllInOrder items
  | .vector items => Value.AllInOrder items
  | .map entries => Assoc.Sorted entries ∧ Value.EntriesInOrder entries
  | _ => True

/-- The entries of the maps in all of the values are sorted. -/
def Value.AllInOrder : List Value → Prop
  | [] => True
  | v :: rest => v.InOrder ∧ Value.AllInOrder rest

/-- The entries of the maps in the values of all entries are sorted. -/
def Value.EntriesInOrder : List (String × Value) → Prop
  | [] => True
  | (_, v) :: rest => v.InOrder ∧ Value.EntriesInOrder rest

end

mutual

/-- A value with each symbol `nil` in it read as the value of that name. -/
def Value.readNil : Value → Value
  | .symbol name => if name = "nil" then .nil else .symbol name
  | .list items => .list (Value.readNilAll items)
  | .vector items => .vector (Value.readNilAll items)
  | .map entries => .map (Value.readNilEntries entries)
  | v => v

/-- Several values, with each symbol `nil` in them read as the value of that name. -/
def Value.readNilAll : List Value → List Value
  | [] => []
  | v :: rest => v.readNil :: Value.readNilAll rest

/-- Entries, with each symbol `nil` in their values read as the value of that name. -/
def Value.readNilEntries : List (String × Value) → List (String × Value)
  | [] => []
  | (key, v) :: rest => (key, v.readNil) :: Value.readNilEntries rest

end

/-! ### Symbols `nil` -/

@[simp] theorem Value.names_readNilEntries (entries : Assoc Value) :
    Assoc.names (Value.readNilEntries entries) = Assoc.names entries := by
  induction entries with
  | nil => rfl
  | cons entry rest ih => exact congrArg (entry.1 :: ·) ih

/-- The keys stay as they are, and so does their order. -/
theorem Value.sorted_readNilEntries {entries : Assoc Value} (sorted : Assoc.Sorted entries) :
    Assoc.Sorted (Value.readNilEntries entries) := by
  have ascending : (Assoc.names entries).Pairwise (· < ·) := List.pairwise_map.2 sorted
  rw [← Value.names_readNilEntries] at ascending
  exact List.pairwise_map.1 ascending

mutual

/-- Reading the symbols `nil` changes a value if and only if there are any. -/
theorem Value.readNil_eq_self_iff : ∀ v : Value, v.readNil = v ↔ v.mentions "nil" = false
  | .symbol name => by
      by_cases isNil : name = "nil" <;> simp [Value.readNil, Value.mentions, isNil]
  | .list items => by simp [Value.readNil, Value.mentions, Value.readNilAll_eq_self_iff items]
  | .vector items => by simp [Value.readNil, Value.mentions, Value.readNilAll_eq_self_iff items]
  | .map entries => by
      simp [Value.readNil, Value.mentions, Value.readNilEntries_eq_self_iff entries]
  | .nil | .boolean _ | .number _ | .decimal _ | .text _ | .keyword _ | .function _ | .transformer _
  | .builtin _ | .operator _ | .partialCall _ _ | .complement _ | .juxt _ | .comp _ | .atom _
  | .channel _ | .future _ | .waitGroup _ | .pending _ _ => iff_of_true rfl rfl

theorem Value.readNilAll_eq_self_iff :
    ∀ vs : List Value, Value.readNilAll vs = vs ↔ Value.anyMentions "nil" vs = false
  | [] => by simp [Value.readNilAll, Value.anyMentions]
  | v :: rest => by
      simp [Value.readNilAll, Value.anyMentions, v.readNil_eq_self_iff,
        Value.readNilAll_eq_self_iff rest]

theorem Value.readNilEntries_eq_self_iff : ∀ entries : List (String × Value),
    Value.readNilEntries entries = entries ↔ Value.entriesMention "nil" entries = false
  | [] => by simp [Value.readNilEntries, Value.entriesMention]
  | (key, v) :: rest => by
      simp [Value.readNilEntries, Value.entriesMention, v.readNil_eq_self_iff,
        Value.readNilEntries_eq_self_iff rest]

end

/-! ### There and back -/

mutual

/-- Quoting the code of a value always gives a value: the same one with its symbols `nil` read. -/
theorem Value.quote_toCode : ∀ v : Value, v.InOrder → v.toCode.quote = .ok v.readNil
  | .symbol _, _ => rfl
  | .list items, inOrder => by
      rw [Value.toCode, Form.quote, Value.quoteAll_toCodeAll items inOrder]
      rfl
  | .vector items, inOrder => by
      rw [Value.toCode, Form.quote, Value.quoteAll_toCodeAll items inOrder]
      rfl
  | .map entries, inOrder => by
      have quoted := Value.quotePairs_toCodeEntries entries inOrder.2 []
        (Value.sorted_readNilEntries inOrder.1)
      rw [Value.toCode, Form.quote, quoted]
      rfl
  | .nil, _ | .boolean _, _ | .number _, _ | .decimal _, _ | .text _, _ | .keyword _, _
  | .function _, _ | .transformer _, _ | .builtin _, _ | .operator _, _ | .partialCall _ _, _
  | .complement _, _ | .juxt _, _ | .comp _, _ | .atom _, _ | .channel _, _ | .future _, _
  | .waitGroup _, _ | .pending _ _, _ => rfl

theorem Value.quoteAll_toCodeAll : ∀ vs : List Value, Value.AllInOrder vs →
    Form.quoteAll (Value.toCodeAll vs) = .ok (Value.readNilAll vs)
  | [], _ => rfl
  | v :: rest, inOrder => by
      rw [Value.toCodeAll, Form.quoteAll, v.quote_toCode inOrder.1,
        Value.quoteAll_toCodeAll rest inOrder.2]
      rfl

/-- The keys come in order, so each entry is added behind those before it. -/
theorem Value.quotePairs_toCodeEntries : ∀ entries : List (String × Value),
    Value.EntriesInOrder entries → ∀ before : Assoc Value,
    Assoc.Sorted (before ++ Value.readNilEntries entries) →
    Form.quotePairs before (Value.toCodeEntries entries) = .ok (before ++ Value.readNilEntries entries)
  | [], _, before, _ => by simp [Value.toCodeEntries, Value.readNilEntries, Form.quotePairs]
  | (key, v) :: rest, inOrder, before, sorted => by
      rw [Value.readNilEntries] at sorted ⊢
      have added := sorted.put_next
      rw [List.append_cons] at sorted ⊢
      rw [← Value.quotePairs_toCodeEntries rest inOrder.2 _ sorted, ← added, Value.toCodeEntries,
        Form.quotePairs, v.quote_toCode inOrder.1]
      rfl

end

/-! ### The texts agree -/

mutual

/-- The code of a value has the text of the value. -/
theorem Value.show_toCode (cells : Cells) : ∀ v : Value, v.toCode.show cells = v.show cells
  | .list items => congrArg (enclose "(" · ")") (Value.showAll_toCodeAll cells items)
  | .vector items => congrArg (enclose "[" · "]") (Value.showAll_toCodeAll cells items)
  | .map entries =>
      congrArg ("\x7b" ++ · ++ "\x7d") (Value.showAll_toCodeEntries cells entries).intercalate_eq
  | .nil | .boolean _ | .number _ | .decimal _ | .text _ | .keyword _ | .symbol _ | .function _
  | .transformer _ | .builtin _ | .operator _ | .partialCall _ _ | .complement _ | .juxt _ | .comp _
  | .atom _ | .channel _ | .future _ | .waitGroup _ | .pending _ _ => rfl

theorem Value.showAll_toCodeAll (cells : Cells) : ∀ vs : List Value,
    Form.showAll cells (Value.toCodeAll vs) = Value.showAll cells vs
  | [] => rfl
  | v :: rest => by
      rw [Value.toCodeAll, Form.showAll, Value.showAll, v.show_toCode cells,
        Value.showAll_toCodeAll cells rest]

theorem Value.showAll_toCodeEntries (cells : Cells) : ∀ entries : List (String × Value),
    ItemsShown (Form.showAll cells (Value.toCodeEntries entries)) (Value.showEntries cells entries)
  | [] => .nil
  | (key, v) :: rest => by
      rw [Value.toCodeEntries, Form.showAll, Form.showAll, Value.showEntries, ← v.show_toCode cells]
      exact (Value.showAll_toCodeEntries cells rest).entry _ _

end

/-- A value comes back from its code if and only if no symbol `nil` occurs in it; and whether it does or
    not, its code prints as it does. -/
theorem Value.comesBack_iff {v : Value} (inOrder : v.InOrder) :
    (v.toCode.quote = .ok v ↔ v.mentions "nil" = false) ∧
      ∀ cells : Cells, v.toCode.show cells = v.show cells := by
  refine ⟨?_, fun cells => v.show_toCode cells⟩
  rw [v.quote_toCode inOrder, Except.ok.injEq]
  exact v.readNil_eq_self_iff

/-- A map with data that has no literal form, and with `nil` as a value, a key and a keyword. -/
def cargo : Value :=
  .map [("live", .vector [.atom 0, .function ⟨7, some "f", ["x"], none, [.symbol "nil"], 0⟩]),
    ("nil", .list [.symbol "f", .nil, .decimal ⟨15, 1⟩, .map [("k", .keyword "nil")]])]

theorem cargo_comesBack :
    cargo.toCode.quote = .ok cargo ∧ cargo.toCode.show Cells.none = cargo.show Cells.none := by
  have inOrder : cargo.InOrder := by
    simp only [cargo, Value.InOrder, Value.AllInOrder, Value.EntriesInOrder, and_true, true_and]
    exact ⟨List.pairwise_pair.2 (by decide), List.pairwise_singleton _ _⟩
  obtain ⟨back, text⟩ := Value.comesBack_iff inOrder
  exact ⟨back.2 (by decide), text Cells.none⟩

end PluginLisp
