import Mathlib.Data.List.Basic
import PluginLisp.Evaluator.Forms

/-!
Templates: code with holes in it. An unquoted form is a hole for its value, and a form that an item of
a list or a vector splices in is one for the elements of its value. What is filled in are literals, so
that the filled template is code again, which can be quoted. Whether map literals have holes is left
open here: either those in keys and values count like all the others, or a map literal is filled as it
is.

Main results: `Form.fills_iff_of_holes_eq_nil`, `Form.fills_iff_of_holes_eq`.
-/

namespace PluginLisp

open Evaluator

/-! ### Holes -/

/-- The form that an item of a list or a vector splices in, if it does. -/
def Form.spliced? : Form → Option Form
  | .list items => marked? "unquote-splicing" items
  | _ => none

mutual

/-- The forms in the holes of a template, from left to right; those in map literals only if
    `inTables`. -/
def Form.holes (inTables : Bool) : Form → List Form
  | .list items =>
      match marked? "unquote" items with
      | some inner => [inner]
      | none => Form.itemHoles inTables items
  | .vector items => Form.itemHoles inTables items
  | .table items => if inTables then Form.entryHoles inTables items else []
  | _ => []

/-- The forms in the holes of the items of a list or a vector. -/
def Form.itemHoles (inTables : Bool) : List Form → List Form
  | [] => []
  | item :: rest =>
      (match item.spliced? with
        | some spliced => [spliced]
        | none => item.holes inTables) ++ Form.itemHoles inTables rest

/-- The forms in the holes of the keys and values of a map literal, where nothing is spliced. -/
def Form.entryHoles (inTables : Bool) : List Form → List Form
  | [] => []
  | item :: rest => item.holes inTables ++ Form.entryHoles inTables rest

end

mutual

/-- `T.Fills inTables values filled`: the template `T` with the values in its holes, one for each of
    them, is `filled`. -/
inductive Form.Fills (inTables : Bool) : Form → List Value → Form → Prop where
  | hole {items : List Form} {inner : Form} (marked : marked? "unquote" items = some inner)
      (v : Value) : Form.Fills inTables (.list items) [v] (.literal v)
  | list {items filled : List Form} {values : List Value}
      (unmarked : marked? "unquote" items = none)
      (fills : Form.FillsItems inTables items values filled) :
      Form.Fills inTables (.list items) values (.list filled)
  | vector {items filled : List Form} {values : List Value}
      (fills : Form.FillsItems inTables items values filled) :
      Form.Fills inTables (.vector items) values (.vector filled)
  | table {items filled : List Form} {values : List Value} (inside : inTables = true)
      (fills : Form.FillsEntries inTables items values filled) :
      Form.Fills inTables (.table items) values (.table filled)
  | other {T : Form} (notList : ∀ items, T ≠ .list items) (notVector : ∀ items, T ≠ .vector items)
      (notTable : inTables = true → ∀ items, T ≠ .table items) : Form.Fills inTables T [] T

/-- The items of a list or a vector with the values in their holes. -/
inductive Form.FillsItems (inTables : Bool) : List Form → List Value → List Form → Prop where
  | nil : Form.FillsItems inTables [] [] []
  | splice {item spliced : Form} {items filled : List Form} {v : Value} {elements values : List Value}
      (marked : item.spliced? = some spliced) (sequence : v.asSeq = .ok elements)
      (rest : Form.FillsItems inTables items values filled) :
      Form.FillsItems inTables (item :: items) (v :: values) (literals elements ++ filled)
  | item {item first : Form} {items filled : List Form} {values more : List Value}
      (unmarked : item.spliced? = none) (fills : Form.Fills inTables item values first)
      (rest : Form.FillsItems inTables items more filled) :
      Form.FillsItems inTables (item :: items) (values ++ more) (first :: filled)

/-- The keys and values of a map literal with the values in their holes. -/
inductive Form.FillsEntries (inTables : Bool) : List Form → List Value → List Form → Prop where
  | nil : Form.FillsEntries inTables [] [] []
  | cons {item first : Form} {items filled : List Form} {values more : List Value}
      (fills : Form.Fills inTables item values first)
      (rest : Form.FillsEntries inTables items more filled) :
      Form.FillsEntries inTables (item :: items) (values ++ more) (first :: filled)

end

namespace Form

variable {inTables : Bool} {T item first spliced inner : Form} {items filled : List Form}
  {values : List Value} {result : Form}

/-! ### One level of a template -/

/-- A list that is unquoted is one hole. -/
theorem holes_hole (marked : marked? "unquote" items = some inner) :
    (Form.list items).holes inTables = [inner] := by
  rw [holes, marked]

/-- Any other list has the holes of its items. -/
theorem holes_list (unmarked : marked? "unquote" items = none) :
    (Form.list items).holes inTables = itemHoles inTables items := by
  rw [holes, unmarked]

/-- A form without parts has no holes. -/
theorem holes_other (notList : ∀ items, T ≠ .list items) (notVector : ∀ items, T ≠ .vector items)
    (notTable : inTables = true → ∀ items, T ≠ .table items) : T.holes inTables = [] := by
  cases T with
  | list items => exact absurd rfl (notList items)
  | vector items => exact absurd rfl (notVector items)
  | table items => rw [holes, if_neg fun inside => notTable inside items rfl]
  | _ => rfl

/-- A spliced item is one hole. -/
theorem itemHoles_splice (marked : item.spliced? = some spliced) :
    itemHoles inTables (item :: items) = spliced :: itemHoles inTables items := by
  rw [itemHoles, marked]
  rfl

/-- The holes of any other item come before those of the items after it. -/
theorem itemHoles_item (unmarked : item.spliced? = none) :
    itemHoles inTables (item :: items) = item.holes inTables ++ itemHoles inTables items := by
  rw [itemHoles, unmarked]

/-- A hole is filled by one value. -/
theorem fills_hole_iff (marked : marked? "unquote" items = some inner) :
    (Form.list items).Fills inTables values result ↔ ∃ v, values = [v] ∧ result = .literal v := by
  constructor
  · rintro (⟨-, v⟩ | ⟨unmarked, -⟩ | - | - | ⟨notList, -, -⟩)
    · exact ⟨v, rfl, rfl⟩
    · simp [marked] at unmarked
    · exact absurd rfl (notList items)
  · rintro ⟨v, rfl, rfl⟩
    exact .hole marked v

/-- A list is filled by filling its items. -/
theorem fills_list_iff (unmarked : marked? "unquote" items = none) :
    (Form.list items).Fills inTables values result ↔
      ∃ filled, result = .list filled ∧ FillsItems inTables items values filled := by
  constructor
  · rintro (⟨marked, v⟩ | ⟨-, fills⟩ | - | - | ⟨notList, -, -⟩)
    · simp [unmarked] at marked
    · exact ⟨_, rfl, fills⟩
    · exact absurd rfl (notList items)
  · rintro ⟨filled, rfl, fills⟩
    exact .list unmarked fills

/-- A vector is filled by filling its items. -/
theorem fills_vector_iff :
    (Form.vector items).Fills inTables values result ↔
      ∃ filled, result = .vector filled ∧ FillsItems inTables items values filled := by
  constructor
  · rintro (- | - | fills | - | ⟨-, notVector, -⟩)
    · exact ⟨_, rfl, fills⟩
    · exact absurd rfl (notVector items)
  · rintro ⟨filled, rfl, fills⟩
    exact .vector fills

/-- Where map literals are filled, their keys and values are. -/
theorem fills_table_iff (inside : inTables = true) :
    (Form.table items).Fills inTables values result ↔
      ∃ filled, result = .table filled ∧ FillsEntries inTables items values filled := by
  constructor
  · rintro (- | - | - | ⟨-, fills⟩ | ⟨-, -, notTable⟩)
    · exact ⟨_, rfl, fills⟩
    · exact absurd rfl (notTable inside items)
  · rintro ⟨filled, rfl, fills⟩
    exact .table inside fills

/-- A form without parts is its own filling. -/
theorem fills_other_iff (notList : ∀ items, T ≠ .list items) (notVector : ∀ items, T ≠ .vector items)
    (notTable : inTables = true → ∀ items, T ≠ .table items) :
    T.Fills inTables values result ↔ values = [] ∧ result = T := by
  constructor
  · rintro (_ | _ | _ | inside | _)
    · exact absurd rfl (notList _)
    · exact absurd rfl (notList _)
    · exact absurd rfl (notVector _)
    · exact absurd rfl (notTable inside _)
    · exact ⟨rfl, rfl⟩
  · rintro ⟨rfl, rfl⟩
    exact .other notList notVector notTable

theorem fillsItems_nil_iff : FillsItems inTables [] values filled ↔ values = [] ∧ filled = [] := by
  constructor
  · rintro ⟨⟩
    exact ⟨rfl, rfl⟩
  · rintro ⟨rfl, rfl⟩
    exact .nil

/-- A spliced item is filled by the elements of a sequence. -/
theorem fillsItems_splice_iff (marked : item.spliced? = some spliced) :
    FillsItems inTables (item :: items) values filled ↔
      ∃ v elements more rest, v.asSeq = .ok elements ∧ FillsItems inTables items more rest ∧
        values = v :: more ∧ filled = literals elements ++ rest := by
  constructor
  · rintro (- | ⟨-, sequence, rest⟩ | ⟨unmarked, -, -⟩)
    · exact ⟨_, _, _, _, sequence, rest, rfl, rfl⟩
    · simp [marked] at unmarked
  · rintro ⟨v, elements, more, rest, sequence, fills, rfl, rfl⟩
    exact .splice marked sequence fills

/-- Any other item is filled by itself. -/
theorem fillsItems_item_iff (unmarked : item.spliced? = none) :
    FillsItems inTables (item :: items) values filled ↔
      ∃ own first more rest, item.Fills inTables own first ∧ FillsItems inTables items more rest ∧
        values = own ++ more ∧ filled = first :: rest := by
  constructor
  · rintro (- | ⟨marked, -, -⟩ | ⟨-, fills, rest⟩)
    · simp [unmarked] at marked
    · exact ⟨_, _, _, _, fills, rest, rfl, rfl⟩
  · rintro ⟨own, first, more, rest, fills, others, rfl, rfl⟩
    exact .item unmarked fills others

theorem fillsEntries_nil_iff :
    FillsEntries inTables [] values filled ↔ values = [] ∧ filled = [] := by
  constructor
  · rintro ⟨⟩
    exact ⟨rfl, rfl⟩
  · rintro ⟨rfl, rfl⟩
    exact .nil

/-- Keys and values are filled one after the other, as nothing is spliced there. -/
theorem fillsEntries_cons_iff :
    FillsEntries inTables (item :: items) values filled ↔
      ∃ own first more rest, item.Fills inTables own first ∧ FillsEntries inTables items more rest ∧
        values = own ++ more ∧ filled = first :: rest := by
  constructor
  · rintro (- | ⟨fills, rest⟩)
    exact ⟨_, _, _, _, fills, rest, rfl, rfl⟩
  · rintro ⟨own, first, more, rest, fills, others, rfl, rfl⟩
    exact .cons fills others

mutual

/-- A filling has a value for every hole. -/
theorem Fills.length_eq {T : Form} {values : List Value} {result : Form} :
    T.Fills inTables values result → values.length = (T.holes inTables).length
  | .hole marked v => by rw [holes_hole marked]; rfl
  | .list unmarked fills => by rw [holes_list unmarked]; exact fills.length_eq
  | .vector fills => fills.length_eq
  | .table inside fills => by rw [holes, if_pos inside]; exact fills.length_eq
  | .other notList notVector notTable => by rw [holes_other notList notVector notTable]; rfl

theorem FillsItems.length_eq {items : List Form} {values : List Value} {filled : List Form} :
    FillsItems inTables items values filled → values.length = (itemHoles inTables items).length
  | .nil => rfl
  | .splice marked _ rest => by
      rw [itemHoles_splice marked, List.length_cons, List.length_cons, rest.length_eq]
  | .item unmarked fills rest => by
      rw [itemHoles_item unmarked, List.length_append, List.length_append, fills.length_eq,
        rest.length_eq]

theorem FillsEntries.length_eq {items : List Form} {values : List Value} {filled : List Form} :
    FillsEntries inTables items values filled → values.length = (entryHoles inTables items).length
  | .nil => rfl
  | .cons fills rest => by
      rw [entryHoles, List.length_append, List.length_append, fills.length_eq, rest.length_eq]

end

/-! ### Templates without holes -/

mutual

/-- A template without holes is filled as it is. -/
theorem fills_iff_of_holes_eq_nil (T : Form) {values : List Value} {result : Form}
    (whole : T.holes inTables = []) :
    T.Fills inTables values result ↔ values = [] ∧ result = T := by
  match T with
  | .list items =>
      cases marked : marked? "unquote" items with
      | some inner => simp [holes_hole marked] at whole
      | none =>
          rw [holes_list marked] at whole
          simp [fills_list_iff marked, fillsItems_iff_of_itemHoles_eq_nil items whole, and_comm]
  | .vector items => simp [fills_vector_iff, fillsItems_iff_of_itemHoles_eq_nil items whole, and_comm]
  | .table items =>
      by_cases inside : inTables = true
      · rw [holes, if_pos inside] at whole
        simp [fills_table_iff inside, fillsEntries_iff_of_entryHoles_eq_nil items whole, and_comm]
      · exact fills_other_iff nofun nofun fun reached => absurd reached inside
  | .number _ | .big _ | .text _ | .boolean _ | .keyword _ | .symbol _ | .literal _ =>
      exact fills_other_iff nofun nofun nofun

theorem fillsItems_iff_of_itemHoles_eq_nil (items : List Form) {values : List Value}
    {filled : List Form} (whole : itemHoles inTables items = []) :
    FillsItems inTables items values filled ↔ values = [] ∧ filled = items := by
  match items with
  | [] => exact fillsItems_nil_iff
  | item :: rest =>
      cases marked : item.spliced? with
      | some spliced => simp [itemHoles_splice marked] at whole
      | none =>
          rw [itemHoles_item marked, List.append_eq_nil_iff] at whole
          simp [fillsItems_item_iff marked, fills_iff_of_holes_eq_nil item whole.1,
            fillsItems_iff_of_itemHoles_eq_nil rest whole.2]

theorem fillsEntries_iff_of_entryHoles_eq_nil (items : List Form) {values : List Value}
    {filled : List Form} (whole : entryHoles inTables items = []) :
    FillsEntries inTables items values filled ↔ values = [] ∧ filled = items := by
  match items with
  | [] => exact fillsEntries_nil_iff
  | item :: rest =>
      rw [entryHoles, List.append_eq_nil_iff] at whole
      simp [fillsEntries_cons_iff, fills_iff_of_holes_eq_nil item whole.1,
        fillsEntries_iff_of_entryHoles_eq_nil rest whole.2]

end

/-! ### Templates without holes in map literals -/

mutual

/-- A template has at least the holes it has outside its map literals. -/
theorem length_holes_le (T : Form) : (T.holes false).length ≤ (T.holes true).length := by
  match T with
  | .list items =>
      cases marked : marked? "unquote" items with
      | some inner => simp [holes_hole marked]
      | none => simpa [holes_list marked] using length_itemHoles_le items
  | .vector items => exact length_itemHoles_le items
  | .table items => exact Nat.zero_le _
  | .number _ | .big _ | .text _ | .boolean _ | .keyword _ | .symbol _ | .literal _ =>
      exact Nat.le_refl _

theorem length_itemHoles_le (items : List Form) :
    (itemHoles false items).length ≤ (itemHoles true items).length := by
  match items with
  | [] => exact Nat.le_refl _
  | item :: rest =>
      have others := length_itemHoles_le rest
      cases marked : item.spliced? with
      | some spliced => simpa [itemHoles_splice marked] using others
      | none =>
          have own := length_holes_le item
          simp only [itemHoles_item marked, List.length_append]
          omega

end

/-- No item has more holes, map literals included, if all of them together do not. -/
theorem holes_eq_of_append {items : List Form}
    (same : item.holes true ++ itemHoles true items = item.holes false ++ itemHoles false items) :
    item.holes true = item.holes false ∧ itemHoles true items = itemHoles false items := by
  have total := congrArg List.length same
  rw [List.length_append, List.length_append] at total
  have own := length_holes_le item
  have others := length_itemHoles_le items
  exact List.append_inj same (by omega)

mutual

/-- Where no map literal in a template has holes, it does not matter whether they are filled. -/
theorem fills_iff_of_holes_eq (T : Form) {values : List Value} {result : Form}
    (same : T.holes true = T.holes false) :
    T.Fills true values result ↔ T.Fills false values result := by
  match T with
  | .list items =>
      cases marked : marked? "unquote" items with
      | some inner => rw [fills_hole_iff marked, fills_hole_iff marked]
      | none =>
          rw [holes_list marked, holes_list marked] at same
          simp only [fills_list_iff marked, fillsItems_iff_of_itemHoles_eq items same]
  | .vector items => simp only [fills_vector_iff, fillsItems_iff_of_itemHoles_eq items same]
  | .table items =>
      have none : (Form.table items).holes false = [] := rfl
      rw [fills_iff_of_holes_eq_nil _ none, fills_iff_of_holes_eq_nil _ (same.trans none)]
  | .number _ | .big _ | .text _ | .boolean _ | .keyword _ | .symbol _ | .literal _ =>
      rw [fills_iff_of_holes_eq_nil _ rfl, fills_iff_of_holes_eq_nil _ rfl]

theorem fillsItems_iff_of_itemHoles_eq (items : List Form) {values : List Value}
    {filled : List Form} (same : itemHoles true items = itemHoles false items) :
    FillsItems true items values filled ↔ FillsItems false items values filled := by
  match items with
  | [] => rw [fillsItems_nil_iff, fillsItems_nil_iff]
  | item :: rest =>
      cases marked : item.spliced? with
      | some spliced =>
          rw [itemHoles_splice marked, itemHoles_splice marked, List.cons.injEq] at same
          simp only [fillsItems_splice_iff marked, fillsItems_iff_of_itemHoles_eq rest same.2]
      | none =>
          rw [itemHoles_item marked, itemHoles_item marked] at same
          obtain ⟨own, others⟩ := holes_eq_of_append same
          simp only [fillsItems_item_iff marked, fills_iff_of_holes_eq item own,
            fillsItems_iff_of_itemHoles_eq rest others]

end

/-! ### Quoting what is filled -/

/-- Quoting several forms quotes the first and the others. -/
theorem quoteAll_cons_iff {vs : List Value} :
    quoteAll (item :: items) = .ok vs ↔
      ∃ v rest, item.quote = .ok v ∧ quoteAll items = .ok rest ∧ vs = v :: rest := by
  rw [quoteAll]
  cases item.quote with
  | error e => simp [bind, Except.bind]
  | ok v => cases quoteAll items <;> simp [bind, Except.bind, pure, Except.pure, eq_comm]

/-- Literals are quoted to the values they hold. -/
theorem quoteAll_literals_append_iff {elements vs : List Value} :
    quoteAll (literals elements ++ filled) = .ok vs ↔
      ∃ rest, quoteAll filled = .ok rest ∧ vs = elements ++ rest := by
  induction elements generalizing vs with
  | nil => simp [literals]
  | cons v elements ih =>
      have first : literals (v :: elements) ++ filled = .literal v :: (literals elements ++ filled) :=
        rfl
      rw [first, quoteAll_cons_iff]
      simp [quote, ih, ← exists_and_right, and_assoc]

theorem quote_list_iff {v : Value} :
    (Form.list items).quote = .ok v ↔ ∃ vs, quoteAll items = .ok vs ∧ v = .list vs := by
  rw [quote]
  cases quoteAll items <;> simp [Except.map, eq_comm]

theorem quote_vector_iff {v : Value} :
    (Form.vector items).quote = .ok v ↔ ∃ vs, quoteAll items = .ok vs ∧ v = .vector vs := by
  rw [quote]
  cases quoteAll items <;> simp [Except.map, eq_comm]

end Form

end PluginLisp
