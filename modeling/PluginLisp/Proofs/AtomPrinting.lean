import Mathlib.Data.Finset.Card
import Mathlib.Data.Finset.Range
import Mathlib.Logic.Relation
import PluginLisp.Proofs.Evaluation.Endings

/-!
Printing values with atoms in them. Collections have an end, but an atom is shown with its content,
which may be another atom and so on; and since atoms can be written, a chain of atoms may come round to
where it began. A value can be printed exactly if it leads to no atom that holds itself. As long as
every value can be printed, they all can after a write too, unless what is written leads to the atom
that it is written to.

Main results: `printable_iff_no_circle`, `le_length_of_not_printable`.
-/

namespace PluginLisp

open Relation

/-! ### The atoms in a value -/

mutual

/-- The atoms whose contents are part of the text of a value. -/
def Value.shownAtoms : Value → List Nat
  | .list items | .vector items => Value.shownAtomsAll items
  | .map entries => Value.shownAtomsEntries entries
  | .partialCall f _ | .complement f => f.shownAtoms
  | .atom i => [i]
  | _ => []

/-- The same for several values. -/
def Value.shownAtomsAll : List Value → List Nat
  | [] => []
  | v :: rest => v.shownAtoms ++ Value.shownAtomsAll rest

/-- The same for the entries of a map. -/
def Value.shownAtomsEntries : List (String × Value) → List Nat
  | [] => []
  | (_, v) :: rest => v.shownAtoms ++ Value.shownAtomsEntries rest

end

/-- What the printer shows of a store, given the texts of what the atoms hold. -/
def State.cellsWith (s : State) (texts : Nat → String) : Cells :=
  ⟨texts, State.cellsTo.channelCapacity s, State.cellsTo.futureIdentifier s⟩

variable {s t : State} {texts texts' : Nat → String} {i j k d : Nat} {v w : Value} {text : String}

/-- The texts of atoms down to a depth are texts of the contents. -/
theorem State.cellsTo_eq_cellsWith (s : State) (d : Nat) :
    s.cellsTo d = s.cellsWith (s.cellsTo d).atom := by
  cases d <;> rfl

theorem State.cells_eq_cellsWith (s : State) : s.cells = s.cellsWith s.cells.atom :=
  s.cellsTo_eq_cellsWith s.printDepth

section

variable (s)

/-! The text of a value depends on the contents of no other atoms. -/

mutual

/-- What a value prints depends only on the texts of the atoms in it. -/
theorem Value.show_cellsWith : ∀ v : Value, (∀ i ∈ v.shownAtoms, texts i = texts' i) →
    v.show (s.cellsWith texts) = v.show (s.cellsWith texts')
  | .list items, same | .vector items, same => by
      rw [Value.show, Value.show, Value.showAll_cellsWith items same]
  | .map entries, same => by
      rw [Value.show, Value.show, Value.showEntries_cellsWith entries same]
  | .partialCall f _, same | .complement f, same => by
      rw [Value.show, Value.show, Value.show_cellsWith f same]
  | .atom i, same => by
      rw [Value.show, Value.show]
      exact congrArg (fun text => "#<atom " ++ text ++ ">") (same i (List.mem_singleton.2 rfl))
  | .nil, _ | .boolean _, _ | .number _, _ | .decimal _, _ | .text _, _ | .keyword _, _
  | .symbol _, _ | .function _, _ | .transformer _, _ | .builtin _, _ | .operator _, _
  | .juxt _, _ | .comp _, _ | .channel _, _ | .future _, _ | .waitGroup _, _
  | .pending _ _, _ => rfl

theorem Value.showAll_cellsWith : ∀ values : List Value,
    (∀ i ∈ Value.shownAtomsAll values, texts i = texts' i) →
    Value.showAll (s.cellsWith texts) values = Value.showAll (s.cellsWith texts') values
  | [], _ => rfl
  | v :: rest, same => by
      obtain ⟨first, others⟩ := List.forall_mem_append.1 same
      rw [Value.showAll, Value.showAll, Value.show_cellsWith v first,
        Value.showAll_cellsWith rest others]

theorem Value.showEntries_cellsWith : ∀ entries : List (String × Value),
    (∀ i ∈ Value.shownAtomsEntries entries, texts i = texts' i) →
    Value.showEntries (s.cellsWith texts) entries = Value.showEntries (s.cellsWith texts') entries
  | [], _ => rfl
  | (key, v) :: rest, same => by
      obtain ⟨first, others⟩ := List.forall_mem_append.1 same
      rw [Value.showEntries, Value.showEntries, Value.show_cellsWith v first,
        Value.showEntries_cellsWith rest others]

end

/-- What a value displays depends only on the texts of the atoms in it. -/
theorem Value.display_cellsWith (v : Value) (same : ∀ i ∈ v.shownAtoms, texts i = texts' i) :
    v.display (s.cellsWith texts) = v.display (s.cellsWith texts') := by
  cases v with
  | text _ | nil => rfl
  | _ => exact Value.show_cellsWith s _ same

/-! The text of a value is longer than that of any atom in it. -/

/-- A part is no longer than the whole. -/
theorem length_le_intercalate {part : String} {parts : List String} (member : part ∈ parts) :
    part.length ≤ (" ".intercalate parts).length := by
  induction parts with
  | nil => cases member
  | cons first rest ih =>
      cases rest with
      | nil =>
          obtain rfl := List.mem_singleton.1 member
          simp
      | cons second rest =>
          rw [String.intercalate_cons_cons]
          simp only [String.length_append]
          obtain rfl | later := List.mem_cons.1 member
          · omega
          · have := ih later
            omega

mutual

/-- The text of a value is longer than that of any atom in it. -/
theorem Value.length_lt_show : ∀ v : Value, i ∈ v.shownAtoms →
    (texts i).length < (v.show (s.cellsWith texts)).length
  | .list items, shown | .vector items, shown => by
      obtain ⟨part, member, longer⟩ := Value.exists_longer_of_mem items shown
      have whole := length_le_intercalate member
      simp only [Value.show, enclose, String.length_append]
      omega
  | .map entries, shown => by
      obtain ⟨part, member, longer⟩ := Value.exists_longer_entry_of_mem entries shown
      have whole := length_le_intercalate member
      simp only [Value.show, enclose, String.length_append]
      omega
  | .partialCall f _, shown | .complement f, shown => by
      have inner := Value.length_lt_show f shown
      simp only [Value.show, String.length_append]
      omega
  | .atom j, shown => by
      obtain rfl := List.mem_singleton.1 shown
      simp only [Value.show, State.cellsWith, String.length_append]
      have mark : 0 < "#<atom ".length := by decide
      omega
  | .nil, shown | .boolean _, shown | .number _, shown | .decimal _, shown | .text _, shown
  | .keyword _, shown | .symbol _, shown | .function _, shown | .transformer _, shown
  | .builtin _, shown | .operator _, shown | .juxt _, shown | .comp _, shown
  | .channel _, shown | .future _, shown | .waitGroup _, shown
  | .pending _ _, shown => absurd shown List.not_mem_nil

theorem Value.exists_longer_of_mem : ∀ values : List Value, i ∈ Value.shownAtomsAll values →
    ∃ part ∈ Value.showAll (s.cellsWith texts) values, (texts i).length < part.length
  | [], shown => absurd shown List.not_mem_nil
  | v :: rest, shown => by
      rw [Value.showAll]
      obtain first | later := List.mem_append.1 shown
      · exact ⟨_, List.mem_cons_self, Value.length_lt_show v first⟩
      · obtain ⟨part, member, longer⟩ := Value.exists_longer_of_mem rest later
        exact ⟨part, List.mem_cons_of_mem _ member, longer⟩

theorem Value.exists_longer_entry_of_mem : ∀ entries : List (String × Value),
    i ∈ Value.shownAtomsEntries entries →
    ∃ part ∈ Value.showEntries (s.cellsWith texts) entries, (texts i).length < part.length
  | [], shown => absurd shown List.not_mem_nil
  | (key, v) :: rest, shown => by
      rw [Value.showEntries]
      obtain first | later := List.mem_append.1 shown
      · refine ⟨_, List.mem_cons_self, ?_⟩
        have inner := Value.length_lt_show v first
        simp only [String.length_append]
        omega
      · obtain ⟨part, member, longer⟩ := Value.exists_longer_entry_of_mem rest later
        exact ⟨part, List.mem_cons_of_mem _ member, longer⟩

end

end

/-! ### Texts of contents -/

/-- The content of an atom has a text, which takes the texts of the atoms in it. -/
inductive AtomText (s : State) : Nat → String → Prop where
  | missing {i : Nat} (none : s.atoms[i]? = none) : AtomText s i ""
  | content {i : Nat} {a : Atom} {texts : Nat → String} (found : s.atoms[i]? = some a)
      (each : ∀ j ∈ a.value.shownAtoms, AtomText s j (texts j)) :
      AtomText s i (a.value.show (s.cellsWith texts))

/-- The texts are those of the contents of the atoms in the value. -/
def AtomTexts (s : State) (v : Value) (texts : Nat → String) : Prop :=
  ∀ i ∈ v.shownAtoms, AtomText s i (texts i)

/-- Printing the value comes to an end. -/
def Printable (s : State) (v : Value) : Prop := ∃ texts, AtomTexts s v texts

/-- An atom has at most one text. -/
theorem AtomText.unique {text' : String} (has : AtomText s i text) (has' : AtomText s i text') :
    text = text' := by
  induction has generalizing text' with
  | missing none =>
      cases has' with
      | missing => rfl
      | content found => cases none.symm.trans found
  | content found _ ih =>
      cases has' with
      | missing none => cases none.symm.trans found
      | content found' each =>
          cases found.symm.trans found'
          exact Value.show_cellsWith s _ fun j shown => ih j shown (each j shown)

/-- A value can be printed if every atom in it can. -/
theorem printable_iff_forall : Printable s v ↔ ∀ i ∈ v.shownAtoms, ∃ text, AtomText s i text := by
  constructor
  · exact fun ⟨texts, has⟩ i shown => ⟨texts i, has i shown⟩
  · intro each
    choose! texts has using each
    exact ⟨texts, has⟩

/-! ### Atoms that hold themselves -/

/-- The content of the first atom shows the second one. -/
def Shows (s : State) (i j : Nat) : Prop := ∃ a, s.atoms[i]? = some a ∧ j ∈ a.value.shownAtoms

/-- Following the atoms in contents from an atom comes round to it. -/
def HoldsItself (s : State) (i : Nat) : Prop := TransGen (Shows s) i i

/-- Following the atoms in contents from a value comes to an atom. -/
def LeadsTo (s : State) (v : Value) (j : Nat) : Prop :=
  ∃ i ∈ v.shownAtoms, ReflTransGen (Shows s) i j

/-- An atom shows the atoms in its value. -/
theorem shows_iff {a : Atom} (found : s.atoms[i]? = some a) :
    Shows s i j ↔ j ∈ a.value.shownAtoms := by
  simp [Shows, found]

/-- No circle begins where the content has a text: the texts of the atoms in it are there before it. -/
theorem AtomText.not_holdsItself (has : AtomText s i text) (path : ReflTransGen (Shows s) i j) :
    ¬ HoldsItself s j := by
  induction has generalizing j with
  | @missing i none =>
      -- nothing is shown by an atom that does not exist
      have stuck (k : Nat) : ¬ Shows s i k := by simp [Shows, none]
      intro circle
      obtain rfl | ⟨k, shows, -⟩ := path.cases_head
      · obtain ⟨k, shows, -⟩ := TransGen.head'_iff.1 circle
        exact stuck k shows
      · exact stuck k shows
  | @content i a texts found each ih =>
      intro circle
      obtain rfl | ⟨k, shows, rest⟩ := path.cases_head
      · obtain ⟨k, shows, rest⟩ := TransGen.head'_iff.1 circle
        exact ih k ((shows_iff found).1 shows) rest circle
      · exact ih k ((shows_iff found).1 shows) rest circle

/-- The atoms that an atom leads to. -/
noncomputable def State.reachable (s : State) (i : Nat) : Finset Nat := by
  classical exact (Finset.range s.atoms.size).filter (ReflTransGen (Shows s) i)

/-- What can be reached from an atom is found by following what atoms show. -/
theorem State.mem_reachable :
    j ∈ s.reachable i ↔ j < s.atoms.size ∧ ReflTransGen (Shows s) i j := by
  classical
  rw [State.reachable, Finset.mem_filter, Finset.mem_range]

/-- No more atoms can be reached than there are. -/
theorem State.card_reachable_le (s : State) (i : Nat) : (s.reachable i).card ≤ s.atoms.size := by
  classical
  exact (Finset.card_filter_le _ _).trans_eq (Finset.card_range _)

/-- An atom that does not hold itself leads to more atoms than the ones it shows. -/
theorem State.card_reachable_lt (shows : Shows s i j) (apart : ¬ HoldsItself s i) :
    (s.reachable j).card < (s.reachable i).card := by
  have inside : i < s.atoms.size := by
    obtain ⟨a, found, -⟩ := shows
    exact (Array.getElem?_eq_some_iff.1 found).1
  refine Finset.card_lt_card (Finset.ssubset_iff_of_subset ?_ |>.2 ⟨i, ?_, ?_⟩)
  · intro k member
    obtain ⟨inside, path⟩ := mem_reachable.1 member
    exact mem_reachable.2 ⟨inside, path.head shows⟩
  · exact mem_reachable.2 ⟨inside, .refl⟩
  · exact fun member => apart (TransGen.head' shows (mem_reachable.1 member).2)

/-- As far as the printer follows atoms, it shows their texts. The induction is on how far that is; each
    atom on the way leads to fewer atoms than the one before. -/
theorem atomText_cellsTo (apart : ∀ j, ReflTransGen (Shows s) i j → ¬ HoldsItself s j)
    (deep : (s.reachable i).card ≤ d) : AtomText s i ((s.cellsTo d).atom i) := by
  induction d generalizing i with
  | zero =>
      have none : s.atoms[i]? = none := by
        rw [Array.getElem?_eq_none_iff]
        by_contra inside
        have member : i ∈ s.reachable i := State.mem_reachable.2 ⟨by omega, .refl⟩
        have := Finset.card_pos.2 ⟨i, member⟩
        omega
      exact .missing none
  | succ d ih =>
      have shown : (s.cellsTo (d + 1)).atom i = State.cellsTo.atomText s (s.cellsTo d) i := rfl
      rw [shown, State.cellsTo.atomText]
      cases found : s.atoms[i]? with
      | none => exact .missing found
      | some a =>
          rw [State.cellsTo_eq_cellsWith]
          refine .content found fun j shown => ?_
          have shows : Shows s i j := ⟨a, found, shown⟩
          have fewer := State.card_reachable_lt shows (apart i .refl)
          exact ih (fun k path => apart k (path.head shows)) (by omega)

/-- Exactly the contents of atoms that lead to none which holds itself have a text, and it is the one
    that the printer shows. -/
theorem atomText_iff : AtomText s i text ↔
    (∀ j, ReflTransGen (Shows s) i j → ¬ HoldsItself s j) ∧ s.cells.atom i = text := by
  have shown (apart : ∀ j, ReflTransGen (Shows s) i j → ¬ HoldsItself s j) :
      AtomText s i (s.cells.atom i) :=
    atomText_cellsTo apart ((s.card_reachable_le i).trans (Nat.le_add_left ..))
  constructor
  · intro has
    have apart (j : Nat) (path : ReflTransGen (Shows s) i j) := has.not_holdsItself path
    exact ⟨apart, (shown apart).unique has⟩
  · rintro ⟨apart, rfl⟩
    exact shown apart

/-- A value can be printed if no atom that it leads to holds itself. -/
theorem printable_iff_apart : Printable s v ↔ ∀ i, LeadsTo s v i → ¬ HoldsItself s i := by
  rw [printable_iff_forall]
  constructor
  · rintro each j ⟨i, shown, path⟩
    obtain ⟨text, has⟩ := each i shown
    exact has.not_holdsItself path
  · exact fun apart i shown => ⟨_, atomText_iff.2 ⟨fun j path => apart j ⟨i, shown, path⟩, rfl⟩⟩

/-- Printing shows the texts of the contents. -/
theorem AtomTexts.show_cells (has : AtomTexts s v texts) :
    v.show s.cells = v.show (s.cellsWith texts) ∧
      v.display s.cells = v.display (s.cellsWith texts) := by
  have same (i : Nat) (shown : i ∈ v.shownAtoms) : s.cells.atom i = texts i :=
    (atomText_iff.1 (has i shown)).2
  rw [s.cells_eq_cellsWith]
  exact ⟨Value.show_cellsWith s v same, Value.display_cellsWith s v same⟩

/-! ### Texts without end -/

/-- The further the printer follows an atom whose content has no text, the more it shows. -/
theorem le_length_of_not_atomText (endless : ¬ ∃ text, AtomText s i text) :
    d ≤ ((s.cellsTo d).atom i).length := by
  induction d generalizing i with
  | zero => exact Nat.zero_le _
  | succ d ih =>
      cases found : s.atoms[i]? with
      | none => exact absurd ⟨_, .missing found⟩ endless
      | some a =>
          obtain ⟨j, shown, inner⟩ : ∃ j ∈ a.value.shownAtoms, ¬ ∃ text, AtomText s j text := by
            by_contra all
            push Not at all
            obtain ⟨texts, each⟩ := printable_iff_forall.2 all
            exact endless ⟨_, .content found each⟩
          have content : (s.cellsTo (d + 1)).atom i = a.value.show (s.cellsTo d) := by
            show State.cellsTo.atomText s (s.cellsTo d) i = _
            rw [State.cellsTo.atomText, found]
          have longer : ((s.cellsTo d).atom j).length < (a.value.show (s.cellsTo d)).length := by
            rw [State.cellsTo_eq_cellsWith]
            exact Value.length_lt_show s a.value shown
          rw [content]
          exact (ih inner).trans_lt longer

/-- Where there is no text, that of any depth is too long to be one. -/
theorem le_length_of_not_printable (endless : ¬ Printable s v) :
    Number.twoPow 60 < (v.show s.cells).length := by
  obtain ⟨i, shown, inner⟩ : ∃ i ∈ v.shownAtoms, ¬ ∃ text, AtomText s i text := by
    by_contra all
    push Not at all
    exact endless (printable_iff_forall.2 all)
  have content : s.printDepth ≤ (s.cells.atom i).length := le_length_of_not_atomText inner
  have longer : (s.cells.atom i).length < (v.show s.cells).length := by
    rw [s.cells_eq_cellsWith]
    exact Value.length_lt_show s v shown
  have deep : Number.twoPow 60 ≤ s.printDepth := Nat.le_add_right ..
  exact (deep.trans content).trans_lt longer

/-! ### Writing atoms -/

/-- Every value can be printed. -/
def PrintsAll (s : State) : Prop := ∀ v, Printable s v

/-- All atoms can be printed if none holds itself. -/
theorem printsAll_iff_apart : PrintsAll s ↔ ∀ k, ¬ HoldsItself s k := by
  constructor
  · exact fun prints k => printable_iff_apart.1 (prints (.atom k)) k ⟨k, List.mem_singleton.2 rfl, .refl⟩
  · exact fun apart v => printable_iff_apart.2 fun k _ => apart k

/-- A value comes into an atom: a new atom is made with it, it is written, or it is put in place of the
    content as of some version. -/
inductive Stores (w : Value) : State → Nat → State → Prop where
  | made (s : State) : Stores w s s.atoms.size (s.addAtom w).2
  | written {s t : State} {i : Nat} (inside : i < s.atoms.size)
      (ran : Evaluator.writeAtom i w s = .done (.ok ()) t) : Stores w s i t
  | replaced {s t : State} {i : Nat} {version : UInt64}
      (ran : Evaluator.compareAndSet i version w s = .done (.ok true) t) : Stores w s i t

/-- In the second state an atom holds the value, and all others are as in the first state. -/
structure Stored (w : Value) (s : State) (i : Nat) (t : State) : Prop where
  here : ∃ a, t.atoms[i]? = some a ∧ a.value = w
  elsewhere : ∀ k, k ≠ i → t.atoms[k]? = s.atoms[k]?

theorem stored_modify {f : Atom → Atom} {a : Atom} (found : s.atoms[i]? = some a)
    (value : (f a).value = w) : Stored w s i { s with atoms := s.atoms.modify i f } where
  here := ⟨f a, by simp [Array.getElem?_modify, found], value⟩
  elsewhere k apart := by simp [Array.getElem?_modify, Ne.symm apart]

/-- Storing a value replaces what one atom holds. -/
theorem Stores.stored (stores : Stores w s i t) : Stored w s i t := by
  cases stores with
  | made =>
      refine ⟨⟨{ value := w }, Array.getElem?_push_size, rfl⟩, fun k apart => ?_⟩
      show (s.atoms.push { value := w })[k]? = s.atoms[k]?
      rw [Array.getElem?_push, if_neg apart]
  | written inside ran =>
      cases ran
      exact stored_modify (Array.getElem?_eq_getElem inside) rfl
  | @replaced _ _ version ran =>
      unfold Evaluator.compareAndSet at ran
      rw [Machine.run_look_bind] at ran
      cases found : s.atoms[i]? with
      | none =>
          rw [found] at ran
          cases ran
      | some a =>
          by_cases current : a.version = version
          · rw [found, Option.map_some, Atom.compareAndSet, if_pos current] at ran
            cases ran
            exact stored_modify found rfl
          · rw [found, Option.map_some, Atom.compareAndSet, if_neg current] at ran
            cases ran

section

variable (stored : Stored w s i t)
include stored

/-- The atom that is written shows the atoms in the new value. -/
theorem Stored.shows_here : Shows t i j ↔ j ∈ w.shownAtoms := by
  obtain ⟨a, found, rfl⟩ := stored.here
  exact shows_iff found

/-- The other atoms show what they did. -/
theorem Stored.shows_elsewhere (apart : k ≠ i) : Shows t k j ↔ Shows s k j := by
  rw [Shows, Shows, stored.elsewhere k apart]

/-- A path to the atom is still there. -/
theorem Stored.path_to (path : ReflTransGen (Shows s) k i) : ReflTransGen (Shows t) k i := by
  induction path using ReflTransGen.head_induction_on with
  | refl => exact .refl
  | @head k m shows _ ih =>
      by_cases here : k = i
      · exact here ▸ .refl
      · exact ih.head ((stored.shows_elsewhere here).2 shows)

/-- If the value did not lead to the atom before, it leads to no other atoms than before. -/
theorem Stored.leadsTo (apart : ¬ LeadsTo s w i) (leads : LeadsTo t w j) : LeadsTo s w j := by
  obtain ⟨k, shown, path⟩ := leads
  induction path with
  | refl => exact ⟨k, shown, .refl⟩
  | @tail m n _ shows ih =>
      have here : m ≠ i := fun same => apart (same ▸ ih)
      obtain ⟨k', shown', path'⟩ := ih
      exact ⟨k', shown', path'.tail ((stored.shows_elsewhere here).1 shows)⟩

/-- A path was there before, or it goes through the atom. -/
theorem Stored.path_from (path : TransGen (Shows t) k j) :
    TransGen (Shows s) k j ∨ ReflTransGen (Shows t) k i ∧ LeadsTo t w j := by
  induction path with
  | @single j shows =>
      by_cases here : k = i
      · subst here
        exact .inr ⟨.refl, j, stored.shows_here.1 shows, .refl⟩
      · exact .inl (.single ((stored.shows_elsewhere here).1 shows))
  | @tail m n before shows ih =>
      by_cases here : m = i
      · subst here
        exact .inr ⟨before.to_reflTransGen, n, stored.shows_here.1 shows, .refl⟩
      · obtain old | ⟨toAtom, k', shown, rest⟩ := ih
        · exact .inl (old.tail ((stored.shows_elsewhere here).1 shows))
        · exact .inr ⟨toAtom, k', shown, rest.tail shows⟩

/-- Where no atom held itself, one does after a write exactly if the value led to the atom that it was
    written to. -/
theorem Stored.apart_iff (apart : ∀ k, ¬ HoldsItself s k) :
    (∀ k, ¬ HoldsItself t k) ↔ ¬ LeadsTo s w i := by
  constructor
  · rintro after ⟨k, shown, path⟩
    exact after i (TransGen.head' (stored.shows_here.2 shown) (stored.path_to path))
  · intro clear k circle
    obtain old | ⟨toAtom, k', shown, rest⟩ := stored.path_from circle
    · exact apart k old
    · exact clear (stored.leadsTo clear ⟨k', shown, rest.trans toAtom⟩)

/-- After a write all atoms can be printed unless the value leads to the atom. -/
theorem Stored.printsAll_iff (prints : PrintsAll s) : PrintsAll t ↔ ¬ LeadsTo s w i := by
  rw [printsAll_iff_apart]
  exact stored.apart_iff (printsAll_iff_apart.1 prints)

end

/-- Values are stored one after the other, none of which leads to the atom that it is stored in. -/
abbrev StoredApart : State → State → Prop :=
  ReflTransGen fun s t => ∃ i w, Stores w s i t ∧ ¬ LeadsTo s w i

/-- Writes of values that do not lead back keep all atoms printable. -/
theorem StoredApart.printsAll (run : StoredApart s t) (prints : PrintsAll s) : PrintsAll t := by
  induction run with
  | refl => exact prints
  | tail _ step ih =>
      obtain ⟨i, w, stores, apart⟩ := step
      exact (stores.stored.printsAll_iff ih).2 apart

/-- Which values can be printed. Printing a value comes to an end exactly if the value leads to no
    atom that holds itself. If it does, what is printed shows the texts of the contents; if it does
    not, there is no end to the text, as far as the printer gets. And where every value can be
    printed, they all can after a value is stored in an atom exactly if the value did not lead to that
    atom; so they all can as long as no such value is stored. -/
theorem printable_iff_no_circle (s : State) (v : Value) :
    (Printable s v ↔ ∀ i, LeadsTo s v i → ¬ HoldsItself s i) ∧
    (∀ texts, AtomTexts s v texts → v.show s.cells = v.show (s.cellsWith texts) ∧
      v.display s.cells = v.display (s.cellsWith texts)) ∧
    (¬ Printable s v → Number.twoPow 60 < (v.show s.cells).length) ∧
    (PrintsAll s → ∀ i t, Stores v s i t → (PrintsAll t ↔ ¬ LeadsTo s v i)) ∧
    (PrintsAll s → ∀ t, StoredApart s t → PrintsAll t) :=
  ⟨printable_iff_apart, fun _ has => has.show_cells, le_length_of_not_printable,
    fun prints _ _ stores => stores.stored.printsAll_iff prints, fun prints _ run => run.printsAll prints⟩

/-- An atom with a text, and one with a vector of the first atom. -/
def withChain : State where
  atoms := #[{ value := .text "one" }, { value := .vector [.atom 0] }]

/-- The same where the first atom has got the second one. -/
def withCircle : State := { withChain with atoms := withChain.atoms.modify 0 (·.set (.atom 1)) }

theorem withChain_apart (k : Nat) : ¬ HoldsItself withChain k := by
  have down {i j : Nat} (shows : Shows withChain i j) : j < i := by
    obtain ⟨a, found, shown⟩ := shows
    match i with
    | 0 =>
        cases found
        cases shown
    | 1 =>
        cases found
        obtain rfl := List.mem_singleton.1 shown
        exact Nat.zero_lt_one
    | i + 2 => cases found
  have descends {i j : Nat} (path : TransGen (Shows withChain) i j) : j < i := by
    induction path with
    | single shows => exact down shows
    | tail _ shows ih => exact (down shows).trans ih
  exact fun circle => (descends circle).false

/-- A chain of atoms is printed, until it is closed to a circle. -/
theorem printable_chain :
    (Value.atom 1).show withChain.cells = "#<atom [#<atom \"one\">]>" ∧
      ¬ PrintsAll withCircle ∧
      Number.twoPow 60 < ((Value.atom 1).show withCircle.cells).length := by
  obtain ⟨-, shows, -, -, -⟩ := printable_iff_no_circle withChain (.atom 1)
  obtain ⟨-, -, endless, -, -⟩ := printable_iff_no_circle withCircle (.atom 1)
  obtain ⟨-, -, -, stores, -⟩ := printable_iff_no_circle withChain (.atom 1)
  let texts (i : Nat) : String := if i = 0 then "\"one\"" else "[#<atom \"one\">]"
  have first : AtomText withChain 0 (texts 0) := by
    have quoted : texts 0 = (Value.text "one").show (withChain.cellsWith texts) := by decide +kernel
    have found : withChain.atoms[0]? = some { value := .text "one" } := rfl
    rw [quoted]
    exact .content found fun j shown => absurd shown List.not_mem_nil
  have second : AtomText withChain 1 (texts 1) := by
    have enclosed : texts 1 = (Value.vector [.atom 0]).show (withChain.cellsWith texts) := by
      decide +kernel
    have found : withChain.atoms[1]? = some { value := .vector [.atom 0] } := rfl
    rw [enclosed]
    refine .content found fun j shown => ?_
    obtain rfl := List.mem_singleton.1 shown
    exact first
  have prints : PrintsAll withChain := fun v => printable_iff_apart.2 fun k _ => withChain_apart k
  have leads : LeadsTo withChain (.atom 1) 0 :=
    ⟨1, List.mem_singleton.2 rfl, .single ⟨_, rfl, List.mem_singleton.2 rfl⟩⟩
  have stored : Stores (.atom 1) withChain 0 withCircle := .written (by decide) rfl
  have circle : HoldsItself withCircle 0 :=
    .tail (.single ⟨_, rfl, List.mem_singleton.2 rfl⟩) ⟨_, rfl, List.mem_singleton.2 rfl⟩
  refine ⟨?_, fun all => ?_, endless fun prints => ?_⟩
  · have has : AtomTexts withChain (.atom 1) texts := fun i shown => by
      obtain rfl := List.mem_singleton.1 shown
      exact second
    rw [(shows texts has).1]
    decide +kernel
  · exact (stores prints 0 withCircle stored).1 all leads
  · exact printable_iff_apart.1 prints 0
      ⟨1, List.mem_singleton.2 rfl, .single ⟨_, rfl, List.mem_singleton.2 rfl⟩⟩ circle

/-- The code `(reset! (def a (atom "one")) a)`. -/
def storeInItself : Form :=
  .list [.symbol "reset!", .list [.symbol "def", .symbol "a", .list [.symbol "atom", .text "one"]],
    .symbol "a"]

/-- A world with the builtins that the code calls. -/
def withAtomBuiltins : World where
  state := {
    managers := #[{ registry := ⟨[
      ("atom", .ofBuiltin "atom" (.primitive (.atom .make))),
      ("def", .ofBuiltin "core" (.form .define)),
      ("reset!", .ofBuiltin "atom" (.primitive (.atom .reset)))]⟩ }]
    scopes := #[{}] }

/-- The state that the code leaves. -/
def withAtomInItself : State := { withAtomBuiltins.state with
  scopes := #[{ bindings := [("a", .atom 0)] }]
  atoms := #[⟨1, .atom 0⟩] }

/-- A program can store an atom in itself, and printing what it answers with does not come to an end. -/
theorem storeInItself_not_printable :
    withAtomBuiltins.Evaluates {} .deferred storeInItself 0 (.ok (.atom 0)) ⟨withAtomInItself, []⟩ ∧
      ¬ Printable withAtomInItself (.atom 0) := by
  have ends : (Evaluator.ofSteps {} .deferred 9).eval storeInItself 0 withAtomBuiltins.state =
      .done (.ok (.atom 0)) withAtomInItself := by cbv
  refine ⟨World.evaluates_iff_ends.2 ⟨9, World.ends_of_done ends (by simp)⟩, fun prints => ?_⟩
  have circle : HoldsItself withAtomInItself 0 := .single ⟨_, rfl, List.mem_singleton.2 rfl⟩
  exact printable_iff_apart.1 prints 0 ⟨0, List.mem_singleton.2 rfl, .refl⟩ circle

end PluginLisp
