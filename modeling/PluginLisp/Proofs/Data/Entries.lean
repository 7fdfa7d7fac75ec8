import PluginLisp.Assoc

/-!
The theory of sorted entries. The view of a list of entries is `Assoc.get?`: setting a key changes the
view at that key only, removing one takes it out of the view, and both keep the entries sorted. Sorted
entries with the same view are equal.

Main results: `get?_put`, `Sorted.get?_eq_some_iff`, `Sorted.ext`.
-/

namespace PluginLisp.Assoc

variable {α : Type} {key k : String} {value : α} {entries first second : Assoc α}

/-! ### Membership -/

/-- What is found under a key is there as an entry. -/
theorem get?_mem (found : Assoc.get? key entries = some value) : (key, value) ∈ entries := by
  induction entries with
  | nil => simp [Assoc.get?] at found
  | cons entry rest ih =>
      obtain ⟨k, v⟩ := entry
      simp only [Assoc.get?] at found
      split at found
      next same =>
        cases found
        simp [eq_of_beq same]
      next => exact List.mem_cons_of_mem _ (ih found)

/-- Every entry after setting a key is the new one or was there before. -/
theorem mem_put {entry : String × α} (member : entry ∈ Assoc.put key value entries) :
    entry = (key, value) ∨ entry ∈ entries := by
  induction entries with
  | nil => simpa [Assoc.put] using member
  | cons head rest ih =>
      obtain ⟨k, v⟩ := head
      simp only [Assoc.put] at member
      split at member
      · grind
      · split at member
        · grind
        · grind

/-- An entry left over was there before. -/
theorem mem_remove {entry : String × α} (member : entry ∈ Assoc.remove key entries) :
    entry ∈ entries := by
  induction entries with
  | nil => simp [Assoc.remove] at member
  | cons head rest ih =>
      obtain ⟨k, v⟩ := head
      simp only [Assoc.remove] at member
      split at member <;> grind

/-- An entry of a table laid over another comes from one of the two. -/
theorem mem_overlay {entry : String × α} (member : entry ∈ Assoc.overlay first second) :
    entry ∈ first ∨ entry ∈ second := by
  induction second generalizing first with
  | nil => exact Or.inl member
  | cons head rest ih =>
      have inPut : entry ∈ Assoc.overlay (first.put head.1 head.2) rest := member
      rcases ih inPut with inFirst | inRest
      · rcases mem_put inFirst with rfl | inFirst
        · exact Or.inr List.mem_cons_self
        · exact Or.inl inFirst
      · exact Or.inr (List.mem_cons_of_mem _ inRest)

/-! ### The view -/

/-- The keys are strictly increasing. -/
def Sorted (entries : Assoc α) : Prop := entries.Pairwise fun a b => a.1 < b.1

@[simp] theorem sorted_nil : Sorted ([] : Assoc α) := List.Pairwise.nil

/-- A key is there if something is found under it. -/
@[simp] theorem has_iff : has key entries = true ↔ ∃ value, get? key entries = some value := by
  simp [has, Option.isSome_iff_exists]

theorem has_iff_mem_names : has key entries = true ↔ key ∈ names entries := by
  induction entries with
  | nil => simp [get?, names]
  | cons entry rest ih =>
      obtain ⟨k, v⟩ := entry
      by_cases same : k = key
      · simp [get?, names, same]
      · simpa [get?, names, same, Ne.symm same] using ih

/-- Putting an entry changes what is found under its key, and nothing else. -/
theorem get?_put : get? k (put key value entries) = if key = k then some value else get? k entries := by
  induction entries with
  | nil => simp [put, get?]
  | cons entry rest ih =>
      obtain ⟨k', v⟩ := entry
      by_cases found : k' = key
      · subst found
        simp only [put, beq_self_eq_true, if_true, get?, beq_iff_eq]
        split <;> simp_all
      · simp only [put, beq_iff_eq, found, if_false]
        split
        · simp only [get?, beq_iff_eq]
        · simp only [get?, beq_iff_eq, ih]
          grind

/-- Removing an entry does not change what is found under other keys. -/
theorem get?_remove_of_ne (other : key ≠ k) : get? k (remove key entries) = get? k entries := by
  induction entries with
  | nil => rfl
  | cons entry rest ih =>
      obtain ⟨k', v⟩ := entry
      simp only [remove, beq_iff_eq]
      split
      · rename_i found
        simp [get?, found, other]
      · simp only [get?, ih]

/-- Putting an entry keeps the table sorted. -/
theorem sorted_put (sorted : Sorted entries) (key : String) (value : α) :
    Sorted (put key value entries) := by
  induction entries with
  | nil => simp [put, Sorted]
  | cons entry rest ih =>
      obtain ⟨k, v⟩ := entry
      obtain ⟨least, sortedRest⟩ := List.pairwise_cons.1 sorted
      simp only [put, beq_iff_eq]
      split
      · rename_i found
        subst found
        exact List.pairwise_cons.2 ⟨least, sortedRest⟩
      · split
        · rename_i before
          refine List.pairwise_cons.2 ⟨fun entry member => ?_, sorted⟩
          rcases List.mem_cons.1 member with rfl | member
          · exact before
          · exact String.lt_trans before (least entry member)
        · refine List.pairwise_cons.2 ⟨fun entry member => ?_, ih sortedRest⟩
          rcases mem_put member with rfl | member
          · grind
          · exact least entry member

/-- A key above all keys is set behind them. -/
theorem put_of_above (above : ∀ entry ∈ entries, entry.1 < key) :
    put key value entries = entries ++ [(key, value)] := by
  induction entries with
  | nil => rfl
  | cons entry rest ih =>
      obtain ⟨k, v⟩ := entry
      have below : k < key := above (k, v) List.mem_cons_self
      have other : k ≠ key := fun same => String.lt_irrefl k (same ▸ below)
      rw [put, if_neg (by simpa using other), if_neg (String.lt_asymm below),
        ih fun entry member => above entry (List.mem_cons_of_mem _ member)]
      rfl

/-- Entries in order are set one behind the other. -/
theorem Sorted.put_next {before rest : Assoc α} (sorted : Sorted (before ++ (key, value) :: rest)) :
    put key value before = before ++ [(key, value)] :=
  put_of_above fun entry member =>
    (List.pairwise_append.1 sorted).2.2 entry member (key, value) List.mem_cons_self

/-- Removing an entry keeps the table sorted. -/
theorem sorted_remove (sorted : Sorted entries) (key : String) : Sorted (remove key entries) := by
  induction entries with
  | nil => exact sorted
  | cons entry rest ih =>
      obtain ⟨k, v⟩ := entry
      obtain ⟨least, sortedRest⟩ := List.pairwise_cons.1 sorted
      simp only [remove]
      split
      · exact sortedRest
      · exact List.pairwise_cons.2 ⟨fun entry member => least entry (mem_remove member), ih sortedRest⟩

/-- A key below all keys has no value. -/
theorem get?_eq_none_of_lt (below : ∀ entry ∈ entries, key < entry.1) : get? key entries = none := by
  cases found : get? key entries with
  | none => rfl
  | some value => exact absurd (below _ (get?_mem found)) (String.lt_irrefl key)

/-- In a sorted table, removing an entry leaves nothing under its key. -/
theorem Sorted.get?_remove (sorted : Sorted entries) :
    get? k (remove key entries) = if key = k then none else get? k entries := by
  by_cases same : key = k
  · subst same
    rw [if_pos rfl]
    induction entries with
    | nil => rfl
    | cons entry rest ih =>
        obtain ⟨k', v⟩ := entry
        obtain ⟨least, sortedRest⟩ := List.pairwise_cons.1 sorted
        simp only [remove, beq_iff_eq]
        split
        · rename_i found
          subst found
          exact get?_eq_none_of_lt least
        · rename_i other
          simp only [get?, beq_iff_eq, other, if_false, ih sortedRest]
  · rw [if_neg same, get?_remove_of_ne same]

/-- In a sorted table, what is found is just what is there. -/
theorem Sorted.get?_eq_some_iff (sorted : Sorted entries) :
    get? key entries = some value ↔ (key, value) ∈ entries := by
  refine ⟨get?_mem, fun member => ?_⟩
  induction entries with
  | nil => simp at member
  | cons entry rest ih =>
      obtain ⟨k, v⟩ := entry
      obtain ⟨least, sortedRest⟩ := List.pairwise_cons.1 sorted
      rcases List.mem_cons.1 member with same | inRest
      · cases same
        simp [get?]
      · have other : k ≠ key := fun same => String.lt_irrefl k (same ▸ least _ inRest)
        simp [get?, other, ih sortedRest inRest]

/-- Sorted entries are determined by their view. -/
theorem Sorted.ext (sortedFirst : Sorted first) (sortedSecond : Sorted second)
    (same : ∀ key, get? key first = get? key second) : first = second := by
  -- The first entries agree: each is found in the other list, and nothing there comes before it.
  induction first generalizing second with
  | nil =>
      cases second with
      | nil => rfl
      | cons entry rest =>
          have missing := same entry.1
          simp [get?] at missing
  | cons entry rest ih =>
      cases second with
      | nil =>
          have missing := same entry.1
          simp [get?] at missing
      | cons entry' rest' =>
          obtain ⟨k, v⟩ := entry
          obtain ⟨k', v'⟩ := entry'
          obtain ⟨least, sortedRest⟩ := List.pairwise_cons.1 sortedFirst
          obtain ⟨least', sortedRest'⟩ := List.pairwise_cons.1 sortedSecond
          have inSecond : (k, v) ∈ (k', v') :: rest' := by
            apply get?_mem
            rw [← same]
            simp [get?]
          have inFirst : (k', v') ∈ (k, v) :: rest := by
            apply get?_mem
            rw [same]
            simp [get?]
          have heads : (k, v) = (k', v') := by
            rcases List.mem_cons.1 inSecond with heads | later
            · exact heads
            · rcases List.mem_cons.1 inFirst with heads | later'
              · exact heads.symm
              · exact absurd (least' _ later) (String.lt_asymm (least _ later'))
          cases heads
          refine congrArg _ (ih sortedRest sortedRest' fun key => ?_)
          by_cases first : k = key
          · subst first
            rw [get?_eq_none_of_lt least, get?_eq_none_of_lt least']
          · simpa [get?, first] using same key

end PluginLisp.Assoc
