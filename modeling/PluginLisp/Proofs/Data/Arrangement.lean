import Mathlib.Data.List.Basic
import PluginLisp.Builtin.Sorting

/-!
Stable arrangements. The items of a list are arranged by a strict weak order if none comes before an
earlier one and tied items are in the order in which they were given. There is exactly one such
arrangement, and merging arranged halves makes it: sorting without effects comes to it.

Main results: `StrictWeakOn.arrangement`, `StableArrangement.unique`.
-/

namespace PluginLisp

variable {α : Type} {before : α → α → Bool} {items front back left right all : List α} {a b x : α}

/-- Neither of two items comes before the other. -/
def tied (before : α → α → Bool) (a b : α) : Bool := !before a b && !before b a

/-- Coming before is a strict weak order on the items. -/
structure StrictWeakOn (before : α → α → Bool) (items : List α) : Prop where
  irrefl : ∀ a ∈ items, before a a = false
  trans : ∀ a ∈ items, ∀ b ∈ items, ∀ c ∈ items,
    before a b = true → before b c = true → before a c = true
  tied_trans : ∀ a ∈ items, ∀ b ∈ items, ∀ c ∈ items,
    tied before a b = true → tied before b c = true → tied before a c = true

/-- The items in an order where none comes before an earlier one, and tied items are as they were. -/
structure StableArrangement (before : α → α → Bool) (items arranged : List α) : Prop where
  perm : arranged.Perm items
  ordered : arranged.Pairwise fun a b => before b a = false
  stable : ∀ a ∈ items, arranged.filter (tied before a) = items.filter (tied before a)

/-- Elements are tied if neither comes before the other. -/
theorem tied_iff : tied before a b = true ↔ before a b = false ∧ before b a = false := by
  simp [tied]

theorem tied_comm : tied before a b = tied before b a := Bool.and_comm _ _

namespace StrictWeakOn

/-- An order of some elements is one of fewer. -/
theorem mono (weak : StrictWeakOn before all) (subset : items ⊆ all) : StrictWeakOn before items where
  irrefl a ha := weak.irrefl a (subset ha)
  trans a ha b hb c hc := weak.trans a (subset ha) b (subset hb) c (subset hc)
  tied_trans a ha b hb c hc := weak.tied_trans a (subset ha) b (subset hb) c (subset hc)

/-- An item cannot be between two others without being comparable to one of them. -/
theorem before_or_before (weak : StrictWeakOn before items) {c : α} (ha : a ∈ items) (hb : b ∈ items)
    (hc : c ∈ items) (first : before a c = true) : before a b = true ∨ before b c = true := by
  by_contra neither
  obtain ⟨notAB, notBC⟩ : before a b = false ∧ before b c = false := by simpa using neither
  have notBA : before b a = false := by
    by_contra is
    have := weak.trans b hb a ha c hc (by simpa using is) first
    simp [this] at notBC
  have notCB : before c b = false := by
    by_contra is
    have := weak.trans a ha c hc b hb first (by simpa using is)
    simp [this] at notAB
  have := tied_iff.1 (weak.tied_trans a ha b hb c hc (tied_iff.2 ⟨notAB, notBA⟩)
    (tied_iff.2 ⟨notBC, notCB⟩))
  simp [this.1] at first

/-- Of two elements, at most one comes before the other. -/
theorem asymm (weak : StrictWeakOn before items) (ha : a ∈ items) (hb : b ∈ items)
    (first : before a b = true) : before b a = false := by
  by_contra is
  have := weak.trans a ha b hb a ha first (by simpa using is)
  simp [weak.irrefl a ha] at this

/-- Tied items are tied to the same items. -/
theorem tied_congr (weak : StrictWeakOn before items) (ha : a ∈ items) (hb : b ∈ items)
    (hx : x ∈ items) (same : tied before a b = true) : tied before a x = tied before b x := by
  rw [Bool.eq_iff_iff]
  constructor
  · exact weak.tied_trans b hb a ha x hx (tied_comm.trans same)
  · exact weak.tied_trans a ha b hb x hx same

end StrictWeakOn

/-! ### Merging -/

/-- What merging comes to without effects; of tied items, the ones on the left come first. -/
def merge (before : α → α → Bool) (left right : List α) : List α :=
  left.merge right fun a b => !before b a

@[simp] theorem merge_nil_left : merge before [] right = right := List.nil_merge right

@[simp] theorem merge_nil_right : merge before left [] = left := List.merge_right left

/-- Merging takes from the right what has to come before. -/
theorem merge_of_before (first : before b a = true) :
    merge before (a :: left) (b :: right) = b :: merge before (a :: left) right := by
  simp [merge, first]

/-- Merging takes from the left otherwise, also what is tied. -/
theorem merge_of_not_before (stays : before b a = false) :
    merge before (a :: left) (b :: right) = a :: merge before left (b :: right) := by
  simp [merge, stays]

/-- Merging keeps the elements. -/
theorem merge_perm (left right : List α) : (merge before left right).Perm (left ++ right) :=
  List.merge_perm_append _

theorem mem_merge : x ∈ merge before left right ↔ x ∈ left ∨ x ∈ right := by
  rw [(merge_perm left right).mem_iff, List.mem_append]

/-- No item comes before an earlier one. -/
abbrev Ordered (before : α → α → Bool) (items : List α) : Prop :=
  items.Pairwise fun a b => before b a = false

section

variable (weak : StrictWeakOn before all)
include weak

/-- An item before the first of some ordered items is before all of them. -/
theorem StrictWeakOn.before_of_ordered (ordered : Ordered before (a :: left))
    (within : a :: left ⊆ all) (hb : b ∈ all) (first : before b a = true) :
    ∀ x ∈ a :: left, before b x = true := by
  intro x member
  rcases weak.before_or_before hb (within member) (within List.mem_cons_self) first with is | earlier
  · exact is
  · rcases List.mem_cons.1 member with rfl | later
    · exact first
    · rw [List.rel_of_pairwise_cons ordered later] at earlier
      cases earlier

/-- Merging ordered items. The induction is on both lists, as one item is taken from either of them. -/
theorem StrictWeakOn.ordered_merge (withinLeft : left ⊆ all) (withinRight : right ⊆ all)
    (orderedLeft : Ordered before left) (orderedRight : Ordered before right) :
    Ordered before (merge before left right) := by
  induction left generalizing right with
  | nil => simpa using orderedRight
  | cons a left ihLeft =>
      induction right with
      | nil => simpa using orderedLeft
      | cons b right ihRight =>
          have ha : a ∈ all := withinLeft List.mem_cons_self
          have hb : b ∈ all := withinRight List.mem_cons_self
          cases first : before b a with
          | true =>
              rw [merge_of_before first]
              refine List.Pairwise.cons (fun x member => ?_) ?_
              · rcases mem_merge.1 member with inLeft | inRight
                · exact weak.asymm hb (withinLeft inLeft)
                    (weak.before_of_ordered orderedLeft withinLeft hb first x inLeft)
                · exact List.rel_of_pairwise_cons orderedRight inRight
              · exact ihRight (List.subset_of_cons_subset withinRight) orderedRight.of_cons
          | false =>
              rw [merge_of_not_before first]
              refine List.Pairwise.cons (fun x member => ?_) ?_
              · rcases mem_merge.1 member with inLeft | inRight
                · exact List.rel_of_pairwise_cons orderedLeft inLeft
                · by_contra is
                  have is : before x a = true := by simpa using is
                  -- what is before `a` would have to be before `b` too, which is before all others
                  rcases weak.before_or_before (withinRight inRight) hb ha is with earlier | is
                  · rcases List.mem_cons.1 inRight with rfl | later
                    · simp [is] at first
                    · simp [List.rel_of_pairwise_cons orderedRight later] at earlier
                  · simp [is] at first
              · exact ihLeft (List.subset_of_cons_subset withinLeft) withinRight orderedLeft.of_cons
                  orderedRight

/-- Merging keeps items that are tied to each other in their order. -/
theorem StrictWeakOn.filter_merge (withinLeft : left ⊆ all) (withinRight : right ⊆ all)
    (orderedLeft : Ordered before left) (hx : x ∈ all) :
    (merge before left right).filter (tied before x) =
      left.filter (tied before x) ++ right.filter (tied before x) := by
  induction left generalizing right with
  | nil => simp
  | cons a left ihLeft =>
      induction right with
      | nil => simp
      | cons b right ihRight =>
          have hb : b ∈ all := withinRight List.mem_cons_self
          cases first : before b a with
          | true =>
              have rest := ihRight (List.subset_of_cons_subset withinRight)
              rw [merge_of_before first]
              cases same : tied before x b with
              | false => rw [List.filter_cons_of_neg (by simp [same]), rest,
                  List.filter_cons_of_neg (l := right) (by simp [same])]
              | true =>
                  have none : (a :: left).filter (tied before x) = [] := by
                    rw [List.filter_eq_nil_iff]
                    intro y member ties
                    have is := weak.before_of_ordered orderedLeft withinLeft hb first y member
                    rw [weak.tied_congr hx hb (withinLeft member) same, tied_iff] at ties
                    simp [is] at ties
                  rw [List.filter_cons_of_pos same, rest, none, List.filter_cons_of_pos same]
                  rfl
          | false =>
              rw [merge_of_not_before first, List.filter_cons, @List.filter_cons _ _ left,
                ihLeft (List.subset_of_cons_subset withinLeft) withinRight orderedLeft.of_cons]
              split <;> rfl

/-! ### Stable arrangements -/

/-- A stable arrangement of some of the items keeps those that are tied to any item in their order. -/
theorem StrictWeakOn.filter_eq {arranged : List α} (stable : StableArrangement before items arranged)
    (within : items ⊆ all) (hx : x ∈ all) :
    arranged.filter (tied before x) = items.filter (tied before x) := by
  by_cases met : ∃ a ∈ items, tied before x a = true
  · obtain ⟨a, member, same⟩ := met
    have congr : ∀ y ∈ items, tied before x y = tied before a y :=
      fun y hy => weak.tied_congr hx (within member) (within hy) same
    rw [List.filter_congr congr, List.filter_congr fun y hy => congr y (stable.perm.subset hy)]
    exact stable.stable a member
  · have none : ∀ y ∈ items, ¬ tied before x y = true := by simpa using met
    rw [List.filter_eq_nil_iff.2 none, List.filter_eq_nil_iff]
    exact fun y hy => none y (stable.perm.subset hy)

/-- Two stable arrangements merge to one of what they arrange. -/
theorem StrictWeakOn.arranged_merge (arrangedLeft : StableArrangement before front left)
    (arrangedRight : StableArrangement before back right) (whole : front ++ back ⊆ all) :
    StableArrangement before (front ++ back) (merge before left right) := by
  have withinFront : front ⊆ all := (List.append_subset.1 whole).1
  have withinBack : back ⊆ all := (List.append_subset.1 whole).2
  have withinLeft : left ⊆ all := List.Subset.trans arrangedLeft.perm.subset withinFront
  have withinRight : right ⊆ all := List.Subset.trans arrangedRight.perm.subset withinBack
  refine ⟨?_, ?_, fun x member => ?_⟩
  · exact (merge_perm left right).trans (arrangedLeft.perm.append arrangedRight.perm)
  · exact weak.ordered_merge withinLeft withinRight arrangedLeft.ordered arrangedRight.ordered
  · rw [weak.filter_merge withinLeft withinRight arrangedLeft.ordered (whole member),
      weak.filter_eq arrangedLeft withinFront (whole member),
      weak.filter_eq arrangedRight withinBack (whole member), List.filter_append]

end

theorem stableArrangement_of_short (short : items.length ≤ 1) :
    StableArrangement before items items := by
  refine ⟨List.Perm.refl items, ?_, fun _ _ => rfl⟩
  match items, short with
  | [], _ => exact .nil
  | [a], _ => exact List.pairwise_singleton _ a

/-- Ordered lists of the same items are the same if they agree on tied items. The first items of the two
    are tied, as neither comes before the other. -/
theorem eq_of_ordered (irrefl : ∀ a ∈ left, before a a = false) (perm : left.Perm right)
    (orderedLeft : Ordered before left) (orderedRight : Ordered before right)
    (agree : ∀ a ∈ left, left.filter (tied before a) = right.filter (tied before a)) :
    left = right := by
  induction left generalizing right with
  | nil => exact perm.nil_eq
  | cons a left ih =>
      obtain _ | ⟨b, right⟩ := right
      · exact perm.eq_nil
      have self : tied before a a = true :=
        tied_iff.2 ⟨irrefl a List.mem_cons_self, irrefl a List.mem_cons_self⟩
      have ties : tied before a b = true := by
        refine tied_iff.2 ⟨?_, ?_⟩
        · rcases List.mem_cons.1 (perm.subset List.mem_cons_self) with rfl | later
          · exact irrefl a List.mem_cons_self
          · exact List.rel_of_pairwise_cons orderedRight later
        · rcases List.mem_cons.1 (perm.symm.subset List.mem_cons_self) with rfl | later
          · exact irrefl b List.mem_cons_self
          · exact List.rel_of_pairwise_cons orderedLeft later
      have same : a = b := by
        have first := agree a List.mem_cons_self
        rw [List.filter_cons_of_pos self, List.filter_cons_of_pos ties] at first
        exact (List.cons.inj first).1
      subst same
      refine congrArg (a :: ·) (ih (fun x hx => irrefl x (List.mem_cons_of_mem a hx)) perm.cons_inv
        orderedLeft.of_cons orderedRight.of_cons fun x hx => ?_)
      have agree := agree x (List.mem_cons_of_mem a hx)
      rw [List.filter_cons, @List.filter_cons _ _ right] at agree
      split at agree
      · exact (List.cons.inj agree).2
      · exact agree

/-- There is only one stable arrangement. -/
theorem StableArrangement.unique (irrefl : ∀ a ∈ items, before a a = false)
    (first : StableArrangement before items left) (second : StableArrangement before items right) :
    left = right := by
  refine eq_of_ordered (fun a ha => irrefl a (first.perm.subset ha))
    (first.perm.trans second.perm.symm) first.ordered second.ordered fun a ha => ?_
  have member := first.perm.subset ha
  exact (first.stable a member).trans (second.stable a member).symm

/-! ### Merge sort step by step -/

section

variable {m : Type → Type} [Monad m] {comesFirst : α → α → m Bool} {taken : List α}

theorem mergeInto_nil_left :
    mergeInto comesFirst taken [] right = pure (taken.reverse ++ right) := by
  rw [mergeInto]

theorem mergeInto_nil_right :
    mergeInto comesFirst taken left [] = pure (taken.reverse ++ left) := by
  cases left <;> simp [mergeInto]

theorem mergeInto_cons_cons :
    mergeInto comesFirst taken (a :: left) (b :: right) =
      comesFirst b a >>= fun first =>
        if first then mergeInto comesFirst (b :: taken) (a :: left) right
        else mergeInto comesFirst (a :: taken) left (b :: right) := by
  rw [mergeInto]

theorem mergeSortBy_of_short (short : items.length ≤ 1) :
    mergeSortBy comesFirst items = pure items := by
  rw [mergeSortBy, if_pos short]

/-- A long list is sorted by halves, the first half first. -/
theorem mergeSortBy_of_long (long : ¬ items.length ≤ 1) :
    mergeSortBy comesFirst items =
      mergeSortBy comesFirst (items.take (items.length / 2)) >>= fun left =>
        mergeSortBy comesFirst (items.drop (items.length / 2)) >>= fun right =>
          mergeInto comesFirst [] left right := by
  rw [mergeSortBy, if_neg long]

end

/-! ### Sorting without effects -/

/-- What sorting comes to if comparing has no effects. -/
def arrangement (before : α → α → Bool) (items : List α) : List α :=
  Id.run (mergeSortBy (fun a b => pure (before a b)) items)

/-- Without effects, merging step by step is merging. -/
theorem mergeInto_id (taken : List α) :
    mergeInto (m := Id) (fun a b => pure (before a b)) taken left right =
      pure (taken.reverse ++ merge before left right) := by
  fun_induction mergeInto (m := Id) (fun a b => pure (before a b)) taken left right with
  | case1 taken right => simp
  | case2 taken left notNil => simp
  | case3 taken a left b right ihRight ihLeft =>
      cases first : before b a with
      | true => simp_all [merge_of_before first]
      | false => simp_all [merge_of_not_before first]

theorem arrangement_of_short (short : items.length ≤ 1) : arrangement before items = items := by
  rw [arrangement, mergeSortBy_of_short short]
  rfl

/-- The arrangement of a long list is merged from those of its halves. -/
theorem arrangement_of_long (long : ¬ items.length ≤ 1) :
    arrangement before items = merge before (arrangement before (items.take (items.length / 2)))
      (arrangement before (items.drop (items.length / 2))) := by
  rw [arrangement, mergeSortBy_of_long long]
  exact mergeInto_id []

/-- Merge sort arranges stably. -/
theorem StrictWeakOn.arrangement (weak : StrictWeakOn before items) :
    StableArrangement before items (arrangement before items) := by
  fun_induction mergeSortBy (m := Id) (fun a b => pure (before a b)) items with
  | case1 items short =>
      rw [arrangement_of_short short]
      exact stableArrangement_of_short short
  | case2 items long ihLeft ihRight =>
      rw [arrangement_of_long long]
      have halves := List.take_append_drop (items.length / 2) items
      have within : items.take (items.length / 2) ++ items.drop (items.length / 2) ⊆ items := by
        rw [halves]
        exact List.Subset.refl items
      have whole := weak.arranged_merge (ihLeft (weak.mono (List.take_subset _ _)))
        (ihRight (weak.mono (List.drop_subset _ _))) within
      rwa [halves] at whole

end PluginLisp
