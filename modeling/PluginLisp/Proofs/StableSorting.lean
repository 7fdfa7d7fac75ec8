import PluginLisp.Proofs.Data.Arrangement
import PluginLisp.Proofs.CallsByName
import PluginLisp.Proofs.Evaluation.BuiltinCalls

/-!
Sorting. A comparison may have effects, fail, or answer inconsistently; sorting by it comes to an end
if comparing does, to a permutation in any case, and to no error but one of comparing two of the
items. By a strict weak order it comes to the stable arrangement.

Main results: `sortsStably`, `sort_arranges_stably`.
-/

namespace PluginLisp

open Machine World Evaluator

section

variable {α : Type} {comesFirst : α → α → Machine Bool} {before : α → α → Bool}
  {items left right taken : List α} {inv : World → Prop} {w after : World} {e : Error}

/-! ### Nothing is lost -/

/-- Whatever the comparator does, merging keeps the elements. -/
theorem mergeInto_gives_perm (taken left right : List α) :
    (mergeInto comesFirst taken left right).Gives fun result =>
      result.Perm (taken ++ (left ++ right)) := by
  fun_induction mergeInto comesFirst taken left right with
  | case1 taken right => exact Gives.pure ((List.reverse_perm taken).append_right right)
  | case2 taken left notNil =>
      refine Gives.pure ?_
      rw [List.append_nil]
      exact (List.reverse_perm taken).append_right left
  | case3 taken a left b right ihRight ihLeft =>
      refine (Gives.any _).bind fun first _ => ?_
      split
      · refine ihRight.weaken fun result perm => perm.trans ?_
        exact List.perm_middle.symm.trans (List.perm_middle.symm.append_left taken)
      · exact ihLeft.weaken fun result perm => perm.trans List.perm_middle.symm

/-- Whatever the comparison answers, sorting comes to a permutation. -/
theorem mergeSortBy_gives_perm (items : List α) :
    (mergeSortBy comesFirst items).Gives fun result => result.Perm items := by
  fun_induction mergeSortBy comesFirst items with
  | case1 items short => exact Gives.pure (List.Perm.refl items)
  | case2 items long ihLeft ihRight =>
      refine ihLeft.bind fun left permLeft => ihRight.bind fun right permRight => ?_
      refine (mergeInto_gives_perm [] left right).weaken fun result perm => perm.trans ?_
      have whole := permLeft.append permRight
      rwa [List.take_append_drop] at whole

/-! ### Coming to an end -/

/-- In the worlds with the invariant, comparing any two of the items comes to an end, and leaves a world
    with the invariant. -/
def ComparisonEnds (inv : World → Prop) (comesFirst : α → α → Machine Bool) (items : List α) :
    Prop :=
  ∀ x ∈ items, ∀ y ∈ items, ∀ w, inv w →
    ∃ outcome after, w.Ends (comesFirst x y) outcome after ∧ inv after

theorem ComparisonEnds.mono {some all : List α} (compares : ComparisonEnds inv comesFirst all)
    (subset : some ⊆ all) : ComparisonEnds inv comesFirst some :=
  fun x hx y hy => compares x (subset hx) y (subset hy)

/-- A computation that comes to an end, and then one that does so for every value. -/
theorem World.exists_ends_bind {β γ : Type} {m : Machine β} {f : β → Machine γ}
    (first : ∃ outcome after, w.Ends m outcome after ∧ inv after)
    (second : ∀ b u, w.Ends m (.ok b) u → inv u →
      ∃ outcome after, u.Ends (f b) outcome after ∧ inv after) :
    ∃ outcome after, w.Ends (m >>= f) outcome after ∧ inv after := by
  obtain ⟨outcome, u, ends, holds⟩ := first
  cases outcome with
  | ok b =>
      obtain ⟨outcome, after, rest, holds⟩ := second b u ends holds
      exact ⟨outcome, after, ends.bind rest, holds⟩
  | error e => exact ⟨.error e, u, ends.bind_error, holds⟩
  | exhausted => exact absurd rfl ends.1

/-- Merging ends if the comparisons do. -/
theorem ComparisonEnds.exists_ends_mergeInto (compares : ComparisonEnds inv comesFirst items)
    (taken : List α) (withinLeft : left ⊆ items) (withinRight : right ⊆ items) (holds : inv w) :
    ∃ outcome after, w.Ends (mergeInto comesFirst taken left right) outcome after ∧ inv after := by
  fun_induction mergeInto comesFirst taken left right generalizing w with
  | case1 taken right => exact ⟨_, w, ends_pure w _, holds⟩
  | case2 taken left notNil => exact ⟨_, w, ends_pure w _, holds⟩
  | case3 taken a left b right ihRight ihLeft =>
      refine exists_ends_bind ?_ fun first u _ holds => ?_
      · exact compares b (withinRight List.mem_cons_self) a (withinLeft List.mem_cons_self) w holds
      · split
        · exact ihRight withinLeft (List.subset_of_cons_subset withinRight) holds
        · exact ihLeft (List.subset_of_cons_subset withinLeft) withinRight holds

/-- Sorting ends if the comparisons do. -/
theorem ComparisonEnds.exists_ends_mergeSortBy (compares : ComparisonEnds inv comesFirst items)
    (holds : inv w) :
    ∃ outcome after, w.Ends (mergeSortBy comesFirst items) outcome after ∧ inv after := by
  fun_induction mergeSortBy comesFirst items generalizing w with
  | case1 items short => exact ⟨_, w, ends_pure w _, holds⟩
  | case2 items long ihLeft ihRight =>
      have front := List.take_subset (items.length / 2) items
      have back := List.drop_subset (items.length / 2) items
      refine exists_ends_bind (ihLeft (compares.mono front) holds) fun left u ends holds => ?_
      refine exists_ends_bind (ihRight (compares.mono back) holds) fun right u' ends' holds => ?_
      have permLeft := ends.holds (mergeSortBy_gives_perm _)
      have permRight := ends'.holds (mergeSortBy_gives_perm _)
      exact compares.exists_ends_mergeInto [] (List.Subset.trans permLeft.subset front)
        (List.Subset.trans permRight.subset back) holds

/-! ### Errors -/

/-- An error of merging is one of comparing an item on the right with one on the left. -/
theorem error_of_mergeInto (ends : w.Ends (mergeInto comesFirst taken left right) (.error e) after) :
    ∃ a ∈ left, ∃ b ∈ right, ∃ u : World, u.Ends (comesFirst b a) (.error e) after := by
  fun_induction mergeInto comesFirst taken left right generalizing w with
  | case1 taken right => cases (ends.eq_of_done rfl).1
  | case2 taken left notNil => cases (ends.eq_of_done rfl).1
  | case3 taken a left b right ihRight ihLeft =>
      rcases ends.bind_cases with ⟨first, u, -, rest⟩ | ⟨e', same, failed⟩
      · cases first with
        | true =>
            obtain ⟨x, hx, y, hy, failed⟩ := ihRight rest
            exact ⟨x, hx, y, List.mem_cons_of_mem b hy, failed⟩
        | false =>
            obtain ⟨x, hx, y, hy, failed⟩ := ihLeft rest
            exact ⟨x, List.mem_cons_of_mem a hx, y, hy, failed⟩
      · cases same
        exact ⟨a, List.mem_cons_self, b, List.mem_cons_self, w, failed⟩

/-- An error of sorting is one of comparing an item with one that is given before it. -/
theorem error_of_mergeSortBy (ends : w.Ends (mergeSortBy comesFirst items) (.error e) after) :
    ∃ x y, [y, x].Sublist items ∧ ∃ u : World, u.Ends (comesFirst x y) (.error e) after := by
  fun_induction mergeSortBy comesFirst items generalizing w with
  | case1 items short => cases (ends.eq_of_done rfl).1
  | case2 items long ihLeft ihRight =>
      rcases ends.bind_cases with ⟨left, u, sortsLeft, rest⟩ | ⟨e', same, failed⟩
      · rcases rest.bind_cases with ⟨right, u', sortsRight, merges⟩ | ⟨e', same, failed⟩
        · obtain ⟨a, ha, b, hb, failed⟩ := error_of_mergeInto merges
          have front : [a].Sublist (items.take (items.length / 2)) :=
            List.singleton_sublist.2 ((sortsLeft.holds (mergeSortBy_gives_perm _)).subset ha)
          have back : [b].Sublist (items.drop (items.length / 2)) :=
            List.singleton_sublist.2 ((sortsRight.holds (mergeSortBy_gives_perm _)).subset hb)
          have both := front.append back
          rw [List.take_append_drop] at both
          exact ⟨b, a, both, failed⟩
        · cases same
          obtain ⟨x, y, order, failed⟩ := ihRight failed
          exact ⟨x, y, order.trans (List.drop_sublist _ _), failed⟩
      · cases same
        obtain ⟨x, y, order, failed⟩ := ihLeft failed
        exact ⟨x, y, order.trans (List.take_sublist _ _), failed⟩

/-! ### Comparisons that answer -/

/-- In the worlds with the invariant, comparing any two of the items comes to the answer, and leaves a
    world with the invariant. -/
def ComparisonAnswers (inv : World → Prop) (comesFirst : α → α → Machine Bool) (before : α → α → Bool)
    (items : List α) : Prop :=
  ∀ x ∈ items, ∀ y ∈ items, ∀ w, inv w →
    ∃ after, w.Ends (comesFirst x y) (.ok (before x y)) after ∧ inv after

theorem ComparisonAnswers.mono {some all : List α}
    (answers : ComparisonAnswers inv comesFirst before all) (subset : some ⊆ all) :
    ComparisonAnswers inv comesFirst before some :=
  fun x hx y hy => answers x (subset hx) y (subset hy)

/-- Where the comparisons answer, merging ends with the merged list. -/
theorem ComparisonAnswers.ends_mergeInto (answers : ComparisonAnswers inv comesFirst before items)
    (taken : List α) (withinLeft : left ⊆ items) (withinRight : right ⊆ items) (holds : inv w) :
    ∃ after, w.Ends (mergeInto comesFirst taken left right)
      (.ok (taken.reverse ++ merge before left right)) after ∧ inv after := by
  fun_induction mergeInto comesFirst taken left right generalizing w with
  | case1 taken right =>
      rw [merge_nil_left]
      exact ⟨w, ends_pure w _, holds⟩
  | case2 taken left notNil =>
      rw [merge_nil_right]
      exact ⟨w, ends_pure w _, holds⟩
  | case3 taken a left b right ihRight ihLeft =>
      obtain ⟨u, compared, holds⟩ :=
        answers b (withinRight List.mem_cons_self) a (withinLeft List.mem_cons_self) w holds
      cases first : before b a with
      | true =>
          obtain ⟨after, rest, holds⟩ :=
            ihRight withinLeft (List.subset_of_cons_subset withinRight) holds
          rw [List.reverse_cons, List.append_assoc] at rest
          rw [first] at compared
          rw [merge_of_before first]
          exact ⟨after, compared.bind rest, holds⟩
      | false =>
          obtain ⟨after, rest, holds⟩ :=
            ihLeft (List.subset_of_cons_subset withinLeft) withinRight holds
          rw [List.reverse_cons, List.append_assoc] at rest
          rw [first] at compared
          rw [merge_of_not_before first]
          exact ⟨after, compared.bind rest, holds⟩

/-- Sorting by a comparison that answers comes to what it would come to without effects. -/
theorem ComparisonAnswers.ends_mergeSortBy (answers : ComparisonAnswers inv comesFirst before items)
    (holds : inv w) :
    ∃ after, w.Ends (mergeSortBy comesFirst items) (.ok (arrangement before items)) after ∧
      inv after := by
  fun_induction mergeSortBy comesFirst items generalizing w with
  | case1 items short =>
      rw [arrangement_of_short short]
      exact ⟨w, ends_pure w _, holds⟩
  | case2 items long ihLeft ihRight =>
      have front := List.take_subset (items.length / 2) items
      have back := List.drop_subset (items.length / 2) items
      obtain ⟨u, sortsLeft, holds⟩ := ihLeft (answers.mono front) holds
      obtain ⟨u', sortsRight, holds⟩ := ihRight (answers.mono back) holds
      have permLeft := sortsLeft.holds (mergeSortBy_gives_perm _)
      have permRight := sortsRight.holds (mergeSortBy_gives_perm _)
      obtain ⟨after, merges, holds⟩ := answers.ends_mergeInto []
        (List.Subset.trans permLeft.subset front) (List.Subset.trans permRight.subset back) holds
      rw [arrangement_of_long long]
      exact ⟨after, sortsLeft.bind (sortsRight.bind merges), holds⟩

/-! ### Comparisons without effects -/

theorem Machine.ofExcept_bind {β γ : Type} (r : Except Error β) (f : β → Except Error γ) :
    Machine.ofExcept (r >>= f) = Machine.ofExcept r >>= fun b => Machine.ofExcept (f b) := by
  cases r <;> rfl

theorem ofExcept_mergeInto (compare : α → α → Except Error Bool) (taken left right : List α) :
    Machine.ofExcept (mergeInto compare taken left right) =
      mergeInto (fun a b => Machine.ofExcept (compare a b)) taken left right := by
  fun_induction mergeInto compare taken left right with
  | case1 taken right =>
      rw [mergeInto_nil_left]
      rfl
  | case2 taken left notNil =>
      rw [mergeInto_nil_right]
      rfl
  | case3 taken a left b right ihRight ihLeft =>
      rw [mergeInto_cons_cons, ofExcept_bind, ← ihRight, ← ihLeft]
      congr
      funext first
      cases first <;> rfl

/-- Comparisons without effects sort the same, inside the machine and outside. -/
theorem ofExcept_mergeSortBy (compare : α → α → Except Error Bool) (items : List α) :
    Machine.ofExcept (mergeSortBy compare items) =
      mergeSortBy (fun a b => Machine.ofExcept (compare a b)) items := by
  fun_induction mergeSortBy compare items with
  | case1 items short =>
      rw [mergeSortBy_of_short short]
      rfl
  | case2 items long ihLeft ihRight =>
      rw [mergeSortBy_of_long long, ofExcept_bind, ihLeft]
      congr
      funext left
      rw [ofExcept_bind, ihRight]
      congr
      funext right
      exact ofExcept_mergeInto compare [] left right

end

/-- What sorting does. -/
structure SortsStably {α : Type} (comesFirst : α → α → Machine Bool) (items : List α) : Prop where
  /-- It comes to an end if every comparison of two items does, in every world that it can be in. -/
  terminates : ∀ inv : World → Prop, ComparisonEnds inv comesFirst items → ∀ w, inv w →
    ∃ outcome after, w.Ends (mergeSortBy comesFirst items) outcome after ∧ inv after
  /-- Whatever the comparison answers, nothing is lost and nothing is added. -/
  perm : ∀ (w : World) sorted after,
    w.Ends (mergeSortBy comesFirst items) (.ok sorted) after → sorted.Perm items
  /-- By a strict weak order it comes to the stable arrangement, which is the only one. -/
  stable : ∀ (before : α → α → Bool) (inv : World → Prop), StrictWeakOn before items →
    ComparisonAnswers inv comesFirst before items → ∀ w, inv w →
      ∃ sorted after, w.Ends (mergeSortBy comesFirst items) (.ok sorted) after ∧ inv after ∧
        ∀ arranged, StableArrangement before items arranged ↔ arranged = sorted
  /-- An error is one of comparing an item with one that was given before it. -/
  error : ∀ (w : World) e after, w.Ends (mergeSortBy comesFirst items) (.error e) after →
    ∃ x y, [y, x].Sublist items ∧ ∃ u : World, u.Ends (comesFirst x y) (.error e) after

/-- Sorting is stable, whatever the comparator does besides comparing. -/
theorem sortsStably {α : Type} (comesFirst : α → α → Machine Bool) (items : List α) :
    SortsStably comesFirst items where
  terminates _ compares _ holds := compares.exists_ends_mergeSortBy holds
  perm _ _ _ ends := ends.holds (mergeSortBy_gives_perm items)
  stable before inv weak answers w holds := by
    obtain ⟨after, ends, holds⟩ := answers.ends_mergeSortBy holds
    refine ⟨_, after, ends, holds, fun arranged => ⟨fun stable => ?_, ?_⟩⟩
    · exact stable.unique weak.irrefl weak.arrangement
    · rintro rfl
      exact weak.arrangement
  error _ _ _ ends := error_of_mergeSortBy ends

/-! ### The natural order -/

namespace Value

/-- A value comes before another one in the natural order. -/
def precedes (a b : Value) : Bool :=
  match a.compare b with
  | .ok (some .lt) => true
  | _ => false

/-- Any two of the values are in some order. -/
def AllOrdered (items : List Value) : Prop :=
  ∀ x ∈ items, ∀ y ∈ items, ∃ order, x.compare y = .ok (some order)

theorem allOrdered_of_decimals {items : List Value} (decimals : ∀ x ∈ items, ∃ d, x = .decimal d) :
    AllOrdered items := by
  intro x hx y hy
  obtain ⟨d, rfl⟩ := decimals x hx
  obtain ⟨d', rfl⟩ := decimals y hy
  exact ⟨d.cmp d', rfl⟩

theorem allOrdered_of_texts {items : List Value} (texts : ∀ x ∈ items, ∃ t, x = .text t) :
    AllOrdered items := by
  intro x hx y hy
  obtain ⟨t, rfl⟩ := texts x hx
  obtain ⟨t', rfl⟩ := texts y hy
  exact ⟨_, rfl⟩

/-- The natural order puts smaller values first. -/
theorem naturallyBefore_eq {a b : Value} {order : Ordering} (compared : a.compare b = .ok (some order)) :
    SequenceOp.naturallyBefore a b = .ok (a.precedes b) := by
  rw [SequenceOp.naturallyBefore, precedes, compared]
  cases order <;> rfl

/-- The builtin `<` answers by the same order. -/
theorem less_eq {a b : Value} {order : Ordering} (compared : a.compare b = .ok (some order)) :
    ComparisonOp.less.apply [a, b] = .ok (.boolean (a.precedes b)) := by
  simp only [ComparisonOp.apply, ComparisonOp.holds, isMonotonic, precedes, compared]
  cases order <;> rfl

end Value

section

variable {settings : Settings} {scope : Nat} {w u : World} {items : List Value}

theorem Value.AllOrdered.isPlain (ordered : Value.AllOrdered items) : ∀ x ∈ items, x.IsPlain := by
  rintro x member c args rfl
  obtain ⟨order, compared⟩ := ordered _ member _ member
  cases compared

/-- Calling the function `<` with two of the values tells whether the first comes before the second. -/
theorem ends_applyValues_less (registers : w.Registers settings (.comparison .less))
    (ordered : Value.AllOrdered items) {x y : Value} (hx : x ∈ items) (hy : y ∈ items) (n : Nat) :
    w.Ends ((ofSteps settings .deferred (n + 2)).applyValues (.builtin "<") [x, y] scope)
      (.ok (.boolean (x.precedes y))) w := by
  obtain ⟨order, compared⟩ := ordered x hx y hy
  have runs : w.Ends ((ofSteps settings .deferred (n + 1)).runPrimitive (.comparison .less) [x, y]
      scope) (.ok (.boolean (x.precedes y))) w := by
    show w.Ends (Machine.ofExcept (ComparisonOp.less.apply [x, y])) _ w
    rw [Value.less_eq compared]
    exact ends_pure w _
  have plain : ∀ v ∈ [x, y], v.IsPlain := by
    intro v member
    rcases List.mem_pair.1 member with rfl | rfl
    · exact ordered.isPlain _ hx
    · exact ordered.isPlain _ hy
  exact ends_applyValues_primitive registers rfl plain runs nofun

/-- As a comparator, `<` answers by the natural order. -/
theorem answers_less (registers : w.Registers settings (.comparison .less))
    (ordered : Value.AllOrdered items) (n : Nat) :
    ComparisonAnswers (· = w)
      ((ofSteps settings .deferred (n + 2)).comparatorBefore (.builtin "<") scope) Value.precedes
      items := by
  rintro x hx y hy u rfl
  have applied :
      u.Ends ((ofSteps settings .deferred (n + 2)).applyValues (.builtin "<") [x, y] scope) _ u :=
    ends_applyValues_less registers ordered hx hy n
  refine ⟨u, ?_, rfl⟩
  cases first : x.precedes y with
  | true =>
      rw [first] at applied
      exact applied.bind (ends_pure u true)
  | false =>
      rw [first] at applied
      have back :
          u.Ends ((ofSteps settings .deferred (n + 2)).applyValues (.builtin "<") [y, x] scope) _ u :=
        ends_applyValues_less registers ordered hy hx n
      exact applied.bind ((back.bind (ends_pure u PUnit.unit)).bind (ends_pure u false))

/-- The natural order answers for values that have one. -/
theorem answers_naturallyBefore (ordered : Value.AllOrdered items) :
    ComparisonAnswers (· = w) (fun a b => Machine.ofExcept (SequenceOp.naturallyBefore a b))
      Value.precedes items := by
  rintro x hx y hy u rfl
  obtain ⟨order, compared⟩ := ordered x hx y hy
  refine ⟨u, ?_, rfl⟩
  show u.Ends (Machine.ofExcept (SequenceOp.naturallyBefore x y)) _ u
  rw [Value.naturallyBefore_eq compared]
  exact ends_pure u _

/-- What `sort` does with a comparator. -/
theorem runPrimitive_sort_by {ev : Evaluator} {f v : Value} (sequence : v.asSeq = .ok items) :
    ev.runPrimitive (.sequence .sort) [f, v] scope =
      mergeSortBy (ev.comparatorBefore f scope) items >>= fun sorted => pure (.list sorted) := by
  show Machine.ofExcept v.asSeq >>= _ = _
  rw [sequence]
  rfl

/-- What `sort` does without a comparator. -/
theorem runPrimitive_sort {ev : Evaluator} {v : Value} (sequence : v.asSeq = .ok items) :
    ev.runPrimitive (.sequence .sort) [v] scope =
      mergeSortBy (fun a b => Machine.ofExcept (SequenceOp.naturallyBefore a b)) items >>=
        fun sorted => pure (.list sorted) := by
  show Machine.ofExcept (v.asSeq >>= fun items =>
    mergeSortBy SequenceOp.naturallyBefore items >>= fun sorted => pure (Value.list sorted)) = _
  rw [sequence, ← ofExcept_mergeSortBy]
  exact ofExcept_bind (mergeSortBy SequenceOp.naturallyBefore items) _

variable {coll : Form} {v : Value}

theorem evaluates_sort_less (sorts : w.Registers settings (.sequence .sort))
    (compares : w.Registers settings (.comparison .less))
    (comparesLater : u.Registers settings (.comparison .less))
    (evaluates : w.Evaluates settings .deferred coll scope (.ok v) u)
    (sequence : v.asSeq = .ok items) (ordered : Value.AllOrdered items) :
    w.Evaluates settings .deferred (.list [.symbol "sort", .symbol "<", coll]) scope
      (.ok (.list (arrangement Value.precedes items))) u := by
  have named : w.Evaluates settings .deferred (.symbol "<") scope (.ok (.builtin "<")) w := by
    obtain ⟨d, found, -⟩ := compares
    refine evaluates_of_done 1
      (eval_standsFor 0 (.builtin (by simp [String.contains_char_eq]) ?_) trivial)
    exact Option.isSome_of_eq_some found
  have inTurn : w.EvaluatesInTurn settings scope [.symbol "<", coll] [.builtin "<", v] u :=
    .cons named (.cons evaluates (.nil u))
  refine evaluates_on_ok sorts rfl inTurn 2 (fun n enough => ?_) nofun
  obtain ⟨n, rfl⟩ := Nat.exists_eq_add_of_le' enough
  rw [runPrimitive_sort_by sequence]
  have answers : ComparisonAnswers (· = u)
      ((ofSteps settings .deferred (n + 2)).comparatorBefore (.builtin "<") scope) Value.precedes items :=
    answers_less comparesLater ordered n
  obtain ⟨after, ends, rfl⟩ := answers.ends_mergeSortBy rfl
  exact ends.bind (ends_pure _ _)

theorem evaluates_sort (sorts : w.Registers settings (.sequence .sort))
    (evaluates : w.Evaluates settings .deferred coll scope (.ok v) u)
    (sequence : v.asSeq = .ok items) (ordered : Value.AllOrdered items) :
    w.Evaluates settings .deferred (.list [.symbol "sort", coll]) scope
      (.ok (.list (arrangement Value.precedes items))) u := by
  have inTurn : w.EvaluatesInTurn settings scope [coll] [v] u := .cons evaluates (.nil u)
  refine evaluates_on_ok sorts rfl inTurn 0 (fun n _ => ?_) nofun
  rw [runPrimitive_sort sequence]
  obtain ⟨after, ends, rfl⟩ := (answers_naturallyBefore ordered).ends_mergeSortBy rfl
  exact ends.bind (ends_pure _ _)

end

/-- Sorting comes to an end if comparing does, loses and adds nothing, arranges the items stably by
    every strict weak order, and fails only where comparing two of the items does. The function `sort`
    sorts in this way, with a comparator and without one, and for decimals and for texts `<` as the
    comparator changes nothing. -/
theorem sort_arranges_stably :
    (∀ (α : Type) (comesFirst : α → α → Machine Bool) (items : List α),
      SortsStably comesFirst items) ∧
    (∀ (ev : Evaluator) (scope : Nat) (f v : Value) (items : List Value), v.asSeq = .ok items →
      ev.runPrimitive (.sequence .sort) [f, v] scope =
        (mergeSortBy (ev.comparatorBefore f scope) items >>= fun sorted => pure (.list sorted)) ∧
      ev.runPrimitive (.sequence .sort) [v] scope =
        (mergeSortBy (fun a b => Machine.ofExcept (SequenceOp.naturallyBefore a b)) items >>=
          fun sorted => pure (.list sorted))) ∧
    ∀ (settings : Settings) (scope : Nat) (w u : World) (coll : Form) (v : Value) (items : List Value),
      w.Registers settings (.sequence .sort) → w.Registers settings (.comparison .less) →
      u.Registers settings (.comparison .less) →
      w.Evaluates settings .deferred coll scope (.ok v) u → v.asSeq = .ok items →
      ((∀ x ∈ items, ∃ d, x = .decimal d) ∨ ∀ x ∈ items, ∃ t, x = .text t) →
      ∃ sorted,
        w.Evaluates settings .deferred (.list [.symbol "sort", .symbol "<", coll]) scope
          (.ok (.list sorted)) u ∧
        w.Evaluates settings .deferred (.list [.symbol "sort", coll]) scope (.ok (.list sorted)) u := by
  refine ⟨fun α comesFirst items => sortsStably comesFirst items, ?_, ?_⟩
  · exact fun ev scope f v items sequence => ⟨runPrimitive_sort_by sequence, runPrimitive_sort sequence⟩
  · intro settings scope w u coll v items sorts compares comparesLater evaluates sequence alike
    have ordered : Value.AllOrdered items := by
      rcases alike with decimals | texts
      · exact Value.allOrdered_of_decimals decimals
      · exact Value.allOrdered_of_texts texts
    exact ⟨arrangement Value.precedes items,
      evaluates_sort_less sorts compares comparesLater evaluates sequence ordered,
      evaluates_sort sorts evaluates sequence ordered⟩

/-- A world with `sort` and `<`. -/
def withSorting : World where
  state := {
    managers := #[{ registry := ⟨[
      ("<", .ofBuiltin "comparison" (.primitive (.comparison .less))),
      ("sort", .ofBuiltin "list" (.primitive (.sequence .sort)))]⟩ }]
    scopes := #[{}] }

/-- Pairs sorted by their first parts, two of which are tied; and texts with and without a comparator.
    -/
theorem sort_arranges_pairs :
    let before : Nat × Char → Nat × Char → Bool := fun p q => p.1 < q.1
    let pairs : List (Nat × Char) := [(2, 'a'), (1, 'b'), (2, 'c')]
    let comesFirst : Nat × Char → Nat × Char → Machine Bool := fun p q => pure (before p q)
    let coll : Form := .literal (.list [.text "b", .text "a"])
    (StrictWeakOn before pairs ∧ ComparisonAnswers (fun _ => True) comesFirst before pairs ∧
      ∃ after, withSorting.Ends (mergeSortBy comesFirst pairs) (.ok [(1, 'b'), (2, 'a'), (2, 'c')])
        after) ∧
    withSorting.Registers {} (.sequence .sort) ∧ withSorting.Registers {} (.comparison .less) ∧
    ∃ sorted,
      withSorting.Evaluates {} .deferred (.list [.symbol "sort", .symbol "<", coll]) 0
        (.ok (.list sorted)) withSorting ∧
      withSorting.Evaluates {} .deferred (.list [.symbol "sort", coll]) 0 (.ok (.list sorted))
        withSorting := by
  intro before pairs comesFirst coll
  have weak : StrictWeakOn before pairs := ⟨by decide, by decide, by decide⟩
  have answers : ComparisonAnswers (fun _ => True) comesFirst before pairs :=
    fun x _ y _ w _ => ⟨w, ends_pure w _, trivial⟩
  have sorts : withSorting.Registers {} (.sequence .sort) := ⟨_, rfl, rfl⟩
  have compares : withSorting.Registers {} (.comparison .less) := ⟨_, rfl, rfl⟩
  have evaluates : withSorting.Evaluates {} .deferred coll 0 (.ok (.list [.text "b", .text "a"]))
      withSorting := by
    refine evaluates_of_done 1 ?_
    cbv
  refine ⟨⟨weak, answers, ?_⟩, sorts, compares, ?_⟩
  · obtain ⟨sorted, after, ends, -, unique⟩ := (sort_arranges_stably.1 _ comesFirst pairs).stable
      before (fun _ => True) weak answers withSorting trivial
    have stable : StableArrangement before pairs [(1, 'b'), (2, 'a'), (2, 'c')] :=
      ⟨by decide, by decide, by decide⟩
    rw [(unique _).1 stable]
    exact ⟨after, ends⟩
  · exact sort_arranges_stably.2.2 {} 0 _ _ coll _ _ sorts compares compares evaluates rfl
      (.inr (by simp))

end PluginLisp
