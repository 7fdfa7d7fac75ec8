import PluginLisp.Proofs.Machine.Correspondence

/-!
Rules for corresponding computations: one for each way in which computations are put together. Loops
come with an invariant that holds between the two loop variables.

Main results: `Rel.bind`, `Rel.iterate`, `Rel.fold`, `Rel.sort`.
-/

namespace PluginLisp.Correspondence

open Machine

variable {c : Correspondence} {α β γ δ σ τ : Type}

/-! ### Results -/

theorem Both.weaken {P P' : α → Prop} {a b : α} (both : c.Both P a b) (weaker : P a → P' a) :
    c.Both P' a b := ⟨both.1, fun clean => weaker (both.2 clean)⟩

/-! ### Computations under way -/

theorem Runs.weaken {Q R : α → β → Prop} {r : Run α} {r' : Run β} (runs : c.Runs Q r r')
    (weaker : ∀ a b, Q a b → R a b) : c.Runs R r r' := by
  induction runs with
  | ok result states => exact .ok (weaker _ _ result) states
  | error errors states => exact .error errors states
  | exhausted states => exact .exhausted states
  | gaveUp lax => exact .gaveUp lax
  | blocked states _ ih => exact .blocked states ih

/-- Going on after corresponding computations, whatever their outcomes. -/
theorem Runs.andThen {Q : α → β → Prop} {R : γ → δ → Prop} {r : Run α} {r' : Run β}
    {next : Outcome α → State → Run γ} {next' : Outcome β → State → Run δ}
    (runs : c.Runs Q r r')
    (ok : ∀ a b s t, Q a b → c.States s t → c.Runs R (next (.ok a) s) (next' (.ok b) t))
    (error : ∀ e f s t, c.error e f → c.States s t →
      c.Runs R (next (.error e) s) (next' (.error f) t))
    (exhausted : ∀ s t, c.States s t → c.Runs R (next .exhausted s) (next' .exhausted t))
    (gaveUp : c.lax → ∀ s r, c.Runs R (next .exhausted s) r) :
    c.Runs R (r.andThen next) (r'.andThen next') := by
  induction runs with
  | ok result states => exact ok _ _ _ _ result states
  | error errors states => exact error _ _ _ _ errors states
  | exhausted states => exact exhausted _ _ states
  | gaveUp lax => exact gaveUp lax _ _
  | blocked states _ ih => exact .blocked states ih

/-! ### Computations -/

theorem Rel.weaken {Q R : α → β → Prop} {m : Machine α} {m' : Machine β} (rel : c.Rel Q m m')
    (weaker : ∀ a b, Q a b → R a b) : c.Rel R m m' :=
  fun s t states => (rel s t states).weaken weaker

theorem Rel.pure {Q : α → β → Prop} {a : α} {b : β} (result : Q a b) :
    c.Rel Q (pure a) (pure b) := fun _ _ states => .ok result states

theorem Rel.fail {Q : α → β → Prop} {e f : Error} (errors : c.error e f) :
    c.Rel Q (fail e) (fail f) := fun _ _ states => .error errors states

/-- The same failure on both sides. -/
theorem Rel.failSame {Q : α → β → Prop} (e : Error) : c.Rel Q (Machine.fail e) (Machine.fail e) :=
  Rel.fail (c.error_refl e)

theorem Rel.exhausted {Q : α → β → Prop} : c.Rel Q Machine.exhausted Machine.exhausted :=
  fun _ _ states => .exhausted states

/-- Where giving up is allowed, it corresponds to anything. -/
theorem Rel.gaveUp {Q : α → β → Prop} (lax : c.lax) (m : Machine β) :
    c.Rel Q Machine.exhausted m :=
  fun _ _ _ => .gaveUp lax

/-- Related computations go on related when what follows is related for related answers. -/
theorem Rel.bind {Q : α → β → Prop} {R : γ → δ → Prop} {m : Machine α} {m' : Machine β}
    {f : α → Machine γ} {f' : β → Machine δ} (first : c.Rel Q m m')
    (next : ∀ a b, Q a b → c.Rel R (f a) (f' b)) : c.Rel R (m >>= f) (m' >>= f') := by
  intro s t states
  rw [bind_eq, bind_eq]
  refine (first s t states).andThen ?_ ?_ ?_ ?_
  · exact fun a b s t result states => next a b result s t states
  · exact fun e f s t errors states => .error errors states
  · exact fun s t states => .exhausted states
  · exact fun lax s r => .gaveUp lax

/-- After a step with the same result on both sides. -/
theorem Rel.bindBoth {P : α → Prop} {R : γ → δ → Prop} {m m' : Machine α} {f : α → Machine γ}
    {f' : α → Machine δ} (first : c.Rel (c.Both P) m m')
    (next : ∀ a, (c.clean → P a) → c.Rel R (f a) (f' a)) : c.Rel R (m >>= f) (m' >>= f') :=
  first.bind fun a b both => by
    obtain ⟨rfl, holds⟩ := both
    exact next a holds

/-- After a step with the same result on both sides, of which nothing else matters. -/
theorem Rel.bindEq {R : γ → δ → Prop} {m m' : Machine α} {f : α → Machine γ}
    {f' : α → Machine δ} (first : c.Rel Eq m m') (next : ∀ a, c.Rel R (f a) (f' a)) :
    c.Rel R (m >>= f) (m' >>= f') :=
  first.bind fun a b same => by
    subst same
    exact next a

theorem Rel.discard {Q : α → β → Prop} {m : Machine α} {m' : Machine β} (rel : c.Rel Q m m') :
    c.Rel Eq (Functor.discard m) (Functor.discard m') := rel.bind fun _ _ _ => Rel.pure rfl

/-- A result corresponds to itself, with what it yields on the clean side. -/
theorem Rel.ofExcept {P : α → Prop} {r : Except Error α} (holds : c.clean → Yields P r) :
    c.Rel (c.Both P) (Machine.ofExcept r) (Machine.ofExcept r) := by
  cases r with
  | error e => exact Rel.failSame e
  | ok a => exact Rel.pure ⟨rfl, holds⟩

theorem Rel.ofExceptEq (r : Except Error α) :
    c.Rel Eq (Machine.ofExcept r) (Machine.ofExcept r) := by
  cases r with
  | error e => exact Rel.failSame e
  | ok a => exact Rel.pure rfl

/-- Related results make related computations. -/
theorem Rel.ofResult {Q : α → β → Prop} {r : Except Error α} {r' : Except Error β}
    (results : c.Result Q r r') : c.Rel Q (Machine.ofExcept r) (Machine.ofExcept r') := by
  cases r with
  | error e =>
      cases r' with
      | error f => exact Rel.fail results
      | ok b => exact results.elim
  | ok a =>
      cases r' with
      | error f => exact results.elim
      | ok b => exact Rel.pure results

/-- A view of the state is related if it is on corresponding states. -/
theorem Rel.look {Q : α → β → Prop} {f : State → α} {g : State → β}
    (same : ∀ s t, c.States s t → Q (f s) (g t)) : c.Rel Q (look f) (look g) :=
  fun s t states => .ok (same s t states) states

/-- A change of the state is related if it keeps states corresponding. -/
theorem Rel.change {f g : State → State} (kept : ∀ s t, c.States s t → c.States (f s) (g t)) :
    c.Rel Eq (change f) (change g) :=
  fun s t states => .ok rfl (kept s t states)

/-- An update is related if its answer is and if it keeps states corresponding. -/
theorem Rel.update {Q : α → β → Prop} {f : State → α × State} {g : State → β × State}
    (same : ∀ s t, c.States s t → Q (f s).1 (g t).1 ∧ c.States (f s).2 (g t).2) :
    c.Rel Q (update f) (update g) :=
  fun s t states => .ok (same s t states).1 (same s t states).2

/-- Related computations stay related when their errors become answers. -/
theorem Rel.reify {Q : α → β → Prop} {m : Machine α} {m' : Machine β} (rel : c.Rel Q m m') :
    c.Rel (c.Result Q) m.reify m'.reify := by
  intro s t states
  unfold Machine.reify
  rw [andThen_eq, andThen_eq]
  refine (rel s t states).andThen ?_ ?_ ?_ ?_
  · exact fun a b s t result states => .ok result states
  · intro e f s t errors states
    dsimp only
    rw [c.error_panic? errors]
    split
    next => exact .error errors states
    next => exact .ok errors states
  · exact fun s t states => .exhausted states
  · exact fun lax s r => .gaveUp lax

/-- Related computations stay related when their errors are decorated alike. -/
theorem Rel.decorate {Q : α → β → Prop} {m : Machine α} {m' : Machine β}
    {f g : State → Error → Error} (rel : c.Rel Q m m')
    (errors : ∀ s t e e', c.States s t → c.error e e' → c.error (f s e) (g t e')) :
    c.Rel Q (m.decorate f) (m'.decorate g) := by
  intro s t states
  unfold Machine.decorate
  rw [andThen_eq, andThen_eq]
  refine (rel s t states).andThen ?_ ?_ ?_ ?_
  · exact fun a b s t result states => .ok result states
  · intro e e' s t related states
    dsimp only
    rw [c.error_panic? related]
    split
    next => exact .error related states
    next => exact .error (errors s t e e' states related) states
  · exact fun s t states => .exhausted states
  · exact fun lax s r => .gaveUp lax

/-! ### Loops -/

/-- How the decisions of two rounds correspond. -/
def Rounds (X : σ → τ → Prop) (Q : α → β → Prop) : Round σ α → Round τ β → Prop
  | .again x, .again y => X x y
  | .stop a, .stop b => Q a b
  | _, _ => False

/-- Loops end in the same round, with related answers. -/
theorem Rel.afterRound {X : σ → τ → Prop} {Q : α → β → Prop} {again : σ → Machine α}
    {again' : τ → Machine β} (next : ∀ x y, X x y → c.Rel Q (again x) (again' y)) :
    ∀ round round', Rounds X Q round round' →
      c.Rel Q (afterRound again round) (afterRound again' round') := by
  intro round round' rounds
  cases round with
  | again x =>
      cases round' with
      | again y => exact next x y rounds
      | stop b => exact rounds.elim
  | stop a =>
      cases round' with
      | again y => exact rounds.elim
      | stop b => exact Rel.pure rounds

/-- A loop whose rounds keep `X` between the two loop variables. The left loop may be given fewer rounds
    where it may give up. -/
theorem Rel.iterate {X : σ → τ → Prop} {Q : α → β → Prop} {body : σ → Machine (Round σ α)}
    {body' : τ → Machine (Round τ β)} {n n' : Nat}
    (round : ∀ x y, X x y → c.Rel (Rounds X Q) (body x) (body' y))
    (steps : n = n' ∨ c.lax ∧ n ≤ n') :
    ∀ x y, X x y → c.Rel Q (iterate body n x) (iterate body' n' y) := by
  induction n generalizing n' with
  | zero =>
      intro x y related
      rcases steps with rfl | ⟨lax, -⟩
      · exact Rel.exhausted
      · exact Rel.gaveUp lax _
  | succ n ih =>
      intro x y related
      obtain ⟨k, rfl⟩ : ∃ k, n' = k + 1 := ⟨n' - 1, by omega⟩
      rw [iterate_succ, iterate_succ]
      refine (round x y related).bind (Rel.afterRound (ih ?_))
      rcases steps with same | ⟨lax, below⟩
      · exact Or.inl (by omega)
      · exact Or.inr ⟨lax, by omega⟩

/-- A pass over a list whose steps keep `X`. -/
theorem Rel.fold {ι : Type} {X : σ → τ → Prop} {Q : α → β → Prop}
    {body : σ → ι → Machine (Round σ α)} {body' : τ → ι → Machine (Round τ β)} {finish : σ → α}
    {finish' : τ → β} {items : List ι}
    (round : ∀ item ∈ items, ∀ x y, X x y → c.Rel (Rounds X Q) (body x item) (body' y item))
    (last : ∀ x y, X x y → Q (finish x) (finish' y)) :
    ∀ x y, X x y → c.Rel Q (fold body finish x items) (fold body' finish' y items) := by
  induction items with
  | nil => exact fun x y related => Rel.pure (last x y related)
  | cons item rest ih =>
      intro x y related
      obtain ⟨first, others⟩ := List.forall_mem_cons.1 round
      rw [fold_cons, fold_cons]
      exact (first x y related).bind (Rel.afterRound (ih others))

/-- The same results for each item of a list. -/
theorem Rel.collect {ι : Type} {P : α → Prop} {f f' : ι → Machine α} {items : List ι}
    (each : ∀ item ∈ items, c.Rel (c.Both P) (f item) (f' item)) :
    c.Rel (c.Both fun results => ∀ a ∈ results, P a) (collect f items) (collect f' items) := by
  refine Rel.fold (X := c.Both fun results => ∀ a ∈ results, P a) ?_ ?_ [] [] ?_
  · intro item member results results' both
    obtain ⟨rfl, holds⟩ := both
    refine (each item member).bindBoth fun a holdsHere => Rel.pure ?_
    exact ⟨rfl, fun clean => List.forall_mem_cons.2 ⟨holdsHere clean, holds clean⟩⟩
  · intro results results' both
    obtain ⟨rfl, holds⟩ := both
    exact ⟨rfl, fun clean a member => holds clean a (List.mem_reverse.1 member)⟩
  · exact ⟨rfl, fun _ a member => absurd member List.not_mem_nil⟩

/-! ### Sorting -/

section Sorting

variable {P : α → Prop} {before before' : α → α → Machine Bool}

/-- Merging by comparisons that correspond on elements with `P`. -/
theorem Rel.merge {merged left right : List α}
    (compare : ∀ a b, (c.clean → P a) → (c.clean → P b) → c.Rel Eq (before a b) (before' a b))
    (inMerged : c.clean → ∀ a ∈ merged, P a) (inLeft : c.clean → ∀ a ∈ left, P a)
    (inRight : c.clean → ∀ a ∈ right, P a) :
    c.Rel (c.Both fun result => ∀ a ∈ result, P a)
      (mergeInto before merged left right) (mergeInto before' merged left right) := by
  fun_induction mergeInto before merged left right with
  | case1 merged right =>
      rw [mergeInto]
      refine Rel.pure ⟨rfl, fun clean a member => ?_⟩
      have := inMerged clean a
      have := inRight clean a
      grind
  | case2 merged left notNil =>
      rw [mergeInto]
      · refine Rel.pure ⟨rfl, fun clean a member => ?_⟩
        have := inMerged clean a
        have := inLeft clean a
        grind
      · exact notNil
  | case3 merged a left b right ihRight ihLeft =>
      have holdsA (clean : c.clean) : P a := inLeft clean a List.mem_cons_self
      have holdsB (clean : c.clean) : P b := inRight clean b List.mem_cons_self
      rw [mergeInto]
      apply (compare b a holdsB holdsA).bindEq
      intro first
      split
      · exact ihRight (fun clean => List.forall_mem_cons.2 ⟨holdsB clean, inMerged clean⟩) inLeft
          fun clean => (List.forall_mem_cons.1 (inRight clean)).2
      · exact ihLeft (fun clean => List.forall_mem_cons.2 ⟨holdsA clean, inMerged clean⟩)
          (fun clean => (List.forall_mem_cons.1 (inLeft clean)).2) inRight

/-- Sorting by comparisons that correspond on elements with `P`. -/
theorem Rel.sort {items : List α}
    (compare : ∀ a b, (c.clean → P a) → (c.clean → P b) → c.Rel Eq (before a b) (before' a b))
    (inItems : c.clean → ∀ a ∈ items, P a) :
    c.Rel (c.Both fun result => ∀ a ∈ result, P a)
      (mergeSortBy before items) (mergeSortBy before' items) := by
  fun_induction mergeSortBy before items with
  | case1 items short =>
      rw [mergeSortBy, if_pos short]
      exact Rel.pure ⟨rfl, inItems⟩
  | case2 items long ihLeft ihRight =>
      have halves : mergeSortBy before' items = (do
          let left ← mergeSortBy before' (items.take (items.length / 2))
          let right ← mergeSortBy before' (items.drop (items.length / 2))
          mergeInto before' [] left right) := by
        rw [mergeSortBy, if_neg long]
      rw [halves]
      refine (ihLeft fun clean a member => ?_).bindBoth fun left inLeft => ?_
      · exact inItems clean a (List.mem_of_mem_take member)
      refine (ihRight fun clean a member => ?_).bindBoth fun right inRight => ?_
      · exact inItems clean a (List.mem_of_mem_drop member)
      exact Rel.merge compare (fun _ a member => absurd member List.not_mem_nil) inLeft inRight

end Sorting

end PluginLisp.Correspondence
