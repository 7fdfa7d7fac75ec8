import PluginLisp.Proofs.Machine.Running

/-!
Results of computations. Whatever holds of every value that a computation can come to, however it is
resumed, may be relied on by the computation after it. Two computations that differ only in what they
do with other values are the same.

Main results: `Gives.bind`, `Gives.iterate`, `Gives.collect`.
-/

namespace PluginLisp

section

variable {α β σ : Type} {P Q : α → Prop} {R : β → Prop}

/-- Every value that the run comes to has `P`, however it is resumed. -/
def Run.Gives (P : α → Prop) : Run α → Prop
  | .done outcome _ => ∀ a, outcome = .ok a → P a
  | .blocked _ _ resume => ∀ s, (resume s).Gives P

/-- Every value that the computation comes to has `P`. -/
def Machine.Gives (P : α → Prop) (m : Machine α) : Prop := ∀ s, (m s).Gives P

namespace Run.Gives

variable {r : Run α} {f g : α → Machine β}

/-- What a run gives is what the next step starts from. -/
theorem andThen (gives : r.Gives P) (next : ∀ a, P a → (f a).Gives R) :
    (r.andThen (Run.onOk f)).Gives R := by
  induction r with
  | done outcome s =>
      cases outcome with
      | ok a => exact next a (gives a rfl) s
      | error e => exact fun _ ok => nomatch ok
      | exhausted => exact fun _ ok => nomatch ok
  | blocked w s resume ih => exact fun t => ih t (gives t)

/-- Only the answers that are given matter for what follows. -/
theorem andThen_congr (gives : r.Gives P) (same : ∀ a, P a → f a = g a) :
    r.andThen (Run.onOk f) = r.andThen (Run.onOk g) := by
  induction r with
  | done outcome s =>
      cases outcome with
      | ok a => exact congrFun (same a (gives a rfl)) s
      | error e => rfl
      | exhausted => rfl
  | blocked w s resume ih =>
      simp only [Run.andThen]
      congr
      funext t
      exact ih t (gives t)

theorem weaken (gives : r.Gives P) (weaker : ∀ a, P a → Q a) : r.Gives Q := by
  induction r with
  | done outcome s => exact fun a ok => weaker a (gives a ok)
  | blocked w s resume ih => exact fun t => ih t (gives t)

end Run.Gives

namespace Machine

variable {m : Machine α} {f g : α → Machine β}

/-- Two computations in a row give what the second gives for what the first gives. -/
theorem Gives.bind (gives : m.Gives P) (next : ∀ a, P a → (f a).Gives R) : (m >>= f).Gives R := by
  intro s
  rw [bind_eq]
  exact (gives s).andThen next

/-- What follows a computation only matters for the values that it can come to. -/
theorem Gives.bind_congr (gives : m.Gives P) (same : ∀ a, P a → f a = g a) : m >>= f = m >>= g := by
  funext s
  rw [bind_eq, bind_eq]
  exact (gives s).andThen_congr same

theorem Gives.weaken (gives : m.Gives P) (weaker : ∀ a, P a → Q a) : m.Gives Q :=
  fun s => (gives s).weaken weaker

theorem bind_pure (m : Machine α) : m >>= pure = m := by
  funext s
  rw [bind_eq]
  induction m s with
  | done outcome s => cases outcome <;> rfl
  | blocked w s resume ih =>
      simp only [Run.andThen]
      congr
      funext t
      exact ih t

theorem Gives.pure {a : α} (holds : P a) : (pure a : Machine α).Gives P := by
  intro s b ok
  cases ok
  exact holds

theorem Gives.ofExcept {r : Except Error α} (holds : ∀ a, r = .ok a → P a) :
    (Machine.ofExcept r).Gives P := by
  cases r with
  | ok a => exact Gives.pure (holds a rfl)
  | error e => exact fun _ _ ok => nomatch ok

theorem Gives.exhausted : (exhausted : Machine α).Gives P := fun _ _ ok => nomatch ok

theorem Gives.any (m : Machine α) : m.Gives fun _ => True := by
  intro s
  induction m s with
  | done outcome s => exact fun _ _ => trivial
  | blocked w s resume ih => exact ih

/-- A loop comes to what its rounds stop with. -/
theorem Gives.iterate {body : σ → Machine (Round σ α)}
    (stops : ∀ x, (body x).Gives fun round => ∀ a, round = .stop a → P a) (n : Nat) (x : σ) :
    (iterate body n x).Gives P := by
  induction n generalizing x with
  | zero => exact Gives.exhausted
  | succ n ih =>
      rw [iterate_succ]
      refine (stops x).bind fun round holds => ?_
      cases round with
      | again y => exact ih y
      | stop a => exact Gives.pure (holds a rfl)

/-! ### Lists of results -/

variable {ι : Type}

/-- The results for the items that are left, behind those already there. -/
abbrev collectBehind (each : ι → Machine α) (results : List α) (items : List ι) :
    Machine (List α) :=
  fold (fun results item => do return .again ((← each item) :: results)) List.reverse results items

theorem collectBehind_cons (each : ι → Machine α) (results : List α) (item : ι) (rest : List ι) :
    collectBehind each results (item :: rest) =
      each item >>= fun a => collectBehind each (a :: results) rest := by
  rw [collectBehind, fold_cons, Machine.bind_assoc]
  rfl

/-- Collecting behind earlier results puts these in front. -/
theorem collectBehind_eq (each : ι → Machine α) (results : List α) (items : List ι) :
    collectBehind each results items =
      collect each items >>= fun more => pure (results.reverse ++ more) := by
  induction items generalizing results with
  | nil =>
      show (pure results.reverse : Machine (List α)) = pure (results.reverse ++ [])
      rw [List.append_nil]
  | cons item rest ih =>
      have whole : collect each (item :: rest) = collectBehind each [] (item :: rest) := rfl
      rw [whole, collectBehind_cons, collectBehind_cons, Machine.bind_assoc]
      congr
      funext a
      rw [ih (a :: results), ih [a], Machine.bind_assoc]
      simp

/-- Results are collected from left to right. -/
theorem collect_cons (each : ι → Machine α) (item : ι) (rest : List ι) :
    collect each (item :: rest) =
      each item >>= fun a => collect each rest >>= fun more => pure (a :: more) := by
  show collectBehind each [] (item :: rest) = _
  rw [collectBehind_cons]
  congr
  funext a
  exact collectBehind_eq each [a] rest

/-- If each item gives what is wanted, all results are as wanted. -/
theorem Gives.collect {each : ι → Machine α} (gives : ∀ item, (each item).Gives P)
    (items : List ι) : (collect each items).Gives fun results => ∀ a ∈ results, P a := by
  induction items with
  | nil => exact Gives.pure (by simp)
  | cons item rest ih =>
      rw [collect_cons]
      refine (gives item).bind fun a holds => ih.bind fun more others => Gives.pure ?_
      exact List.forall_mem_cons.2 ⟨holds, others⟩

end Machine

end

end PluginLisp
