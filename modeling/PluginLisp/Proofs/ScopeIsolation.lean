import PluginLisp.Proofs.Evaluation.Worlds

/-!
Scopes under evaluation. Evaluating a form in a scope writes that scope and scopes made on the way, and
no other: every scope around it, and every scope that a closure or macro called on the way was made in,
keeps its variables, its modules and its exported names. This holds for every outcome, and whatever
number of steps the evaluation is given.

Main results: `Scopes.Intact.modify`, `World.drive_eval_other_scope`.
-/

namespace PluginLisp

open Correspondence

section

variable {own i : Nat} {before scopes : Scopes}

/-- Every scope of `before` other than `own` is as it was. -/
def Scopes.Intact (own : Nat) (before scopes : Scopes) : Prop :=
  before.size ≤ scopes.size ∧ ∀ j < before.size, j ≠ own → scopes.at? j = before.at? j

theorem Scopes.Intact.modify (f : Scope → Scope) (writable : i = own ∨ before.size ≤ i)
    (intact : Scopes.Intact own before scopes) : Scopes.Intact own before (scopes.modify i f) := by
  refine ⟨by simpa only [Array.size_modify] using intact.1, fun j existed other => ?_⟩
  have elsewhere : i ≠ j := by omega
  unfold Scopes.at?
  rw [Array.getElem?_modify, if_neg elsewhere]
  exact intact.2 j existed other

theorem Scopes.Intact.push (scope : Scope) (intact : Scopes.Intact own before scopes) :
    Scopes.Intact own before (scopes.push scope) := by
  refine ⟨by simpa only [Array.size_push] using Nat.le_succ_of_le intact.1, ?_⟩
  intro j existed other
  have inside : j < scopes.size := Nat.lt_of_lt_of_le existed intact.1
  unfold Scopes.at?
  rw [Array.getElem?_push_lt inside, ← Array.getElem?_eq_getElem inside]
  exact intact.2 j existed other

end

/-- Equality of computations that write `own` and new scopes only. -/
def isolation (own : Nat) (before : Scopes) : Correspondence :=
  .same False False (fun i => i = own ∨ before.size ≤ i) (Scopes.Intact own before)
    Scopes.Intact.modify Scopes.Intact.push fun intact => Or.inr intact.1

/-- A world in which nothing else goes on: no thread has been started and none is to be started. -/
structure World.Idle (w : World) : Prop where
  threads : w.threads = []
  jobs : w.state.jobs = []

/-- Evaluation in a scope leaves every other scope that existed before as it was, whatever its
    outcome. -/
theorem World.drive_eval_other_scope (settings : Settings) (calls : CallPolicy)
    (steps rounds : Nat) (form : Form) (scope : Nat) {w : World} (idle : w.Idle) {j : Nat}
    (existed : j < w.state.scopes.size) (other : j ≠ scope) :
    let evaluation := (Evaluator.ofSteps settings calls steps).eval form scope w.state
    (World.drive rounds evaluation w.threads).2.state.scopes.at? j = w.state.scopes.at? j := by
  intro evaluation
  let c := isolation scope w.state.scopes
  have states : c.States w.state w.state := by
    refine States.refl ?_ ⟨Nat.le_refl _, fun _ _ _ => rfl⟩ False.elim
    rw [idle.jobs]
    simp
  have threads : List.Forall₂ c.Threads w.threads w.threads := by
    rw [idle.threads]
    exact .nil
  have aligned : c.Aligned (Evaluator.ofSteps settings calls steps)
      (Evaluator.ofSteps settings calls steps) c.SameTails := aligned_ofSteps rfl calls steps
  have related : c.Rel (c.Both Value.Settled)
      ((Evaluator.ofSteps settings calls steps).eval form scope)
      ((Evaluator.ofSteps settings calls steps).eval form scope) :=
    aligned.eval False.elim (Or.inl rfl)
  obtain ⟨-, worlds⟩ := (related w.state w.state states).drive id rounds threads
  obtain ⟨futures, jobs, -, twins⟩ := worlds.states
  exact twins.intact.2 j existed other

/-- A world with a scope that binds `x` and a scope inside it. -/
def World.nested : World where
  state :=
    { managers := #[{ registry := ⟨[("def", .ofBuiltin "core" (.form .define))]⟩ }]
      scopes := #[{ bindings := [("x", .boolean true)] }, { parent := some 0 }] }

/-- A call of a closure made in the outer scope, whose body binds `x` as well. -/
def shadowingCall : Form :=
  let body : Form := .list [.literal (.builtin "def"), .symbol "x", .boolean false]
  .list [.literal (.function ⟨0, some "shadow", [], none, [body], 0⟩)]

theorem World.nested_shadowingCall :
    let after := (World.drive 9 ((Evaluator.ofSteps {} .deferred 9).eval shadowingCall 1
      World.nested.state) World.nested.threads).2.state.scopes
    World.nested.Idle ∧ 0 < World.nested.state.scopes.size ∧
      after.at? 0 = World.nested.state.scopes.at? 0 ∧
      (after.at? 2).map Scope.bindings = some [("x", .boolean false)] := by
  intro after
  have idle : World.nested.Idle := ⟨rfl, rfl⟩
  have existed : 0 < World.nested.state.scopes.size := by decide
  exact ⟨idle, existed, World.drive_eval_other_scope {} .deferred 9 9 shadowingCall 1 idle existed
    (by decide), rfl⟩

end PluginLisp
