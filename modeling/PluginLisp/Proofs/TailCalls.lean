import PluginLisp.Proofs.Evaluation.Policies
import PluginLisp.Proofs.PendingCalls

/-!
Calls in tail position. The evaluator that runs programs leaves a call of a closure in tail position to
be made, and makes such calls in a loop when a value is needed. The direct evaluator makes every call
at once, inside the call it is made from, and never leaves one. They evaluate every form to the same
outcome and the same world.

Main result: `evaluates_deferred_iff_immediate`.
-/

namespace PluginLisp

open Correspondence

/-! ### The direct evaluator -/

section

variable {c : Correspondence} {ev ev' : Evaluator}

/-- Where both sides make every call at once, computations in tail position come to settled values
    already. -/
theorem directTails (settings : c.settings ev.settings ev'.settings)
    (immediate : ev.calls = .immediate) (immediate' : ev'.calls = .immediate)
    (performs : ∀ w, c.Workable w →
      c.Rel (c.Both Value.Settled) (ev.perform w) (ev'.perform w)) :
    c.TailRules ev ev' (c.Rel (c.Both Value.Settled)) where
  ofRel rel := rel
  bind first next := first.bind next
  perform := performs _
  closure settled settledArgs := by
    unfold Evaluator.callClosure
    rw [immediate, immediate']
    split
    · exact Rel.yieldTurn.bindEq fun _ => performs _ ⟨settled, settledArgs⟩
    · exact Rel.failSame _
  inFrame rel frames := rel.inFrame settings frames

/-- The direct evaluator comes to settled values in tail position as well. -/
theorem performWith_immediate (settings : Settings) (steps : Nat) (w : Work)
    (workable : settledness.Workable w) :
    settledness.Rel (settledness.Both Value.Settled) (performWith settings .immediate steps w)
      (performWith settings .immediate steps w) := by
  induction steps generalizing w with
  | zero => exact Rel.exhausted
  | succ steps ih =>
      rw [performWith_succ]
      have tails : settledness.TailRules (Evaluator.ofSteps settings .immediate steps)
          (Evaluator.ofSteps settings .immediate steps)
          (settledness.Rel (settledness.Both Value.Settled)) := directTails rfl rfl rfl ih
      exact (settledness_aligned settings .immediate steps).step tails workable

/-- The direct evaluator leaves no call to be made. -/
theorem immediate_leaves_no_call (settings : Settings) (steps : Nat) (work : Work)
    (settled : work.Settled) :
    Machine.Settled Value.Settled ((Evaluator.ofSteps settings .immediate steps).perform work) :=
  Machine.settled_iff.2 (performWith_immediate settings steps work settled.workable)

end

/-! ### Deferred calls -/

namespace World

/-- Leaving calls to be made changes nothing: a form evaluates to an outcome and a world if calls in
    tail position are left and forced later exactly if it does so when every call is made at once. -/
theorem evaluates_deferred_iff_immediate {settings : Settings} (untraced : settings.traced = false)
    (w : World) (form : Form) (scope : Nat) (outcome : Outcome Value) (after : World) :
    w.Evaluates settings .deferred form scope outcome after ↔
      w.Evaluates settings .immediate form scope outcome after :=
  ⟨fun evaluates => evaluates.under untraced .immediate,
    fun evaluates => evaluates.under untraced .deferred⟩

/-- A call of a closure whose body is a call of another closure, in tail position. -/
def relayCall : Form :=
  let answer : Closure := ⟨0, some "answer", ["y"], none, [.boolean true], 0⟩
  let body : Form := .list [.literal (.function answer), .boolean false]
  .list [.literal (.function ⟨1, some "relay", ["x"], none, [body], 0⟩), .boolean false]

/-- A world with one empty scope. -/
def bare : World := { state := { scopes := #[{}] } }

/-- The world after the call, with the scopes of both closures. -/
def afterRelay : World :=
  (drive 9 ((Evaluator.ofSteps {} .deferred 9).eval relayCall 0 bare.state) bare.threads).2

theorem evaluates_relayCall : ({} : Settings).traced = false ∧ afterRelay.state.scopes.size = 3 ∧
    bare.Evaluates {} .deferred relayCall 0 (.ok (.boolean true)) afterRelay ∧
    bare.Evaluates {} .immediate relayCall 0 (.ok (.boolean true)) afterRelay := by
  have deferred : bare.Evaluates {} .deferred relayCall 0 (.ok (.boolean true)) afterRelay :=
    ⟨by simp, 9, 9, Prod.ext rfl rfl⟩
  exact ⟨rfl, rfl, deferred, (evaluates_deferred_iff_immediate rfl _ _ _ _ _).1 deferred⟩

end World

end PluginLisp
