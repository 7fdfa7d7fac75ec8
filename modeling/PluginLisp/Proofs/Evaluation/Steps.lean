import PluginLisp.Proofs.Evaluation.Forms
import PluginLisp.Proofs.Evaluation.Primitives

/-!
Aligned evaluators do all work alike. Where both leave calls in tail position to be made and have the
same number of steps, they come to the same: to a settled value, or to the same pending call.

Main results: `Aligned.step`, `aligned_ofSteps`.
-/

namespace PluginLisp

namespace Correspondence

open Machine

variable {c : Correspondence} {ev ev' : Evaluator} {S T : Machine Value → Machine Value → Prop}
variable {scope : Nat}

/-! ### Forms of code -/

namespace Aligned

variable (aligned : c.Aligned ev ev' S)
include aligned

section

variable (writable : c.writable scope)
include writable

/-- The keys and values of a map literal are evaluated in turn. -/
theorem evalPairs {entries : Assoc Value} {items : List Form}
    (before : c.clean → Value.EntriesSettled entries)
    (settled : c.clean → Form.AllSettled items) :
    c.Rel (c.Both Value.Settled) (ev.evalPairs entries items scope)
      (ev'.evalPairs entries items scope) := by
  induction entries, items using Evaluator.evalPairs.induct with
  | case1 entries =>
      rw [Evaluator.evalPairs, Evaluator.evalPairs]
      exact Rel.pure ⟨rfl, before⟩
  | case2 entries item =>
      rw [Evaluator.evalPairs, Evaluator.evalPairs]
      exact Rel.failSame _
  | case3 entries key value rest ih =>
      rw [Evaluator.evalPairs, Evaluator.evalPairs]
      apply (aligned.eval (fun clean => (settled clean).1) writable).bindBoth
      intro k _
      apply Rel.bindEq (Rel.ofExceptEq _)
      intro name
      apply (aligned.eval (fun clean => (settled clean).2.1) writable).bindBoth
      intro v holds
      exact ih name v (fun clean => (before clean).put (holds clean))
        fun clean => (settled clean).2.2

omit writable in
theorem headBuiltin (head : Form) : c.Rel Eq (ev.headBuiltin? head) (ev'.headBuiltin? head) := by
  unfold Evaluator.headBuiltin?
  split
  · exact aligned.registry.bindEq fun registry => Rel.pure rfl
  · exact Rel.pure rfl

/-- A list is a call: of a builtin, of a macro, or of what its head evaluates to. -/
theorem evalList (tails : c.TailRules ev ev' T) {head : Form} {args : List Form}
    (settled : c.clean → head.Settled) (settledArgs : c.clean → Form.AllSettled args) :
    T (ev.evalList head args scope) (ev'.evalList head args scope) := by
  apply tails.bindEq (aligned.headBuiltin head)
  intro found
  split
  next d =>
    have workable : c.Workable (.builtin d.builtin args scope) := ⟨settledArgs, writable⟩
    apply tails.inFrame (tails.perform workable)
    intro _ _ s t states
    rw [states.cells]
  next =>
    apply tails.bindBoth (aligned.eval settled writable)
    intro f holds
    exact aligned.callTail writable f tails holds settledArgs

/-- Every kind of form is evaluated alike. -/
theorem evalForm (tails : c.TailRules ev ev' T) {form : Form} (settled : c.clean → form.Settled) :
    T (ev.evalForm form scope) (ev'.evalForm form scope) := by
  unfold Evaluator.evalForm
  split
  case h_1 => exact tails.pure fun _ => trivial
  case h_2 =>
      exact tails.bindEq (Rel.ofExceptEq _) fun d => tails.pure fun _ => trivial
  case h_3 => exact tails.pure fun _ => trivial
  case h_4 => exact tails.pure fun _ => trivial
  case h_5 => exact tails.pure fun _ => trivial
  case h_6 => exact tails.pure settled
  case h_7 name => exact tails.ofRel (aligned.resolve name)
  case h_8 => exact tails.fail _
  case h_9 head args =>
      exact aligned.evalList writable tails (fun clean => (settled clean).1)
        fun clean => (settled clean).2
  case h_10 items =>
      exact tails.bindBoth (aligned.evalAll settled writable) fun values holds => tails.pure holds
  case h_11 items => exact tails.ofRel (aligned.evalPairs writable (fun _ => trivial) settled)

/-- A builtin gets forms or values, by its kind. -/
theorem runBuiltin (tails : c.TailRules ev ev' T) {b : Builtin} {args : List Form}
    (settled : c.clean → Form.AllSettled args) :
    T (ev.runBuiltin b args scope) (ev'.runBuiltin b args scope) := by
  cases b with
  | form f => exact aligned.runForm writable tails settled
  | primitive p =>
      apply tails.bindEq (Rel.ofExceptEq _)
      intro _
      apply tails.bindBoth (aligned.evalAll settled writable)
      intro values holds
      exact tails.ofRel (aligned.runPrimitive writable holds)
  | constant text => exact tails.pure fun _ => trivial

end

/-- Aligned evaluators do all work alike. -/
theorem step (tails : c.TailRules ev ev' T) {w : Work} (workable : c.Workable w) :
    T (ev.step w) (ev'.step w) := by
  cases w with
  | eval form scope => exact aligned.evalForm workable.2 tails workable.1
  | builtin b args scope => exact aligned.runBuiltin workable.2 tails workable.1
  | enter k args => exact aligned.enter tails workable.1 workable.2

end Aligned

/-! ### Frames of errors -/

/-- The frame of a call decorates the errors of the call. -/
theorem inFrame_eq (ev : Evaluator) (frame : State → CallFrame) (m : Machine Value) :
    ev.inFrame frame m = m.decorate fun s e => ev.settings.framed (frame s) e := by
  unfold Evaluator.inFrame Settings.framed
  split
  · rfl
  · exact (decorate_id m).symm

/-- Corresponding computations under way in corresponding calls. -/
theorem Rel.inFrame {Q : Value → Value → Prop} {m m' : Machine Value}
    {left right : State → CallFrame} (settings : c.settings ev.settings ev'.settings)
    (rel : c.Rel Q m m')
    (frames : ev.settings.traced = true → ev'.settings.traced = true →
      ∀ s t, c.States s t → left s = right t) :
    c.Rel Q (ev.inFrame left m) (ev'.inFrame right m') := by
  rw [inFrame_eq, inFrame_eq]
  apply rel.decorate
  intro s t e e' states errors
  exact c.error_framed settings errors fun traced traced' => frames traced traced' s t states

end Correspondence

/-! ### The number of steps -/

/-- On what stack a computation runs is not seen in what it does. -/
theorem runOnStack_eq {α : Type} (own : Bool) (m : Machine α) : runOnStack own m = m := by
  funext s
  unfold runOnStack
  split <;> rfl

/-- With one more step, an evaluator does one level of work. -/
theorem performWith_succ (settings : Settings) (calls : CallPolicy) (steps : Nat) :
    performWith settings calls (steps + 1) = (Evaluator.ofSteps settings calls steps).step := by
  funext w
  rw [performWith]
  exact runOnStack_eq _ _

namespace Correspondence

open Machine

variable {c : Correspondence} {ev ev' : Evaluator}

/-! ### The same policy and the same number of steps -/

/-- How computations in tail position correspond where both sides defer the same calls: they come to
    the same, which is settled or a pending call. -/
abbrev SameTails (c : Correspondence) : Machine Value → Machine Value → Prop :=
  c.Rel (c.Both Value.TailSettled)

/-- Evaluators that do smaller work alike leave the same calls or make them alike. -/
theorem sameTails (settings : c.settings ev.settings ev'.settings) (calls : ev.calls = ev'.calls)
    (performs : ∀ w, c.Workable w → c.SameTails (ev.perform w) (ev'.perform w)) :
    c.TailRules ev ev' c.SameTails where
  ofRel rel := rel.weaken fun _ _ both => both.weaken Or.inl
  bind first next := first.bind next
  perform := performs _
  closure {k args} settled settledArgs := by
    unfold Evaluator.callClosure
    rw [← calls]
    split
    · split
      · exact Rel.pure ⟨rfl, fun clean => Or.inr ⟨k, args, rfl, settled clean, settledArgs clean⟩⟩
      · exact Rel.yieldTurn.bindEq fun _ => performs _ ⟨settled, settledArgs⟩
    · exact Rel.failSame _
  inFrame rel frames := rel.inFrame settings frames

/-- Evaluators that do smaller work alike make the calls that are left alike. -/
theorem Rel.force (steps : ev.steps = ev'.steps ∨ c.lax ∧ ev.steps ≤ ev'.steps)
    (performs : ∀ w, c.Workable w → c.SameTails (ev.perform w) (ev'.perform w)) (v : Value)
    (settled : c.clean → v.TailSettled) :
    c.Rel (c.Both Value.Settled) (ev.force v) (ev'.force v) := by
  refine Rel.iterate (X := c.Both Value.TailSettled) ?_ steps v v ⟨rfl, settled⟩
  intro v v' both
  obtain ⟨rfl, here⟩ := both
  unfold Evaluator.forceRound
  split
  next k args =>
    have parts : c.clean → k.Settled ∧ Value.AllSettled args := fun clean => by
      rcases here clean with none | ⟨k', args', same, both⟩
      · exact none.elim
      · cases same
        exact both
    apply Rel.yieldTurn.bindEq
    intro _
    refine (performs (.enter k args)
      ⟨fun clean => (parts clean).1, fun clean => (parts clean).2⟩).bindBoth fun v holds => ?_
    exact Rel.pure (show c.Both Value.TailSettled v v from ⟨rfl, holds⟩)
  next notPending =>
    refine Rel.pure (show c.Both Value.Settled _ _ from ⟨rfl, fun clean => ?_⟩)
    rcases here clean with settled | ⟨k, args, same, -⟩
    · exact settled
    · exact absurd same (notPending k args)

/-- Evaluators that do smaller work alike are aligned. -/
theorem aligned_of_performs (settings : c.settings ev.settings ev'.settings)
    (calls : ev.calls = ev'.calls) (steps : ev.steps = ev'.steps ∨ c.lax ∧ ev.steps ≤ ev'.steps)
    (performs : ∀ w, c.Workable w → c.SameTails (ev.perform w) (ev'.perform w)) :
    c.Aligned ev ev' c.SameTails where
  settings := settings
  steps := steps
  tails := sameTails settings calls performs
  force rel := rel.bindBoth fun v holds => Rel.force steps performs v holds

/-- Work is performed alike under corresponding settings, with the same policy and the same number of
    steps. The induction is on the number of steps. -/
theorem performWith_sameTails {a b : Settings} (settings : c.settings a b) (calls : CallPolicy)
    (steps : Nat) (w : Work) (workable : c.Workable w) :
    c.SameTails (performWith a calls steps w) (performWith b calls steps w) := by
  induction steps generalizing w with
  | zero => exact Rel.exhausted
  | succ steps ih =>
      rw [performWith_succ, performWith_succ]
      have aligned : c.Aligned (Evaluator.ofSteps a calls steps) (Evaluator.ofSteps b calls steps)
          c.SameTails := aligned_of_performs settings rfl (Or.inl rfl) ih
      exact aligned.step aligned.tails workable

/-- Evaluators with corresponding settings, the same policy and the same number of steps are
    aligned. -/
theorem aligned_ofSteps {a b : Settings} (settings : c.settings a b) (calls : CallPolicy)
    (steps : Nat) :
    c.Aligned (Evaluator.ofSteps a calls steps) (Evaluator.ofSteps b calls steps) c.SameTails :=
  aligned_of_performs settings rfl (Or.inl rfl) (performWith_sameTails settings calls steps)

end Correspondence

end PluginLisp
