import PluginLisp.Proofs.PendingCalls

/-!
Calls that are left fit. A call of a closure is left to be made only after its arguments have been
counted. No other work makes a pending call, and pending calls never get into data, from where one of
any shape might come back. So every pending call that evaluation comes to has as many arguments as its
closure takes, and so has every one that is met when calls are made one after the other.

Main result: `Evaluator.ofSteps_leavesFittingCalls`.
-/

namespace PluginLisp

open Machine Correspondence

/-- The numbers of arguments that a closure takes: as many as it has parameters, or any number from
    there on if it has a rest parameter. -/
def Closure.Takes (c : Closure) (n : Nat) : Prop :=
  match c.rest with
  | none => n = c.params.length
  | some _ => c.params.length ≤ n

/-- A closure accepts a number of arguments if it takes that many. -/
theorem Closure.accepts_iff {c : Closure} {n : Nat} : c.accepts n = true ↔ c.Takes n := by
  unfold Closure.accepts Closure.Takes
  cases c.rest with
  | none => exact beq_iff_eq
  | some _ => exact decide_eq_true_iff

/-- If the value is a pending call, its closure takes as many arguments as it has. -/
def Value.Fits (v : Value) : Prop := ∀ c args, v = .pending c args → c.Takes args.length

/-- What evaluation in tail position comes to: a settled value, or a pending call on settled data that
    fits. -/
def Value.TailFits (v : Value) : Prop := v.TailSettled ∧ v.Fits

/-- A settled value is not a pending call, so nothing has to fit. -/
theorem Value.Settled.tailFits {v : Value} (settled : v.Settled) : v.TailFits := by
  refine ⟨Or.inl settled, fun c args pending => ?_⟩
  subst pending
  exact settled.elim

/-- A pending call fits if the closure takes its arguments. -/
theorem Value.tailFits_pending {c : Closure} {args : List Value} (settled : c.Settled)
    (settledArgs : Value.AllSettled args) (takes : c.Takes args.length) :
    (Value.pending c args).TailFits := by
  refine ⟨Or.inr ⟨c, args, rfl, settled, settledArgs⟩, fun c' args' same => ?_⟩
  cases same
  exact takes

namespace Correspondence

variable {c : Correspondence} {ev : Evaluator}

/-- Computations in tail position that come to the same, which fits. -/
abbrev FittingTails (c : Correspondence) : Machine Value → Machine Value → Prop :=
  c.Rel (c.Both Value.TailFits)

/-- An evaluator whose smaller work leaves only calls that fit leaves only such calls itself. -/
theorem fittingTails
    (performs : ∀ w, c.Workable w → c.FittingTails (ev.perform w) (ev.perform w)) :
    c.TailRules ev ev c.FittingTails where
  ofRel rel := rel.weaken fun _ _ both => both.weaken Value.Settled.tailFits
  bind first next := first.bind next
  perform := performs _
  closure {k args} settled settledArgs := by
    unfold Evaluator.callClosure
    split
    next accepts =>
      split
      · refine Rel.pure ⟨rfl, fun clean => ?_⟩
        exact Value.tailFits_pending (settled clean) (settledArgs clean) (Closure.accepts_iff.1 accepts)
      · exact Rel.yieldTurn.bindEq fun _ => performs _ ⟨settled, settledArgs⟩
    next => exact Rel.failSame _
  inFrame rel frames := rel.inFrame (c.settings_refl _) frames

/-- The induction is on the number of steps. -/
theorem performWith_fittingTails (settings : Settings) (calls : CallPolicy) (steps : Nat) (w : Work)
    (workable : c.Workable w) :
    c.FittingTails (performWith settings calls steps w) (performWith settings calls steps w) := by
  induction steps generalizing w with
  | zero => exact Rel.exhausted
  | succ steps ih =>
      rw [performWith_succ]
      exact (aligned_ofSteps (c.settings_refl settings) calls steps).step (fittingTails ih) workable

/-- A call that fits is made in a round, and what it comes to fits again. -/
theorem Rel.forceRound_fits
    (performs : ∀ w, c.Workable w → c.FittingTails (ev.perform w) (ev.perform w)) {v : Value}
    (fits : c.clean → v.TailFits) :
    c.Rel (c.Both fun round => ∀ v', round = Round.again v' → v'.TailFits) (ev.forceRound v)
      (ev.forceRound v) := by
  unfold Evaluator.forceRound
  split
  next k args =>
    have parts (clean : c.clean) : k.Settled ∧ Value.AllSettled args := by
      obtain ⟨none | ⟨k', args', same, settled⟩, -⟩ := fits clean
      · exact none.elim
      · cases same
        exact settled
    apply Rel.yieldTurn.bindEq
    intro _
    refine (performs (.enter k args)
      ⟨fun clean => (parts clean).1, fun clean => (parts clean).2⟩).bindBoth fun v holds => ?_
    refine Rel.pure ⟨rfl, fun clean v' same => ?_⟩
    cases same
    exact holds clean
  next => exact Rel.pure ⟨rfl, fun _ _ stops => nomatch stops⟩

end Correspondence

namespace Evaluator

/-- Calls are left to be made only with arguments that fit: wherever work comes to a pending call, and
    in the rounds in which pending calls are made one after the other. -/
structure LeavesFittingCalls (ev : Evaluator) : Prop where
  perform : ∀ work, work.Settled → Machine.Settled Value.TailFits (ev.perform work)
  evalTail : ∀ form scope, form.Settled → Machine.Settled Value.TailFits (ev.evalTail form scope)
  evalBody : ∀ body scope, Form.AllSettled body →
    Machine.Settled Value.TailFits (ev.evalBody body scope)
  callTail : ∀ f args scope, f.Settled → Form.AllSettled args →
    Machine.Settled Value.TailFits (ev.callTail f args scope)
  runBuiltin : ∀ b args scope, Form.AllSettled args →
    Machine.Settled Value.TailFits (ev.runBuiltin b args scope)
  forceRound : ∀ v, v.TailFits → Machine.Settled
    (fun round => ∀ v', round = Round.again v' → v'.TailFits) (ev.forceRound v)

/-- Whatever the policy and the number of steps, only fitting calls are left to be made. -/
theorem ofSteps_leavesFittingCalls (settings : Settings) (calls : CallPolicy) (steps : Nat) :
    (ofSteps settings calls steps).LeavesFittingCalls := by
  have aligned := settledness_aligned settings calls steps
  have performs := performWith_fittingTails (c := settledness) settings calls steps
  have tails : settledness.TailRules (ofSteps settings calls steps) (ofSteps settings calls steps)
      settledness.FittingTails := fittingTails performs
  constructor
  case perform =>
      exact fun work settled => Machine.settled_iff.2 (performs work settled.workable)
  case evalTail =>
      exact fun form scope settled =>
        Machine.settled_iff.2 (tails.evalTail (fun _ => settled) trivial)
  case evalBody =>
      exact fun body scope settled =>
        Machine.settled_iff.2 (aligned.evalBody tails (fun _ => settled) trivial)
  case callTail =>
      exact fun f args scope settled settledArgs =>
        Machine.settled_iff.2 (aligned.callTail trivial f tails (fun _ => settled)
          fun _ => settledArgs)
  case runBuiltin =>
      exact fun b args scope settled =>
        Machine.settled_iff.2 (aligned.runBuiltin trivial tails fun _ => settled)
  case forceRound =>
      exact fun v fits => Machine.settled_iff.2 (Rel.forceRound_fits performs fun _ => fits)

end Evaluator

end PluginLisp
