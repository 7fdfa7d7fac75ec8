import PluginLisp.Proofs.Evaluation.Steps
import PluginLisp.Proofs.Machine.Results

/-!
Literals for values that are known. Whatever an evaluation gives has been forced already, so a literal
for it evaluates to it again, without any effect. That is what makes it possible to pass a value on in
place of the form that it came from.

Main results: `Evaluator.eval_gives`, `Evaluator.passesValues_ofSteps`.
-/

namespace PluginLisp

open Machine

/-- The value is no pending call. -/
def Value.IsPlain (v : Value) : Prop := ∀ c args, v ≠ .pending c args

theorem Value.isPlain_text (s : String) : (Value.text s).IsPlain := nofun

namespace Evaluator

variable {ev : Evaluator} {settings : Settings} {calls : CallPolicy} {v : Value} {scope : Nat}

/-! ### Forced values -/

/-- Forcing the value leaves it as it is. -/
def IsForced (ev : Evaluator) (v : Value) : Prop := ev.force v = pure v

/-- A plain value has no pending call to make. -/
theorem isForced_of_plain (positive : 0 < ev.steps) (plain : v.IsPlain) :
    ev.IsForced v := by
  obtain ⟨steps, same⟩ : ∃ steps, ev.steps = steps + 1 := ⟨ev.steps - 1, by omega⟩
  rw [IsForced, force, same, iterate_succ, forceRound]
  · rfl
  · exact plain

/-- Forcing stops at a value that is no pending call. -/
theorem forceRound_gives (v : Value) : (ev.forceRound v).Gives
    fun round => ∀ made, round = .stop made → made.IsPlain := by
  unfold forceRound
  split
  · refine (Gives.any yieldTurn).bind fun _ _ => (Gives.any _).bind fun v _ => Gives.pure ?_
    exact fun _ stops => nomatch stops
  next notPending =>
    refine Gives.pure fun made stops => ?_
    cases stops
    exact notPending

/-- Making pending calls ends in a plain value. -/
theorem force_gives_plain (ev : Evaluator) (v : Value) : (ev.force v).Gives Value.IsPlain :=
  Gives.iterate forceRound_gives ev.steps v

/-- What has been forced stays as it is when forced again. -/
theorem force_gives (ev : Evaluator) (v : Value) : (ev.force v).Gives ev.IsForced := by
  cases steps : ev.steps with
  | zero =>
      rw [force, steps]
      exact Gives.exhausted
  | succ n => exact (ev.force_gives_plain v).weaken fun _ plain => isForced_of_plain (by omega) plain

/-- Evaluation ends in a plain value. -/
theorem eval_gives_plain (ev : Evaluator) (form : Form) (scope : Nat) :
    (ev.eval form scope).Gives Value.IsPlain :=
  (Gives.any _).bind fun v _ => ev.force_gives_plain v

theorem eval_gives (ev : Evaluator) (form : Form) (scope : Nat) :
    (ev.eval form scope).Gives ev.IsForced :=
  (Gives.any _).bind fun v _ => ev.force_gives v

/-! ### Lists of forms -/

theorem evalAll_nil : ev.evalAll [] scope = pure [] := rfl

theorem evalAll_cons (form : Form) (rest : List Form) :
    ev.evalAll (form :: rest) scope =
      ev.eval form scope >>= fun v => ev.evalAll rest scope >>= fun vs => pure (v :: vs) :=
  collect_cons _ form rest

/-- Arguments in two parts are evaluated one part after the other. -/
theorem evalAll_append (forms more : List Form) :
    ev.evalAll (forms ++ more) scope =
      ev.evalAll forms scope >>= fun vs => ev.evalAll more scope >>= fun ws => pure (vs ++ ws) := by
  induction forms with
  | nil =>
      show ev.evalAll more scope = ev.evalAll more scope >>= pure
      exact (bind_pure _).symm
  | cons form rest ih =>
      rw [List.cons_append, evalAll_cons, evalAll_cons, ih]
      simp [Machine.bind_assoc]

/-- Arguments are evaluated to forced values. -/
theorem evalAll_gives (ev : Evaluator) (forms : List Form) (scope : Nat) :
    (ev.evalAll forms scope).Gives fun vs => ∀ v ∈ vs, ev.IsForced v :=
  Gives.collect (fun form => ev.eval_gives form scope) forms

/-! ### Literals -/

/-- A literal stands for its value. -/
def ReadsLiterals (ev : Evaluator) : Prop :=
  ∀ v scope, ev.evalTail (.literal v) scope = pure v

/-- With a step to spare, an evaluator reads literals. -/
theorem readsLiterals_ofSteps (n : Nat) : (ofSteps settings calls (n + 1)).ReadsLiterals := by
  intro v scope
  rw [evalTail, ofSteps, performWith_succ]
  rfl

/-- Literals for forced values evaluate to them again. -/
theorem ReadsLiterals.evalAll (reads : ev.ReadsLiterals) {values : List Value}
    (forced : ∀ v ∈ values, ev.IsForced v) : ev.evalAll (literals values) scope = pure values := by
  induction values with
  | nil => rfl
  | cons v rest ih =>
      obtain ⟨first, others⟩ := List.forall_mem_cons.1 forced
      have head : ev.eval (.literal v) scope = pure v := by
        rw [eval, reads, run_pure_bind, first]
      rw [literals, List.map_cons, evalAll_cons, head, run_pure_bind, ← literals, ih others]
      rfl

/-- What forms evaluate to may be passed on as literals. -/
def PassesValues (ev : Evaluator) : Prop :=
  ∀ forms scope, (ev.evalAll forms scope).Gives fun values =>
    ∀ scope', ev.evalAll (literals values) scope' = pure values

/-- An evaluator that reads literals passes values on unchanged. -/
theorem ReadsLiterals.passesValues (reads : ev.ReadsLiterals) : ev.PassesValues :=
  fun forms scope => (ev.evalAll_gives forms scope).weaken fun _ forced _ => reads.evalAll forced

/-- Without steps, only no forms at all evaluate to anything. -/
theorem passesValues_ofSteps (n : Nat) : (ofSteps settings calls n).PassesValues := by
  cases n with
  | succ n => exact (readsLiterals_ofSteps n).passesValues
  | zero =>
      intro forms scope
      cases forms with
      | nil => exact Gives.pure fun _ => rfl
      | cons form rest =>
          rw [evalAll_cons]
          exact Gives.exhausted

end Evaluator

end PluginLisp
