import PluginLisp.Proofs.Evaluation.Endings
import PluginLisp.Proofs.Evaluation.Literals

/-!
Passing expressions and passing values. Each kind of callable decides for itself when to evaluate its
arguments, and hands values that it knows to what it holds as literals. For everything that is built
from closures and operators this comes to the same as evaluating the arguments first, from left to
right, and then calling with the values: every argument is evaluated once, at whatever depth the
callable that does it lies, and no argument after one that fails.

Main result: `call_eq_evalAll_applyValues`.
-/

namespace PluginLisp

open Machine

/-- What is built from closures and operators by combinators, nested to any depth. A partial call may
    hold any values. -/
inductive Value.Composite : Value → Prop where
  | function (c : Closure) : Composite (.function c)
  | operator (symbol : String) : Composite (.operator symbol)
  | partialCall {f : Value} (inner : Composite f) (bound : List Value) :
      Composite (.partialCall f bound)
  | complement {f : Value} (inner : Composite f) : Composite (.complement f)
  | juxt {fs : List Value} (inner : ∀ f ∈ fs, Composite f) : Composite (.juxt fs)
  | comp {fs : List Value} (inner : ∀ f ∈ fs, Composite f) : Composite (.comp fs)

namespace Evaluator

variable {ev : Evaluator} {f g : Value} {args : List Form} {scope : Nat}

/-! ### Calling with literals -/

/-- A call with forms is a call with literals for what they evaluate to. -/
def CallsByValue (ev : Evaluator) (f : Value) (scope : Nat) : Prop :=
  ∀ args, ev.callTail f args scope =
    ev.evalAll args scope >>= fun values => ev.callTail f (literals values) scope

/-- A callable that begins by evaluating its arguments. -/
theorem PassesValues.of_first (passes : ev.PassesValues) {next : List Value → Machine Value}
    (first : ∀ args, ev.callTail f args scope = ev.evalAll args scope >>= next) :
    ev.CallsByValue f scope := by
  intro args
  rw [first args]
  refine (passes args scope).bind_congr fun values again => ?_
  rw [first (literals values), again scope, run_pure_bind]

/-- A callable that begins by calling another one with the same arguments. -/
theorem CallsByValue.of_inner (inner : ev.CallsByValue g scope) {next : Value → Machine Value}
    (first : ∀ args, ev.callTail f args scope = ev.callTail g args scope >>= next) :
    ev.CallsByValue f scope := by
  intro args
  rw [first args, inner args, Machine.bind_assoc]
  congr
  funext values
  exact (first (literals values)).symm

/-- A chain of calls begins with the last callable of it. -/
theorem exists_callChain_eq (ev : Evaluator) (scope : Nat) (fs : List Value) (nonempty : fs ≠ []) :
    ∃ next, ∀ args, ev.callChain fs args scope =
      ev.callTail (fs.getLast nonempty) args scope >>= next := by
  induction fs with
  | nil => exact absurd rfl nonempty
  | cons f rest ih =>
      cases rest with
      | nil => exact ⟨ev.force, fun args => by rw [callChain]; rfl⟩
      | cons g rest =>
          obtain ⟨next, first⟩ := ih (by simp)
          refine ⟨fun v => next v >>= fun v => ev.callTail f [.literal v] scope >>= ev.force,
            fun args => ?_⟩
          rw [callChain, first args, Machine.bind_assoc]
          · rfl
          · simp

/-- A composition begins with the last callable of it. -/
theorem exists_callTail_comp_eq (ev : Evaluator) (scope : Nat) (fs : List Value) (nonempty : fs ≠ []) :
    ∃ next, ∀ args, ev.callTail (.comp fs) args scope =
      ev.callTail (fs.getLast nonempty) args scope >>= next := by
  match fs with
  | [f] => exact ⟨ev.force, fun args => by rw [callTail]; rfl⟩
  | f :: g :: rest =>
      obtain ⟨next, first⟩ := exists_callChain_eq ev scope (g :: rest) (by simp)
      refine ⟨fun v => next v >>= fun v => ev.callTail f [.literal v] scope, fun args => ?_⟩
      rw [callTail, first args, Machine.bind_assoc]
      · rfl
      · simp

/-- The induction is on how the callable is built. Only a complement and a composition leave it to what
    they hold to evaluate the arguments. -/
theorem PassesValues.callsByValue (passes : ev.PassesValues) (composite : f.Composite) :
    ev.CallsByValue f scope := by
  induction composite with
  | function c => exact passes.of_first fun args => by rw [callTail]
  | operator symbol => exact passes.of_first fun args => by rw [callTail]
  | partialCall _ bound => exact passes.of_first fun args => by rw [callTail]
  | complement _ ih => exact ih.of_inner fun args => by rw [callTail]
  | juxt _ => exact passes.of_first fun args => by rw [callTail]
  | @comp fs _ ih =>
      cases fs with
      | nil => exact passes.of_first fun args => by rw [callTail]
      | cons f rest =>
          obtain ⟨next, first⟩ := exists_callTail_comp_eq ev scope (f :: rest) (by simp)
          exact (ih _ (List.getLast_mem _)).of_inner first

theorem CallsByValue.call (calls : ev.CallsByValue f scope) (args : List Form) :
    ev.call f args scope =
      ev.evalAll args scope >>= fun values => ev.applyValues f values scope := by
  rw [Evaluator.call, calls args, Machine.bind_assoc]
  rfl

/-- Arguments are evaluated before those after them, and the callable is applied in the end. -/
theorem CallsByValue.call_append (calls : ev.CallsByValue f scope) (first rest : List Form) :
    ev.call f (first ++ rest) scope =
      ev.evalAll first scope >>= fun vs => ev.evalAll rest scope >>= fun ws =>
        ev.applyValues f (vs ++ ws) scope := by
  rw [calls.call, evalAll_append]
  simp [Machine.bind_assoc]

end Evaluator

open World Evaluator

/-- Passing expressions to a composite callable is the same as evaluating them from left to right and
    applying the callable to the values. Each of the expressions is evaluated once, after those before
    it and before those after it; and if the first ones fail, then the call fails like them, in the
    world that they leave, so that no further one is evaluated. -/
theorem call_eq_evalAll_applyValues (settings : Settings) (calls : CallPolicy) (steps : Nat)
    {f : Value} (composite : f.Composite) (scope : Nat) :
    let ev := Evaluator.ofSteps settings calls steps
    (∀ args, ev.call f args scope =
      ev.evalAll args scope >>= fun values => ev.applyValues f values scope) ∧
    (∀ before arg rest, ev.call f (before ++ arg :: rest) scope =
      ev.evalAll before scope >>= fun vs => ev.eval arg scope >>= fun v =>
        ev.evalAll rest scope >>= fun ws => ev.applyValues f (vs ++ v :: ws) scope) ∧
    ∀ (w after : World) first rest e, w.Ends (ev.evalAll first scope) (.error e) after →
      w.Ends (ev.call f (first ++ rest) scope) (.error e) after := by
  intro ev
  have byValue : ev.CallsByValue f scope := (passesValues_ofSteps steps).callsByValue composite
  refine ⟨byValue.call, fun before arg rest => ?_, fun w after first rest e fails => ?_⟩
  · rw [byValue.call_append, evalAll_cons]
    simp [Machine.bind_assoc]
  · rw [byValue.call_append]
    exact fails.bind_error

/-- A partial call of a sum, and then a negative number and a complement of the result. -/
def nestedCallable : Value :=
  .comp [.juxt [.partialCall (.operator "-") [], .complement (.operator "*")],
    .partialCall (.operator "+") [.decimal ⟨1, 0⟩]]

/-- A call of a closure with a number for its body, which makes a scope. -/
def numberCall (digits : String) : Form :=
  .list [.literal (.function ⟨0, none, [], none, [.big digits], 0⟩)]

theorem nestedCallable_composite : nestedCallable.Composite := by
  refine .comp fun f member => ?_
  rcases List.mem_cons.1 member with rfl | member
  · refine .juxt fun f member => ?_
    rcases List.mem_cons.1 member with rfl | member
    · exact .partialCall (.operator "-") []
    · rw [List.mem_singleton.1 member]
      exact .complement (.operator "*")
  · rw [List.mem_singleton.1 member]
    exact .partialCall (.operator "+") _

/-- Each of two calls makes its scope once. If the second one fails, then there is no third one. -/
theorem call_nestedCallable :
    nestedCallable.Composite ∧
      let ev := Evaluator.ofSteps {} .deferred 9
      (∃ s : State, s.scopes.size = 2 ∧
        (ev.evalAll [numberCall "2", numberCall "3"] 0 >>= fun values =>
            ev.applyValues nestedCallable values 0) {} =
          .done (.ok (.vector [.decimal ⟨-6, 0⟩, .boolean false])) s) ∧
      ∃ after : World, after.state.scopes.size = 2 ∧
        World.Ends {} (ev.call nestedCallable
          ([numberCall "2", numberCall "two"] ++ [numberCall "3"]) 0)
            (.error (.invalidDecimal "two")) after := by
  refine ⟨nestedCallable_composite, ?_⟩
  intro ev
  obtain ⟨agree, -, stops⟩ := call_eq_evalAll_applyValues {} .deferred 9 nestedCallable_composite 0
  have called : ∃ s, ev.call nestedCallable [numberCall "2", numberCall "3"] 0 {} =
      .done (.ok (.vector [.decimal ⟨-6, 0⟩, .boolean false])) s ∧ s.scopes.size = 2 :=
    ⟨_, rfl, rfl⟩
  have failed : ∃ s, ev.evalAll [numberCall "2", numberCall "two"] 0 {} =
      .done (.error (.invalidDecimal "two")) s ∧ s.scopes.size = 2 := ⟨_, rfl, rfl⟩
  obtain ⟨s, called, size⟩ := called
  obtain ⟨t, failed, size'⟩ := failed
  refine ⟨⟨s, size, ?_⟩, ⟨t, []⟩, size', ?_⟩
  · rw [← agree]
    exact called
  · exact stops {} ⟨t, []⟩ _ _ _ (ends_of_done failed (by simp))

end PluginLisp
