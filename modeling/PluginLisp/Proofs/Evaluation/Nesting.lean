import PluginLisp.Proofs.Evaluation.Endings
import PluginLisp.Proofs.Evaluation.Literals

/-!
How deep evaluations are nested. A number of steps bounds two things at once: how deep work is nested
in other work, and how many rounds a loop takes. `performWithin` has a bound for each. It does the same
as `performWith` as long as neither bound is reached, so what ends within a depth needs no deeper
nesting, however many rounds it takes.

Main results: `IsTower.below`, the instances of it for each part of an evaluator, and
`evaluates_iff_within`.
-/

namespace PluginLisp

open Machine Correspondence

/-- Performs work that is nested to a depth of less than `depth`, with at most `rounds` rounds for every
    loop. -/
def performWithin (settings : Settings) (rounds : Nat) : (depth : Nat) → Work → Machine Value
  | 0 => fun _ => exhausted
  | depth + 1 =>
      Evaluator.step ⟨settings, .deferred, rounds, performWithin settings rounds depth⟩

open World

namespace Evaluator

/-- The evaluator for which work may be nested to a depth, with a number of rounds for every loop. -/
def within (settings : Settings) (rounds depth : Nat) : Evaluator :=
  ⟨settings, .deferred, rounds, performWithin settings rounds depth⟩

variable {settings : Settings} {rounds rounds' depth depth' n : Nat}

/-! ### Evaluators on top of each other -/

/-- Evaluators that perform work by means of the one before. The first one performs none. -/
structure IsTower (settings : Settings) (tower : Nat → Evaluator) : Prop where
  settings : ∀ i, (tower i).settings = settings
  calls : ∀ i, (tower i).calls = .deferred
  steps : ∀ {i j}, i ≤ j → (tower i).steps ≤ (tower j).steps
  bottom : (tower 0).perform = fun _ => exhausted
  next : ∀ i, (tower (i + 1)).perform = (tower i).step

/-- The evaluators that may nest any number of times, but make few rounds, form a tower. -/
theorem within_isTower (settings : Settings) (rounds : Nat) :
    IsTower settings (within settings rounds) :=
  ⟨fun _ => rfl, fun _ => rfl, fun _ => Nat.le_refl _, rfl, fun _ => rfl⟩

/-- The evaluators with as many steps for nesting as for rounds form a tower. -/
theorem ofSteps_isTower (settings : Settings) : IsTower settings (ofSteps settings .deferred) :=
  ⟨fun _ => rfl, fun _ => rfl, id, rfl, fun i => performWith_succ settings .deferred i⟩

/-- The first evaluator does what the second one does, or gives up. -/
abbrev Below (ev ev' : Evaluator) : Prop := approximation.Aligned ev ev' approximation.SameTails

/-- Approximation puts no condition on the work that is performed. -/
theorem workable (w : Work) : approximation.Workable w := by
  cases w with
  | eval form scope => exact ⟨False.elim, trivial⟩
  | builtin b args scope => exact ⟨False.elim, trivial⟩
  | enter c args => exact ⟨False.elim, False.elim⟩

section

variable {low high : Nat → Evaluator} {k d : Nat}

/-- Evaluators of two towers that perform work alike. -/
theorem IsTower.below_of_performs (lower : IsTower settings low) (higher : IsTower settings high)
    (steps : (low d).steps ≤ (high (d + k)).steps)
    (performs : ∀ w, approximation.SameTails ((low d).perform w) ((high (d + k)).perform w)) :
    Below (low d) (high (d + k)) := by
  refine aligned_of_performs ?_ ?_ (Or.inr ⟨trivial, steps⟩) fun w _ => performs w
  · exact (lower.settings d).trans (higher.settings _).symm
  · exact (lower.calls d).trans (higher.calls _).symm

/-- The induction is on the level. Going down one level in both towers keeps them `k` levels apart. -/
theorem IsTower.below (lower : IsTower settings low) (higher : IsTower settings high)
    (steps : ∀ i ≤ d, (low i).steps ≤ (high (i + k)).steps) : Below (low d) (high (d + k)) := by
  induction d with
  | zero =>
      refine lower.below_of_performs higher (steps 0 (by omega)) fun w => ?_
      rw [lower.bottom]
      exact Rel.gaveUp trivial _
  | succ d ih =>
      have below : Below (low d) (high (d + k)) := ih fun i above => steps i (by omega)
      refine lower.below_of_performs higher (steps (d + 1) (by omega)) fun w => ?_
      rw [lower.next, show d + 1 + k = (d + k) + 1 by omega, higher.next]
      exact below.step below.tails (workable w)

/-- In a tower, what is allowed more steps does at least what is allowed fewer. -/
theorem IsTower.below_of_le (tower : IsTower settings low) {i j : Nat} (le : i ≤ j) :
    Below (low i) (low j) := by
  obtain ⟨k, rfl⟩ := Nat.exists_eq_add_of_le le
  exact tower.below tower fun i _ => tower.steps (by omega)

/-- More steps do at least what fewer do. -/
theorem ofSteps_below {i j : Nat} (le : i ≤ j) :
    Below (ofSteps settings .deferred i) (ofSteps settings .deferred j) :=
  (ofSteps_isTower settings).below_of_le le

/-- One level of a tower evaluates a form with the level below. -/
theorem IsTower.evalTail_succ (tower : IsTower settings low) (form : Form) (scope : Nat) :
    (low (d + 1)).evalTail form scope = (low d).evalForm form scope :=
  congrFun (tower.next d) (.eval form scope)

/-- Every level but the lowest evaluates literals to what they hold. -/
theorem IsTower.readsLiterals (tower : IsTower settings low) : (low (d + 1)).ReadsLiterals :=
  fun v scope => tower.evalTail_succ (.literal v) scope

end

/-- More rounds and a greater depth. -/
theorem within_below_within (more : rounds ≤ rounds') (deeper : depth ≤ depth') :
    Below (within settings rounds depth) (within settings rounds' depth') := by
  obtain ⟨k, rfl⟩ := Nat.exists_eq_add_of_le deeper
  exact (within_isTower settings rounds).below (within_isTower settings rounds') fun _ _ => more

/-- A number of steps that allows for all rounds at every depth. -/
theorem within_below_ofSteps (enough : rounds + depth ≤ n) :
    Below (within settings rounds depth) (ofSteps settings .deferred n) := by
  obtain ⟨k, rfl⟩ := Nat.exists_eq_add_of_le' (show depth ≤ n by omega)
  rw [Nat.add_comm]
  exact (within_isTower settings rounds).below (ofSteps_isTower settings) fun i _ =>
    show rounds ≤ i + k by omega

/-- Steps enough for a computation are enough for its rounds and for its depth. -/
theorem ofSteps_below_within (n : Nat) :
    Below (ofSteps settings .deferred n) (within settings n n) :=
  (ofSteps_isTower settings).below (k := 0) (within_isTower settings n) fun _ below => below

/-! ### What ends -/

section

variable {ev ev' : Evaluator} {w after : World} {form : Form} {forms pairs : List Form}
  {f : Value} {fs : List Value} {scope : Nat} {v : Value} {c : Closure}

/-- Values that are the same on both sides. -/
theorem approximates_of_both {α : Type} {P : α → Prop} {m m' : Machine α}
    (rel : approximation.Rel (approximation.Both P) m m') : Approximates m m' :=
  rel.weaken fun _ _ both => both.1

variable (below : Below ev ev')
include below

/-- An evaluator with more steps ends as the one below it, in a tail position as well. -/
theorem Below.evalTail {outcome : Outcome Value}
    (ends : w.Ends (ev.evalTail form scope) outcome after) :
    w.Ends (ev'.evalTail form scope) outcome after :=
  ends.approximated (approximates_of_both (below.tails.perform (workable _)))

/-- An evaluator with more steps runs the body of a closure to the same end. -/
theorem Below.enter {args : List Value} {outcome : Outcome Value}
    (ends : w.Ends (ev.perform (.enter c args)) outcome after) :
    w.Ends (ev'.perform (.enter c args)) outcome after :=
  ends.approximated (approximates_of_both (below.tails.perform (workable _)))

/-- An evaluator with more steps evaluates a form to the same end. -/
theorem Below.eval {outcome : Outcome Value} (ends : w.Ends (ev.eval form scope) outcome after) :
    w.Ends (ev'.eval form scope) outcome after :=
  ends.approximated (approximates_of_both (Aligned.eval below False.elim trivial))

/-- An evaluator with more steps evaluates arguments to the same end. -/
theorem Below.evalAll {outcome : Outcome (List Value)}
    (ends : w.Ends (ev.evalAll forms scope) outcome after) :
    w.Ends (ev'.evalAll forms scope) outcome after :=
  ends.approximated (approximates_of_both (Aligned.evalAll below False.elim trivial))

/-- An evaluator with more steps runs a chain of functions to the same end. -/
theorem Below.callChain {outcome : Outcome Value}
    (ends : w.Ends (ev.callChain fs forms scope) outcome after) :
    w.Ends (ev'.callChain fs forms scope) outcome after :=
  ends.approximated
    (approximates_of_both (Aligned.callChain below trivial fs False.elim False.elim))

/-- An evaluator with more steps expands a macro to the same end. -/
theorem Below.expandMacro {outcome : Outcome Value}
    (ends : w.Ends (ev.expandMacro c forms) outcome after) :
    w.Ends (ev'.expandMacro c forms) outcome after :=
  ends.approximated (approximates_of_both (Aligned.expandMacro below False.elim False.elim))

/-- An evaluator with more steps makes local bindings to the same end. -/
theorem Below.bindPairs {outcome : Outcome Unit}
    (ends : w.Ends (ev.bindPairs pairs scope) outcome after) :
    w.Ends (ev'.bindPairs pairs scope) outcome after :=
  ends.approximated (Aligned.bindPairs below trivial False.elim)

end

/-- Bounding the rounds and the depth instead of the steps changes nothing about what forms evaluate
    to. -/
theorem evaluates_iff_within {outcome : Outcome Value} {w after : World} {form : Form} {scope : Nat} :
    w.Evaluates settings .deferred form scope outcome after ↔
      ∃ rounds depth, w.Ends ((within settings rounds depth).eval form scope) outcome after := by
  constructor
  · rintro ⟨finished, steps, ended⟩
    exact ⟨steps, steps, (ofSteps_below_within steps).eval ⟨finished, ended⟩⟩
  · rintro ⟨rounds, depth, ends⟩
    obtain ⟨finished, ended⟩ := (within_below_ofSteps (Nat.le_refl (rounds + depth))).eval ends
    exact ⟨finished, _, ended⟩

end Evaluator

end PluginLisp
