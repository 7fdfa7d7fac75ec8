import PluginLisp.Proofs.Evaluation.Alignment

/-!
Aligned evaluators call values alike. Combinators call what they hold, so the proof follows the value
that is called; where a combinator needs a value and not a pending call, it forces the call inside it,
and the relation for tail positions changes to the one that forcing is known to respect.

Main results: `callTail`, `applyValues`.
-/

namespace PluginLisp.Correspondence.Aligned

open Machine

variable {c : Correspondence} {ev ev' : Evaluator} {S T : Machine Value → Machine Value → Prop}
variable (aligned : c.Aligned ev ev' S)
include aligned

/-- A macro is called with its arguments as data and gives related data. -/
theorem expandMacro {k : Closure} {args : List Form} (settled : c.clean → k.Settled)
    (settledArgs : c.clean → Form.AllSettled args) :
    c.Rel (c.Both Value.Settled) (ev.expandMacro k args) (ev'.expandMacro k args) := by
  refine Rel.bindBoth (P := Value.AllSettled) (Rel.ofExcept fun clean => ?_) fun quoted holds => ?_
  · cases done : Form.quoteAll args with
    | error e => trivial
    | ok values => exact Form.quoteAll_settled (settledArgs clean) done
  · apply Rel.inNewScope k.scope
    intro frame writable
    apply (Rel.bindParams writable holds).bindEq
    intro _
    exact aligned.runBody (fun clean => Closure.settled_iff.1 (settled clean)) writable

omit aligned in
/-- Literals of settled values are settled forms. -/
theorem literals_settled {values : List Value} (settled : c.clean → Value.AllSettled values) :
    c.clean → Form.AllSettled (Evaluator.literals values) :=
  fun clean => Form.allSettled_literals (settled clean)

variable {scope : Nat}

mutual

/-- A call in a tail position, whatever kind of function is called. -/
theorem callTail (writable : c.writable scope) : ∀ (f : Value) {args : List Form}
    {T : Machine Value → Machine Value → Prop},
    c.TailRules ev ev' T → (c.clean → f.Settled) → (c.clean → Form.AllSettled args) →
      T (ev.callTail f args scope) (ev'.callTail f args scope)
  | .function k, args, T, tails, settled, settledArgs => by
      rw [Evaluator.callTail, Evaluator.callTail]
      apply tails.bindBoth (aligned.evalAll settledArgs writable)
      intro values holds
      exact tails.closure settled holds
  | .builtin name, args, T, tails, settled, settledArgs => by
      rw [Evaluator.callTail, Evaluator.callTail]
      apply tails.bindEq aligned.registry
      intro registry
      split
      · exact tails.perform ⟨settledArgs, writable⟩
      · exact tails.fail _
  | .operator symbol, args, T, tails, settled, settledArgs => by
      rw [Evaluator.callTail, Evaluator.callTail]
      apply tails.bindBoth (aligned.evalAll settledArgs writable)
      intro values holds
      exact tails.ofRel (Rel.ofExcept fun _ => applyOperator_settled symbol values)
  | .partialCall g bound, args, T, tails, settled, settledArgs => by
      rw [Evaluator.callTail, Evaluator.callTail]
      apply tails.bindBoth (aligned.evalAll settledArgs writable)
      intro values holds
      apply callTail writable g tails (fun clean => (settled clean).1)
      intro clean
      exact Form.allSettled_append.2
        ⟨literals_settled (fun clean => (settled clean).2) clean, literals_settled holds clean⟩
  | .complement g, args, T, tails, settled, settledArgs => by
      rw [Evaluator.callTail, Evaluator.callTail]
      have inner := aligned.force (callTail writable g aligned.tails settled settledArgs)
      refine tails.ofRel ?_
      rw [← Machine.bind_assoc, ← Machine.bind_assoc]
      exact inner.bindBoth fun v _ => Rel.pure ⟨rfl, fun _ => trivial⟩
  | .juxt fs, args, T, tails, settled, settledArgs => by
      rw [Evaluator.callTail, Evaluator.callTail]
      refine tails.ofRel ((aligned.evalAll settledArgs writable).bindBoth fun values holds => ?_)
      have each := callEach writable fs settled (literals_settled holds)
      exact each.bindBoth fun results settledResults => Rel.pure ⟨rfl, settledResults⟩
  | .comp [], args, T, tails, settled, settledArgs => by
      rw [Evaluator.callTail, Evaluator.callTail]
      apply tails.bindBoth (aligned.evalAll settledArgs writable)
      intro values holds
      split
      next v => exact tails.pure fun clean => (holds clean).1
      next => exact tails.fail _
  | .comp [g], args, T, tails, settled, settledArgs => by
      rw [Evaluator.callTail, Evaluator.callTail]
      exact tails.ofRel (aligned.force
        (callTail writable g aligned.tails (fun clean => (settled clean).1) settledArgs))
  | .comp (g :: h :: rest), args, T, tails, settled, settledArgs => by
      have unfolded (ev : Evaluator) : ev.callTail (.comp (g :: h :: rest)) args scope =
          ev.callChain (h :: rest) args scope >>= fun v =>
            ev.callTail g [.literal v] scope := by
        rw [Evaluator.callTail]
        simp
      rw [unfolded ev, unfolded ev']
      apply tails.bindBoth
        (callChain writable (h :: rest) (fun clean => (settled clean).2) settledArgs)
      intro v holds
      exact callTail writable g tails (fun clean => (settled clean).1)
        fun clean => ⟨holds clean, trivial⟩
  | .transformer k, args, T, tails, settled, settledArgs => by
      rw [Evaluator.callTail, Evaluator.callTail]
      apply tails.bindBoth (aligned.expandMacro settled settledArgs)
      intro expansion holds
      exact tails.evalTail (fun clean => Value.toCode_settled (holds clean)) writable
  | .nil, args, T, tails, _, _ | .boolean _, args, T, tails, _, _ | .number _, args, T, tails, _, _
  | .decimal _, args, T, tails, _, _ | .text _, args, T, tails, _, _
  | .keyword _, args, T, tails, _, _ | .symbol _, args, T, tails, _, _
  | .list _, args, T, tails, _, _ | .vector _, args, T, tails, _, _ | .map _, args, T, tails, _, _
  | .atom _, args, T, tails, _, _ | .channel _, args, T, tails, _, _
  | .future _, args, T, tails, _, _ | .waitGroup _, args, T, tails, _, _
  | .pending _ _, args, T, tails, _, _ => by
      rw [Evaluator.callTail, Evaluator.callTail]
      · exact tails.fail _
      all_goals simp

/-- Functions called on the same arguments give related values, one after the other. -/
theorem callEach (writable : c.writable scope) : ∀ (fs : List Value) {args : List Form},
    (c.clean → Value.AllSettled fs) → (c.clean → Form.AllSettled args) →
      c.Rel (c.Both Value.AllSettled) (ev.callEach fs args scope) (ev'.callEach fs args scope)
  | [], args, settled, settledArgs => by
      rw [Evaluator.callEach, Evaluator.callEach]
      exact Rel.pure ⟨rfl, fun _ => trivial⟩
  | f :: rest, args, settled, settledArgs => by
      rw [Evaluator.callEach, Evaluator.callEach]
      have first := aligned.force
        (callTail writable f aligned.tails (fun clean => (settled clean).1) settledArgs)
      rw [← Machine.bind_assoc, ← Machine.bind_assoc]
      apply first.bindBoth
      intro v holds
      apply (callEach writable rest (fun clean => (settled clean).2) settledArgs).bindBoth
      intro vs others
      exact Rel.pure ⟨rfl, fun clean => ⟨holds clean, others clean⟩⟩

/-- The functions of a chain pass their values on. -/
theorem callChain (writable : c.writable scope) : ∀ (fs : List Value) {args : List Form},
    (c.clean → Value.AllSettled fs) → (c.clean → Form.AllSettled args) →
      c.Rel (c.Both Value.Settled) (ev.callChain fs args scope) (ev'.callChain fs args scope)
  | [], args, settled, settledArgs => by
      rw [Evaluator.callChain, Evaluator.callChain]
      exact Rel.pure ⟨rfl, fun _ => trivial⟩
  | [f], args, settled, settledArgs => by
      rw [Evaluator.callChain, Evaluator.callChain]
      exact aligned.force
        (callTail writable f aligned.tails (fun clean => (settled clean).1) settledArgs)
  | f :: g :: rest, args, settled, settledArgs => by
      have unfolded (ev : Evaluator) : ev.callChain (f :: g :: rest) args scope =
          ev.callChain (g :: rest) args scope >>= fun v =>
            ev.callTail f [.literal v] scope >>= ev.force := by
        rw [Evaluator.callChain]
        simp
      rw [unfolded ev, unfolded ev']
      apply (callChain writable (g :: rest) (fun clean => (settled clean).2) settledArgs).bindBoth
      intro v holds
      exact aligned.force (callTail writable f aligned.tails (fun clean => (settled clean).1)
        fun clean => ⟨holds clean, trivial⟩)

end

variable (writable : c.writable scope)
include writable

/-- A call is made to its end, pending calls included. -/
theorem call {f : Value} {args : List Form} (settled : c.clean → f.Settled)
    (settledArgs : c.clean → Form.AllSettled args) :
    c.Rel (c.Both Value.Settled) (ev.call f args scope) (ev'.call f args scope) :=
  aligned.force (aligned.callTail writable f aligned.tails settled settledArgs)

/-- A function is applied to settled values. -/
theorem applyValues {f : Value} {args : List Value} (settled : c.clean → f.Settled)
    (settledArgs : c.clean → Value.AllSettled args) :
    c.Rel (c.Both Value.Settled) (ev.applyValues f args scope) (ev'.applyValues f args scope) :=
  aligned.call writable settled (literals_settled settledArgs)

end PluginLisp.Correspondence.Aligned
