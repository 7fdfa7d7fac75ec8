import PluginLisp.Proofs.Evaluation.Calls

/-!
Aligned evaluators run special forms alike. The forms that end in tail position do so under any
relation for tail positions; the loops and `try` run everything to its end and come to settled values.

Main result: `Aligned.runForm`.
-/

namespace PluginLisp.Correspondence

open Machine

variable {c : Correspondence} {ev ev' : Evaluator} {S T : Machine Value → Machine Value → Prop}
variable {scope : Nat}

/-! ### Parts that need no evaluator -/

theorem Rel.symbolArg (form : String) (f : Form) :
    c.Rel Eq (Evaluator.symbolArg form f) (Evaluator.symbolArg form f) := by
  unfold Evaluator.symbolArg
  split
  · exact Rel.pure rfl
  · exact (Rel.formText f).bindEq fun text => Rel.failSame _

/-- A function is made of a settled body. -/
theorem Rel.makeFunction {first : Form} {rest : List Form}
    (settled : c.clean → Form.AllSettled rest) :
    c.Rel (c.Both Value.Settled) (Evaluator.makeFunction first rest scope)
      (Evaluator.makeFunction first rest scope) := by
  unfold Evaluator.makeFunction
  split
  · exact (Rel.makeClosure _ _ _ _ fun clean => (settled clean).2).bindBoth
      fun k holds => Rel.pure ⟨rfl, holds⟩
  · exact (Rel.makeClosure _ _ _ _ settled).bindBoth fun k holds => Rel.pure ⟨rfl, holds⟩

/-- The forms after an explanation are settled if all are. -/
theorem skipExplanation_settled {parts : List Form} (settled : Form.AllSettled parts) :
    Form.AllSettled (Evaluator.skipExplanation parts) := by
  unfold Evaluator.skipExplanation
  split
  · split
    · exact settled.2
    · exact settled.2
    · exact settled
  · exact settled

/-- The definition of a function or a macro. -/
theorem Rel.defineNamed {form : String} {make : Closure → Value} {name : Form} {parts : List Form}
    (made : ∀ k : Closure, k.Settled → (make k).Settled) (writable : c.writable scope)
    (settled : c.clean → Form.AllSettled parts) :
    c.Rel (c.Both Value.Settled) (Evaluator.defineNamed form make name parts scope)
      (Evaluator.defineNamed form make name parts scope) := by
  apply (Rel.symbolArg form name).bindEq
  intro symbol
  have skipped := fun clean => skipExplanation_settled (settled clean)
  generalize Evaluator.skipExplanation parts = parts at skipped
  cases parts with
  | nil => exact Rel.pure ⟨rfl, fun _ => trivial⟩
  | cons params body =>
      have settledBody := fun clean => (skipped clean).2
      apply (Rel.makeClosure form (some symbol) params scope settledBody).bindBoth
      intro k holds
      have madeSettled := fun clean => made k (holds clean)
      exact (Rel.setVariable writable madeSettled).bindEq fun _ => Rel.pure ⟨rfl, madeSettled⟩

/-- The bound of a counting loop is a settled form. -/
theorem Rel.readCounter {binding : Form} (settled : c.clean → binding.Settled) :
    c.Rel (c.Both fun parts => parts.2.Settled) (Evaluator.readCounter binding)
      (Evaluator.readCounter binding) := by
  unfold Evaluator.readCounter
  split
  · exact Rel.pure ⟨rfl, fun clean => (settled clean).2.1⟩
  · exact Rel.failSame _
  · exact Rel.failSame _

/-- The forms of local bindings are settled. -/
theorem Rel.readBindings {bindings : Form} (settled : c.clean → bindings.Settled) :
    c.Rel (c.Both Form.AllSettled) (Evaluator.readBindings bindings)
      (Evaluator.readBindings bindings) := by
  unfold Evaluator.readBindings
  split
  · split
    · exact Rel.pure ⟨rfl, settled⟩
    · exact Rel.failSame _
  · split
    · exact Rel.pure ⟨rfl, settled⟩
    · exact Rel.failSame _
  · exact Rel.failSame _

theorem Rel.moduleSymbol (form : String) (f : Form) :
    c.Rel Eq (Evaluator.moduleSymbol form f) (Evaluator.moduleSymbol form f) := by
  unfold Evaluator.moduleSymbol
  split
  · exact Rel.pure rfl
  · exact Rel.failSame _

/-- The members of a module are settled, being values of variables. -/
theorem moduleMembers_settled {moduleName : String} {scopes : Scopes} {inner : Nat}
    (settled : ∀ scope ∈ scopes, scope.Settled) (names : List String) :
    Yields Value.EntriesSettled (Evaluator.moduleMembers moduleName scopes inner names) := by
  induction names with
  | nil => exact trivial
  | cons name rest ih =>
      unfold Evaluator.moduleMembers
      split
      next => exact trivial
      next v found =>
        exact ih.bind fun members holds => holds.put (Scopes.find?_settled settled found)

/-- Names are exported from the same scope. -/
theorem Rel.exportForm (writable : c.writable scope) (names : List Form) :
    c.Rel (c.Both Value.Settled) (Evaluator.exportForm scope names)
      (Evaluator.exportForm scope names) := by
  induction names with
  | nil => exact Rel.pure ⟨rfl, fun _ => trivial⟩
  | cons f rest ih =>
      apply (Rel.moduleSymbol "export" f).bindEq
      intro name
      exact (Rel.markExported writable).bindEq fun _ => ih

/-- The data that a settled form stands for is settled. -/
theorem Rel.quote {f : Form} (settled : c.clean → f.Settled) :
    c.Rel (c.Both Value.Settled) (f.quote : Machine Value) (f.quote : Machine Value) := by
  apply Rel.ofExcept
  intro clean
  cases quoted : f.quote with
  | error e => trivial
  | ok v => exact Form.quote_settled (settled clean) quoted

/-- What a mark stands in front of is settled. -/
theorem marked_settled {mark : String} {items : List Form} {inner : Form}
    (found : Evaluator.marked? mark items = some inner) (settled : Form.AllSettled items) :
    inner.Settled := by
  unfold Evaluator.marked? at found
  split at found
  · split at found
    · cases found
      exact settled.2.1
    · cases found
  · cases found

/-- The parts of a `try` hold settled code. -/
structure AttemptSettled (parts : Evaluator.Attempt) : Prop where
  body : Form.AllSettled parts.body
  handler : ∀ name handler, parts.handler = some (name, handler) → Form.AllSettled handler
  cleanup : ∀ cleanup, parts.cleanup = some cleanup → Form.AllSettled cleanup

/-- The forms before a clause are settled, and those of the clause. -/
theorem splitClause_settled (symbol : String) {forms : List Form}
    (settled : Form.AllSettled forms) :
    Form.AllSettled (Evaluator.splitClause symbol forms).1 ∧
      ∀ items, (Evaluator.splitClause symbol forms).2 = some items → Form.AllSettled items := by
  unfold Evaluator.splitClause
  split
  next name items last =>
    split
    next =>
      refine ⟨?_, fun items' same => ?_⟩
      · exact Form.allSettled_iff.2 fun form member =>
          Form.allSettled_iff.1 settled form (List.dropLast_subset _ member)
      · cases same
        have inside := Form.allSettled_iff.1 settled _ (List.mem_of_getLast? last)
        exact inside.2
    next => exact ⟨settled, by simp⟩
  next => exact ⟨settled, by simp⟩

/-- The parts of a `try` are settled. -/
theorem Rel.readAttempt {args : List Form} (settled : c.clean → Form.AllSettled args) :
    c.Rel (c.Both AttemptSettled) (Evaluator.readAttempt args) (Evaluator.readAttempt args) := by
  have outer := fun clean => splitClause_settled "finally" (settled clean)
  unfold Evaluator.readAttempt
  generalize Evaluator.splitClause "finally" args = divided at outer
  obtain ⟨rest, cleanup⟩ := divided
  have inner := fun clean => splitClause_settled "catch" (outer clean).1
  dsimp only at inner outer ⊢
  generalize Evaluator.splitClause "catch" rest = divided at inner
  obtain ⟨body, clause⟩ := divided
  match clause with
  | none =>
      exact Rel.pure ⟨rfl, fun clean => ⟨(inner clean).1, by simp, (outer clean).2⟩⟩
  | some [] => exact Rel.failSame _
  | some (target :: handler) =>
      refine (Rel.symbolArg "catch" target).bindEq fun name => Rel.pure ⟨rfl, fun clean => ?_⟩
      refine ⟨(inner clean).1, fun name' handler' same => ?_, (outer clean).2⟩
      cases same
      exact ((inner clean).2 _ rfl).2

namespace Aligned

variable (aligned : c.Aligned ev ev' S)
include aligned

/-! ### Quoting -/

mutual

/-- A template is filled with the same settled values. -/
theorem quasiquote (writable : c.writable scope) : ∀ (template : Form),
    (c.clean → template.Settled) →
      c.Rel (c.Both Value.Settled) (ev.quasiquote template scope) (ev'.quasiquote template scope)
  | .list items, settled => by
      rw [Evaluator.quasiquote, Evaluator.quasiquote]
      split
      next inner found =>
        exact aligned.eval (fun clean => marked_settled found (settled clean)) writable
      next =>
        exact (quasiquoteItems writable items settled).bindBoth fun values holds =>
          Rel.pure ⟨rfl, holds⟩
  | .vector items, settled => by
      rw [Evaluator.quasiquote, Evaluator.quasiquote]
      exact (quasiquoteItems writable items settled).bindBoth fun values holds =>
        Rel.pure ⟨rfl, holds⟩
  | .number _, settled | .big _, settled | .text _, settled | .boolean _, settled
  | .keyword _, settled | .symbol _, settled | .table _, settled | .literal _, settled => by
      rw [Evaluator.quasiquote, Evaluator.quasiquote]
      · exact Rel.quote settled
      all_goals simp

/-- The items of a template are filled in one by one, and spliced values are settled. -/
theorem quasiquoteItems (writable : c.writable scope) : ∀ (items : List Form),
    (c.clean → Form.AllSettled items) →
      c.Rel (c.Both Value.AllSettled) (ev.quasiquoteItems items scope)
        (ev'.quasiquoteItems items scope)
  | [], settled => by
      rw [Evaluator.quasiquoteItems, Evaluator.quasiquoteItems]
      exact Rel.pure ⟨rfl, fun _ => trivial⟩
  | .list inner :: rest, settled => by
      have others := quasiquoteItems writable rest fun clean => (settled clean).2
      rw [Evaluator.quasiquoteItems, Evaluator.quasiquoteItems]
      split
      next spliced found =>
        have inside := fun clean => marked_settled found (settled clean).1
        apply (aligned.eval inside writable).bindBoth
        intro v holds
        refine Rel.bindBoth (Rel.ofExcept fun clean => Value.asSeq_settled (holds clean))
          fun values first => others.bindBoth fun more second => Rel.pure ⟨rfl, fun clean => ?_⟩
        exact Value.allSettled_append.2 ⟨first clean, second clean⟩
      next =>
        refine (quasiquote writable (.list inner) fun clean => (settled clean).1).bindBoth
          fun v holds => others.bindBoth fun more second => ?_
        exact Rel.pure ⟨rfl, fun clean => ⟨holds clean, second clean⟩⟩
  | .number x :: rest, settled | .big x :: rest, settled | .text x :: rest, settled
  | .boolean x :: rest, settled | .keyword x :: rest, settled | .symbol x :: rest, settled
  | .table x :: rest, settled | .literal x :: rest, settled | .vector x :: rest, settled => by
      have others := quasiquoteItems writable rest fun clean => (settled clean).2
      rw [Evaluator.quasiquoteItems, Evaluator.quasiquoteItems]
      · refine (quasiquote writable _ fun clean => (settled clean).1).bindBoth
          fun v holds => others.bindBoth fun more second => ?_
        exact Rel.pure ⟨rfl, fun clean => ⟨holds clean, second clean⟩⟩
      all_goals simp

end

/-! ### Definitions and evaluation -/

section

variable (writable : c.writable scope)
include writable

/-- A definition binds the same settled value. -/
theorem define {name value : Form} (settled : c.clean → value.Settled) :
    c.Rel (c.Both Value.Settled) (ev.define name value scope) (ev'.define name value scope) := by
  apply (Rel.symbolArg "def" name).bindEq
  intro symbol
  apply (aligned.eval settled writable).bindBoth
  intro v holds
  exact (Rel.setVariable writable holds).bindEq fun _ => Rel.pure ⟨rfl, holds⟩

/-- The last argument is spread, and the call is in a tail position. -/
theorem applyForm (tails : c.TailRules ev ev' T) {f : Form} {args : List Form}
    (settled : c.clean → f.Settled) (settledArgs : c.clean → Form.AllSettled args) :
    T (ev.applyForm f args scope) (ev'.applyForm f args scope) := by
  apply tails.bindBoth (aligned.eval settled writable)
  intro g settledG
  apply tails.bindBoth (aligned.evalAll settledArgs writable)
  intro values holds
  have last := fun clean => Value.asSeq_settled (Value.getLast?_settled (holds clean))
  apply tails.bindBoth (Rel.ofExcept last)
  intro more settledMore
  refine aligned.callTail writable g tails settledG (literals_settled fun clean => ?_)
  exact Value.allSettled_append.2
    ⟨(holds clean).of_subset fun v member => List.dropLast_subset _ member, settledMore clean⟩

omit writable in
/-- A macro call is expanded with its arguments unevaluated. -/
theorem expandForm {v : Value} (settled : c.clean → v.Settled) :
    c.Rel (c.Both Value.Settled) (ev.expandForm v scope) (ev'.expandForm v scope) := by
  unfold Evaluator.expandForm
  split
  next head args =>
    refine Rel.bindBoth (P := fun found => ∀ v, found = some v → v.Settled)
      (Rel.look fun s t states => ?_) fun found holds => ?_
    · exact ⟨by rw [states.scopes], fun clean v =>
        Scopes.find?_settled (states.settled clean).scopes⟩
    · split
      next k =>
        exact aligned.expandMacro (fun clean => holds clean _ rfl)
          fun clean => Value.toCodeAll_settled (settled clean).2
      next => exact Rel.pure ⟨rfl, settled⟩
  next => exact Rel.pure ⟨rfl, settled⟩

omit writable in
/-- What a handler is given is the text of the error, which is the same for corresponding errors. -/
theorem recover {parts : Evaluator.Attempt} (settled : c.clean → AttemptSettled parts)
    {first first' : Except Error Value} (firsts : c.Result (c.Both Value.Settled) first first') :
    c.Rel (c.Result (c.Both Value.Settled)) (ev.recover parts first scope)
      (ev'.recover parts first' scope) := by
  unfold Evaluator.recover
  cases first with
  | ok v =>
      cases first' with
      | ok v' => exact Rel.pure firsts
      | error f => exact firsts.elim
  | error e =>
      cases first' with
      | ok v' => exact firsts.elim
      | error f =>
          cases clause : parts.handler with
          | none => exact Rel.pure firsts
          | some handler =>
              have inside := fun clean => (settled clean).handler _ _ clause
              apply Rel.inNewScope scope
              intro inner writableInner
              rw [c.error_caughtText firsts]
              have bound : c.clean → (Value.text f.caughtText).Settled := fun _ => trivial
              apply (Rel.setVariable writableInner bound).bindEq
              intro _
              exact (aligned.runBody inside writableInner).reify

/-- What cleans up is run for its effects. -/
theorem cleanUp {parts : Evaluator.Attempt} (settled : c.clean → AttemptSettled parts) :
    c.Rel Eq (ev.cleanUp parts scope) (ev'.cleanUp parts scope) := by
  unfold Evaluator.cleanUp
  split
  next cleanup clause =>
    exact (aligned.runBody (fun clean => (settled clean).cleanup _ clause) writable).discard
  next => exact Rel.pure rfl

/-- The body is run to a result, then a handler if it fails, and last what cleans up. -/
theorem runAttempt {parts : Evaluator.Attempt} (settled : c.clean → AttemptSettled parts) :
    c.Rel (c.Both Value.Settled) (ev.runAttempt parts scope) (ev'.runAttempt parts scope) := by
  have body := (aligned.runBody (fun clean => (settled clean).body) writable).reify
  apply body.bind
  intro first first' firsts
  apply (aligned.recover settled firsts).bind
  intro result result' results
  exact (aligned.cleanUp writable settled).bindEq fun _ => Rel.ofResult results

/-! ### Conditions and loops -/

/-- The last form of `and` and `or` is in a tail position, the others are evaluated. -/
theorem shortCircuit (tails : c.TailRules ev ev' T) {decisive : Bool} {empty : Value}
    {args : List Form} (settledEmpty : c.clean → empty.Settled)
    (settled : c.clean → Form.AllSettled args) :
    T (ev.shortCircuit decisive empty args scope) (ev'.shortCircuit decisive empty args scope) := by
  fun_induction Evaluator.shortCircuit ev decisive empty args scope with
  | case1 =>
      rw [Evaluator.shortCircuit]
      exact tails.pure settledEmpty
  | case2 last =>
      rw [Evaluator.shortCircuit]
      exact tails.evalTail (fun clean => (settled clean).1) writable
  | case3 form rest more ih =>
      rw [Evaluator.shortCircuit]
      · refine tails.bindBoth (aligned.eval (fun clean => (settled clean).1) writable) ?_
        intro v holds
        split
        · exact tails.pure holds
        · exact ih fun clean => (settled clean).2
      · exact more

/-- The branch that is taken is in a tail position, the tests are evaluated. -/
theorem branches (tails : c.TailRules ev ev' T) {args : List Form}
    (settled : c.clean → Form.AllSettled args) :
    T (ev.branches args scope) (ev'.branches args scope) := by
  fun_induction Evaluator.branches ev args scope with
  | case1 test branch rest always =>
      rw [Evaluator.branches, if_pos always]
      exact tails.evalTail (fun clean => (settled clean).2.1) writable
  | case2 test branch rest sometimes ih =>
      rw [Evaluator.branches, if_neg sometimes]
      refine tails.bindBoth (aligned.eval (fun clean => (settled clean).1) writable) ?_
      intro v holds
      split
      · exact tails.evalTail (fun clean => (settled clean).2.1) writable
      · exact ih fun clean => (settled clean).2.2
  | case3 args odd =>
      rw [Evaluator.branches]
      · exact tails.pure fun _ => trivial
      · exact odd

/-- Forms that are run for their effects answer nothing. -/
theorem runAll {forms : List Form} (settled : c.clean → Form.AllSettled forms) :
    c.Rel Eq (ev.runAll forms scope) (ev'.runAll forms scope) := by
  refine Rel.fold (X := Eq) ?_ (fun _ _ same => same) () () rfl
  intro form member _ _ _
  have inside := fun clean => Form.allSettled_iff.1 (settled clean) form member
  exact (aligned.eval inside writable).discard.bindEq fun _ => Rel.pure (Eq.refl ())

/-- Every round of a loop evaluates the test and then the body. -/
theorem whileLoop {test : Form} {body : List Form} (settled : c.clean → test.Settled)
    (settledBody : c.clean → Form.AllSettled body) :
    c.Rel (c.Both Value.Settled) (ev.whileLoop test body scope)
      (ev'.whileLoop test body scope) := by
  refine Rel.iterate (X := Eq) ?_ aligned.steps () () rfl
  intro _ _ _
  apply Rel.yieldTurn.bindEq
  intro _
  apply (aligned.eval settled writable).bindBoth
  intro v _
  split
  · exact (aligned.runAll writable settledBody).bindEq fun _ => Rel.pure (Eq.refl ())
  · exact Rel.pure ⟨rfl, fun _ => trivial⟩

/-- Every round of a counting loop runs in a scope of its own. -/
theorem countingLoop {binding : Form} {body : List Form} (settled : c.clean → binding.Settled)
    (settledBody : c.clean → Form.AllSettled body) :
    c.Rel (c.Both Value.Settled) (ev.countingLoop binding body scope)
      (ev'.countingLoop binding body scope) := by
  apply (Rel.readCounter settled).bindBoth
  intro parts holds
  obtain ⟨name, count⟩ := parts
  apply (aligned.eval holds writable).bindBoth
  intro v _
  apply Rel.bindEq (Rel.ofExceptEq v.asInt)
  intro n
  refine Rel.iterate (X := Eq) ?_ aligned.steps 0 0 rfl
  intro i j same
  subst same
  split
  · exact Rel.pure ⟨rfl, fun _ => trivial⟩
  · apply Rel.inNewScope scope
    intro inner writableInner
    have bound : c.clean → (Value.number (Number.ofNat i)).Settled := fun _ => trivial
    apply (Rel.setVariable writableInner bound).bindEq
    intro _
    exact (aligned.runAll writableInner settledBody).bindEq fun _ => Rel.pure (Eq.refl (i + 1))

/-! ### Local bindings and modules -/

/-- Local bindings are made one after the other, each in the scope of those before. -/
theorem bindPairs {pairs : List Form} (settled : c.clean → Form.AllSettled pairs) :
    c.Rel Eq (ev.bindPairs pairs scope) (ev'.bindPairs pairs scope) := by
  fun_induction Evaluator.bindPairs ev pairs scope with
  | case1 name value rest none =>
      rw [Evaluator.bindPairs, none]
      exact (Rel.formText name).bindEq fun text => Rel.failSame _
  | case2 name value rest symbol found ih =>
      rw [Evaluator.bindPairs, found]
      apply (aligned.eval (fun clean => (settled clean).2.1) writable).bindBoth
      intro v holds
      exact (Rel.setVariable writable holds).bindEq fun _ => ih fun clean => (settled clean).2.2
  | case3 pairs short =>
      rw [Evaluator.bindPairs]
      · exact Rel.pure rfl
      · exact short

omit writable in
/-- The body of a `let` is in a tail position, in a new scope. -/
theorem letForm (tails : c.TailRules ev ev' T) {bindings : Form} {body : List Form}
    (settled : c.clean → bindings.Settled) (settledBody : c.clean → Form.AllSettled body) :
    T (ev.letForm bindings body scope) (ev'.letForm bindings body scope) := by
  apply tails.bindBoth (Rel.readBindings settled)
  intro pairs holds
  apply tails.inNewScope scope
  intro inner writableInner
  apply tails.bindEq (aligned.bindPairs writableInner holds)
  intro _
  exact aligned.evalBody tails settledBody writableInner

/-- The body of a module runs in a scope of its own, and its members are settled. -/
theorem moduleForm {name : Form} {body : List Form} (settled : c.clean → Form.AllSettled body) :
    c.Rel (c.Both Value.Settled) (ev.moduleForm name body scope)
      (ev'.moduleForm name body scope) := by
  apply (Rel.moduleSymbol "module" name).bindEq
  intro symbol
  split
  · exact Rel.failSame _
  · apply Rel.inNewScope scope
    intro inner writableInner
    apply (aligned.runAll writableInner settled).bindEq
    intro _
    refine Rel.bindBoth (P := Yields Value.EntriesSettled)
      (Rel.look fun s t states => ?_) fun members holds => ?_
    · exact ⟨by rw [states.scopes], fun clean =>
        moduleMembers_settled (states.settled clean).scopes _⟩
    · apply Rel.bindBoth (Rel.ofExcept holds)
      intro entries settledEntries
      exact (Rel.defineModule writable settledEntries).bindEq fun _ =>
        Rel.pure ⟨rfl, fun _ => trivial⟩

/-! ### Special forms -/

/-- Special forms correspond. The case split is that of the definition: a form with a number of
    arguments that it cannot take fails. -/
theorem runForm (tails : c.TailRules ev ev' T) {f : SpecialForm} {args : List Form}
    (settled : c.clean → Form.AllSettled args) :
    T (ev.runForm f args scope) (ev'.runForm f args scope) := by
  apply tails.bindEq (Rel.ofExceptEq _)
  intro _
  split
  case h_1 x => exact tails.ofRel (Rel.quote fun clean => (settled clean).1)
  case h_2 x => exact tails.ofRel (aligned.quasiquote writable x fun clean => (settled clean).1)
  case h_3 name value =>
      exact tails.ofRel (aligned.define writable fun clean => (settled clean).2.1)
  case h_4 first rest => exact tails.ofRel (Rel.makeFunction fun clean => (settled clean).2)
  case h_5 name parts =>
      exact tails.ofRel (Rel.defineNamed (fun _ holds => holds) writable
        fun clean => (settled clean).2)
  case h_6 name parts =>
      exact tails.ofRel (Rel.defineNamed (fun _ holds => holds) writable
        fun clean => (settled clean).2)
  case h_7 => exact aligned.evalBody tails settled writable
  case h_8 x =>
      refine tails.bindBoth (aligned.eval (fun clean => (settled clean).1) writable) ?_
      exact fun v holds =>
        tails.evalTail (fun clean => Value.toCode_settled (holds clean)) writable
  case h_9 g rest =>
      exact aligned.applyForm writable tails (fun clean => (settled clean).1)
        fun clean => (settled clean).2
  case h_10 x =>
      refine tails.bindBoth (aligned.eval (fun clean => (settled clean).1) writable) ?_
      exact fun v holds => tails.ofRel (aligned.expandForm holds)
  case h_11 =>
      apply tails.bindBoth (Rel.readAttempt settled)
      intro parts holds
      exact tails.ofRel (aligned.runAttempt writable holds)
  case h_12 => exact aligned.shortCircuit writable tails (fun _ => trivial) settled
  case h_13 => exact aligned.shortCircuit writable tails (fun _ => trivial) settled
  case h_14 test branch rest =>
      apply tails.bindBoth (aligned.eval (fun clean => (settled clean).1) writable)
      intro v _
      split
      · exact tails.evalTail (fun clean => (settled clean).2.1) writable
      · split
        · exact tails.evalTail (fun clean => (settled clean).2.2.1) writable
        · exact tails.pure fun _ => trivial
  case h_15 test body =>
      apply tails.bindBoth (aligned.eval (fun clean => (settled clean).1) writable)
      intro v _
      split
      · exact aligned.evalBody tails (fun clean => (settled clean).2) writable
      · exact tails.pure fun _ => trivial
  case h_16 test body =>
      apply tails.bindBoth (aligned.eval (fun clean => (settled clean).1) writable)
      intro v _
      split
      · exact tails.pure fun _ => trivial
      · exact aligned.evalBody tails (fun clean => (settled clean).2) writable
  case h_17 =>
      split
      · exact aligned.branches writable tails settled
      · exact tails.fail _
  case h_18 test body =>
      exact tails.ofRel (aligned.whileLoop writable (fun clean => (settled clean).1)
        fun clean => (settled clean).2)
  case h_19 binding body =>
      exact tails.ofRel (aligned.countingLoop writable (fun clean => (settled clean).1)
        fun clean => (settled clean).2)
  case h_20 bindings body =>
      exact aligned.letForm tails (fun clean => (settled clean).1) fun clean => (settled clean).2
  case h_21 name body =>
      exact tails.ofRel (aligned.moduleForm writable fun clean => (settled clean).2)
  case h_22 => exact tails.ofRel (Rel.exportForm writable args)
  case h_23 =>
      apply tails.bindEq (Rel.spawn writable settled aligned.settings)
      intro future
      exact tails.pure fun _ => trivial
  case h_24 => exact tails.fail _

end

end Aligned

end PluginLisp.Correspondence
