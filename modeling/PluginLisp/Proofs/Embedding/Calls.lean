import PluginLisp.Proofs.Embedding.Builtins
import PluginLisp.Proofs.Embedding.Machine
import PluginLisp.Proofs.Evaluation.Steps

/-!
Evaluators that are indifferent to which decimals are embedded in code. If an evaluator performs smaller
work alike wherever the embedded work is the same, it evaluates forms, makes closures and calls values
alike. Where a function takes its argument apart, the proof compares an argument with its embedding,
which has the same parts; the general case follows because being alike is an equivalence.

Main results: `Evaluator.Indifferent.callTail`, `Evaluator.Indifferent.applyValues`.
-/

namespace PluginLisp

open Machine

/-- Embeds the decimals in the code of work. -/
def Work.embed : Work → Work
  | .eval form scope => .eval form.embed scope
  | .builtin b args scope => .builtin b (args.map Form.embed) scope
  | .enter c args => .enter c.embed (args.map Value.embed)

/-- The evaluator performs smaller work alike wherever the embedded work is the same. -/
def Evaluator.Indifferent (ev : Evaluator) : Prop :=
  ∀ w w', w.embed = w'.embed → Alike Value.embed (ev.perform w) (ev.perform w')

/-! ### Parts that need no evaluator -/

namespace Machine.Alike

/-- A member of a module has alike values. -/
theorem resolveMember (name : String) (scope : Nat) :
    Alike Value.embed (Evaluator.resolveMember name scope) (Evaluator.resolveMember name scope) := by
  unfold Evaluator.resolveMember
  split
  next moduleName member _ =>
    split
    · exact fail _
    · refine bindOption (findModule scope moduleName) (fail _) fun m m' same => ?_
      have members : (Assoc.get? member m.members).map Value.embed =
          (Assoc.get? member m'.members).map Value.embed := by
        rw [← Assoc.get?_mapValues, ← Assoc.get?_mapValues]
        exact congrArg (fun m => Assoc.get? member m.members) same
      dsimp only
      generalize Assoc.get? member m.members = left, Assoc.get? member m'.members = right at members
      cases left with
      | none => cases right with
          | none => exact fail _
          | some w => cases members
      | some v => cases right with
          | none => cases members
          | some w => exact pure (Option.some.inj members)
  · exact fail _

theorem paramNames (form : String) (items : List Form) :
    Alike id (Evaluator.paramNames form items) (Evaluator.paramNames form (items.map Form.embed)) := by
  induction items with
  | nil => exact pure rfl
  | cons item rest ih =>
      rw [List.map_cons, Evaluator.paramNames, Evaluator.paramNames, Form.symbol?_embed]
      cases item.symbol? with
      | some name => exact ih.bindSame fun names => pure rfl
      | none => exact (formText item).bindSame fun text => fail _

/-- A list of parameters is read alike, or refused alike. -/
theorem readParams (form : String) (params : Form) :
    Alike id (Evaluator.readParams form params) (Evaluator.readParams form params.embed) := by
  cases params with
  | list items | vector items =>
      rw [Form.embed, Evaluator.readParams, Evaluator.readParams, Form.embedAll_eq_map]
      refine (paramNames form items).bindSame fun names => ?_
      split
      · exact pure rfl
      · exact fail _
  | big digits =>
      rw [Form.embed]
      rcases embedDecimal_cases digits with same | ⟨d, -, -, same⟩ <;> rw [same] <;> exact fail _
  | literal v => simpa [Evaluator.readParams, Form.kindName] using fail _
  | _ => exact fail _

/-- Closures made in alike states get the same identity. -/
theorem makeClosure (form : String) (name : Option String) (params : Form) (body : List Form)
    (scope : Nat) :
    Alike Closure.embed (Evaluator.makeClosure form name params body scope)
      (Evaluator.makeClosure form name params.embed (body.map Form.embed) scope) := by
  refine (readParams form params).bindSame fun parts => update fun s t states => ⟨?_, ?_⟩
  · have closures : s.closures = t.closures := states.same fun _ => rfl
    simp [Closure.embed, closures, Function.comp_def]
  · exact states.map (k := fun s => { s with closures := s.closures + 1 }) fun _ => rfl

end Machine.Alike

/-! ### Evaluation -/

namespace Evaluator.Indifferent

variable {ev : Evaluator} (indifferent : ev.Indifferent) {scope : Nat}
include indifferent

/-- Forms that are alike are evaluated alike in a tail position. -/
theorem evalTail {form form' : Form} (same : form.embed = form'.embed) :
    Alike Value.embed (ev.evalTail form scope) (ev.evalTail form' scope) :=
  indifferent _ _ (congrArg (Work.eval · scope) same)

/-- A closure and its embedding are entered alike, when the call is performed. -/
theorem enterClosure (c : Closure) {args args' : List Value}
    (same : args.map Value.embed = args'.map Value.embed) :
    Alike Value.embed (ev.perform (.enter c args)) (ev.perform (.enter c.embed args')) := by
  apply indifferent
  rw [Work.embed, Work.embed, Closure.embed_embed, same]

/-- A builtin acts alike on forms that are alike, when the call is performed. -/
theorem performBuiltin (b : Builtin) {args args' : List Form}
    (same : args.map Form.embed = args'.map Form.embed) :
    Alike Value.embed (ev.perform (.builtin b args scope)) (ev.perform (.builtin b args' scope)) :=
  indifferent _ _ (congrArg (Work.builtin b · scope) same)

/-- Makes a call that is left alike. -/
theorem forceRound (v : Value) :
    Alike (Alike.mapRound Value.embed Value.embed) (ev.forceRound v) (ev.forceRound v.embed) := by
  cases v with
  | pending c args =>
      have same : args.map Value.embed = (Value.embedAll args).map Value.embed := by simp
      rw [Value.embed, Evaluator.forceRound, Evaluator.forceRound]
      refine Alike.yieldTurn.bindSame fun _ => (indifferent.enterClosure c same).bind fun v w same => ?_
      exact Alike.pure (congrArg Round.again same)
  | _ => exact Alike.pure (congrArg Round.stop (Value.embed_embed _).symm)

/-- Alike pending calls are made alike, until there is a value. -/
theorem force {v w : Value} (same : v.embed = w.embed) :
    Alike Value.embed (ev.force v) (ev.force w) :=
  Alike.iterate (fun _ _ same => Alike.of_embed indifferent.forceRound same) ev.steps v w same

/-- Forms that are alike are evaluated alike. -/
theorem eval {form form' : Form} (same : form.embed = form'.embed) :
    Alike Value.embed (ev.eval form scope) (ev.eval form' scope) :=
  (indifferent.evalTail same).bind fun _ _ same => indifferent.force same

/-- A body and its embedding are evaluated alike, up to the last form. -/
theorem evalBody {body body' : List Form} (same : body.map Form.embed = body'.map Form.embed) :
    Alike Value.embed (ev.evalBody body scope) (ev.evalBody body' scope) := by
  refine Alike.of_embed (e := List.map Form.embed) (F := fun body => ev.evalBody body scope)
    (fun body => ?_) same
  fun_induction Evaluator.evalBody ev body scope with
  | case1 => exact Alike.pure rfl
  | case2 last => exact indifferent.evalTail (Form.embed_embed last).symm
  | case3 form rest more ih =>
      rw [List.map_cons, Evaluator.evalBody]
      · exact (indifferent.eval (Form.embed_embed form).symm).discard.bindSame fun _ => ih
      · simpa using more

theorem runBody {body body' : List Form} (same : body.map Form.embed = body'.map Form.embed) :
    Alike Value.embed (ev.runBody body scope) (ev.runBody body' scope) :=
  (indifferent.evalBody same).bind fun _ _ same => indifferent.force same

/-- Arguments that are alike are evaluated to alike values. -/
theorem evalAll {forms forms' : List Form} (same : forms.map Form.embed = forms'.map Form.embed) :
    Alike (List.map Value.embed) (ev.evalAll forms scope) (ev.evalAll forms' scope) :=
  Alike.collect (fun _ _ same => indifferent.eval same) same

omit indifferent in
/-- The frame on an error is the same text. -/
theorem inFrame {α : Type} {f : Value → α} {m m' : Machine Value} {frame frame' : State → CallFrame}
    (alike : Alike f m m') (same : ∀ s t, s.Alike t → frame s = frame' t) :
    Alike f (ev.inFrame frame m) (ev.inFrame frame' m') := by
  unfold Evaluator.inFrame
  split
  · exact alike.decorate fun s t states => by rw [same s t states]
  · exact alike

omit indifferent in
theorem entryText (c : Closure) {args args' : List Value}
    (same : args.map Value.embed = args'.map Value.embed) :
    Alike id (ev.entryText c args) (ev.entryText c.embed args') := by
  unfold Evaluator.entryText
  split
  · apply Alike.look
    intro s t states
    rw [callText, callText, Closure.displayName_embed, states.same State.cells_embed,
      Value.map_show_embed _ same]
  · exact Alike.pure rfl

/-- A closure and its embedding run their bodies alike. -/
theorem enter (c : Closure) {args args' : List Value}
    (same : args.map Value.embed = args'.map Value.embed) :
    Alike Value.embed (ev.enter c args) (ev.enter c.embed args') := by
  unfold Evaluator.enter
  rw [Closure.scope_embed, Closure.displayName_embed, Closure.body_embed]
  refine (Alike.newScope c.scope).bindSame fun frame => (entryText c same).bindSame fun form => ?_
  refine inFrame ((Alike.bindParams c frame same).bindSame fun _ => ?_) fun _ _ _ => rfl
  exact indifferent.evalBody (by simp)

/-- A closure and its embedding take the same number of arguments. -/
theorem callClosure (c : Closure) {args args' : List Value}
    (same : args.map Value.embed = args'.map Value.embed) :
    Alike Value.embed (ev.callClosure c args) (ev.callClosure c.embed args') := by
  have count : args.length = args'.length := by simpa using congrArg List.length same
  unfold Evaluator.callClosure
  rw [Closure.accepts_embed, Closure.arityError, Closure.arityError, Closure.displayName_embed,
    Closure.arityText_embed, count]
  split
  · split
    · exact Alike.pure (by simp [same])
    · exact Alike.yieldTurn.bindSame fun _ => indifferent.enterClosure c same
  · exact Alike.fail _

omit indifferent in
theorem registry : Alike id ev.registry ev.registry :=
  Alike.lookNatural (h := fun s => s.registry ev.settings.manager) fun _ => rfl

omit indifferent in
/-- A name is resolved alike. -/
theorem resolve (name : String) :
    Alike Value.embed (ev.resolve name scope) (ev.resolve name scope) := by
  unfold Evaluator.resolve
  split
  · exact Alike.resolveMember name scope
  · refine registry.bindSame fun registry => ?_
    split
    · exact Alike.pure rfl
    · split
      · exact Alike.pure rfl
      · refine Alike.bindOption (Alike.findVariable scope name) (Alike.fail _) ?_
        exact fun v w same => Alike.pure same

/-! ### Calls -/

/-- A macro and its embedding expand alike. -/
theorem expandMacro (c : Closure) {args args' : List Form}
    (same : args.map Form.embed = args'.map Form.embed) :
    Alike Value.embed (ev.expandMacro c args) (ev.expandMacro c.embed args') := by
  unfold Evaluator.expandMacro
  rw [Closure.scope_embed, Closure.body_embed]
  have quoted : (Form.quoteAll args).map (List.map Value.embed) =
      (Form.quoteAll args').map (List.map Value.embed) := by
    simpa using Form.quoteAll_same same
  refine (Alike.ofExcept quoted).bind fun values values' sameValues => ?_
  refine (Alike.newScope c.scope).bindSame fun frame => ?_
  refine (Alike.bindParams c frame sameValues).bindSame fun _ => ?_
  exact indifferent.runBody (by simp)

/-- Macros that are alike expand alike. -/
theorem expandMacro_same {c d : Closure} (sameClosure : c.embed = d.embed) {args args' : List Form}
    (same : args.map Form.embed = args'.map Form.embed) :
    Alike Value.embed (ev.expandMacro c args) (ev.expandMacro d args') := by
  have there := indifferent.expandMacro c same
  rw [sameClosure] at there
  exact there.trans (indifferent.expandMacro d rfl).symm

omit indifferent in
/-- Alike values make alike literals. -/
theorem literals_same {values values' : List Value}
    (same : values.map Value.embed = values'.map Value.embed) :
    (Evaluator.literals values).map Form.embed = (Evaluator.literals values').map Form.embed := by
  have mapped := congrArg (List.map Form.literal) same
  simpa [Evaluator.literals, Function.comp_def] using mapped

/-- Computations stay alike when their pending calls are made. -/
theorem forced {m m' : Machine Value} (alike : Alike Value.embed m m') :
    Alike Value.embed (m >>= ev.force) (m' >>= ev.force) :=
  alike.bind fun _ _ same => indifferent.force same

mutual

/-- Calls of a value and of its embedding. -/
theorem callTail_embed : ∀ (f : Value) {args args' : List Form},
    args.map Form.embed = args'.map Form.embed →
      Alike Value.embed (ev.callTail f args scope) (ev.callTail f.embed args' scope)
  | .function c, args, args', same => by
      rw [Value.embed, Evaluator.callTail, Evaluator.callTail]
      exact (indifferent.evalAll same).bind fun _ _ values => indifferent.callClosure c values
  | .builtin name, args, args', same => by
      rw [Value.embed, Evaluator.callTail, Evaluator.callTail]
      refine registry.bindSame fun registry => ?_
      cases registry.get? name with
      | some d => exact indifferent.performBuiltin d.builtin same
      | none => exact Alike.fail _
  | .operator symbol, args, args', same => by
      rw [Value.embed, Evaluator.callTail, Evaluator.callTail]
      refine (indifferent.evalAll same).bind fun values values' sameValues => ?_
      have applied : (applyOperator symbol values).map Value.embed =
          (applyOperator symbol values').map Value.embed := by
        rw [← applyOperator_embed, ← applyOperator_embed, sameValues]
      exact Alike.ofExcept applied
  | .partialCall g bound, args, args', same => by
      rw [Value.embed, Evaluator.callTail, Evaluator.callTail]
      refine (indifferent.evalAll same).bind fun values values' sameValues => ?_
      apply callTail_embed g
      have here := literals_same sameValues
      have bounds : (Evaluator.literals bound).map Form.embed =
          (Evaluator.literals (Value.embedAll bound)).map Form.embed := literals_same (by simp)
      rw [List.map_append, List.map_append, here, bounds]
  | .complement g, args, args', same => by
      rw [Value.embed, Evaluator.callTail, Evaluator.callTail]
      have inner := indifferent.forced (callTail_embed g same)
      rw [← Machine.bind_assoc, ← Machine.bind_assoc]
      refine inner.bind fun v w found => Alike.pure ?_
      rw [← Value.isTruthy_embed v, found, Value.isTruthy_embed]
  | .juxt fs, args, args', same => by
      rw [Value.embed, Evaluator.callTail, Evaluator.callTail]
      refine (indifferent.evalAll same).bind fun values values' sameValues => ?_
      refine (callEach_embed fs (literals_same sameValues)).bind fun results results' found => ?_
      exact Alike.pure (by simp [found])
  | .comp [], args, args', same => by
      rw [Value.embed, Value.embedAll, Evaluator.callTail]
      refine (indifferent.evalAll same).bind fun values values' sameValues => ?_
      rcases values with _ | ⟨v, _ | ⟨v₂, rest⟩⟩
      all_goals rcases values' with _ | ⟨w, _ | ⟨w₂, rest'⟩⟩
      all_goals simp only [List.map_nil, List.map_cons, List.cons.injEq, reduceCtorEq, and_false]
        at sameValues
      · exact Alike.fail _
      · exact Alike.pure sameValues.1
      · have count : rest.length = rest'.length := by
          simpa using congrArg List.length sameValues.2.2
        simp only [List.length_cons, count]
        exact Alike.fail _
  | .comp [g], args, args', same => by
      rw [Value.embed, Value.embedAll, Value.embedAll, Evaluator.callTail, Evaluator.callTail]
      exact indifferent.forced (callTail_embed g same)
  | .comp (g :: h :: rest), args, args', same => by
      have unfolded (g h : Value) (rest : List Value) (args : List Form) :
          ev.callTail (.comp (g :: h :: rest)) args scope =
            ev.callChain (h :: rest) args scope >>= fun v =>
              ev.callTail g [.literal v] scope := by
        rw [Evaluator.callTail]
        simp
      rw [Value.embed, Value.embedAll, Value.embedAll, unfolded, unfolded]
      refine (callChain_embed (h :: rest) same).bind fun v w found => ?_
      exact callTail_embed g (by simp [found])
  | .transformer c, args, args', same => by
      rw [Value.embed, Evaluator.callTail, Evaluator.callTail]
      refine (indifferent.expandMacro c same).bind fun v w found => indifferent.evalTail ?_
      rw [← Value.toCode_embed, found, Value.toCode_embed]
  | .nil, args, args', _ | .boolean _, args, args', _ | .number _, args, args', _
  | .decimal _, args, args', _ | .text _, args, args', _ | .keyword _, args, args', _
  | .symbol _, args, args', _ | .list _, args, args', _ | .vector _, args, args', _
  | .map _, args, args', _ | .atom _, args, args', _ | .channel _, args, args', _
  | .future _, args, args', _ | .waitGroup _, args, args', _ | .pending _ _, args, args', _ => by
      rw [Value.embed, Evaluator.callTail, Evaluator.callTail]
      · exact Alike.fail _
      all_goals simp

/-- Functions called on the same arguments give alike values. -/
theorem callEach_embed : ∀ (fs : List Value) {args args' : List Form},
    args.map Form.embed = args'.map Form.embed →
      Alike (List.map Value.embed) (ev.callEach fs args scope)
        (ev.callEach (Value.embedAll fs) args' scope)
  | [], args, args', same => by
      rw [Value.embedAll, Evaluator.callEach, Evaluator.callEach]
      exact Alike.pure rfl
  | f :: rest, args, args', same => by
      rw [Value.embedAll, Evaluator.callEach, Evaluator.callEach]
      have first := indifferent.forced (callTail_embed f same)
      rw [← Machine.bind_assoc, ← Machine.bind_assoc]
      refine first.bind fun v w found => (callEach_embed rest same).bind fun vs ws others => ?_
      exact Alike.pure (by simp [found, others])

/-- A chain of functions passes alike values on. -/
theorem callChain_embed : ∀ (fs : List Value) {args args' : List Form},
    args.map Form.embed = args'.map Form.embed →
      Alike Value.embed (ev.callChain fs args scope)
        (ev.callChain (Value.embedAll fs) args' scope)
  | [], args, args', same => by
      rw [Value.embedAll, Evaluator.callChain, Evaluator.callChain]
      exact Alike.pure rfl
  | [f], args, args', same => by
      rw [Value.embedAll, Value.embedAll, Evaluator.callChain, Evaluator.callChain]
      exact indifferent.forced (callTail_embed f same)
  | f :: g :: rest, args, args', same => by
      have unfolded (f g : Value) (rest : List Value) (args : List Form) :
          ev.callChain (f :: g :: rest) args scope =
            ev.callChain (g :: rest) args scope >>= fun v =>
              ev.callTail f [.literal v] scope >>= ev.force := by
        rw [Evaluator.callChain]
        simp
      rw [Value.embedAll, Value.embedAll, unfolded, unfolded]
      refine (callChain_embed (g :: rest) same).bind fun v w found => ?_
      exact indifferent.forced (callTail_embed f (by simp [found]))

end

/-- Functions that are alike are called alike. -/
theorem callTail {f g : Value} {args args' : List Form} (sameCallee : f.embed = g.embed)
    (same : args.map Form.embed = args'.map Form.embed) :
    Alike Value.embed (ev.callTail f args scope) (ev.callTail g args' scope) := by
  have there : Alike Value.embed (ev.callTail f args scope) (ev.callTail f.embed args' scope) :=
    indifferent.callTail_embed f same
  rw [sameCallee] at there
  exact there.trans (indifferent.callTail_embed g rfl).symm

/-- Functions that are alike give alike results for alike values. -/
theorem applyValues {f g : Value} {args args' : List Value} (sameCallee : f.embed = g.embed)
    (same : args.map Value.embed = args'.map Value.embed) :
    Alike Value.embed (ev.applyValues f args scope) (ev.applyValues g args' scope) :=
  indifferent.forced (indifferent.callTail sameCallee (literals_same same))

end Evaluator.Indifferent

end PluginLisp
