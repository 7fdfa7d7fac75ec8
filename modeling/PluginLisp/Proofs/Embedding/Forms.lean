import PluginLisp.Proofs.Embedding.Calls

/-!
Indifferent evaluators run special forms alike. The constructs take their arguments apart by their
shape: a symbol, a list, a vector, a text or a keyword. Embedding keeps these shapes, and a decimal has
none of them before or after.

Main result: `Evaluator.Indifferent.runForm`.
-/

namespace PluginLisp

open Machine

/-! ### Parts that need no evaluator -/

namespace Machine.Alike

/-- A symbol is recognized whether or not it is embedded. -/
theorem symbolArg (form : String) (f : Form) :
    Alike id (Evaluator.symbolArg form f) (Evaluator.symbolArg form f.embed) := by
  rw [Evaluator.symbolArg, Evaluator.symbolArg, Form.symbol?_embed]
  split
  · exact pure rfl
  · exact (formText f).bindSame fun text => fail _

/-- The two ways of writing a function are told apart alike. -/
theorem makeFunction (first : Form) (rest : List Form) (scope : Nat) :
    Alike Value.embed (Evaluator.makeFunction first rest scope)
      (Evaluator.makeFunction first.embed (rest.map Form.embed) scope) := by
  have anonymous :
      Alike Value.embed (Evaluator.makeClosure "fn" none first rest scope >>= fun c =>
        Pure.pure (Value.function c))
      (Evaluator.makeClosure "fn" none first.embed (rest.map Form.embed) scope >>= fun c =>
        Pure.pure (Value.function c)) :=
    (makeClosure "fn" none first rest scope).bind fun c d same => pure (by simp [same])
  cases first with
  | symbol name => cases rest with
      | nil => exact anonymous
      | cons params body =>
          exact (makeClosure "fn" (some name) params body scope).bind fun c d same =>
            pure (by simp [same])
  | big digits =>
      rw [Evaluator.makeFunction, Evaluator.makeFunction]
      · exact anonymous
      all_goals simp
  | _ => exact anonymous

end Machine.Alike

/-- An explanation is a text, which embedding leaves alone. -/
theorem skipExplanation_embed (parts : List Form) :
    Evaluator.skipExplanation (parts.map Form.embed) =
      (Evaluator.skipExplanation parts).map Form.embed := by
  rcases parts with _ | ⟨first, _ | ⟨params, body⟩⟩
  · rfl
  · simp [Evaluator.skipExplanation]
  · cases first with
    | text s => cases params with
        | list items | vector items => rfl
        | _ => simp [Evaluator.skipExplanation]
    | _ => simp [Evaluator.skipExplanation]

/-- A mark is a symbol, which embedding leaves alone. -/
theorem marked?_embed (mark : String) (items : List Form) :
    Evaluator.marked? mark (items.map Form.embed) =
      (Evaluator.marked? mark items).map Form.embed := by
  rcases items with _ | ⟨first, _ | ⟨inner, _ | ⟨more, rest⟩⟩⟩
  · rfl
  · simp [Evaluator.marked?]
  · cases first with
    | symbol name =>
        simp only [List.map_cons, List.map_nil, Form.embed, Evaluator.marked?]
        split <;> rfl
    | _ => simp [Evaluator.marked?]
  · simp [Evaluator.marked?]

@[simp] theorem isElse_embed (f : Form) : Evaluator.isElse f.embed = Evaluator.isElse f := by
  cases f <;> simp [Evaluator.isElse]

/-- A clause is found at the same place. -/
theorem splitClause_embed (symbol : String) (forms : List Form) :
    Evaluator.splitClause symbol (forms.map Form.embed) =
      ((Evaluator.splitClause symbol forms).1.map Form.embed,
        (Evaluator.splitClause symbol forms).2.map (List.map Form.embed)) := by
  unfold Evaluator.splitClause
  rw [List.getLast?_map]
  cases forms.getLast? with
  | none => rfl
  | some last => cases last with
      | list items => cases items with
          | nil => rfl
          | cons head items => cases head with
              | symbol name =>
                  simp only [Option.map_some, Form.embed, Form.embedAll_eq_map, List.map_cons,
                    ← List.map_dropLast]
                  split <;> rfl
              | _ => simp
      | _ => simp

/-- Embeds the decimals in the parts of a `try`. -/
def Evaluator.Attempt.embed (parts : Evaluator.Attempt) : Evaluator.Attempt :=
  ⟨parts.body.map Form.embed,
    parts.handler.map fun (name, handler) => (name, handler.map Form.embed),
    parts.cleanup.map (List.map Form.embed)⟩

/-- The members of a module are the embedded values of its names. -/
theorem moduleMembers_embed (moduleName : String) (scopes : Scopes) (scope : Nat)
    (names : List String) :
    Evaluator.moduleMembers moduleName (scopes.map Scope.embed) scope names =
      (Evaluator.moduleMembers moduleName scopes scope names).map (Assoc.mapValues Value.embed) := by
  induction names with
  | nil => rfl
  | cons name rest ih =>
      rw [Evaluator.moduleMembers, Evaluator.moduleMembers, Scopes.find?_embed]
      cases scopes.find? scope name with
      | none => rfl
      | some v =>
          simp only [Option.map_some, ih, bind_map, map_bind, map_pure, Assoc.put_mapValues]
          rfl

namespace Machine.Alike

/-- Defining a function or a macro binds alike closures. -/
theorem defineNamed (form : String) {make : Closure → Value}
    (made : ∀ c, (make c).embed = (make c.embed).embed) (name : Form) (parts : List Form)
    (scope : Nat) :
    Alike Value.embed (Evaluator.defineNamed form make name parts scope)
      (Evaluator.defineNamed form make name.embed (parts.map Form.embed) scope) := by
  refine (symbolArg form name).bindSame fun symbol => ?_
  rw [skipExplanation_embed]
  cases Evaluator.skipExplanation parts with
  | nil => exact pure rfl
  | cons params body =>
      refine (makeClosure form (some symbol) params body scope).bind fun c d same => ?_
      have sameMade : (make c).embed = (make d).embed := by rw [made c, same, ← made d]
      exact (setVariable scope symbol sameMade).bindSame fun _ => pure sameMade

/-- The parts of a `try` are found at the same places. -/
theorem readAttempt (args : List Form) :
    Alike Evaluator.Attempt.embed (Evaluator.readAttempt args)
      (Evaluator.readAttempt (args.map Form.embed)) := by
  unfold Evaluator.readAttempt
  rw [splitClause_embed]
  generalize Evaluator.splitClause "finally" args = divided
  obtain ⟨rest, cleanup⟩ := divided
  dsimp only
  rw [splitClause_embed]
  generalize Evaluator.splitClause "catch" rest = divided
  obtain ⟨body, clause⟩ := divided
  rcases clause with _ | (_ | ⟨target, handler⟩)
  · exact pure (by simp [Evaluator.Attempt.embed, Function.comp_def])
  · exact fail _
  · refine (symbolArg "catch" target).bindSame fun name => pure ?_
    simp [Evaluator.Attempt.embed, Function.comp_def]

/-- A counting loop has the same variable and an alike bound. -/
theorem readCounter (binding : Form) :
    Alike (Prod.map id Form.embed) (Evaluator.readCounter binding)
      (Evaluator.readCounter binding.embed) := by
  cases binding with
  | vector items =>
      rcases items with _ | ⟨first, _ | ⟨count, _ | ⟨more, rest⟩⟩⟩
      · exact fail _
      · simpa [Evaluator.readCounter] using fail _
      · cases first with
        | symbol name => exact pure (by simp)
        | _ => simpa [Evaluator.readCounter] using fail _
      · simpa [Evaluator.readCounter] using fail _
  | big digits =>
      rw [Form.embed]
      rcases embedDecimal_cases digits with same | ⟨d, -, -, same⟩ <;> rw [same] <;> exact fail _
  | literal v => simpa [Evaluator.readCounter, Form.kindName] using fail _
  | _ => exact fail _

theorem readBindings (bindings : Form) :
    Alike (List.map Form.embed) (Evaluator.readBindings bindings)
      (Evaluator.readBindings bindings.embed) := by
  cases bindings with
  | list items | vector items =>
      rw [Form.embed, Evaluator.readBindings, Evaluator.readBindings, Form.embedAll_eq_map,
        List.length_map]
      split
      · exact pure (by simp)
      · exact fail _
  | big digits =>
      rw [Form.embed]
      rcases embedDecimal_cases digits with same | ⟨d, -, -, same⟩ <;> rw [same] <;> exact fail _
  | literal v => simpa [Evaluator.readBindings, Form.kindName] using fail _
  | _ => exact fail _

/-- Futures get the same number, and their jobs are alike. -/
theorem spawn (body : List Form) (scope : Nat) (settings : Settings) :
    Alike id (Machine.update fun s => s.spawn body scope settings)
      (Machine.update fun s => s.spawn (body.map Form.embed) scope settings) := by
  have natural (s : State) (body : List Form) :
      s.embed.spawn (body.map Form.embed) scope settings =
        ((s.spawn body scope settings).1, (s.spawn body scope settings).2.embed) := by
    simp [State.spawn, State.addFuture, State.nextIdentifier, State.embed, Job.embed, Future.embed]
  apply update
  intro s t states
  have embedded : (body.map Form.embed).map Form.embed = body.map Form.embed := by simp
  have right := natural t (body.map Form.embed)
  rw [embedded, ← show s.embed = t.embed from states, natural s body] at right
  exact Prod.mk.inj right

theorem moduleSymbol (form : String) (f : Form) :
    Alike id (Evaluator.moduleSymbol form f) (Evaluator.moduleSymbol form f.embed) := by
  rw [Evaluator.moduleSymbol, Evaluator.moduleSymbol, Form.symbol?_embed, Form.kindName_embed]
  split
  · exact pure rfl
  · exact fail _

/-- Names are exported alike. -/
theorem exportForm (scope : Nat) (names : List Form) :
    Alike Value.embed (Evaluator.exportForm scope names)
      (Evaluator.exportForm scope (names.map Form.embed)) := by
  induction names with
  | nil => exact pure rfl
  | cons f rest ih =>
      exact (moduleSymbol "export" f).bindSame fun name =>
        (markExported scope name).bindSame fun _ => ih

end Machine.Alike

/-! ### Special forms -/

namespace Evaluator.Indifferent

variable {ev : Evaluator} (indifferent : ev.Indifferent) {scope : Nat}
include indifferent

mutual

/-- A template and its embedding are filled with alike values. -/
theorem quasiquote : ∀ template : Form,
    Alike Value.embed (ev.quasiquote template scope) (ev.quasiquote template.embed scope)
  | .list items => by
      rw [Form.embed, Form.embedAll_eq_map, Evaluator.quasiquote, Evaluator.quasiquote,
        marked?_embed]
      cases Evaluator.marked? "unquote" items with
      | some inner => exact indifferent.eval (Form.embed_embed inner).symm
      | none =>
          exact (quasiquoteItems items).bind fun values values' same => Alike.pure (by simp [same])
  | .vector items => by
      rw [Form.embed, Form.embedAll_eq_map, Evaluator.quasiquote, Evaluator.quasiquote]
      exact (quasiquoteItems items).bind fun values values' same => Alike.pure (by simp [same])
  | .number x | .big x | .text x | .boolean x | .keyword x | .symbol x | .table x | .literal x => by
      rw [Evaluator.quasiquote, Evaluator.quasiquote]
      · exact Alike.ofExcept (Form.quote_same (Form.embed_embed _).symm)
      all_goals simp

/-- Spliced values are alike, element by element. -/
theorem quasiquoteItems : ∀ items : List Form,
    Alike (List.map Value.embed) (ev.quasiquoteItems items scope)
      (ev.quasiquoteItems (items.map Form.embed) scope)
  | [] => by
      rw [List.map_nil, Evaluator.quasiquoteItems]
      exact Alike.pure rfl
  | .list inner :: rest => by
      have others := quasiquoteItems rest
      have here := quasiquote (.list inner)
      rw [Form.embed, Form.embedAll_eq_map] at here
      rw [List.map_cons, Form.embed, Form.embedAll_eq_map, Evaluator.quasiquoteItems,
        Evaluator.quasiquoteItems, marked?_embed]
      cases Evaluator.marked? "unquote-splicing" inner with
      | some spliced =>
          refine (indifferent.eval (Form.embed_embed spliced).symm).bind fun v w found => ?_
          refine (Alike.ofExcept (Value.asSeq_same found)).bind fun values values' same => ?_
          exact others.bind fun more more' rest => Alike.pure (by simp [same, rest])
      | none =>
          exact here.bind fun v w found => others.bind fun more more' rest =>
            Alike.pure (by simp [found, rest])
  | .number x :: rest | .big x :: rest | .text x :: rest | .boolean x :: rest | .keyword x :: rest
  | .symbol x :: rest | .table x :: rest | .literal x :: rest | .vector x :: rest => by
      have others := quasiquoteItems rest
      rw [List.map_cons, Evaluator.quasiquoteItems, Evaluator.quasiquoteItems]
      · exact (quasiquote _).bind fun v w found => others.bind fun more more' rest =>
          Alike.pure (by simp [found, rest])
      all_goals simp

end

/-- A definition binds alike values. -/
theorem define (name value : Form) :
    Alike Value.embed (ev.define name value scope) (ev.define name.embed value.embed scope) := by
  refine (Alike.symbolArg "def" name).bindSame fun symbol => ?_
  refine (indifferent.eval (Form.embed_embed value).symm).bind fun v w same => ?_
  exact (Alike.setVariable scope symbol same).bindSame fun _ => Alike.pure same

/-- The last argument is spread into alike arguments. -/
theorem applyForm (f : Form) (args : List Form) :
    Alike Value.embed (ev.applyForm f args scope)
      (ev.applyForm f.embed (args.map Form.embed) scope) := by
  refine (indifferent.eval (Form.embed_embed f).symm).bind fun g g' sameCallee => ?_
  refine (indifferent.evalAll (by simp)).bind fun values values' same => ?_
  have last : (values.getLast?.getD .nil).embed = (values'.getLast?.getD .nil).embed := by
    rw [← Value.getD_nil_embed, ← Value.getD_nil_embed, ← List.getLast?_map, ← List.getLast?_map, same]
  refine (Alike.ofExcept (Value.asSeq_same last)).bind fun more more' sameMore => ?_
  apply indifferent.callTail sameCallee
  apply literals_same
  rw [List.map_append, List.map_append, List.map_dropLast, List.map_dropLast, same, sameMore]

/-- A call of a macro is expanded by what its name stands for; anything else stays as it is. -/
theorem expandForm (v : Value) :
    Alike Value.embed (ev.expandForm v scope) (ev.expandForm v.embed scope) := by
  have unchanged (v : Value) : Alike Value.embed (Pure.pure v) (Pure.pure v.embed) :=
    Alike.pure (Value.embed_embed v).symm
  unfold Evaluator.expandForm
  cases v with
  | list items => cases items with
      | nil => exact unchanged (.list [])
      | cons head args => cases head with
          | symbol name =>
              refine Alike.bindOption (Alike.findVariable scope name) (unchanged _) fun f g same => ?_
              have code : (Value.toCodeAll args).map Form.embed =
                  (Value.toCodeAll (Value.embedAll args)).map Form.embed := by
                rw [← Form.embedAll_eq_map, ← Form.embedAll_eq_map, ← Value.toCodeAll_embed,
                  ← Value.toCodeAll_embed, Value.embedAll_embedAll]
              by_cases isMacro : ∃ c, f = .transformer c
              · obtain ⟨c, rfl⟩ := isMacro
                obtain ⟨d, rfl, sameClosure⟩ := Value.embed_eq_transformer same.symm
                exact indifferent.expandMacro_same sameClosure.symm code
              · split
                next c found => exact absurd ⟨c, Option.some.inj found⟩ isMacro
                next =>
                  split
                  next d found =>
                    obtain rfl := Option.some.inj found
                    obtain ⟨c, rfl, -⟩ := Value.embed_eq_transformer same
                    exact absurd ⟨c, rfl⟩ isMacro
                  next => exact unchanged _
          | _ => exact unchanged _
  | _ => exact unchanged _

/-! ### Errors -/

/-- A handler is chosen and run alike, as the error is the same. -/
theorem recover (parts : Evaluator.Attempt) {result result' : Except Error Value}
    (same : result.map Value.embed = result'.map Value.embed) :
    Alike (Except.map Value.embed) (ev.recover parts result scope)
      (ev.recover parts.embed result' scope) := by
  cases result with
  | ok v => cases result' with
      | ok w => exact Alike.pure same
      | error e => cases same
  | error e => cases result' with
      | ok w => cases same
      | error e' =>
          cases same
          rcases parts with ⟨body, _ | ⟨name, handler⟩, cleanup⟩
          · exact Alike.pure rfl
          · refine (Alike.newScope scope).bindSame fun inner => ?_
            refine (Alike.setVariable inner name rfl).bindSame fun _ => ?_
            exact (indifferent.runBody (by simp)).reify

/-- What cleans up runs alike, whatever came before. -/
theorem cleanUp (parts : Evaluator.Attempt) :
    Alike id (ev.cleanUp parts scope) (ev.cleanUp parts.embed scope) := by
  rcases parts with ⟨body, handler, _ | cleanup⟩
  · exact Alike.pure rfl
  · exact (indifferent.runBody (by simp)).discard

/-- An attempt ends alike: by its body, by a handler, or with the error. -/
theorem runAttempt (parts : Evaluator.Attempt) :
    Alike Value.embed (ev.runAttempt parts scope) (ev.runAttempt parts.embed scope) := by
  have body : parts.body.map Form.embed = parts.embed.body.map Form.embed := by
    simp [Evaluator.Attempt.embed]
  refine (indifferent.runBody body).reify.bind fun first first' firsts => ?_
  refine (indifferent.recover parts firsts).bind fun result result' results => ?_
  exact (indifferent.cleanUp parts).bindSame fun _ => Alike.ofExcept results

/-! ### Conditions and loops -/

/-- `and` and `or` stop at the same form. -/
theorem shortCircuit (decisive : Bool) (empty : Value) (args : List Form) :
    Alike Value.embed (ev.shortCircuit decisive empty args scope)
      (ev.shortCircuit decisive empty (args.map Form.embed) scope) := by
  fun_induction Evaluator.shortCircuit ev decisive empty args scope with
  | case1 => exact Alike.pure rfl
  | case2 last => exact indifferent.evalTail (Form.embed_embed last).symm
  | case3 form rest more ih =>
      rw [List.map_cons, Evaluator.shortCircuit]
      · refine (indifferent.eval (Form.embed_embed form).symm).bind fun v w same => ?_
        rw [← Value.isTruthy_embed v, same, Value.isTruthy_embed]
        split
        · exact Alike.pure same
        · exact ih
      · simpa using more

/-- `cond` takes the same branch. -/
theorem branches (args : List Form) :
    Alike Value.embed (ev.branches args scope) (ev.branches (args.map Form.embed) scope) := by
  fun_induction Evaluator.branches ev args scope with
  | case1 test branch rest always =>
      rw [List.map_cons, List.map_cons, Evaluator.branches, isElse_embed, if_pos always]
      exact indifferent.evalTail (Form.embed_embed branch).symm
  | case2 test branch rest sometimes ih =>
      rw [List.map_cons, List.map_cons, Evaluator.branches, isElse_embed, if_neg sometimes]
      refine (indifferent.eval (Form.embed_embed test).symm).bind fun v w same => ?_
      rw [← Value.isTruthy_embed v, same, Value.isTruthy_embed]
      split
      · exact indifferent.evalTail (Form.embed_embed branch).symm
      · exact ih
  | case3 args odd =>
      rcases args with _ | ⟨test, _ | ⟨branch, rest⟩⟩
      · exact Alike.pure rfl
      · exact Alike.pure rfl
      · exact absurd rfl (odd test branch rest)

/-- Forms that are run for their effects have alike ones. -/
theorem runAll {forms forms' : List Form} (same : forms.map Form.embed = forms'.map Form.embed) :
    Alike id (ev.runAll forms scope) (ev.runAll forms' scope) := by
  refine Alike.fold (e := id) (fun _ _ form form' _ same => ?_) (fun _ _ same => same) rfl same
  exact (indifferent.eval same).discard.bindSame fun _ => Alike.pure rfl

/-- A loop makes the same number of rounds. -/
theorem whileLoop (test : Form) (body : List Form) :
    Alike Value.embed (ev.whileLoop test body scope)
      (ev.whileLoop test.embed (body.map Form.embed) scope) := by
  refine Alike.iterate (e := id) (fun _ _ _ => ?_) ev.steps () () rfl
  refine Alike.yieldTurn.bindSame fun _ => ?_
  refine (indifferent.eval (Form.embed_embed test).symm).bind fun v w same => ?_
  rw [← Value.isTruthy_embed v, same, Value.isTruthy_embed]
  split
  · exact (indifferent.runAll (by simp)).bindSame fun _ => Alike.pure rfl
  · exact Alike.pure rfl

/-- A counting loop makes the same number of rounds, with the same counter. -/
theorem countingLoop (binding : Form) (body : List Form) :
    Alike Value.embed (ev.countingLoop binding body scope)
      (ev.countingLoop binding.embed (body.map Form.embed) scope) := by
  refine (Alike.readCounter binding).bind fun parts parts' sameParts => ?_
  obtain ⟨name, count⟩ := parts
  obtain ⟨name', count'⟩ := parts'
  obtain ⟨rfl, sameCount⟩ : name = name' ∧ count.embed = count'.embed := Prod.mk.inj sameParts
  refine (indifferent.eval sameCount).bind fun v w same => ?_
  have number : v.asInt = w.asInt := by rw [← Value.asInt_embed v, same, Value.asInt_embed]
  refine (Alike.ofSame number).bindSame fun n => ?_
  refine Alike.iterate (e := id) (fun i j sameIndex => ?_) ev.steps 0 0 rfl
  obtain rfl : i = j := sameIndex
  split
  · exact Alike.pure rfl
  · refine (Alike.newScope scope).bindSame fun inner => ?_
    refine (Alike.setVariable inner name rfl).bindSame fun _ => ?_
    exact (indifferent.runAll (by simp)).bindSame fun _ => Alike.pure rfl

/-! ### Local bindings and modules -/

/-- Local bindings are made alike, one after the other. -/
theorem bindPairs (pairs : List Form) :
    Alike id (ev.bindPairs pairs scope) (ev.bindPairs (pairs.map Form.embed) scope) := by
  fun_induction Evaluator.bindPairs ev pairs scope with
  | case1 name value rest none =>
      rw [List.map_cons, List.map_cons, Evaluator.bindPairs, Form.symbol?_embed, none]
      exact (Alike.formText name).bindSame fun text => Alike.fail _
  | case2 name value rest symbol found ih =>
      rw [List.map_cons, List.map_cons, Evaluator.bindPairs, Form.symbol?_embed, found]
      refine (indifferent.eval (Form.embed_embed value).symm).bind fun v w same => ?_
      exact (Alike.setVariable scope symbol same).bindSame fun _ => ih
  | case3 pairs short =>
      rcases pairs with _ | ⟨name, _ | ⟨value, rest⟩⟩
      · exact Alike.pure rfl
      · exact Alike.pure rfl
      · exact absurd rfl (short name value rest)

/-- A `let` evaluates its body in alike scopes. -/
theorem letForm (bindings : Form) (body : List Form) :
    Alike Value.embed (ev.letForm bindings body scope)
      (ev.letForm bindings.embed (body.map Form.embed) scope) := by
  refine (Alike.readBindings bindings).bind fun pairs pairs' same => ?_
  refine (Alike.newScope scope).bindSame fun inner => ?_
  refine Alike.bindSame ?_ fun _ => indifferent.evalBody (by simp)
  exact Alike.of_embed (F := fun pairs => ev.bindPairs pairs inner) indifferent.bindPairs same

/-- A module is defined alike, or the same error is reported. -/
theorem moduleForm (name : Form) (body : List Form) :
    Alike Value.embed (ev.moduleForm name body scope)
      (ev.moduleForm name.embed (body.map Form.embed) scope) := by
  refine (Alike.moduleSymbol "module" name).bindSame fun symbol => ?_
  split
  · exact Alike.fail _
  · refine (Alike.newScope scope).bindSame fun inner => ?_
    refine (indifferent.runAll (by simp)).bindSame fun _ => ?_
    refine Alike.bind (f := Except.map (Assoc.mapValues Value.embed)) ?_ fun members members' same => ?_
    · refine Alike.look fun s t states => ?_
      have exported : s.scopes.exportsOf inner = t.scopes.exportsOf inner :=
        states.same (k := fun s => s.scopes.exportsOf inner) fun s => s.scopes.exportsOf_embed inner
      have bound : s.scopes.localNames inner = t.scopes.localNames inner :=
        states.same (k := fun s => s.scopes.localNames inner) fun s => s.scopes.localNames_embed inner
      rw [exported, bound, ← moduleMembers_embed, ← moduleMembers_embed, states.scopes]
    · refine (Alike.ofExcept same).bind fun entries entries' sameEntries => ?_
      refine (Alike.defineModule scope ?_).bindSame fun _ => Alike.pure rfl
      exact congrArg (NamedModule.mk symbol) sameEntries

/-! ### All special forms -/

/-- A choice between two computations that are alike. -/
theorem ifTruthy (test : Form) {yes yes' no no' : Machine Value}
    (left : Alike Value.embed yes yes') (right : Alike Value.embed no no') :
    Alike Value.embed (do if (← ev.eval test scope).isTruthy then yes else no)
      (do if (← ev.eval test.embed scope).isTruthy then yes' else no') := by
  refine (indifferent.eval (Form.embed_embed test).symm).bind fun v w same => ?_
  rw [← Value.isTruthy_embed v, same, Value.isTruthy_embed]
  split
  · exact left
  · exact right

/-- The code that a value stands for is evaluated once more. -/
theorem evaluateForm (x : Form) :
    Alike Value.embed (do ev.evalTail (← ev.eval x scope).toCode scope)
      (do ev.evalTail (← ev.eval x.embed scope).toCode scope) := by
  refine (indifferent.eval (Form.embed_embed x).symm).bind fun v w same => ?_
  apply indifferent.evalTail
  rw [← Value.toCode_embed, same, Value.toCode_embed]

/-- A macro call that comes from evaluation is expanded alike. -/
theorem expandArgument (x : Form) :
    Alike Value.embed (do ev.expandForm (← ev.eval x scope) scope)
      (do ev.expandForm (← ev.eval x.embed scope) scope) := by
  refine (indifferent.eval (Form.embed_embed x).symm).bind fun v w same => ?_
  exact Alike.of_embed (F := fun v => ev.expandForm v scope) indifferent.expandForm same

/-- A `try` is read and run alike. -/
theorem attemptForm (parts : List Form) :
    Alike Value.embed (do ev.runAttempt (← Evaluator.readAttempt parts) scope)
      (do ev.runAttempt (← Evaluator.readAttempt (parts.map Form.embed)) scope) := by
  refine (Alike.readAttempt parts).bind fun parts parts' same => ?_
  exact Alike.of_embed (F := fun parts => ev.runAttempt parts scope) indifferent.runAttempt same

/-- The last branch of a choice, which may be missing. -/
theorem otherwise (rest : List Form) :
    Alike Value.embed
      (match rest with
        | form :: _ => ev.evalTail form scope
        | [] => Pure.pure .nil)
      (match rest.map Form.embed with
        | form :: _ => ev.evalTail form scope
        | [] => Pure.pure .nil) := by
  cases rest with
  | nil => exact Alike.pure rfl
  | cons form more => exact indifferent.evalTail (Form.embed_embed form).symm

/-- Branches without a partner are refused alike. -/
theorem condForm (pairs : List Form) :
    Alike Value.embed
      (if pairs.length % 2 = 0 then ev.branches pairs scope
        else Machine.fail (.invalidArguments "cond" "expected test/expression pairs"))
      (if (pairs.map Form.embed).length % 2 = 0 then ev.branches (pairs.map Form.embed) scope
        else Machine.fail (.invalidArguments "cond" "expected test/expression pairs")) := by
  rw [List.length_map]
  split
  · exact indifferent.branches pairs
  · exact Alike.fail _

/-- Special forms go by the parts of a call that embedding keeps. -/
theorem runForm (f : SpecialForm) (args : List Form) :
    Alike Value.embed (ev.runForm f args scope) (ev.runForm f (args.map Form.embed) scope) := by
  unfold Evaluator.runForm
  rw [List.length_map]
  refine (Alike.ofSame rfl).bindSame fun _ => ?_
  have wrong (f : SpecialForm) (n : Nat) : Alike Value.embed
      (Machine.fail (.arity f.name f.count.describe n))
      (Machine.fail (.arity f.name f.count.describe n)) := Alike.fail _
  cases f with
  | quote =>
      rcases args with _ | ⟨x, _ | ⟨y, rest⟩⟩
      · exact wrong _ _
      · exact Alike.ofExcept (Form.quote_same (Form.embed_embed x).symm)
      · simpa using wrong _ _
  | quasiquote =>
      rcases args with _ | ⟨x, _ | ⟨y, rest⟩⟩
      · exact wrong _ _
      · exact indifferent.quasiquote x
      · simpa using wrong _ _
  | define =>
      rcases args with _ | ⟨name, _ | ⟨value, _ | ⟨y, rest⟩⟩⟩
      · exact wrong _ _
      · exact wrong _ _
      · exact indifferent.define name value
      · simpa using wrong _ _
  | lambda =>
      cases args with
      | nil => exact wrong _ _
      | cons first rest => exact Alike.makeFunction first rest scope
  | defineFunction =>
      cases args with
      | nil => exact wrong _ _
      | cons name parts => exact Alike.defineNamed "defn" (fun c => by simp) name parts scope
  | defineTransformer =>
      cases args with
      | nil => exact wrong _ _
      | cons name parts => exact Alike.defineNamed "defmacro" (fun c => by simp) name parts scope
  | sequence => exact indifferent.evalBody (by simp)
  | evaluate =>
      rcases args with _ | ⟨x, _ | ⟨y, rest⟩⟩
      · exact wrong _ _
      · exact indifferent.evaluateForm x
      · simpa using wrong _ _
  | apply =>
      cases args with
      | nil => exact wrong _ _
      | cons g rest => exact indifferent.applyForm g rest
  | expand =>
      rcases args with _ | ⟨x, _ | ⟨y, rest⟩⟩
      · exact wrong _ _
      · exact indifferent.expandArgument x
      · simpa using wrong _ _
  | attempt => exact indifferent.attemptForm args
  | and => exact indifferent.shortCircuit false (.boolean true) args
  | or => exact indifferent.shortCircuit true .nil args
  | choose =>
      rcases args with _ | ⟨test, _ | ⟨branch, rest⟩⟩
      · exact wrong _ _
      · exact wrong _ _
      · exact indifferent.ifTruthy test (indifferent.evalTail (Form.embed_embed branch).symm)
          (indifferent.otherwise rest)
  | when =>
      cases args with
      | nil => exact wrong _ _
      | cons test body =>
          exact indifferent.ifTruthy test (indifferent.evalBody (by simp)) (Alike.pure rfl)
  | whenNot =>
      cases args with
      | nil => exact wrong _ _
      | cons test body =>
          exact indifferent.ifTruthy test (Alike.pure rfl) (indifferent.evalBody (by simp))
  | cond => exact indifferent.condForm args
  | loop =>
      cases args with
      | nil => exact wrong _ _
      | cons test body => exact indifferent.whileLoop test body
  | dotimes =>
      cases args with
      | nil => exact wrong _ _
      | cons binding body => exact indifferent.countingLoop binding body
  | bind =>
      cases args with
      | nil => exact wrong _ _
      | cons bindings body => exact indifferent.letForm bindings body
  | defineModule =>
      cases args with
      | nil => exact wrong _ _
      | cons name body => exact indifferent.moduleForm name body
  | publish => exact Alike.exportForm scope args
  | go => exact (Alike.spawn args scope ev.settings).bindSame fun future => Alike.pure rfl

end Evaluator.Indifferent

end PluginLisp
