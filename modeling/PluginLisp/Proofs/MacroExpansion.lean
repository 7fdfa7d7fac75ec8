import PluginLisp.Proofs.CallsByName
import PluginLisp.Proofs.Evaluation.Nesting

/-!
Macros that are expanded on request. `macroexpand` is to show the code that evaluation makes of a call
of a macro. Evaluation asks first whether a builtin of that name is registered, and then what the name
stands for; `macroexpand` only asks what the variable of that name holds. Where a call of such a
variable is a call by a free name, the two expand alike, and evaluating the expansion comes to the
same as evaluating the call. Where the name stands for something else first, they need not.

Main result: `macroexpand_shows_evaluation`.
-/

namespace PluginLisp

open Machine World Evaluator Correspondence

/-- The code that expands a value on request. -/
def expansionOf (v : Value) : Form := .list [.symbol "macroexpand", .literal v]

/-- The macro that evaluation runs for a call by name. -/
structure RunsMacro (registry : Registry) (scopes : Scopes) (scope : Nat) (head : String)
    (c : Closure) : Prop where
  unregistered : registry.has head = false
  stands : StandsFor registry scopes scope head (.transformer c)

/-- If the value is a call by the name of a variable that holds a macro, the name is free. -/
def CallsFreely (registry : Registry) (scopes : Scopes) (scope : Nat) (v : Value) : Prop :=
  ∀ head args c, v = .list (.symbol head :: args) →
    scopes.find? scope head = some (.transformer c) → Free registry head

section

variable {settings : Settings} {calls : CallPolicy} {ev : Evaluator} {scope : Nat} {s : State}
  {registry : Registry} {scopes : Scopes} {head : String} {args : List Value} {v : Value} {c : Closure}

/-- Evaluation runs the macro that a variable holds exactly if the name of the variable is free; it runs
    no other macro for a name without a point. -/
theorem runsMacro_iff (undotted : head.contains '.' = false) :
    RunsMacro registry scopes scope head c ↔
      Free registry head ∧ scopes.find? scope head = some (.transformer c) := by
  constructor
  · rintro ⟨unregistered, stands⟩
    cases stands with
    | member dotted => exact absurd dotted (by simp [undotted])
    | bound free found => exact ⟨free, found⟩
  · rintro ⟨free, found⟩
    exact ⟨free.unregistered, .bound free found⟩

/-! ### Expansion on request -/

theorem expandForm_macro (found : s.scopes.find? scope head = some (.transformer c)) :
    ev.expandForm (.list (.symbol head :: args)) scope s =
      ev.expandMacro c (Value.toCodeAll args) s := by
  simp [Evaluator.expandForm, found]

/-- What is no call by the name of a variable that holds a macro stays as it is. -/
theorem expandForm_other (none : ∀ head args c, v = .list (.symbol head :: args) →
    s.scopes.find? scope head ≠ some (.transformer c)) :
    ev.expandForm v scope s = .done (.ok v) s := by
  unfold Evaluator.expandForm
  split
  next head args =>
    rw [run_look_bind]
    refine congrFun (?_ : _ = (pure _ : Machine Value)) s
    split
    next c found => exact absurd found (none head args c rfl)
    next => rfl
  next => rfl

/-- An expansion is no pending call. -/
theorem expandForm_gives (plain : v.IsPlain) : (ev.expandForm v scope).Gives Value.IsPlain := by
  unfold Evaluator.expandForm
  split
  · refine (Gives.any _).bind fun found _ => ?_
    split
    · refine (Gives.any _).bind fun _ _ => (Gives.any _).bind fun _ _ => (Gives.any _).bind
        fun _ _ => (Gives.any _).bind fun v _ => ?_
      exact ev.force_gives_plain v
    · exact Gives.pure plain
  · exact Gives.pure plain

/-- The code `(macroexpand v)`, where it is called by its usual name. -/
theorem eval_expansionOf (untraced : settings.traced = false) {d : Descriptor}
    (registered : (s.registry settings.manager).get? "macroexpand" = some d)
    (expands : d.builtin = .form .expand) (plain : v.IsPlain) (n : Nat) :
    (ofSteps settings calls (n + 3)).eval (expansionOf v) scope s =
      (ofSteps settings calls (n + 1)).expandForm v scope s := by
  have literal : (ofSteps settings calls (n + 1)).eval (.literal v) scope = pure v := by
    have forced : (ofSteps settings calls (n + 1)).IsForced v :=
      isForced_of_plain (Nat.succ_pos n) plain
    rw [Evaluator.eval, readsLiterals_ofSteps n, run_pure_bind, forced]
  have tail : (ofSteps settings calls (n + 3)).evalTail (expansionOf v) scope s =
      (ofSteps settings calls (n + 1)).expandForm v scope s := by
    rw [expansionOf, evalTail_builtin untraced (n + 2) registered, expands, performWith_succ]
    show ((ofSteps settings calls (n + 1)).eval (.literal v) scope >>= fun x =>
      (ofSteps settings calls (n + 1)).expandForm x scope) s = _
    rw [literal, run_pure_bind]
  have forced : (ofSteps settings calls (n + 1)).expandForm v scope >>=
      (ofSteps settings calls (n + 3)).force =
        (ofSteps settings calls (n + 1)).expandForm v scope >>= pure :=
    (expandForm_gives plain).bind_congr fun x plain => isForced_of_plain (Nat.succ_pos _) plain
  have whole := congrFun forced s
  rw [bind_pure, bind_eq, ← tail, ← bind_eq] at whole
  rw [Evaluator.eval, whole, tail]

/-! ### Expansion by evaluation -/

theorem evalTail_macro (runs : RunsMacro (s.registry settings.manager) s.scopes scope head c)
    (n : Nat) (args : List Form) :
    (ofSteps settings calls (n + 2)).evalTail (.list (.symbol head :: args)) scope s =
      ((ofSteps settings calls (n + 1)).expandMacro c args >>= fun code =>
        (ofSteps settings calls (n + 1)).evalTail code.toCode scope) s := by
  have unregistered : (s.registry settings.manager).get? head = none := by
    simpa [Registry.has] using runs.unregistered
  have plain : (Value.transformer c).IsPlain := by
    intro _ _ same
    cases same
  have forced : (ofSteps settings calls (n + 1)).IsForced (.transformer c) :=
    isForced_of_plain (Nat.succ_pos n) plain
  have known : (ofSteps settings calls (n + 1)).eval (.symbol head) scope s =
      .done (.ok (.transformer c)) s := by
    rw [eval_symbol, bind_eq, StandsFor.resolve runs.stands]
    exact congrFun forced s
  rw [evalTail_other (n + 1) unregistered, bind_eq, known]
  show (ofSteps settings calls (n + 1)).callTail (.transformer c) args scope s = _
  rw [callTail]

/-- Evaluating a call of a macro is evaluating its expansion. -/
theorem evalTail_toCode_macro
    (runs : RunsMacro (s.registry settings.manager) s.scopes scope head c)
    (found : s.scopes.find? scope head = some (.transformer c)) (n : Nat) :
    (ofSteps settings calls (n + 2)).evalTail (Value.list (.symbol head :: args)).toCode scope s =
      ((ofSteps settings calls (n + 1)).expandForm (.list (.symbol head :: args)) scope >>=
        fun code => (ofSteps settings calls (n + 1)).evalTail code.toCode scope) s := by
  rw [Value.toCode, Value.toCodeAll, Value.toCode, evalTail_macro runs, bind_eq, bind_eq,
    expandForm_macro found]

end

/-! ### Expanding and then evaluating -/

section

variable {settings : Settings} {ev ev' ev₂ ev₂' : Evaluator} {scope : Nat} {w u after : World}
  {head : String} {args : List Value} {v code : Value} {c : Closure} {e : Error}
  {outcome : Outcome Value}

theorem expandForm_ends (below : Below ev ev')
    (ends : w.Ends (ev.expandForm v scope) outcome after) :
    w.Ends (ev'.expandForm v scope) outcome after :=
  ends.approximated (approximates_of_both (Aligned.expandForm below False.elim))

/-- Expands a value and evaluates the expansion. -/
def expandAndEval (ev : Evaluator) (v : Value) (scope : Nat) : Machine Value :=
  ev.expandForm v scope >>= fun code => ev.eval code.toCode scope

/-- The last step may also be made by a greater evaluator. -/
theorem expandAndEval_approximates (below : Below ev ev') (below₂ : Below ev₂ ev₂') :
    Approximates
      (ev.expandForm v scope >>= fun code => ev.evalTail code.toCode scope >>= ev₂.force)
      (ev'.expandForm v scope >>= fun code => ev'.evalTail code.toCode scope >>= ev₂'.force) := by
  refine Rel.bindBoth (Aligned.expandForm below False.elim) fun code _ => ?_
  exact approximates_of_both (below₂.force (below.tails.perform (workable _)))

/-- Where evaluation runs the macro that expands the call on request, it comes to what the expansion
    evaluates to. -/
theorem evaluates_toCode_iff_expandAndEval
    (runs : RunsMacro (w.state.registry settings.manager) w.state.scopes scope head c)
    (found : w.state.scopes.find? scope head = some (.transformer c)) :
    w.Evaluates settings .deferred (Value.list (.symbol head :: args)).toCode scope outcome after ↔
      ∃ n, w.Ends (expandAndEval (ofSteps settings .deferred n) (.list (.symbol head :: args)) scope)
        outcome after := by
  have same (n : Nat) :
      (ofSteps settings .deferred (n + 2)).eval (Value.list (.symbol head :: args)).toCode scope
        w.state =
      ((ofSteps settings .deferred (n + 1)).expandForm (.list (.symbol head :: args)) scope >>=
        fun code => (ofSteps settings .deferred (n + 1)).evalTail code.toCode scope >>=
          (ofSteps settings .deferred (n + 2)).force) w.state := by
    rw [Evaluator.eval, bind_eq, evalTail_toCode_macro runs found, ← bind_eq, Machine.bind_assoc]
  rw [evaluates_iff_ends]
  constructor
  · rintro ⟨n, ends⟩
    have more := ((ofSteps_below (show n ≤ n + 2 by omega)).eval ends).congr (same n)
    exact ⟨n + 2, more.approximated
      (expandAndEval_approximates (ofSteps_below (by omega)) (ofSteps_below (Nat.le_refl _)))⟩
  · rintro ⟨n, ends⟩
    have more := ends.approximated
      (expandAndEval_approximates (ofSteps_below (show n ≤ n + 1 by omega))
        (ofSteps_below (show n ≤ n + 2 by omega)))
    exact ⟨n + 2, more.congr (same n).symm⟩

/-- Evaluating an expansion that is there already. -/
theorem evaluates_iff_expandAndEval {k : Nat}
    (expanded : w.Ends ((ofSteps settings .deferred k).expandForm v scope) (.ok code) u) :
    u.Evaluates settings .deferred code.toCode scope outcome after ↔
      ∃ n, w.Ends (expandAndEval (ofSteps settings .deferred n) v scope) outcome after := by
  rw [evaluates_iff_ends]
  constructor
  · rintro ⟨n, ends⟩
    have first := expandForm_ends (ofSteps_below (Nat.le_max_left k n)) expanded
    exact ⟨max k n, first.bind ((ofSteps_below (Nat.le_max_right k n)).eval ends)⟩
  · rintro ⟨n, ends⟩
    have known := expandForm_ends (ofSteps_below (Nat.le_max_left k n)) expanded
    obtain ⟨code', u', first, second⟩ | ⟨e, -, first⟩ := ends.bind_cases
    · have again := expandForm_ends (ofSteps_below (Nat.le_max_right k n)) first
      obtain ⟨same, rfl⟩ := again.unique known
      cases same
      exact ⟨n, second⟩
    · have again := expandForm_ends (ofSteps_below (Nat.le_max_right k n)) first
      cases (again.unique known).1

/-- What the code `(macroexpand v)` evaluates to is how the expansion of `v` ends. -/
theorem evaluates_expansionOf_iff (untraced : settings.traced = false) {d : Descriptor}
    (registered : (w.state.registry settings.manager).get? "macroexpand" = some d)
    (expands : d.builtin = .form .expand) (plain : v.IsPlain) :
    w.Evaluates settings .deferred (expansionOf v) scope outcome after ↔
      ∃ n, w.Ends ((ofSteps settings .deferred n).expandForm v scope) outcome after := by
  have same (n : Nat) : (ofSteps settings .deferred (n + 3)).eval (expansionOf v) scope w.state =
      (ofSteps settings .deferred (n + 1)).expandForm v scope w.state :=
    eval_expansionOf untraced registered expands plain n
  rw [evaluates_iff_ends]
  constructor
  · rintro ⟨n, ends⟩
    exact ⟨n + 1, ((ofSteps_below (show n ≤ n + 3 by omega)).eval ends).congr (same n)⟩
  · rintro ⟨n, ends⟩
    exact ⟨n + 3, (expandForm_ends (ofSteps_below (Nat.le_succ n)) ends).congr (same n).symm⟩

/-- Evaluation runs the macro for which a call by a free name is expanded on request. -/
theorem CallsFreely.runsMacro {registry : Registry} {scopes : Scopes}
    (free : CallsFreely registry scopes scope (.list (.symbol head :: args)))
    (found : scopes.find? scope head = some (.transformer c)) :
    RunsMacro registry scopes scope head c :=
  have name := free head args c rfl found
  ⟨name.unregistered, .bound name found⟩

/-- Whether a value is expanded on request at all. -/
theorem expandable_or_other (scopes : Scopes) (scope : Nat) (v : Value) :
    (∃ head args c, v = .list (.symbol head :: args) ∧
        scopes.find? scope head = some (.transformer c)) ∨
      ∀ head args c, v = .list (.symbol head :: args) →
        scopes.find? scope head ≠ some (.transformer c) := by
  by_cases expandable : ∃ head args c, v = .list (.symbol head :: args) ∧
      scopes.find? scope head = some (.transformer c)
  · exact .inl expandable
  · exact .inr fun head args c same found => expandable ⟨head, args, c, same, found⟩

/-- Where a value is a call by a free name, or no call of a macro that a variable holds, evaluating what
    it expands to comes to the same as evaluating its own code. -/
theorem evaluates_expansion
    (free : CallsFreely (w.state.registry settings.manager) w.state.scopes scope v)
    {k : Nat} (expanded : w.Ends ((ofSteps settings .deferred k).expandForm v scope) (.ok code) u) :
    u.Evaluates settings .deferred code.toCode scope outcome after ↔
      w.Evaluates settings .deferred v.toCode scope outcome after := by
  obtain ⟨head, args, c, rfl, found⟩ | none := expandable_or_other w.state.scopes scope v
  · rw [evaluates_iff_expandAndEval expanded,
      evaluates_toCode_iff_expandAndEval (free.runsMacro found) found]
  · obtain ⟨same, rfl⟩ := expanded.eq_of_done (expandForm_other none)
    cases same
    exact Iff.rfl

/-- An error of the expansion is one of the evaluation. -/
theorem evaluates_expansion_error
    (free : CallsFreely (w.state.registry settings.manager) w.state.scopes scope v) {k : Nat}
    (failed : w.Ends ((ofSteps settings .deferred k).expandForm v scope) (.error e) u) :
    w.Evaluates settings .deferred v.toCode scope (.error e) u := by
  obtain ⟨head, args, c, rfl, found⟩ | none := expandable_or_other w.state.scopes scope v
  · have runs := free.runsMacro found
    exact (evaluates_toCode_iff_expandAndEval runs found).2 ⟨k, failed.bind_error⟩
  · cases (failed.eq_of_done (expandForm_other none)).1

/-- Where the evaluation comes to an end, so does the expansion. -/
theorem exists_expansion
    (free : CallsFreely (w.state.registry settings.manager) w.state.scopes scope v)
    (evaluates : w.Evaluates settings .deferred v.toCode scope outcome after) :
    ∃ k expansion u, w.Ends ((ofSteps settings .deferred k).expandForm v scope) expansion u := by
  obtain ⟨head, args, c, rfl, found⟩ | none := expandable_or_other w.state.scopes scope v
  · have runs := free.runsMacro found
    obtain ⟨n, ends⟩ := (evaluates_toCode_iff_expandAndEval runs found).1 evaluates
    obtain ⟨code, u, first, -⟩ | ⟨e, -, first⟩ := ends.bind_cases
    · exact ⟨n, _, _, first⟩
    · exact ⟨n, _, _, first⟩
  · exact ⟨0, _, _, ends_of_done (expandForm_other none) (by simp)⟩

/-- `macroexpand` shows what evaluation does. If the value is no call of a macro that a variable
    holds, or one by a free name, evaluating its code comes to the same, be it a value or an error, as
    expanding it first and then evaluating the code of the expansion; an error of the expansion is one
    of the evaluation, and an evaluation that comes to an end has an expansion. For a name without a
    point, the macro that evaluation runs is the one that expands the call on request, and evaluating
    the call is evaluating the code that it expands to. -/
theorem macroexpand_shows_evaluation (settings : Settings) (scope : Nat) (w : World) (v : Value)
    (d : Descriptor) (untraced : settings.traced = false)
    (registered : (w.state.registry settings.manager).get? "macroexpand" = some d)
    (expands : d.builtin = .form .expand) (plain : v.IsPlain)
    (free : CallsFreely (w.state.registry settings.manager) w.state.scopes scope v) :
    (∀ code u, w.Evaluates settings .deferred (expansionOf v) scope (.ok code) u →
      ∀ outcome after, u.Evaluates settings .deferred code.toCode scope outcome after ↔
        w.Evaluates settings .deferred v.toCode scope outcome after) ∧
    (∀ e u, w.Evaluates settings .deferred (expansionOf v) scope (.error e) u →
      w.Evaluates settings .deferred v.toCode scope (.error e) u) ∧
    (∀ outcome after, w.Evaluates settings .deferred v.toCode scope outcome after →
      ∃ expansion u, w.Evaluates settings .deferred (expansionOf v) scope expansion u) ∧
    ∀ head args c, v = .list (.symbol head :: args) → head.contains '.' = false →
      (RunsMacro (w.state.registry settings.manager) w.state.scopes scope head c ↔
        w.state.scopes.find? scope head = some (.transformer c)) ∧
      (w.state.scopes.find? scope head = some (.transformer c) → ∀ calls n,
        (ofSteps settings calls (n + 2)).evalTail v.toCode scope w.state =
          ((ofSteps settings calls (n + 1)).expandForm v scope >>= fun code =>
            (ofSteps settings calls (n + 1)).evalTail code.toCode scope) w.state) := by
  have requested {expansion : Outcome Value} {u : World} :
      w.Evaluates settings .deferred (expansionOf v) scope expansion u ↔
        ∃ n, w.Ends ((ofSteps settings .deferred n).expandForm v scope) expansion u :=
    evaluates_expansionOf_iff untraced registered expands plain
  refine ⟨fun code u expanded outcome after => ?_, fun e u failed => ?_,
    fun outcome after evaluates => ?_, fun head args c same undotted => ?_⟩
  · obtain ⟨k, expanded⟩ := requested.1 expanded
    exact evaluates_expansion free expanded
  · obtain ⟨k, failed⟩ := requested.1 failed
    exact evaluates_expansion_error free failed
  · obtain ⟨k, expansion, u, expanded⟩ := exists_expansion free evaluates
    exact ⟨expansion, u, requested.2 ⟨k, expanded⟩⟩
  · subst same
    refine ⟨⟨fun runs => ((runsMacro_iff undotted).1 runs).2, free.runsMacro⟩, fun found calls n => ?_⟩
    exact evalTail_toCode_macro (free.runsMacro found) found n

/-- A world with `macroexpand`, a builtin `f`, and a macro under the name `pair`, under the name `f` and
    as the member `f` of a module `m`. -/
def withMacros : World where
  state := {
    managers := #[{ registry := ⟨[
      ("f", ⟨"f", "texts", .variadic, "", .constant "one"⟩),
      ("macroexpand", .ofBuiltin "core" (.form .expand))]⟩ }]
    scopes := #[{
      bindings := [("f", .transformer pair), ("pair", .transformer pair), ("q", .text "two")]
      modules := [("m", ⟨"m", [("f", .transformer pair)]⟩)] }] }
where
  /-- The macro that makes a vector of its argument twice. -/
  pair : Closure := ⟨0, some "pair", ["x"], none, [.vector [.symbol "x", .symbol "x"]], 0⟩

/-- The call of a name with the symbol `q`. -/
def callWithQ (head : String) : Value := .list [.symbol head, .symbol "q"]

/-- The world after the macro has run once. -/
def withMacrosRun : World where
  state := { withMacros.state with
    scopes := withMacros.state.scopes.push { bindings := [("x", .symbol "q")], parent := some 0 } }

theorem withMacros_expands (head : String) (found : head = "pair" ∨ head = "f") :
    withMacros.Evaluates {} .deferred (expansionOf (callWithQ head)) 0
      (.ok (.vector [.symbol "q", .symbol "q"])) withMacrosRun := by
  refine evaluates_of_done 7 ?_
  obtain rfl | rfl := found <;> cbv

/-- A macro with a free name, expanded and evaluated. -/
theorem macroexpand_shows_pair :
    withMacros.Evaluates {} .deferred (callWithQ "pair").toCode 0
      (.ok (.vector [.text "two", .text "two"])) withMacrosRun ∧
    withMacrosRun.Evaluates {} .deferred (Value.vector [.symbol "q", .symbol "q"]).toCode 0
      (.ok (.vector [.text "two", .text "two"])) withMacrosRun := by
  have free : CallsFreely (withMacros.state.registry 0) withMacros.state.scopes 0
      (callWithQ "pair") := by
    intro head args c same _
    cases same
    exact ⟨by simp, rfl, rfl⟩
  have called : withMacros.Evaluates {} .deferred (callWithQ "pair").toCode 0
      (.ok (.vector [.text "two", .text "two"])) withMacrosRun := by
    refine evaluates_of_done 7 ?_
    cbv
  have plain : (callWithQ "pair").IsPlain := by
    intro _ _ same
    cases same
  obtain ⟨same, -⟩ := macroexpand_shows_evaluation {} 0 withMacros (callWithQ "pair") _ rfl rfl rfl
    plain free
  exact ⟨called, (same _ _ (withMacros_expands "pair" (.inl rfl)) _ _).2 called⟩

/-- A macro under the name of a builtin is expanded on request, while evaluation calls the builtin. A
    macro in a module is run by evaluation, while its call stays as it is on request. -/
theorem macroexpand_taken_name :
    (withMacros.Evaluates {} .deferred (expansionOf (callWithQ "f")) 0
        (.ok (.vector [.symbol "q", .symbol "q"])) withMacrosRun ∧
      withMacrosRun.Evaluates {} .deferred (Value.vector [.symbol "q", .symbol "q"]).toCode 0
        (.ok (.vector [.text "two", .text "two"])) withMacrosRun ∧
      ∀ outcome after, withMacros.Evaluates {} .deferred (callWithQ "f").toCode 0 outcome after →
        outcome = .ok (.text "one")) ∧
    withMacros.Evaluates {} .deferred (expansionOf (callWithQ "m.f")) 0 (.ok (callWithQ "m.f"))
      withMacros ∧
    RunsMacro (withMacros.state.registry 0) withMacros.state.scopes 0 "m.f" withMacros.pair := by
  refine ⟨⟨withMacros_expands "f" (.inr rfl), ?_, fun outcome after evaluates => ?_⟩, ?_, rfl, ?_⟩
  · refine evaluates_of_done 7 ?_
    cbv
  · have called : withMacros.Evaluates {} .deferred (callWithQ "f").toCode 0 (.ok (.text "one"))
        withMacros := by
      refine evaluates_of_done 7 ?_
      cbv
    exact congrArg Prod.fst (evaluates.unique rfl called)
  · refine evaluates_of_done 7 ?_
    cbv
  · have parts : Text.split "m.f" "." = ["m", "f"] := by decide +kernel
    exact .member (by simp) parts rfl rfl rfl

end

end PluginLisp
