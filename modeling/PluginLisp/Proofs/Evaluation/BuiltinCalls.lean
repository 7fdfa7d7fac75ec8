import PluginLisp.Proofs.Quasiquotation

/-!
Calls of functions that are registered. The arguments of such a call are evaluated from left to right,
and then the function is run on their values. Where errors are decorated, an error of the function
becomes one with the same root.

Main results: `World.evaluates_on_ok`, `World.evaluates_on_error`, `World.evaluates_on_miscounted`.
-/

namespace PluginLisp

open Machine World Evaluator

/-- A call of a function by its name, as it is written. -/
def Primitive.on (p : Primitive) (args : List Form) : Form := .list (.symbol p.name :: args)

/-- All that a function looks at are the values of its arguments and the contents of the atoms, and it
    may use libraries. -/
def Primitive.Computes (p : Primitive) (f : Libraries → Cells → List Value → Except Error Value) :
    Prop :=
  ∀ (ev : Evaluator) (values : List Value) (scope : Nat), ev.runPrimitive p values scope =
    (Machine.look State.cells >>= fun cells => Machine.ofExcept (f ev.settings.libraries cells values))

/-- What a function that computes `f` answers: first the arguments are counted. -/
def Primitive.answer (p : Primitive) (f : List Value → Except Error Value) (values : List Value) :
    Except Error Value :=
  p.count.check p.name values.length >>= fun _ => f values

/-- The builtins on maps compute their answer from their arguments. -/
theorem TableOp.computes (op : TableOp) : (Primitive.table op).Computes fun _ _ => op.apply :=
  fun _ _ _ => rfl

/-- The builtins on texts compute their answer from their arguments and the state. -/
theorem TextOp.computes (op : TextOp) : (Primitive.text op).Computes op.apply :=
  fun _ _ _ => rfl

namespace World

variable {settings : Settings} {scope : Nat} {w u after : World} {p : Primitive} {args : List Form}
  {values : List Value} {v : Value} {e : Error} {outcome : Outcome Value}

/-- A plain literal evaluates to what it holds. -/
theorem evaluates_literal (plain : v.IsPlain) :
    w.Evaluates settings .deferred (.literal v) scope (.ok v) w := by
  have forced : (ofSteps settings .deferred 1).force v = pure v :=
    isForced_of_plain Nat.zero_lt_one plain
  refine evaluates_iff_ends.2 ⟨1, ?_⟩
  rw [eval, readsLiterals_ofSteps 0, run_pure_bind, forced]
  exact ends_pure w v

/-- A function is registered under its usual name. -/
def Registers (settings : Settings) (w : World) (p : Primitive) : Prop :=
  ∃ d, (w.state.registry settings.manager).get? p.name = some d ∧ d.builtin = .primitive p

/-- A world with functions of a plugin under their usual names. -/
def offering (plugin : String) (ps : List Primitive) : World where
  state := {
    managers := #[{ registry := ⟨ps.map fun p => (p.name, .ofBuiltin plugin (.primitive p))⟩ }]
    scopes := #[{}] }

/-- A registered function is run on the values of its arguments. -/
theorem ends_perform_primitive {d : Descriptor} (primitive : d.builtin = .primitive p)
    (counted : p.count.check p.name args.length = .ok ()) {n : Nat}
    (inTurn : w.Ends ((ofSteps settings .deferred n).evalAll args scope) (.ok values) u)
    (runs : u.Ends ((ofSteps settings .deferred n).runPrimitive p values scope) outcome after) :
    w.Ends ((ofSteps settings .deferred (n + 1)).perform (.builtin d.builtin args scope)) outcome
      after := by
  rw [(ofSteps_isTower settings).next n, primitive]
  show w.Ends (Machine.ofExcept (p.count.check p.name args.length) >>= fun _ =>
    (ofSteps settings .deferred n).evalAll args scope >>= fun values =>
      (ofSteps settings .deferred n).runPrimitive p values scope) outcome after
  rw [counted]
  exact inTurn.bind runs

/-- The call of a registered function in tail position, given enough steps. -/
theorem exists_ends_perform (registers : w.Registers settings p)
    (counted : p.count.check p.name args.length = .ok ())
    (inTurn : w.EvaluatesInTurn settings scope args values u) (enough : Nat)
    (runs : ∀ n, enough ≤ n →
      u.Ends ((ofSteps settings .deferred n).runPrimitive p values scope) outcome after) :
    ∃ n d, (w.state.registry settings.manager).get? p.name = some d ∧
      w.Ends ((ofSteps settings .deferred n).perform (.builtin d.builtin args scope)) outcome
        after := by
  obtain ⟨d, found, primitive⟩ := registers
  obtain ⟨m, inTurn⟩ := evaluatesInTurn_iff_ends.1 inTurn
  have inTurn := (ofSteps_below (Nat.le_max_left m enough)).evalAll inTurn
  exact ⟨_, d, found, ends_perform_primitive primitive counted inTurn
    (runs _ (Nat.le_max_right m enough))⟩

/-- A function that comes to a value which is no pending call. -/
theorem evaluates_on_ok (registers : w.Registers settings p)
    (counted : p.count.check p.name args.length = .ok ())
    (inTurn : w.EvaluatesInTurn settings scope args values u) (enough : Nat)
    (runs : ∀ n, enough ≤ n →
      u.Ends ((ofSteps settings .deferred n).runPrimitive p values scope) (.ok v) after)
    (plain : v.IsPlain) : w.Evaluates settings .deferred (p.on args) scope (.ok v) after := by
  obtain ⟨n, d, found, performed⟩ := exists_ends_perform registers counted inTurn enough runs
  exact evaluates_named_of_ok found performed plain

/-- A function that fails. -/
theorem evaluates_on_error (registers : w.Registers settings p)
    (counted : p.count.check p.name args.length = .ok ())
    (inTurn : w.EvaluatesInTurn settings scope args values u) (enough : Nat)
    (runs : ∀ n, enough ≤ n →
      u.Ends ((ofSteps settings .deferred n).runPrimitive p values scope) (.error e) after) :
    ∃ e', w.Evaluates settings .deferred (p.on args) scope (.error e') after ∧ e'.root = e.root := by
  obtain ⟨n, d, found, performed⟩ := exists_ends_perform registers counted inTurn enough runs
  exact evaluates_named_of_error found performed

/-- Too many or too few arguments are not evaluated. -/
theorem evaluates_on_miscounted (registers : w.Registers settings p)
    (miscounted : p.count.check p.name args.length = .error e) :
    ∃ e', w.Evaluates settings .deferred (p.on args) scope (.error e') w ∧ e'.root = e.root := by
  obtain ⟨d, found, primitive⟩ := registers
  refine evaluates_named_of_error (n := 1) found ?_
  rw [(ofSteps_isTower settings).next 0, primitive]
  show w.Ends (Machine.ofExcept (p.count.check p.name args.length) >>= fun _ => _) _ w
  rw [miscounted]
  exact ends_of_done rfl nofun

/-- Plain literals evaluate to what they hold, and change nothing. -/
theorem evaluatesInTurn_literals (plain : ∀ v ∈ values, v.IsPlain) :
    w.EvaluatesInTurn settings scope (literals values) values w := by
  induction values with
  | nil => exact .nil w
  | cons v rest ih =>
      exact .cons (evaluates_literal (plain v List.mem_cons_self))
        (ih fun v member => plain v (List.mem_cons_of_mem _ member))

theorem EvaluatesInTurn.length_eq (inTurn : w.EvaluatesInTurn settings scope args values u) :
    values.length = args.length := by
  induction inTurn with
  | nil => rfl
  | cons _ _ ih => exact congrArg Nat.succ ih

/-- The call of a function by its name comes to what the function answers to the values of the
    arguments, and changes nothing that evaluating the arguments has not changed. -/
theorem evaluates_answer {f : Libraries → Cells → List Value → Except Error Value}
    (computes : p.Computes f) (registers : w.Registers settings p)
    (inTurn : w.EvaluatesInTurn settings scope args values u) :
    (∀ v, p.answer (f settings.libraries u.state.cells) values = .ok v → v.IsPlain →
      w.Evaluates settings .deferred (p.on args) scope (.ok v) u) ∧
    ∀ e, p.answer (f settings.libraries u.state.cells) values = .error e →
      ∃ e' after, w.Evaluates settings .deferred (p.on args) scope (.error e') after ∧
        e'.root = e.root ∧ (after = w ∨ after = u) := by
  unfold Primitive.answer
  rw [inTurn.length_eq]
  cases counted : p.count.check p.name args.length with
  | error e =>
      refine ⟨nofun, fun answered failed => ?_⟩
      cases failed
      obtain ⟨e', fails, root⟩ := evaluates_on_miscounted registers counted
      exact ⟨e', w, fails, root, .inl rfl⟩
  | ok =>
      constructor
      · intro v answered plain
        refine evaluates_on_ok registers counted inTurn 0 (fun n _ => ?_) plain
        rw [computes]
        exact Ends.bind (ends_of_done rfl nofun) (ends_ofExcept_iff.2 ⟨answered, rfl⟩)
      · intro e answered
        have runs (n : Nat) : u.Ends ((ofSteps settings .deferred n).runPrimitive p values scope)
            (.error e) u := by
          have failed : f settings.libraries u.state.cells values = .error e := answered
          rw [computes, (ofSteps_isTower settings).settings]
          refine Ends.bind (ends_of_done rfl nofun) ?_
          rw [failed]
          exact ends_of_done rfl nofun
        obtain ⟨e', fails, root⟩ := evaluates_on_error registers counted inTurn 0 fun n _ => runs n
        exact ⟨e', u, fails, root, .inr rfl⟩

/-- A function that is called with values. -/
theorem ends_applyValues_primitive (registers : w.Registers settings p)
    (counted : p.count.check p.name values.length = .ok ()) {n : Nat}
    (plain : ∀ v ∈ values, v.IsPlain)
    (runs : w.Ends ((ofSteps settings .deferred (n + 1)).runPrimitive p values scope) (.ok v) after)
    (plainResult : v.IsPlain) :
    w.Ends ((ofSteps settings .deferred (n + 2)).applyValues (.builtin p.name) values scope) (.ok v)
      after := by
  obtain ⟨d, found, primitive⟩ := registers
  have reads : (ofSteps settings .deferred (n + 1)).ReadsLiterals :=
    (ofSteps_isTower settings).readsLiterals
  have known : w.Ends ((ofSteps settings .deferred (n + 1)).evalAll (literals values) scope)
      (.ok values) w := by
    rw [reads.evalAll fun v member => isForced_of_plain (Nat.succ_pos _) (plain v member)]
    exact ends_pure _ _
  have counted' : p.count.check p.name (literals values).length = .ok () := by
    rwa [literals, List.length_map]
  have performed := ends_perform_primitive primitive counted' known runs
  refine Ends.bind (a := v) (u := after) ?_ ?_
  · rw [callTail]
    have looked : w.Ends (ofSteps settings .deferred (n + 2)).registry
        (.ok (w.state.registry settings.manager)) w := ends_of_done rfl (by simp)
    refine looked.bind ?_
    simp only [found]
    exact performed
  · rw [isForced_of_plain (Nat.succ_pos _) plainResult]
    exact ends_pure _ _

end World

end PluginLisp
