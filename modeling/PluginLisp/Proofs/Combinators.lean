import PluginLisp.Proofs.Evaluation.Endings
import PluginLisp.Proofs.Evaluation.Literals

/-!
The algebra of the combinators. A composition hands a value on from one callable to the next, so how its
parts are grouped into compositions does not matter, and the empty one is a part that does nothing. A
partial call puts its values before those of the call, so partial calls of partial calls put them
before each other. All laws hold for callables of every kind, macros and builtins among them, and the
two sides are the same computation: the same results and errors, with the same effects in the same
order.

Main result: `combinators_combine`.
-/

namespace PluginLisp

open Machine

/-- What negation makes of a boolean is a boolean again. -/
@[simp] theorem Value.isTruthy_boolean (b : Bool) : (Value.boolean b).isTruthy = b := by
  cases b <;> rfl

theorem Value.IsPlain.of_isCallable {v : Value} (callable : v.isCallable = true) : v.IsPlain := by
  rintro c args rfl
  cases callable

namespace Evaluator

variable {ev : Evaluator} {f g : Value} {fs gs : List Value} {args : List Form} {scope : Nat}

/-! ### Results of calls -/

/-- What has been forced may be forced again. -/
theorem force_force (v : Value) : ev.force v >>= ev.force = ev.force v := by
  calc ev.force v >>= ev.force = ev.force v >>= pure :=
        (ev.force_gives v).bind_congr fun _ forced => forced
    _ = ev.force v := bind_pure _

theorem call_gives (ev : Evaluator) (f : Value) (args : List Form) (scope : Nat) :
    (ev.call f args scope).Gives ev.IsForced :=
  (Gives.any _).bind fun v _ => ev.force_gives v

/-- Forcing the result of a call that has been forced. -/
theorem call_force (ev : Evaluator) (f : Value) (args : List Form) (scope : Nat) :
    ev.call f args scope >>= ev.force = ev.call f args scope := by
  rw [call, Machine.bind_assoc]
  congr 1
  funext v
  exact force_force v

/-- A call that ends with a plain value has nothing left to be forced. -/
theorem bind_pure_force (positive : 0 < ev.steps) {α : Type} (m : Machine α) {result : α → Value}
    (plain : ∀ a, (result a).IsPlain) :
    (m >>= fun a => pure (result a)) >>= ev.force = m >>= fun a => pure (result a) := by
  rw [Machine.bind_assoc]
  congr 1
  funext a
  rw [run_pure_bind]
  exact isForced_of_plain positive (plain a)

/-! ### Compositions -/

theorem call_comp_singleton (f : Value) (args : List Form) :
    ev.call (.comp [f]) args scope = ev.call f args scope := by
  rw [call, callTail]
  exact ev.call_force f args scope

/-- A composition calls its last part, and each part before it with the result of the one after it. -/
theorem call_comp (nonempty : fs ≠ []) (args : List Form) :
    ev.call (.comp fs) args scope = ev.callChain fs args scope := by
  match fs with
  | [f] =>
      rw [call_comp_singleton, callChain]
      rfl
  | f :: g :: rest =>
      have chain : ev.callChain (f :: g :: rest) args scope = ev.callChain (g :: rest) args scope >>=
          fun v => ev.callTail f [.literal v] scope >>= ev.force := by
        rw [callChain]
        simp
      rw [call, callTail, chain, Machine.bind_assoc]
      simp

theorem call_comp_cons (nonempty : fs ≠ []) (f : Value) (args : List Form) :
    ev.call (.comp (f :: fs)) args scope =
      ev.call (.comp fs) args scope >>= fun v => ev.call f [.literal v] scope := by
  obtain ⟨g, rest, rfl⟩ := List.exists_cons_of_ne_nil nonempty
  rw [call_comp (by simp), call_comp nonempty, callChain]
  · rfl
  · simp

/-- The parts of a composition may be called in two groups. The induction is on the outer ones. -/
theorem call_comp_append (outer : fs ≠ []) (inner : gs ≠ []) (args : List Form) :
    ev.call (.comp (fs ++ gs)) args scope =
      ev.call (.comp gs) args scope >>= fun v => ev.call (.comp fs) [.literal v] scope := by
  induction fs with
  | nil => exact absurd rfl outer
  | cons f rest ih =>
      rw [List.cons_append, call_comp_cons (by simp [inner])]
      by_cases last : rest = []
      · subst last
        simp only [List.nil_append, call_comp_singleton]
      · rw [ih last, Machine.bind_assoc]
        congr 1
        funext v
        rw [call_comp_cons last]

/-- The empty composition answers with the value that it is called with. -/
theorem call_comp_nil (reads : ev.ReadsLiterals) {v : Value} (forced : ev.IsForced v) :
    ev.call (.comp []) [.literal v] scope = pure v := by
  have all : ∀ w ∈ [v], ev.IsForced w := List.forall_mem_singleton.2 forced
  have evaluated : ev.evalAll [.literal v] scope = pure [v] := reads.evalAll all
  rw [call, callTail, evaluated]
  exact forced

/-- The empty composition as the outermost part does nothing. -/
theorem call_comp_nil_cons (reads : ev.ReadsLiterals) (nonempty : fs ≠ []) (args : List Form) :
    ev.call (.comp (.comp [] :: fs)) args scope = ev.call (.comp fs) args scope := by
  rw [call_comp_cons nonempty]
  calc ev.call (.comp fs) args scope >>= (fun v => ev.call (.comp []) [.literal v] scope)
      = ev.call (.comp fs) args scope >>= pure :=
        (ev.call_gives _ args scope).bind_congr fun _ forced => call_comp_nil reads forced
    _ = ev.call (.comp fs) args scope := bind_pure _

/-- A composition of compositions is the composition of all their parts. -/
theorem call_comp_comp (reads : ev.ReadsLiterals) (inner : gs ≠ []) (args : List Form) :
    ev.call (.comp [.comp fs, .comp gs]) args scope = ev.call (.comp (fs ++ gs)) args scope := by
  by_cases outer : fs = []
  · subst outer
    rw [call_comp_nil_cons reads (by simp), call_comp_singleton, List.nil_append]
  · rw [call_comp_cons (by simp), call_comp_singleton, call_comp_append outer inner]

/-- The parts of a composition that is the inner part of another one. -/
theorem call_comp_inner (nonempty : fs ≠ []) (f : Value) (args : List Form) :
    ev.call (.comp [f, .comp fs]) args scope = ev.call (.comp (f :: fs)) args scope := by
  rw [call_comp_cons (by simp), call_comp_singleton, call_comp_cons nonempty]

/-! ### Partial calls -/

/-- The values of the outer partial call come after those of the inner one. -/
theorem callTail_partialCall (reads : ev.ReadsLiterals) (positive : 0 < ev.steps)
    {bound more : List Value} (plain : ∀ v ∈ more, v.IsPlain) (args : List Form) :
    ev.callTail (.partialCall (.partialCall f bound) more) args scope =
      ev.callTail (.partialCall f (bound ++ more)) args scope := by
  rw [callTail, callTail]
  refine (ev.evalAll_gives args scope).bind_congr fun values made => ?_
  have forced : ∀ v ∈ more, ev.IsForced v := fun v member => isForced_of_plain positive (plain v member)
  have again : ev.evalAll (literals more ++ literals values) scope = pure (more ++ values) := by
    rw [literals, literals, ← List.map_append]
    exact reads.evalAll (List.forall_mem_append.2 ⟨forced, made⟩)
  rw [callTail, again, run_pure_bind]
  simp [literals]

/-! ### Juxtapositions -/

theorem collect_append {ι α : Type} (each : ι → Machine α) (items more : List ι) :
    collect each (items ++ more) =
      collect each items >>= fun as => collect each more >>= fun bs => pure (as ++ bs) := by
  induction items with
  | nil => exact (bind_pure _).symm
  | cons item rest ih =>
      rw [List.cons_append, collect_cons, collect_cons, ih]
      simp [Machine.bind_assoc]

theorem callEach_eq_collect (ev : Evaluator) (fs : List Value) (args : List Form) (scope : Nat) :
    ev.callEach fs args scope = collect (fun f => ev.call f args scope) fs := by
  induction fs with
  | nil =>
      rw [callEach]
      rfl
  | cons f rest ih =>
      rw [callEach, ih, collect_cons, call, Machine.bind_assoc]

/-- Each part is called with the same values. -/
theorem applyValues_juxt (reads : ev.ReadsLiterals) (positive : 0 < ev.steps) {values : List Value}
    (plain : ∀ v ∈ values, v.IsPlain) :
    ev.applyValues (.juxt fs) values scope =
      collect (fun f => ev.applyValues f values scope) fs >>= fun results =>
        pure (.vector results) := by
  have evaluated : ev.evalAll (literals values) scope = pure values :=
    reads.evalAll fun v member => isForced_of_plain positive (plain v member)
  rw [applyValues, call, callTail, evaluated, run_pure_bind, callEach_eq_collect]
  exact bind_pure_force positive _ fun results c args same => by cases same

/-! ### Complements -/

theorem call_complement (positive : 0 < ev.steps) (p : Value) (args : List Form) :
    ev.call (.complement p) args scope =
      ev.call p args scope >>= fun v => pure (.boolean !v.isTruthy) := by
  have made : ev.callTail (.complement p) args scope =
      ev.call p args scope >>= fun v => pure (.boolean !v.isTruthy) := by
    rw [callTail, call, Machine.bind_assoc]
  rw [call, made]
  exact bind_pure_force positive _ fun v c args same => by cases same

theorem call_complement_complement (positive : 0 < ev.steps) (p : Value) (args : List Form) :
    ev.call (.complement (.complement p)) args scope =
      ev.call p args scope >>= fun v => pure (.boolean v.isTruthy) := by
  rw [call_complement positive, call_complement positive, Machine.bind_assoc]
  simp

/-! ### Predicates on sequences -/

/-- Whether a predicate holds of all items. They are tried from left to right, up to the first one of
    which it does not hold. -/
def holdsForAll (ev : Evaluator) (p : Value) (scope : Nat) : List Value → Machine Bool
  | [] => pure true
  | item :: rest => do
      if (← ev.applyValues p [item] scope).isTruthy then holdsForAll ev p scope rest
      else return false

/-- What a predicate holds of all items of, its complement holds of none of. -/
theorem runFunctional_every (p coll : Value) :
    ev.runFunctional .every [p, coll] scope =
      (coll.asSeq : Machine _) >>= fun items => ev.holdsForAll p scope items >>= fun all =>
        pure (.boolean all) := by
  show (coll.asSeq : Machine _) >>= fold _ _ () = _
  congr 1
  funext items
  induction items with
  | nil => rfl
  | cons item rest ih =>
      rw [fold_cons, holdsForAll, Machine.bind_assoc, Machine.bind_assoc]
      congr 1
      funext v
      cases v.isTruthy with
      | true => exact ih
      | false => rfl

theorem runFunctional_some_complement (positive : 0 < ev.steps) (p coll : Value) :
    ev.runFunctional .some [.complement p, coll] scope =
      (coll.asSeq : Machine _) >>= fun items => ev.holdsForAll p scope items >>= fun all =>
        pure (if all then .nil else .boolean true) := by
  show (coll.asSeq : Machine _) >>= fold _ _ () = _
  congr 1
  funext items
  induction items with
  | nil => rfl
  | cons item rest ih =>
      rw [fold_cons, holdsForAll, Machine.bind_assoc, Machine.bind_assoc, applyValues,
        call_complement positive, Machine.bind_assoc]
      congr 1
      funext v
      rw [run_pure_bind, Value.isTruthy_boolean]
      cases v.isTruthy with
      | true => exact ih
      | false => rfl

/-- A builtin that is called with values gets them. -/
theorem runBuiltin_literals (reads : ev.ReadsLiterals) (positive : 0 < ev.steps) {op : Primitive}
    {values : List Value} (plain : ∀ v ∈ values, v.IsPlain)
    (allowed : op.count.allows values.length = true) :
    ev.runBuiltin (.primitive op) (literals values) scope = ev.runPrimitive op values scope := by
  have evaluated : ev.evalAll (literals values) scope = pure values :=
    reads.evalAll fun v member => isForced_of_plain positive (plain v member)
  rw [runBuiltin, evaluated, literals, List.length_map, ArgCount.check, if_pos allowed]
  rfl

/-- All items have a property exactly if there is none that has its complement. -/
theorem every_eq_not_some (reads : ev.ReadsLiterals) (positive : 0 < ev.steps) {p coll : Value}
    (callable : p.isCallable = true) (plain : coll.IsPlain) :
    ev.runBuiltin (.primitive (.functional .every)) (literals [p, coll]) scope =
      ev.runBuiltin (.primitive (.functional .complement)) (literals [p]) scope >>= fun q =>
        ev.runBuiltin (.primitive (.functional .some)) (literals [q, coll]) scope >>= fun v =>
          ev.runBuiltin (.primitive (.general .not)) (literals [v]) scope := by
  have plain_p : p.IsPlain := .of_isCallable callable
  have plain_complement : (Value.complement p).IsPlain := .of_isCallable rfl
  have complement : ev.runBuiltin (.primitive (.functional .complement)) (literals [p]) scope =
      pure (.complement p) := by
    rw [runBuiltin_literals reads positive (by simpa using plain_p) rfl]
    simp [runPrimitive, runFunctional, Value.asCallable, callable]
  have negate (all : Bool) :
      ev.runBuiltin (.primitive (.general .not)) (literals [if all then .nil else .boolean true])
        scope = pure (.boolean all) := by
    have plain_v : (if all then Value.nil else .boolean true).IsPlain := by
      intro c args same
      cases all <;> cases same
    rw [runBuiltin_literals reads positive (by simpa using plain_v) rfl]
    cases all <;> rfl
  rw [complement, run_pure_bind,
    runBuiltin_literals reads positive (by simp [plain_p, plain]) rfl,
    runBuiltin_literals reads positive (by simp [plain, plain_complement]) rfl, runPrimitive,
    runPrimitive, runFunctional_every, runFunctional_some_complement positive]
  simp only [Machine.bind_assoc, run_pure_bind, negate]

/-! ### The laws -/

/-- The laws of the combinators, for calls in a scope. -/
structure Combines (ev : Evaluator) (scope : Nat) : Prop where
  /-- How the parts of a composition are grouped does not matter. -/
  comp_right : ∀ f g h values, ev.applyValues (.comp [f, .comp [g, h]]) values scope =
    ev.applyValues (.comp [f, g, h]) values scope
  comp_left : ∀ f g h values, ev.applyValues (.comp [.comp [f, g], h]) values scope =
    ev.applyValues (.comp [f, g, h]) values scope
  /-- That holds for any number of parts, even none, except that something has to take the
      arguments. -/
  comp_comp : ∀ fs gs values, gs ≠ [] →
    ev.applyValues (.comp [.comp fs, .comp gs]) values scope =
      ev.applyValues (.comp (fs ++ gs)) values scope
  /-- The empty composition is the identity. -/
  comp_nil : ∀ f values, ev.applyValues (.comp [.comp [], f]) values scope =
    ev.applyValues f values scope
  comp_singleton : ∀ f values, ev.applyValues (.comp [f]) values scope =
    ev.applyValues f values scope
  /-- Partial calls put their values before each other. -/
  partialCall : ∀ f bound more values, (∀ v ∈ more, v.IsPlain) →
    ev.applyValues (.partialCall (.partialCall f bound) more) values scope =
      ev.applyValues (.partialCall f (bound ++ more)) values scope
  /-- All parts of a juxtaposition are applied to the same values, one after the other. -/
  juxt : ∀ fs values, (∀ v ∈ values, v.IsPlain) → ev.applyValues (.juxt fs) values scope =
    collect (fun f => ev.applyValues f values scope) fs >>= fun results => pure (.vector results)
  /-- The first one that fails ends it, in the world that it leaves. -/
  juxt_fails : ∀ before f rest values results e (w u after : World), (∀ v ∈ values, v.IsPlain) →
    w.Ends (collect (fun f => ev.applyValues f values scope) before) (.ok results) u →
    u.Ends (ev.applyValues f values scope) (.error e) after →
      w.Ends (ev.applyValues (.juxt (before ++ f :: rest)) values scope) (.error e) after
  /-- The complement of the complement tells whether the result is true. -/
  complement : ∀ p values, ev.applyValues (.complement (.complement p)) values scope =
    ev.applyValues p values scope >>= fun v => pure (.boolean v.isTruthy)
  /-- All items have a property exactly if there is none that has its complement. -/
  every : ∀ p coll, p.isCallable = true → coll.IsPlain →
    ev.runBuiltin (.primitive (.functional .every)) (literals [p, coll]) scope =
      ev.runBuiltin (.primitive (.functional .complement)) (literals [p]) scope >>= fun q =>
        ev.runBuiltin (.primitive (.functional .some)) (literals [q, coll]) scope >>= fun v =>
          ev.runBuiltin (.primitive (.general .not)) (literals [v]) scope

end Evaluator

open Evaluator

/-- With any number of steps that lets a literal be evaluated at all, with errors decorated or not, and
    in every scope, the combinators obey their laws. -/
theorem combinators_combine (settings : Settings) (calls : CallPolicy) (steps scope : Nat) :
    (Evaluator.ofSteps settings calls (steps + 1)).Combines scope := by
  have reads : (ofSteps settings calls (steps + 1)).ReadsLiterals := readsLiterals_ofSteps steps
  have positive : 0 < (ofSteps settings calls (steps + 1)).steps := Nat.succ_pos steps
  constructor
  case comp_right => exact fun f g h values => call_comp_inner (by simp) f _
  case comp_left =>
      intro f g h values
      have grouped : (ofSteps settings calls (steps + 1)).call (.comp ([f, g] ++ [h]))
          (literals values) scope = _ := call_comp_append (by simp) (by simp) _
      rw [applyValues, applyValues, call_comp_cons (by simp)]
      exact grouped.symm
  case comp_comp => exact fun fs gs values inner => call_comp_comp reads inner _
  case comp_nil =>
      intro f values
      rw [applyValues, call_comp_nil_cons reads (by simp), call_comp_singleton]
      rfl
  case comp_singleton => exact fun f values => call_comp_singleton f _
  case partialCall =>
      intro f bound more values plain
      rw [applyValues, call, callTail_partialCall reads positive plain]
      rfl
  case juxt => exact fun fs values plain => applyValues_juxt reads positive plain
  case juxt_fails =>
      intro before f rest values results e w u after plain succeeded failed
      let ev := ofSteps settings calls (steps + 1)
      have stopped : u.Ends (collect (fun f => ev.applyValues f values scope) (f :: rest))
          (.error e) after := by
        rw [collect_cons]
        exact failed.bind_error
      rw [applyValues_juxt reads positive plain, collect_append]
      exact (succeeded.bind stopped.bind_error).bind_error
  case complement => exact fun p values => call_complement_complement positive p _
  case every => exact fun p coll callable plain => every_eq_not_some reads positive callable plain

/-- A macro between a partial call of a partial call and a complement: however the three are grouped,
    the difference is taken first, then the macro puts `true` in its place, and in the end that is
    negated. -/
theorem groupedMacro_combines :
    let ev := Evaluator.ofSteps {} .deferred 9
    let always : Value := .transformer ⟨0, none, ["x"], none, [.literal (.boolean true)], 0⟩
    let less (bound more : List Value) : Value :=
      .partialCall (.partialCall (.operator "-") bound) more
    let seven : Value := .decimal ⟨7, 0⟩
    seven.IsPlain ∧ ev.Combines 0 ∧
      ev.applyValues (less [seven] [seven]) [seven] 0 =
        ev.applyValues (.partialCall (.operator "-") [seven, seven]) [seven] 0 ∧
      (∃ s, ev.applyValues (less [seven] [seven]) [seven] 0 {} =
        .done (.ok (.decimal ⟨-7, 0⟩)) s) ∧
      ∃ s, ev.applyValues (.comp [.comp [.complement (.comp []), always], less [seven] [seven]])
          [seven] 0 {} = .done (.ok (.boolean false)) s := by
  intro ev always less seven
  have plain : seven.IsPlain := fun c args same => nomatch same
  have laws : ev.Combines 0 := combinators_combine {} .deferred 8 0
  refine ⟨plain, laws, ?_, ?_, ?_⟩
  · exact laws.partialCall _ [seven] [seven] [seven] (by simpa using plain)
  · rw [laws.partialCall _ [seven] [seven] [seven] (by simpa using plain)]
    exact ⟨_, rfl⟩
  · rw [laws.comp_left]
    exact ⟨_, rfl⟩

end PluginLisp
