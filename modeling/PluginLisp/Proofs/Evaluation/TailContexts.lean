import PluginLisp.Plugin.Standard
import PluginLisp.Proofs.Evaluation.Nesting
import PluginLisp.Proofs.Plugin.Operations

/-!
Forms around a tail position. Special forms leave it to one of the forms in them to say what they come
to, macros leave it to their expansion, and `eval` to the code that it is given. Each of these is
evaluated in tail position itself. So a form comes to whatever the innermost of the forms that are
nested in it like this comes to, at the site where that one is reached.

Main results: `LeadsTo.ends`, `Path.ends`.
-/

namespace PluginLisp

open Machine World Evaluator

/-! ### Loaded plugins -/

/-- Everything that a plugin registers is registered. -/
def Registry.Provides (r : Registry) (p : Plugin) : Prop :=
  ∀ d, .builtin d ∈ p.registration.registrations → r.get? d.name = some d

/-- Whether a registered builtin is there. -/
def Registry.hasRegistered (r : Registry) : Registration → Bool
  | .builtin d => r.get? d.name = some d
  | .secondName _ _ => true

instance (r : Registry) (p : Plugin) : Decidable (r.Provides p) :=
  decidable_of_iff (p.registration.registrations.all r.hasRegistered = true) <| by
    rw [List.all_eq_true]
    constructor
    · exact fun all d member => of_decide_eq_true (all _ member)
    · intro provides registration member
      cases registration with
      | builtin d => exact decide_eq_true (provides d member)
      | secondName name target => rfl

/-- The plugins with the special forms that have tail positions. -/
def tailPlugins : List Plugin := [.core, .control, .logical, .binding]

/-- The manager of the world has loaded them. -/
def World.Loaded (settings : Settings) (w : World) : Prop :=
  ∀ p ∈ tailPlugins, (w.state.registry settings.manager).Provides p

/-- The special forms that have tail positions, and the one that calls what it is given. -/
def tailForms : List SpecialForm :=
  [.choose, .when, .whenNot, .cond, .sequence, .bind, .and, .or, .evaluate, .apply]

/-- Every form with a tail position is registered by some plugin. -/
theorem registered_of_mem_tailForms {f : SpecialForm} (member : f ∈ tailForms) :
    ∃ p ∈ tailPlugins, .builtin (.ofBuiltin p.name (.form f)) ∈ p.registration.registrations := by
  simp only [tailForms, List.mem_cons, List.not_mem_nil, or_false] at member
  rcases member with rfl | rfl | rfl | rfl | rfl | rfl | rfl | rfl | rfl | rfl <;>
    simp [tailPlugins, Plugin.core, Plugin.control, Plugin.logical, Plugin.binding,
      standardPlugin, formBuiltins]

/-- With the plugins loaded, the names of forms with a tail position stand for them. -/
theorem World.Loaded.get? {settings : Settings} {w : World} (loaded : w.Loaded settings)
    {f : SpecialForm} (member : f ∈ tailForms) :
    ∃ d, (w.state.registry settings.manager).get? f.name = some d ∧ d.builtin = .form f := by
  obtain ⟨p, listed, registered⟩ := registered_of_mem_tailForms member
  exact ⟨_, loaded p listed _ registered, rfl⟩

/-! ### Tail positions -/

/-- A form that is to be evaluated in a world and a scope. -/
structure Site where
  world : World
  form : Form
  scope : Nat

/-- The head of a list is not the name of a builtin. -/
def World.Ordinary (settings : Settings) (w : World) (head : Form) : Prop :=
  ∀ name, head = .symbol name → (w.state.registry settings.manager).get? name = none

namespace Evaluator

/-- Tests with their branches, in turn as they are written. -/
def inTurn (pairs : List (Form × Form)) : List Form :=
  pairs.flatMap fun pair => [pair.1, pair.2]

theorem length_inTurn (pairs : List (Form × Form)) : (inTurn pairs).length = pairs.length * 2 := by
  simp [inTurn, List.length_flatMap]

/-- A special form leaves it to one of the forms in it to say what it comes to: the site of that form,
    after everything that is evaluated before it. -/
inductive Selects (ev : Evaluator) (w : World) (scope : Nat) :
    SpecialForm → List Form → Site → Prop where
  | consequent {test branch : Form} {rest : List Form} {v : Value} {u : World}
      (tested : w.Ends (ev.eval test scope) (.ok v) u) (holds : v.isTruthy = true)
      (few : rest.length ≤ 1) :
      Selects ev w scope .choose (test :: branch :: rest) ⟨u, branch, scope⟩
  | alternative {test branch otherwise : Form} {v : Value} {u : World}
      (tested : w.Ends (ev.eval test scope) (.ok v) u) (fails : v.isTruthy = false) :
      Selects ev w scope .choose [test, branch, otherwise] ⟨u, otherwise, scope⟩
  | when {test last : Form} {init : List Form} {v : Value} {vs : List Value} {u u' : World}
      (tested : w.Ends (ev.eval test scope) (.ok v) u) (holds : v.isTruthy = true)
      (before : u.Ends (ev.evalAll init scope) (.ok vs) u') :
      Selects ev w scope .when (test :: (init ++ [last])) ⟨u', last, scope⟩
  | whenNot {test last : Form} {init : List Form} {v : Value} {vs : List Value} {u u' : World}
      (tested : w.Ends (ev.eval test scope) (.ok v) u) (fails : v.isTruthy = false)
      (before : u.Ends (ev.evalAll init scope) (.ok vs) u') :
      Selects ev w scope .whenNot (test :: (init ++ [last])) ⟨u', last, scope⟩
  /-- The branches before the chosen one are given with their tests. -/
  | cond {skipped : List (Form × Form)} {test branch : Form} {rest : List Form} {v : Value}
      {vs : List Value} {u u' : World} (plain : ∀ pair ∈ skipped, isElse pair.1 = false)
      (before : w.Ends (ev.evalAll (skipped.map Prod.fst) scope) (.ok vs) u)
      (fail : ∀ v ∈ vs, v.isTruthy = false) (plainTest : isElse test = false)
      (tested : u.Ends (ev.eval test scope) (.ok v) u') (holds : v.isTruthy = true)
      (even : rest.length % 2 = 0) :
      Selects ev w scope .cond (inTurn skipped ++ test :: branch :: rest) ⟨u', branch, scope⟩
  | condElse {skipped : List (Form × Form)} {test branch : Form} {rest : List Form}
      {vs : List Value} {u : World} (plain : ∀ pair ∈ skipped, isElse pair.1 = false)
      (before : w.Ends (ev.evalAll (skipped.map Prod.fst) scope) (.ok vs) u)
      (fail : ∀ v ∈ vs, v.isTruthy = false) (always : isElse test = true)
      (even : rest.length % 2 = 0) :
      Selects ev w scope .cond (inTurn skipped ++ test :: branch :: rest) ⟨u, branch, scope⟩
  | sequence {init : List Form} {last : Form} {vs : List Value} {u : World}
      (before : w.Ends (ev.evalAll init scope) (.ok vs) u) :
      Selects ev w scope .sequence (init ++ [last]) ⟨u, last, scope⟩
  | bind {bindings last : Form} {pairs init : List Form} {inner : Nat} {vs : List Value}
      {u₁ u₂ u₃ u : World} (reads : w.Ends (readBindings bindings) (.ok pairs) u₁)
      (opens : u₁.Ends (newScope scope) (.ok inner) u₂)
      (binds : u₂.Ends (ev.bindPairs pairs inner) (.ok ()) u₃)
      (before : u₃.Ends (ev.evalAll init inner) (.ok vs) u) :
      Selects ev w scope .bind (bindings :: (init ++ [last])) ⟨u, last, inner⟩
  | and {init : List Form} {last : Form} {vs : List Value} {u : World}
      (before : w.Ends (ev.evalAll init scope) (.ok vs) u) (hold : ∀ v ∈ vs, v.isTruthy = true) :
      Selects ev w scope .and (init ++ [last]) ⟨u, last, scope⟩
  | or {init : List Form} {last : Form} {vs : List Value} {u : World}
      (before : w.Ends (ev.evalAll init scope) (.ok vs) u) (fail : ∀ v ∈ vs, v.isTruthy = false) :
      Selects ev w scope .or (init ++ [last]) ⟨u, last, scope⟩
  | evaluate {x : Form} {v : Value} {u : World}
      (evaluated : w.Ends (ev.eval x scope) (.ok v) u) :
      Selects ev w scope .evaluate [x] ⟨u, v.toCode, scope⟩

/-- A form in tail position comes to whatever another one comes to at its own site. -/
inductive LeadsTo (ev : Evaluator) : Site → Site → Prop where
  | special {w : World} {scope : Nat} {f : SpecialForm} {args : List Form} {p : Site}
      (loaded : w.Loaded ev.settings) (selects : ev.Selects w scope f args p) :
      LeadsTo ev ⟨w, .list (.symbol f.name :: args), scope⟩ p
  | expansion {w u u' : World} {scope : Nat} {head : Form} {args : List Form} {c : Closure}
      {code : Value} (ordinary : w.Ordinary ev.settings head)
      (evaluated : w.Ends (ev.eval head scope) (.ok (.transformer c)) u)
      (expands : u.Ends (ev.expandMacro c args) (.ok code) u') :
      LeadsTo ev ⟨w, .list (head :: args), scope⟩ ⟨u', code.toCode, scope⟩

/-- A tail position in forms that are nested in each other. -/
inductive Path (ev : Evaluator) : (frames : Nat) → Site → Site → Prop where
  | here (p : Site) : Path ev 0 p p
  | into {frames : Nat} {p q r : Site} (outer : ev.LeadsTo p q) (rest : Path ev frames q r) :
      Path ev (frames + 1) p r

/-! ### Forms in a row -/

section

variable {ev ev' : Evaluator} {w u after : World} {scope : Nat} {form last : Form}
  {init forms : List Form} {v : Value} {vs : List Value} {outcome : Outcome Value}

/-- Arguments are evaluated by evaluating the first and then the others. -/
theorem ends_evalAll_cons_iff :
    w.Ends (ev.evalAll (form :: forms) scope) (.ok vs) after ↔
      ∃ v u rest, w.Ends (ev.eval form scope) (.ok v) u ∧
        u.Ends (ev.evalAll forms scope) (.ok rest) after ∧ vs = v :: rest := by
  rw [evalAll_cons]
  constructor
  · intro ends
    obtain ⟨v, u, first, others⟩ := ends.of_bind
    obtain ⟨rest, others, same⟩ := ends_map_iff.1 others
    exact ⟨v, u, rest, first, others, same⟩
  · rintro ⟨v, u, rest, first, others, same⟩
    exact first.bind (ends_map_iff.2 ⟨rest, others, same⟩)

/-- Arguments in two parts are evaluated one part after the other. -/
theorem ends_evalAll_append_iff {more : List Form} :
    w.Ends (ev.evalAll (forms ++ more) scope) (.ok vs) after ↔
      ∃ own u rest, w.Ends (ev.evalAll forms scope) (.ok own) u ∧
        u.Ends (ev.evalAll more scope) (.ok rest) after ∧ vs = own ++ rest := by
  rw [evalAll_append]
  constructor
  · intro ends
    obtain ⟨own, u, first, others⟩ := ends.of_bind
    obtain ⟨rest, others, same⟩ := ends_map_iff.1 others
    exact ⟨own, u, rest, first, others, same⟩
  · rintro ⟨own, u, rest, first, others, same⟩
    exact first.bind (ends_map_iff.2 ⟨rest, others, same⟩)

/-- There are as many values as there were forms. -/
theorem length_of_ends_evalAll (ends : w.Ends (ev.evalAll forms scope) (.ok vs) after) :
    vs.length = forms.length := by
  induction forms generalizing w vs with
  | nil =>
      obtain ⟨rfl, -⟩ := ends.eq_of_pure
      rfl
  | cons form forms ih =>
      obtain ⟨v, u, rest, -, others, rfl⟩ := ends_evalAll_cons_iff.1 ends
      rw [List.length_cons, List.length_cons, ih others]

/-- A body evaluates its forms in a row, the last of them in tail position. -/
theorem evalBody_append (init : List Form) (last : Form) :
    ev.evalBody (init ++ [last]) scope =
      ev.evalAll init scope >>= fun _ => ev.evalTail last scope := by
  induction init with
  | nil => rfl
  | cons form rest ih =>
      rw [List.cons_append, evalBody, ih, evalAll_cons]
      · show ev.eval form scope >>= (fun _ => pure ()) >>= _ = _
        simp [Machine.bind_assoc]
      · simp

/-- A body ends as its last form, once the forms before are evaluated. -/
theorem ends_evalBody (before : w.Ends (ev.evalAll init scope) (.ok vs) u)
    (ends : u.Ends (ev.evalTail last scope) outcome after) :
    w.Ends (ev.evalBody (init ++ [last]) scope) outcome after := by
  rw [evalBody_append]
  exact before.bind ends

/-- Where no form before the last one decides, the last one does. -/
theorem ends_shortCircuit {decisive : Bool} {empty : Value}
    (before : w.Ends (ev.evalAll init scope) (.ok vs) u)
    (undecided : ∀ v ∈ vs, v.isTruthy ≠ decisive)
    (ends : u.Ends (ev.evalTail last scope) outcome after) :
    w.Ends (ev.shortCircuit decisive empty (init ++ [last]) scope) outcome after := by
  induction init generalizing w vs with
  | nil =>
      obtain ⟨-, rfl⟩ := before.eq_of_pure
      exact ends
  | cons form rest ih =>
      obtain ⟨v, u', vs, first, others, rfl⟩ := ends_evalAll_cons_iff.1 before
      obtain ⟨here, later⟩ := List.forall_mem_cons.1 undecided
      rw [List.cons_append, shortCircuit]
      · refine first.bind ?_
        rw [if_neg here]
        exact ih others later
      · simp

/-- Branches whose tests fail are passed over. -/
theorem ends_branches {skipped : List (Form × Form)} {rest : List Form}
    (plain : ∀ pair ∈ skipped, isElse pair.1 = false)
    (before : w.Ends (ev.evalAll (skipped.map Prod.fst) scope) (.ok vs) u)
    (fail : ∀ v ∈ vs, v.isTruthy = false)
    (ends : u.Ends (ev.branches rest scope) outcome after) :
    w.Ends (ev.branches (inTurn skipped ++ rest) scope) outcome after := by
  induction skipped generalizing w vs with
  | nil =>
      obtain ⟨-, rfl⟩ := before.eq_of_pure
      exact ends
  | cons branch skipped ih =>
      obtain ⟨v, u', vs, first, others, rfl⟩ := ends_evalAll_cons_iff.1 before
      obtain ⟨here, later⟩ := List.forall_mem_cons.1 fail
      obtain ⟨plainTest, plainOthers⟩ := List.forall_mem_cons.1 plain
      rw [inTurn, List.flatMap_cons, List.append_assoc, List.cons_append, List.cons_append, branches,
        if_neg (by simp [plainTest])]
      refine first.bind ?_
      rw [if_neg (by simp [here])]
      exact ih plainOthers others later

/-- `cond` ends as the branch of the first test that holds. -/
theorem ends_cond {skipped : List (Form × Form)} {test branch : Form} {rest : List Form}
    (plain : ∀ pair ∈ skipped, isElse pair.1 = false)
    (before : w.Ends (ev.evalAll (skipped.map Prod.fst) scope) (.ok vs) u)
    (fail : ∀ v ∈ vs, v.isTruthy = false) (even : rest.length % 2 = 0)
    (ends : u.Ends (ev.branches (test :: branch :: rest) scope) outcome after) :
    w.Ends (ev.runForm .cond (inTurn skipped ++ test :: branch :: rest) scope) outcome after := by
  have pairs : (inTurn skipped ++ test :: branch :: rest).length % 2 = 0 := by
    simp only [List.length_append, length_inTurn, List.length_cons]
    omega
  have run : ev.runForm .cond (inTurn skipped ++ test :: branch :: rest) scope =
      ev.branches (inTurn skipped ++ test :: branch :: rest) scope := if_pos pairs
  rw [run]
  exact ends_branches plain before fail ends

end

/-! ### Special forms -/

section

variable {ev ev' : Evaluator} {w after : World} {scope : Nat} {f : SpecialForm} {args : List Form}
  {p : Site} {outcome : Outcome Value}

theorem Selects.mem_tailForms (selects : ev.Selects w scope f args p) : f ∈ tailForms := by
  cases selects <;> simp [tailForms]

/-- A special form comes to what the form that it leaves it to comes to. -/
theorem Selects.runForm (selects : ev.Selects w scope f args p) (below : Below ev ev')
    (ends : p.world.Ends (ev'.evalTail p.form p.scope) outcome after) :
    w.Ends (ev'.runForm f args scope) outcome after := by
  cases selects with
  | @consequent _ _ rest _ _ tested holds few =>
      match rest, few with
      | [], _ | [_], _ =>
          refine (below.eval tested).bind ?_
          rw [if_pos holds]
          exact ends
  | alternative tested fails =>
      refine (below.eval tested).bind ?_
      rw [if_neg (by simp [fails])]
      exact ends
  | when tested holds before =>
      refine (below.eval tested).bind ?_
      rw [if_pos holds]
      exact ends_evalBody (below.evalAll before) ends
  | whenNot tested fails before =>
      refine (below.eval tested).bind ?_
      rw [if_neg (by simp [fails])]
      exact ends_evalBody (below.evalAll before) ends
  | cond plain before fail plainTest tested holds even =>
      refine ends_cond plain (below.evalAll before) fail even ?_
      rw [branches, if_neg (by simp [plainTest])]
      refine (below.eval tested).bind ?_
      rw [if_pos holds]
      exact ends
  | condElse plain before fail always even =>
      refine ends_cond plain (below.evalAll before) fail even ?_
      rw [branches, if_pos always]
      exact ends
  | sequence before => exact ends_evalBody (below.evalAll before) ends
  | bind reads opens binds before =>
      exact reads.bind (opens.bind ((below.bindPairs binds).bind
        (ends_evalBody (below.evalAll before) ends)))
  | and before hold =>
      refine ends_shortCircuit (below.evalAll before) (fun v member => ?_) ends
      simp [hold v member]
  | or before fail =>
      refine ends_shortCircuit (below.evalAll before) (fun v member => ?_) ends
      simp [fail v member]
  | evaluate evaluated => exact (below.eval evaluated).bind ends

end

/-! ### Lists -/

section

variable {ev : Evaluator} {w u after : World} {scope : Nat} {head : Form} {args : List Form}
  {f v : Value} {outcome : Outcome Value}

theorem ends_inFrame (frame : State → CallFrame) {m : Machine Value}
    (ends : w.Ends m (.ok v) after) : w.Ends (ev.inFrame frame m) (.ok v) after := by
  unfold inFrame
  split
  · exact ends.decorate _
  · exact ends

/-- A call that succeeds in a frame succeeds without it. -/
theorem ends_of_inFrame {frame : State → CallFrame} {m : Machine Value}
    (ends : w.Ends (ev.inFrame frame m) (.ok v) after) : w.Ends m (.ok v) after := by
  unfold inFrame at ends
  split at ends
  · exact ends.of_decorate
  · exact ends

/-- A symbol that is registered is known as a builtin before anything is evaluated. -/
theorem headBuiltin?_symbol {name : String} {d : Descriptor} {s : State}
    (found : (s.registry ev.settings.manager).get? name = some d) :
    ev.headBuiltin? (.symbol name) s = .done (.ok (some d)) s := by
  simp [headBuiltin?, registry, found]

/-- A builtin called by its name. -/
theorem ends_evalList_builtin {name : String} {d : Descriptor}
    (found : (w.state.registry ev.settings.manager).get? name = some d)
    (ends : w.Ends (ev.perform (.builtin d.builtin args scope)) (.ok v) after) :
    w.Ends (ev.evalList (.symbol name) args scope) (.ok v) after := by
  have head : w.Ends (ev.headBuiltin? (.symbol name)) (.ok (some d)) w :=
    ends_of_done (headBuiltin?_symbol found) (by simp)
  exact head.bind (ends_inFrame _ ends)

/-- The call of a builtin that succeeds has performed it. -/
theorem ends_of_evalList_builtin {name : String} {d : Descriptor}
    (found : (w.state.registry ev.settings.manager).get? name = some d)
    (ends : w.Ends (ev.evalList (.symbol name) args scope) (.ok v) after) :
    w.Ends (ev.perform (.builtin d.builtin args scope)) (.ok v) after := by
  obtain ⟨descriptor, u, head, performed⟩ := ends.of_bind
  obtain ⟨same, rfl⟩ := head.eq_of_done (headBuiltin?_symbol found)
  cases same
  exact ends_of_inFrame performed

/-- A call of a value. -/
theorem ends_evalList_call (ordinary : w.Ordinary ev.settings head)
    (evaluated : w.Ends (ev.eval head scope) (.ok f) u)
    (ends : u.Ends (ev.callTail f args scope) outcome after) :
    w.Ends (ev.evalList head args scope) outcome after := by
  have plain : w.Ends (ev.headBuiltin? head) (.ok none) w := by
    refine ends_of_done ?_ (by simp)
    unfold headBuiltin?
    split
    next name => simp [registry, ordinary name rfl]
    next => rfl
  exact plain.bind (evaluated.bind ends)

end

/-! ### Levels -/

section

variable {settings : Settings} {tower : Nat → Evaluator} {ev : Evaluator} {level d frames : Nat}
  {p q : Site} {v : Value} {after : World}

/-- A special form takes two levels, one for itself and one for the builtin that it is; an expansion
    takes one. -/
theorem LeadsTo.ends (leads : ev.LeadsTo p q) (isTower : IsTower settings tower)
    (below : ∀ i, level ≤ i → Below ev (tower i)) (deep : level ≤ d)
    (ends : q.world.Ends ((tower d).evalTail q.form q.scope) (.ok v) after) :
    p.world.Ends ((tower (d + 2)).evalTail p.form p.scope) (.ok v) after := by
  have above : Below ev (tower (d + 1)) := below (d + 1) (by omega)
  have same : ev.settings = (tower (d + 1)).settings := above.settings
  rw [isTower.evalTail_succ]
  cases leads with
  | special loaded selects =>
      obtain ⟨descriptor, found, builtin⟩ := loaded.get? selects.mem_tailForms
      refine ends_evalList_builtin (same ▸ found) ?_
      rw [builtin, isTower.next]
      exact selects.runForm (below d deep) ends
  | expansion ordinary evaluated expands =>
      refine ends_evalList_call (same ▸ ordinary) (above.eval evaluated) ?_
      rw [callTail]
      refine (above.expandMacro expands).bind ?_
      exact (isTower.below_of_le (Nat.le_succ d)).evalTail ends

/-- The induction is on the frames around the site. -/
theorem Path.ends (path : ev.Path frames p q) (isTower : IsTower settings tower)
    (below : ∀ i, level ≤ i → Below ev (tower i)) (deep : level ≤ d)
    (ends : q.world.Ends ((tower d).evalTail q.form q.scope) (.ok v) after) :
    p.world.Ends ((tower (d + 2 * frames)).evalTail p.form p.scope) (.ok v) after := by
  induction path with
  | here p => exact ends
  | @into frames p q r outer _ ih =>
      rw [show d + 2 * (frames + 1) = (d + 2 * frames) + 2 by omega]
      exact outer.ends isTower below (by omega) (ih ends)

end

end Evaluator

end PluginLisp
