import PluginLisp.Proofs.Evaluation.Steps
import PluginLisp.Proofs.Machine.Running

/-!
Calls by name. A list whose head is a symbol is a call of what the symbol stands for. Evaluation
does not go that way: it first asks the registry for a builtin of that name, while a symbol by itself is
first of all a member of a module if it has a point in it. The two agree unless a builtin is
registered under a name with a point. A definition gives a second name to what a symbol stands for,
and calls by either name agree, if the new name does not already stand for something else first.

Main results: `call_by_name`, `StandsFor.resolve`.
-/

namespace PluginLisp

open Machine

/-! ### Scopes with a variable set -/

namespace Scopes

variable {α : Type} {scopes : Scopes} {look : Scope → Option α} {i k : Nat} {name other : String}
  {v : Value}

/-- A change that no answer depends on, of a scope that stays where it is, changes no search. -/
theorem searchFrom_modify {f : Scope → Scope} (answers : ∀ scope, look (f scope) = look scope)
    (parents : ∀ scope, (f scope).parent = scope.parent) (steps : Nat) :
    searchFrom look (scopes.modify k f) steps i = searchFrom look scopes steps i := by
  induction steps generalizing i with
  | zero => rfl
  | succ steps ih =>
      simp only [searchFrom, at?, Array.getElem?_modify, ih]
      by_cases here : k = i
      · rw [if_pos here]
        cases scopes[i]? with
        | none => rfl
        | some scope => simp only [Option.map_some, answers, parents]
      · rw [if_neg here]

theorem module?_set : (scopes.set k name v).module? i other = scopes.module? i other := by
  apply searchFrom_modify
  · exact fun _ => rfl
  · exact fun _ => rfl

theorem find?_set_ne (apart : name ≠ other) :
    (scopes.set k name v).find? i other = scopes.find? i other := by
  apply searchFrom_modify
  · intro scope
    rw [Assoc.get?_put, if_neg apart]
  · exact fun _ => rfl

theorem find?_set_self (inside : i < scopes.size) :
    (scopes.set i name v).find? i name = some v := by
  simp [find?, search, searchFrom, at?, set, Array.getElem?_modify,
    Array.getElem?_eq_getElem inside, Assoc.get?_put]

end Scopes

/-! ### Symbols -/

/-- A name that is neither a member of a module nor a builtin nor an operator. -/
structure Free (registry : Registry) (name : String) : Prop where
  undotted : name.contains '.' = false
  unregistered : registry.has name = false
  ordinary : (Operator.ofSymbol? name).isSome = false

/-- What a symbol stands for in a scope. -/
inductive StandsFor (registry : Registry) (scopes : Scopes) (scope : Nat) (name : String) :
    Value → Prop where
  | member {owner part : String} {m : NamedModule} {v : Value} (dotted : name.contains '.' = true)
      (parts : Text.split name "." = [owner, part])
      (named : (owner.isEmpty || part.isEmpty) = false)
      (found : scopes.module? scope owner = some m) (holds : Assoc.get? part m.members = some v) :
      StandsFor registry scopes scope name v
  | builtin (undotted : name.contains '.' = false) (registered : registry.has name = true) :
      StandsFor registry scopes scope name (.builtin name)
  | operator (undotted : name.contains '.' = false) (unregistered : registry.has name = false)
      (operator : (Operator.ofSymbol? name).isSome = true) :
      StandsFor registry scopes scope name (.operator name)
  | bound {v : Value} (free : Free registry name) (found : scopes.find? scope name = some v) :
      StandsFor registry scopes scope name v

section

variable {settings : Settings} {calls : CallPolicy} {scope : Nat} {s t : State}
  {name other : String} {v : Value} {registry : Registry} {scopes : Scopes}

theorem StandsFor.resolve {ev : Evaluator}
    (stands : StandsFor (s.registry ev.settings.manager) s.scopes scope name v) :
    ev.resolve name scope s = .done (.ok v) s := by
  cases stands with
  | member dotted parts named found holds =>
      simp [Evaluator.resolve, Evaluator.resolveMember, dotted, parts, named, found, holds]
  | builtin undotted registered =>
      simp [Evaluator.resolve, Evaluator.registry, undotted, registered]
  | operator undotted unregistered operator =>
      simp [Evaluator.resolve, Evaluator.registry, undotted, unregistered, operator]
  | bound free found =>
      obtain ⟨undotted, unregistered, ordinary⟩ := free
      simp [Evaluator.resolve, Evaluator.registry, undotted, unregistered, ordinary, found]

theorem standsFor_of_resolveMember (dotted : name.contains '.' = true)
    (ok : Evaluator.resolveMember name scope s = .done (.ok v) t) :
    t = s ∧ StandsFor registry s.scopes scope name v := by
  unfold Evaluator.resolveMember at ok
  match parts : Text.split name "." with
  | [] | [_] | _ :: _ :: _ :: _ => simp [parts] at ok
  | [owner, part] =>
      cases named : owner.isEmpty || part.isEmpty with
      | true => simp [parts, named] at ok
      | false =>
          cases found : s.scopes.module? scope owner with
          | none => simp [parts, named, found] at ok
          | some m =>
              cases holds : Assoc.get? part m.members with
              | none => simp [parts, named, found, holds] at ok
              | some w =>
                  simp [parts, named, found, holds] at ok
                  obtain ⟨rfl, rfl⟩ := ok
                  exact ⟨rfl, .member dotted parts named found holds⟩

/-- A symbol is resolved without any effect. -/
theorem standsFor_of_resolve {ev : Evaluator} (ok : ev.resolve name scope s = .done (.ok v) t) :
    t = s ∧ StandsFor (s.registry ev.settings.manager) s.scopes scope name v := by
  cases dotted : name.contains '.' with
  | true =>
      rw [Evaluator.resolve, if_pos dotted] at ok
      exact standsFor_of_resolveMember dotted ok
  | false =>
      rw [Evaluator.resolve, if_neg (by simp [dotted]), Evaluator.registry, run_look_bind] at ok
      cases registered : (s.registry ev.settings.manager).has name with
      | true =>
          rw [if_pos registered] at ok
          cases ok
          exact ⟨rfl, .builtin dotted registered⟩
      | false =>
          rw [if_neg (by simp [registered])] at ok
          cases operator : (Operator.ofSymbol? name).isSome with
          | true =>
              rw [if_pos operator] at ok
              cases ok
              exact ⟨rfl, .operator dotted registered operator⟩
          | false =>
              rw [if_neg (by simp [operator]), run_look_bind] at ok
              cases found : s.scopes.find? scope name with
              | none => simp [found] at ok
              | some w =>
                  rw [found] at ok
                  cases ok
                  exact ⟨rfl, .bound ⟨dotted, registered, operator⟩ found⟩

theorem StandsFor.settled (settled : ∀ scope ∈ scopes, scope.Settled)
    (stands : StandsFor registry scopes scope name v) : v.Settled := by
  cases stands with
  | member _ _ _ found holds => exact (Scopes.module?_settled settled found).get? holds
  | builtin | operator => trivial
  | bound _ found => exact Scopes.find?_settled settled found

/-- A symbol stands for the same after a definition, unless the definition is of the symbol
    itself. -/
theorem StandsFor.set {w : Value} (stands : StandsFor registry scopes scope name v)
    (inside : scope < scopes.size) (same : other = name → w = v) :
    StandsFor registry (scopes.set scope other w) scope name v := by
  cases stands with
  | member dotted parts named found holds =>
      exact .member dotted parts named (Scopes.module?_set.trans found) holds
  | builtin undotted registered => exact .builtin undotted registered
  | operator undotted unregistered operator => exact .operator undotted unregistered operator
  | bound free found =>
      by_cases this : other = name
      · subst this
        exact .bound free (same rfl ▸ Scopes.find?_set_self inside)
      · exact .bound free ((Scopes.find?_set_ne this).trans found)

/-! ### Evaluating symbols -/

/-- With steps left, a symbol is evaluated to what it stands for. -/
theorem eval_symbol (n : Nat) :
    (Evaluator.ofSteps settings calls (n + 1)).eval (.symbol name) scope =
      (Evaluator.ofSteps settings calls n).resolve name scope >>=
        (Evaluator.ofSteps settings calls (n + 1)).force := by
  show performWith settings calls (n + 1) (.eval (.symbol name) scope) >>= _ = _
  rw [performWith_succ]
  rfl

/-- There is nothing to be made of a value that is no pending call. -/
theorem force_settled (n : Nat) (settled : v.Settled) :
    (Evaluator.ofSteps settings calls (n + 1)).force v = pure v := by
  rw [Evaluator.force, Evaluator.ofSteps, iterate_succ]
  cases v with
  | pending c args => exact settled.elim
  | _ => rfl

theorem eval_standsFor (n : Nat)
    (stands : StandsFor (s.registry settings.manager) s.scopes scope name v) (settled : v.Settled) :
    (Evaluator.ofSteps settings calls (n + 1)).eval (.symbol name) scope s = .done (.ok v) s := by
  have forced : (Evaluator.ofSteps settings calls (n + 1)).force v = pure v :=
    force_settled n settled
  rw [eval_symbol, bind_eq, StandsFor.resolve stands]
  exact congrFun forced s

/-- Symbols that stand for the same are evaluated alike. -/
theorem eval_symbol_congr (n : Nat)
    (stands : StandsFor (s.registry settings.manager) s.scopes scope name v)
    (stands' : StandsFor (s.registry settings.manager) s.scopes scope other v) :
    (Evaluator.ofSteps settings calls n).eval (.symbol name) scope s =
      (Evaluator.ofSteps settings calls n).eval (.symbol other) scope s := by
  cases n with
  | zero => rfl
  | succ n =>
      rw [eval_symbol, eval_symbol, bind_eq, bind_eq, StandsFor.resolve stands,
        StandsFor.resolve stands']

/-! ### Calls -/

/-- A builtin called by name is run at once. -/
theorem evalTail_builtin (untraced : settings.traced = false) (n : Nat) {d : Descriptor}
    (registered : (s.registry settings.manager).get? name = some d) (args : List Form) :
    (Evaluator.ofSteps settings calls (n + 1)).evalTail (.list (.symbol name :: args)) scope s =
      performWith settings calls n (.builtin d.builtin args scope) s := by
  show performWith settings calls (n + 1) (.eval (.list (.symbol name :: args)) scope) s = _
  rw [performWith_succ]
  simp [Evaluator.step, Evaluator.evalForm, Evaluator.evalList, Evaluator.headBuiltin?,
    Evaluator.registry, Evaluator.ofSteps, Evaluator.inFrame, bind_assoc, registered, untraced]

/-- Any other call by name is a call of what the name stands for. -/
theorem evalTail_other (n : Nat) (unregistered : (s.registry settings.manager).get? name = none)
    (args : List Form) :
    (Evaluator.ofSteps settings calls (n + 1)).evalTail (.list (.symbol name :: args)) scope s =
      ((Evaluator.ofSteps settings calls n).eval (.symbol name) scope >>= fun f =>
        (Evaluator.ofSteps settings calls n).callTail f args scope) s := by
  show performWith settings calls (n + 1) (.eval (.list (.symbol name :: args)) scope) s = _
  rw [performWith_succ]
  simp [Evaluator.step, Evaluator.evalForm, Evaluator.evalList, Evaluator.headBuiltin?,
    Evaluator.registry, Evaluator.ofSteps, bind_assoc, unregistered]

theorem callTail_builtin (ev : Evaluator) {d : Descriptor}
    (registered : (s.registry ev.settings.manager).get? name = some d) (args : List Form) :
    ev.callTail (.builtin name) args scope s = ev.perform (.builtin d.builtin args scope) s := by
  simp [Evaluator.callTail, Evaluator.registry, registered]

/-- No builtin is registered under the name if it has a point in it. -/
def Undisputed (registry : Registry) (name : String) : Prop :=
  name.contains '.' = true → registry.has name = false

/-- A call by an undisputed name is a call of what the name stands for. -/
theorem evalTail_undisputed (untraced : settings.traced = false)
    (undisputed : Undisputed (s.registry settings.manager) name) (n : Nat) (args : List Form) :
    (Evaluator.ofSteps settings calls (n + 1)).evalTail (.list (.symbol name :: args)) scope s =
      ((Evaluator.ofSteps settings calls n).eval (.symbol name) scope >>= fun f =>
        (Evaluator.ofSteps settings calls n).callTail f args scope) s := by
  cases registered : (s.registry settings.manager).get? name with
  | none => exact evalTail_other n registered args
  | some d =>
      rw [evalTail_builtin untraced n registered]
      cases n with
      | zero => rfl
      | succ n =>
          have has : (s.registry settings.manager).has name = true := by
            simp [Registry.has, registered]
          have undotted : name.contains '.' = false := by
            cases dotted : name.contains '.' with
            | false => rfl
            | true => exact absurd has (by simp [undisputed dotted])
          rw [bind_eq, eval_standsFor n (.builtin undotted has) trivial]
          exact (callTail_builtin (.ofSteps settings calls (n + 1)) registered args).symm

/-! ### Definitions -/

theorem define_eq (ev : Evaluator) (f g : String) :
    ev.define (.symbol g) (.symbol f) scope =
      ev.eval (.symbol f) scope >>= fun v => setVariable scope g v >>= fun _ => pure v := rfl

theorem perform_define (n : Nat) (f g : String) :
    performWith settings calls (n + 1) (.builtin (.form .define) [.symbol g, .symbol f] scope) =
      (Evaluator.ofSteps settings calls n).define (.symbol g) (.symbol f) scope := by
  rw [performWith_succ]
  rfl

/-- What a definition of one symbol by another one does. -/
theorem define_symbol {n : Nat} {f g : String} (settled : s.Settled)
    (ok : (Evaluator.ofSteps settings calls n).define (.symbol g) (.symbol f) scope s =
      .done (.ok v) t) :
    StandsFor (s.registry settings.manager) s.scopes scope f v ∧
      t = { s with scopes := s.scopes.set scope g v } := by
  cases n with
  | zero => cases ok
  | succ n =>
      rw [define_eq] at ok
      obtain ⟨w, u, evaluated, set⟩ := run_bind_eq_ok ok
      rw [eval_symbol] at evaluated
      obtain ⟨w', u', resolved, forced⟩ := run_bind_eq_ok evaluated
      obtain ⟨rfl, stands⟩ := standsFor_of_resolve resolved
      rw [force_settled n (stands.settled settled.scopes)] at forced
      cases forced
      cases set
      exact ⟨stands, rfl⟩

/-- The code `(def g f)`. -/
def definition (g f : String) : Form := .list [.symbol "def", .symbol g, .symbol f]

/-- The same for the code of the definition, where it is called by its usual name. -/
theorem evalTail_definition {n : Nat} {f g : String} {d : Descriptor}
    (untraced : settings.traced = false)
    (registered : (s.registry settings.manager).get? "def" = some d)
    (defines : d.builtin = .form .define) (settled : s.Settled)
    (ok : (Evaluator.ofSteps settings calls n).evalTail (definition g f) scope s =
      .done (.ok v) t) :
    StandsFor (s.registry settings.manager) s.scopes scope f v ∧
      t = { s with scopes := s.scopes.set scope g v } := by
  match n with
  | 0 => cases ok
  | 1 =>
      rw [definition, evalTail_builtin untraced 0 registered] at ok
      cases ok
  | n + 2 =>
      rw [definition, evalTail_builtin untraced (n + 1) registered, defines, perform_define] at ok
      exact define_symbol settled ok

/-- A call by name means the same as a call of what the name stands for: with an undisputed name,
    the one runs just as the other does, whatever the number of steps. So once a free name is defined
    by an undisputed one, calls by either name run alike. -/
theorem call_by_name (settings : Settings) (calls : CallPolicy) (scope : Nat) (s : State)
    (untraced : settings.traced = false) :
    (∀ n name args, Undisputed (s.registry settings.manager) name →
      (Evaluator.ofSteps settings calls (n + 1)).evalTail (.list (.symbol name :: args)) scope s =
        ((Evaluator.ofSteps settings calls n).eval (.symbol name) scope >>= fun f =>
          (Evaluator.ofSteps settings calls n).callTail f args scope) s) ∧
    (∀ k n f g args d v t, s.Settled → scope < s.scopes.size →
      (s.registry settings.manager).get? "def" = some d → d.builtin = .form .define →
      Undisputed (s.registry settings.manager) f → Free (s.registry settings.manager) g →
      (Evaluator.ofSteps settings calls k).evalTail (definition g f) scope s = .done (.ok v) t →
      (Evaluator.ofSteps settings calls n).evalTail (.list (.symbol g :: args)) scope t =
        (Evaluator.ofSteps settings calls n).evalTail (.list (.symbol f :: args)) scope t) := by
  constructor
  · exact fun n name args undisputed => evalTail_undisputed untraced undisputed n args
  · intro k n f g args d v t settled inside registered defines undisputed free ok
    obtain ⟨stands, same⟩ := evalTail_definition untraced registered defines settled ok
    have registry : t.registry settings.manager = s.registry settings.manager := by
      rw [same]
      rfl
    have scopes : t.scopes = s.scopes.set scope g v := by rw [same]
    have new : StandsFor (t.registry settings.manager) t.scopes scope g v := by
      rw [registry, scopes]
      exact .bound free (Scopes.find?_set_self inside)
    have old : StandsFor (t.registry settings.manager) t.scopes scope f v := by
      rw [registry, scopes]
      exact stands.set inside fun _ => rfl
    cases n with
    | zero => rfl
    | succ n =>
        have undotted : Undisputed (t.registry settings.manager) g := fun dotted =>
          absurd dotted (by simp [free.undotted])
        rw [evalTail_undisputed untraced undotted,
          evalTail_undisputed untraced (registry ▸ undisputed), bind_eq, bind_eq,
          eval_symbol_congr n new old]

/-! ### Names that stand for something else first -/

/-- A state with the usual builtin for definitions and three that answer with a text. -/
def withTexts : State where
  managers := #[{ registry := ⟨[
    ("def", .ofBuiltin "core" (.form .define)),
    ("f", ⟨"f", "texts", .variadic, "", .constant "one"⟩),
    ("h", ⟨"h", "texts", .variadic, "", .constant "two"⟩),
    ("m.f", ⟨"m.f", "texts", .variadic, "", .constant "three"⟩)]⟩ }]
  scopes := #[{}]

/-- The state after a definition of a second name for a builtin. -/
def withSecondName (g f : String) : State :=
  { withTexts with scopes := withTexts.scopes.set 0 g (.builtin f) }

theorem withTexts_definition (g : String) {f : String} (undotted : f.contains '.' = false)
    (registered : (withTexts.registry 0).has f = true) :
    (Evaluator.ofSteps {} .deferred 3).evalTail (definition g f) 0 withTexts =
      .done (.ok (.builtin f)) (withSecondName g f) := by
  have found : (Evaluator.ofSteps {} .deferred 1).eval (.symbol f) 0 withTexts =
      .done (.ok (.builtin f)) withTexts := eval_standsFor 0 (.builtin undotted registered) trivial
  rw [definition, evalTail_builtin rfl 2 rfl]
  refine (congrFun (perform_define 1 f g) _).trans ?_
  rw [define_eq, bind_eq, found]
  rfl

/-- A builtin called by its own name and by a second one. -/
theorem call_by_second_name :
    (Evaluator.ofSteps {} .deferred 3).evalTail (.list [.symbol "f"]) 0 withTexts =
      ((Evaluator.ofSteps {} .deferred 2).eval (.symbol "f") 0 >>= fun f =>
        (Evaluator.ofSteps {} .deferred 2).callTail f [] 0) withTexts ∧
    (Evaluator.ofSteps {} .deferred 3).evalTail (.list [.symbol "g"]) 0 (withSecondName "g" "f") =
      (Evaluator.ofSteps {} .deferred 3).evalTail (.list [.symbol "f"]) 0 (withSecondName "g" "f") ∧
    (Evaluator.ofSteps {} .deferred 3).evalTail (.list [.symbol "f"]) 0 (withSecondName "g" "f") =
      .done (.ok (.text "one")) (withSecondName "g" "f") := by
  have settled : withTexts.Settled := by
    constructor <;> simp [withTexts, Scope.Settled, Value.EntriesSettled]
  have undisputed : Undisputed (withTexts.registry 0) "f" := by simp [Undisputed]
  have free : Free (withTexts.registry 0) "g" := ⟨by simp, rfl, rfl⟩
  have defined := withTexts_definition "g" (f := "f") (by simp) rfl
  obtain ⟨direct, second⟩ := call_by_name {} .deferred 0 withTexts rfl
  refine ⟨direct 2 "f" [] undisputed, ?_, ?_⟩
  · exact second 3 3 "f" "g" [] _ _ _ settled (by decide) rfl rfl undisputed free defined
  · rw [evalTail_builtin rfl 2 rfl]
    rfl

/-- A builtin registered under a name with a point is called by that name, though by itself the name
    does not stand for it. A definition of the name of a builtin changes nothing for calls by that
    name. And what a call comes to may depend on whether the second name is defined already. -/
theorem call_by_disputed_name :
    (Evaluator.ofSteps {} .deferred 3).evalTail (.list [.symbol "m.f"]) 0 withTexts =
      .done (.ok (.text "three")) withTexts ∧
    ((Evaluator.ofSteps {} .deferred 2).eval (.symbol "m.f") 0 >>= fun f =>
      (Evaluator.ofSteps {} .deferred 2).callTail f [] 0) withTexts =
      .done (.error (.undefinedModule "m")) withTexts ∧
    (Evaluator.ofSteps {} .deferred 3).evalTail (definition "h" "f") 0 withTexts =
      .done (.ok (.builtin "f")) (withSecondName "h" "f") ∧
    (Evaluator.ofSteps {} .deferred 3).evalTail (.list [.symbol "h"]) 0 (withSecondName "h" "f") =
      .done (.ok (.text "two")) (withSecondName "h" "f") ∧
    (Evaluator.ofSteps {} .deferred 3).evalTail (.list [.symbol "f"]) 0 (withSecondName "h" "f") =
      .done (.ok (.text "one")) (withSecondName "h" "f") ∧
    (Evaluator.ofSteps {} .deferred 3).evalTail (definition "q" "g") 0 withTexts =
      .done (.error (.undefinedSymbol "g")) withTexts ∧
    (Evaluator.ofSteps {} .deferred 3).evalTail (definition "g" "def") 0 withTexts =
      .done (.ok (.builtin "def")) (withSecondName "g" "def") ∧
    ∃ t, (Evaluator.ofSteps {} .deferred 3).evalTail
        (.list [.symbol "g", .symbol "q", .symbol "g"]) 0 (withSecondName "g" "def") =
      .done (.ok (.builtin "def")) t := by
  have free : Free (withTexts.registry 0) "g" := ⟨by simp, rfl, rfl⟩
  refine ⟨?_, ?_, withTexts_definition "h" (by simp) rfl, ?_, ?_, ?_,
    withTexts_definition "g" (by simp) rfl, ?_⟩
  · rw [evalTail_builtin rfl 2 rfl]
    rfl
  · have parts : Text.split "m.f" "." = ["m", "f"] := by decide +kernel
    have missing : (Evaluator.ofSteps {} .deferred 1).resolve "m.f" 0 withTexts =
        .done (.error (.undefinedModule "m")) withTexts := by
      rw [Evaluator.resolve, if_pos (by simp), Evaluator.resolveMember, parts]
      rfl
    rw [bind_eq, eval_symbol, bind_eq, missing]
    rfl
  · rw [evalTail_builtin rfl 2 rfl]
    rfl
  · rw [evalTail_builtin rfl 2 rfl]
    rfl
  · have missing : (Evaluator.ofSteps {} .deferred 0).resolve "g" 0 withTexts =
        .done (.error (.undefinedSymbol "g")) withTexts := by
      rw [Evaluator.resolve, if_neg (by simp)]
      rfl
    rw [definition, evalTail_builtin rfl 2 rfl]
    refine (congrFun (perform_define 1 "g" "q") _).trans ?_
    rw [define_eq, bind_eq, eval_symbol, bind_eq, missing]
    rfl
  · have stands : StandsFor ((withSecondName "g" "def").registry 0)
        (withSecondName "g" "def").scopes 0 "g" (.builtin "def") := .bound free rfl
    have found (n : Nat) : (Evaluator.ofSteps {} .deferred (n + 1)).eval (.symbol "g") 0
        (withSecondName "g" "def") = .done (.ok (.builtin "def")) (withSecondName "g" "def") :=
      eval_standsFor n stands trivial
    have called : (Evaluator.ofSteps {} .deferred 2).callTail (.builtin "def")
        [.symbol "q", .symbol "g"] 0 (withSecondName "g" "def") =
          (Evaluator.ofSteps {} .deferred 1).define (.symbol "q") (.symbol "g") 0
            (withSecondName "g" "def") := by
      rw [callTail_builtin (.ofSteps {} .deferred 2) rfl]
      exact congrFun (perform_define 1 "g" "q") _
    let after := withSecondName "g" "def"
    refine ⟨{ after with scopes := after.scopes.set 0 "q" (.builtin "def") }, ?_⟩
    rw [evalTail_other 2 rfl, bind_eq, found 1]
    refine called.trans ?_
    rw [define_eq, bind_eq, found 0]
    rfl

end

end PluginLisp
