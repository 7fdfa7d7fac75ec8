import PluginLisp.Proofs.CallsByName
import PluginLisp.Proofs.Quasiquotation
import PluginLisp.Proofs.ScopeIsolation

/-!
Definitions of modules. The body is evaluated in a scope of its own; a definition that succeeds gives
the scope around it one module more, whose members are what the body's scope publishes at its end, and
one that fails gives it nothing. In no case does anything else change in the scopes that existed
before.

Main results: `intact_of_body`, `module_definition_exact`.
-/

namespace PluginLisp

open Machine World Evaluator

/-! ### Names of members -/

namespace Text

variable {piece front rest cs : List Char} {owner member : String}

theorem splitFrom_dot_cons :
    splitFrom ['.'] piece ('.' :: rest) = piece.reverse :: splitFrom ['.'] [] rest := by
  simp [splitFrom]

theorem splitFrom_dot_append (undotted : '.' ∉ front) :
    splitFrom ['.'] piece (front ++ rest) = splitFrom ['.'] (front.reverse ++ piece) rest := by
  induction front generalizing piece with
  | nil => rfl
  | cons c front ih =>
      obtain ⟨other, undotted⟩ := not_or.1 (mt List.mem_cons.2 undotted)
      rw [List.cons_append, splitFrom, if_neg (by simpa using other), ih undotted]
      simp

/-- The name of a member is cut into the name of its module and its own. -/
theorem split_member (undottedOwner : owner.contains '.' = false)
    (undottedMember : member.contains '.' = false) :
    split (owner ++ "." ++ member) "." = [owner, member] := by
  have front : '.' ∉ owner.toList := by simpa [String.contains_char_eq] using undottedOwner
  have back : '.' ∉ member.toList := by simpa [String.contains_char_eq] using undottedMember
  have cut : splitFrom ['.'] [] (owner ++ "." ++ member).toList = [owner.toList, member.toList] := by
    rw [String.toList_append, String.toList_append, List.append_assoc, splitFrom_dot_append front]
    have last : splitFrom ['.'] [] member.toList = splitFrom ['.'] member.toList.reverse [] := by
      simpa using @splitFrom_dot_append [] member.toList [] back
    show splitFrom ['.'] _ ('.' :: member.toList) = _
    rw [splitFrom_dot_cons, last]
    simp [splitFrom]
  rw [split, if_neg (by decide)]
  show (splitFrom ['.'] [] (owner ++ "." ++ member).toList).map String.ofList = _
  rw [cut]
  simp

end Text

/-- The name of a member, behind that of its module. -/
def memberName (m x : String) : String := m ++ "." ++ x

theorem contains_memberName {m x : String} : (memberName m x).contains '.' = true := by
  simp [memberName, String.contains_char_eq]

/-! ### Members -/

namespace Scopes

variable {scopes : Scopes} {i : Nat} {x : String}

/-- The names that a module with this scope would have: those exported from it, or if there are none
    those bound in it. -/
def publicNames (scopes : Scopes) (i : Nat) : List String :=
  if (scopes.exportsOf i).isEmpty then scopes.localNames i else scopes.exportsOf i

/-- A name is exported from a scope, or bound in it if nothing is exported. -/
def Publishes (scopes : Scopes) (i : Nat) (x : String) : Prop :=
  x ∈ scopes.exportsOf i ∨ scopes.exportsOf i = [] ∧ x ∈ scopes.localNames i

theorem mem_publicNames : x ∈ scopes.publicNames i ↔ scopes.Publishes i x := by
  unfold publicNames Publishes
  cases scopes.exportsOf i <;> simp

end Scopes

namespace Evaluator

variable {scopes : Scopes} {i : Nat} {m x : String} {names : List String} {members : Assoc Value}
  {e : Error}

theorem get?_of_moduleMembers (ok : moduleMembers m scopes i names = .ok members) :
    (∀ x ∈ names, ∃ v, scopes.find? i x = some v) ∧
      ∀ x, Assoc.get? x members = if x ∈ names then scopes.find? i x else none := by
  induction names generalizing members with
  | nil =>
      cases ok
      simp [Assoc.get?]
  | cons name rest ih =>
      rw [moduleMembers] at ok
      cases found : scopes.find? i name with
      | none =>
          rw [found] at ok
          cases ok
      | some v =>
          rw [found] at ok
          cases others : moduleMembers m scopes i rest with
          | error e =>
              rw [others] at ok
              cases ok
          | ok made =>
              rw [others] at ok
              cases ok
              obtain ⟨bound, view⟩ := ih others
              refine ⟨?_, fun x => ?_⟩
              · exact List.forall_mem_cons.2 ⟨⟨v, found⟩, bound⟩
              · rw [Assoc.get?_put, view]
                by_cases same : name = x
                · subst same
                  simp [found]
                · simp [same, Ne.symm same]

theorem exists_moduleMembers (bound : ∀ x ∈ names, ∃ v, scopes.find? i x = some v) :
    ∃ members, moduleMembers m scopes i names = .ok members := by
  induction names with
  | nil => exact ⟨[], rfl⟩
  | cons name rest ih =>
      obtain ⟨⟨v, found⟩, bound⟩ := List.forall_mem_cons.1 bound
      obtain ⟨members, others⟩ := ih bound
      rw [moduleMembers, found, others]
      exact ⟨_, rfl⟩

/-- Finding the members fails for a name that is not bound only. -/
theorem moduleMembers_error (failed : moduleMembers m scopes i names = .error e) :
    ∃ x ∈ names, scopes.find? i x = none ∧ e = .undefinedMember m x := by
  induction names with
  | nil => cases failed
  | cons name rest ih =>
      rw [moduleMembers] at failed
      cases found : scopes.find? i name with
      | none =>
          rw [found] at failed
          cases failed
          exact ⟨name, List.mem_cons_self, found, rfl⟩
      | some v =>
          rw [found] at failed
          cases others : moduleMembers m scopes i rest with
          | error e =>
              rw [others] at failed
              cases failed
              obtain ⟨x, member, unbound, same⟩ := ih others
              exact ⟨x, List.mem_cons_of_mem name member, unbound, same⟩
          | ok made =>
              rw [others] at failed
              cases failed

/-- What is left of a definition when the body has been evaluated in the scope `inner`. -/
def finishModule (m : String) (scope inner : Nat) : Machine Value :=
  look (fun s => moduleMembers m s.scopes inner (s.scopes.publicNames inner)) >>= fun members =>
    Machine.ofExcept members >>= fun members =>
      change (fun s => { s with scopes := s.scopes.defineModule scope ⟨m, members⟩ }) >>= fun _ =>
        pure .nil

end Evaluator

/-- A definition of a module, as it is written. -/
def moduleDefinition (m : String) (body : List Form) : Form :=
  .list (.symbol "module" :: .symbol m :: body)

/-! ### Bodies -/

namespace World

variable {settings : Settings} {ev : Evaluator} {scope : Nat} {w u after : World} {form : Form}
  {forms : List Form} {values : List Value} {e : Error}

/-- The forms are evaluated one after the other up to one that fails. -/
inductive FailsInTurn (settings : Settings) (scope : Nat) :
    World → List Form → Error → World → Prop where
  | here {w after : World} {form : Form} {forms : List Form} {e : Error}
      (fails : w.Evaluates settings .deferred form scope (.error e) after) :
      FailsInTurn settings scope w (form :: forms) e after
  | later {w u after : World} {form : Form} {forms : List Form} {v : Value} {e : Error}
      (first : w.Evaluates settings .deferred form scope (.ok v) u)
      (rest : FailsInTurn settings scope u forms e after) :
      FailsInTurn settings scope w (form :: forms) e after

theorem runAll_cons :
    ev.runAll (form :: forms) scope = ev.eval form scope >>= fun _ => ev.runAll forms scope := by
  rw [runAll, fold_cons, Machine.bind_assoc]
  show (ev.eval form scope >>= fun _ => pure PUnit.unit) >>= _ = _
  rw [Machine.bind_assoc]
  rfl

theorem ends_runAll_iff :
    w.Ends (ev.runAll forms scope) (.ok ()) after ↔
      ∃ values, w.Ends (ev.evalAll forms scope) (.ok values) after := by
  induction forms generalizing w with
  | nil =>
      constructor
      · intro ends
        obtain ⟨-, rfl⟩ := ends.eq_of_done rfl
        exact ⟨[], ends_pure _ _⟩
      · rintro ⟨values, ends⟩
        obtain ⟨-, rfl⟩ := ends.eq_of_pure
        exact ends_pure _ ()
  | cons form forms ih =>
      simp only [runAll_cons, ends_evalAll_cons_iff, ends_bind_iff, ih]
      constructor
      · rintro ⟨v, u, first, rest, others⟩
        exact ⟨_, v, u, rest, first, others, rfl⟩
      · rintro ⟨-, v, u, rest, first, others, rfl⟩
        exact ⟨v, u, first, rest, others⟩

/-- The body of a module is evaluated form by form, and its values are forgotten. -/
theorem evaluatesInTurn_iff_ends_runAll :
    (∃ values, w.EvaluatesInTurn settings scope forms values after) ↔
      ∃ n, w.Ends ((ofSteps settings .deferred n).runAll forms scope) (.ok ()) after := by
  simp only [evaluatesInTurn_iff_ends, ends_runAll_iff]
  exact exists_comm

/-- There is only one way of evaluating forms in turn. -/
theorem EvaluatesInTurn.unique {values' : List Value}
    (first : w.EvaluatesInTurn settings scope forms values u)
    (second : w.EvaluatesInTurn settings scope forms values' after) :
    values = values' ∧ u = after := by
  obtain ⟨i, first⟩ := evaluatesInTurn_iff_ends.1 first
  obtain ⟨j, second⟩ := evaluatesInTurn_iff_ends.1 second
  obtain ⟨same, rfl⟩ := ((ofSteps_below (Nat.le_max_left i j)).evalAll first).unique
    ((ofSteps_below (Nat.le_max_right i j)).evalAll second)
  cases same
  exact ⟨rfl, rfl⟩

theorem Below.runAll {ev ev' : Evaluator} {outcome : Outcome Unit} (below : Below ev ev')
    (ends : w.Ends (ev.runAll forms scope) outcome after) :
    w.Ends (ev'.runAll forms scope) outcome after :=
  ends.approximated (Correspondence.Aligned.runAll below trivial False.elim)

theorem failsInTurn_iff_ends_runAll :
    w.FailsInTurn settings scope forms e after ↔
      ∃ n, w.Ends ((ofSteps settings .deferred n).runAll forms scope) (.error e) after := by
  constructor
  · intro inTurn
    induction inTurn with
    | here fails =>
        obtain ⟨n, fails⟩ := evaluates_iff_ends.1 fails
        refine ⟨n, ?_⟩
        rw [runAll_cons]
        exact fails.bind_error
    | later first _ ih =>
        obtain ⟨i, first⟩ := evaluates_iff_ends.1 first
        obtain ⟨j, rest⟩ := ih
        refine ⟨max i j, ?_⟩
        rw [runAll_cons]
        exact ((ofSteps_below (Nat.le_max_left i j)).eval first).bind
          (Below.runAll (ofSteps_below (Nat.le_max_right i j)) rest)
  · rintro ⟨n, ends⟩
    induction forms generalizing w with
    | nil => cases (ends.eq_of_done rfl).1
    | cons form forms ih =>
        rw [runAll_cons] at ends
        rcases ends.bind_cases with ⟨v, u, first, rest⟩ | ⟨e', same, fails⟩
        · exact .later (evaluates_iff_ends.2 ⟨n, first⟩) (ih rest)
        · cases same
          exact .here (evaluates_iff_ends.2 ⟨n, fails⟩)

/-! ### Isolation -/

/-- What a computation that writes `own` and new scopes only leaves of the others. -/
theorem Ends.intact {α : Type} {own : Nat} {m : Machine α} {outcome : Outcome α} {Q : α → α → Prop}
    (idle : w.Idle) (isolated : (isolation own w.state.scopes).Rel Q m m)
    (ends : w.Ends m outcome after) : Scopes.Intact own w.state.scopes after.state.scopes := by
  obtain ⟨-, rounds, ended⟩ := ends
  have states : (isolation own w.state.scopes).States w.state w.state := by
    refine Correspondence.States.refl ?_ ⟨Nat.le_refl _, fun _ _ _ => rfl⟩ False.elim
    rw [idle.jobs]
    simp
  have threads : List.Forall₂ (isolation own w.state.scopes).Threads w.threads w.threads := by
    rw [idle.threads]
    exact .nil
  obtain ⟨-, worlds⟩ := (isolated w.state w.state states).drive id rounds threads
  rw [ended] at worlds
  obtain ⟨futures, jobs, -, twins⟩ := worlds.states
  exact twins.intact

theorem ends_runAll_intact {n : Nat} {outcome : Outcome Unit} (idle : w.Idle)
    (ends : w.Ends ((ofSteps settings .deferred n).runAll forms scope) outcome after) :
    Scopes.Intact scope w.state.scopes after.state.scopes :=
  ends.intact idle ((Correspondence.aligned_ofSteps rfl .deferred n).runAll (Or.inl rfl) False.elim)

/-! ### Definitions -/

/-- The number that the next new scope gets. -/
abbrev nextScope (w : World) : Nat := w.state.scopes.size

/-- The world in which the body of a module is evaluated: with a new scope inside the given one. -/
def withInner (w : World) (scope : Nat) : World :=
  { w with state := { w.state with scopes := w.state.scopes.push { parent := some scope } } }

/-- The world after a definition of a module. -/
def withModule (w : World) (scope : Nat) (m : NamedModule) : World :=
  { w with state := { w.state with scopes := w.state.scopes.defineModule scope m } }

variable {m : String} {body : List Form} {v : Value} {inner : Nat} {outcome : Outcome Value}

theorem ends_finishModule_of_ok {members : Assoc Value}
    (found : moduleMembers m w.state.scopes inner (w.state.scopes.publicNames inner) = .ok members) :
    w.Ends (finishModule m scope inner) (.ok .nil) (w.withModule scope ⟨m, members⟩) := by
  refine ends_of_done ?_ (by simp)
  rw [finishModule, run_look_bind, found]
  rfl

theorem ends_finishModule_of_error
    (failed : moduleMembers m w.state.scopes inner (w.state.scopes.publicNames inner) = .error e) :
    w.Ends (finishModule m scope inner) (.error e) w := by
  refine ends_of_done (s := w.state) ?_ (by simp)
  rw [finishModule, run_look_bind, failed]
  rfl

theorem moduleForm_of_undotted (undotted : m.contains '.' = false) :
    ev.moduleForm (.symbol m) body scope =
      newScope scope >>= fun inner => ev.runAll body inner >>= fun _ =>
        finishModule m scope inner := by
  show (if m.contains '.' = true then _ else _) = _
  rw [if_neg (by simp [undotted])]
  rfl

theorem moduleForm_of_dotted (dotted : m.contains '.' = true) :
    ev.moduleForm (.symbol m) body scope =
      fail (.invalidArguments "module" "module names cannot contain '.'") := by
  show (if m.contains '.' = true then _ else _) = _
  rw [if_pos dotted]

/-- The body is evaluated in a scope of its own. -/
theorem ends_moduleForm_iff (undotted : m.contains '.' = false) :
    w.Ends (ev.moduleForm (.symbol m) body scope) outcome after ↔
      (w.withInner scope).Ends (ev.runAll body w.nextScope >>= fun _ =>
        finishModule m scope w.nextScope) outcome after := by
  rw [moduleForm_of_undotted undotted]
  exact Iff.rfl

theorem moduleForm_gives_plain (ev : Evaluator) (m : String) (body : List Form) (scope : Nat) :
    (ev.moduleForm (.symbol m) body scope).Gives Value.IsPlain := by
  cases dotted : m.contains '.' with
  | true =>
      rw [moduleForm_of_dotted dotted]
      exact fun _ _ ok => nomatch ok
  | false =>
      rw [moduleForm_of_undotted dotted]
      refine (Gives.any _).bind fun inner _ => (Gives.any _).bind fun _ _ => ?_
      refine (Gives.any _).bind fun members _ => (Gives.any _).bind fun members _ => ?_
      exact (Gives.any _).bind fun _ _ => Gives.pure nofun

theorem runForm_defineModule (n : Nat) :
    (ofSteps settings .deferred n).runForm .defineModule (.symbol m :: body) scope =
      (ofSteps settings .deferred n).moduleForm (.symbol m) body scope := by
  have counted : ArgCount.check "module" (.atLeast 1) (body.length + 1) = .ok () := by
    simp [ArgCount.check, ArgCount.allows]
  show (Machine.ofExcept (ArgCount.check "module" (.atLeast 1) (body.length + 1)) >>= fun _ => _) = _
  rw [counted]
  rfl

variable (offers : w.Offers settings .defineModule)
include offers

/-- A definition succeeds exactly if the body does, and then every published name has a value. -/
theorem evaluates_moduleDefinition_iff :
    w.Evaluates settings .deferred (moduleDefinition m body) scope (.ok v) after ↔
      m.contains '.' = false ∧ v = .nil ∧ ∃ values u members,
        (w.withInner scope).EvaluatesInTurn settings w.nextScope body values u ∧
        moduleMembers m u.state.scopes w.nextScope
          (u.state.scopes.publicNames w.nextScope) = .ok members ∧
        after = u.withModule scope ⟨m, members⟩ := by
  have runs : w.Evaluates settings .deferred (moduleDefinition m body) scope (.ok v) after ↔
      ∃ n, w.Ends ((ofSteps settings .deferred n).moduleForm (.symbol m) body scope) (.ok v) after :=
    evaluates_form_iff offers runForm_defineModule fun n => moduleForm_gives_plain _ m body scope
  refine runs.trans ⟨?_, ?_⟩
  · rintro ⟨n, ends⟩
    cases dotted : m.contains '.' with
    | true =>
        rw [moduleForm_of_dotted dotted] at ends
        cases (ends.eq_of_done rfl).1
    | false =>
        obtain ⟨⟨⟩, u, ran, finished⟩ := ((ends_moduleForm_iff dotted).1 ends).of_bind
        obtain ⟨values, inTurn⟩ := evaluatesInTurn_iff_ends_runAll.2 ⟨n, ran⟩
        cases found : moduleMembers m u.state.scopes w.nextScope
            (u.state.scopes.publicNames w.nextScope) with
        | ok members =>
            obtain ⟨same, rfl⟩ := finished.unique (ends_finishModule_of_ok found)
            cases same
            exact ⟨rfl, rfl, values, u, members, inTurn, found, rfl⟩
        | error e => cases (finished.unique (ends_finishModule_of_error found)).1
  · rintro ⟨undotted, rfl, values, u, members, inTurn, found, rfl⟩
    obtain ⟨n, ran⟩ := evaluatesInTurn_iff_ends_runAll.1 ⟨values, inTurn⟩
    exact ⟨n, (ends_moduleForm_iff undotted).2 (ran.bind (ends_finishModule_of_ok found))⟩

/-- How a definition fails: its name has a point in it, its body fails, or a published name has no
    value. -/
theorem evaluates_moduleDefinition_error
    (fails : w.Evaluates settings .deferred (moduleDefinition m body) scope (.error e) after) :
    after = w ∨ (∃ bare, (w.withInner scope).FailsInTurn settings w.nextScope body bare after) ∨
      ∃ values, (w.withInner scope).EvaluatesInTurn settings w.nextScope body values after := by
  obtain ⟨n, bare, -, ends⟩ := exists_error_of_evaluates_form offers
    (fun n => runForm_defineModule n) (fun n => moduleForm_gives_plain _ m body scope) fails
  cases dotted : m.contains '.' with
  | true =>
      rw [moduleForm_of_dotted dotted] at ends
      exact .inl (ends.eq_of_done rfl).2
  | false =>
      rcases ((ends_moduleForm_iff dotted).1 ends).bind_cases with
        ⟨⟨⟩, u, ran, finished⟩ | ⟨e', same, failed⟩
      · refine .inr (.inr ?_)
        cases found : moduleMembers m u.state.scopes w.nextScope
            (u.state.scopes.publicNames w.nextScope) with
        | ok members => cases (finished.unique (ends_finishModule_of_ok found)).1
        | error e =>
            obtain ⟨-, rfl⟩ := finished.unique (ends_finishModule_of_error found)
            exact evaluatesInTurn_iff_ends_runAll.2 ⟨n, ran⟩
      · cases same
        exact .inr (.inl ⟨bare, failsInTurn_iff_ends_runAll.2 ⟨n, failed⟩⟩)

/-- A body that fails makes the definition fail. -/
theorem evaluates_moduleDefinition_of_body (undotted : m.contains '.' = false)
    (fails : (w.withInner scope).FailsInTurn settings w.nextScope body e after) :
    ∃ e', w.Evaluates settings .deferred (moduleDefinition m body) scope (.error e') after ∧
      e'.root = e.root := by
  obtain ⟨n, failed⟩ := failsInTurn_iff_ends_runAll.1 fails
  exact evaluates_form_of_error offers (fun n => runForm_defineModule n)
    ((ends_moduleForm_iff undotted).2 failed.bind_error)

/-- A published name without a value makes the definition fail. -/
theorem evaluates_moduleDefinition_of_unbound (undotted : m.contains '.' = false)
    (inTurn : (w.withInner scope).EvaluatesInTurn settings w.nextScope body values u)
    {x : String} (published : u.state.scopes.Publishes w.nextScope x)
    (unbound : u.state.scopes.find? w.nextScope x = none) :
    ∃ e' y, w.Evaluates settings .deferred (moduleDefinition m body) scope (.error e') u ∧
      u.state.scopes.Publishes w.nextScope y ∧
      u.state.scopes.find? w.nextScope y = none ∧ e'.root = .undefinedMember m y := by
  obtain ⟨n, ran⟩ := evaluatesInTurn_iff_ends_runAll.1 ⟨values, inTurn⟩
  cases found : moduleMembers m u.state.scopes w.nextScope
      (u.state.scopes.publicNames w.nextScope) with
  | ok members =>
      obtain ⟨v, bound⟩ := (get?_of_moduleMembers found).1 x (Scopes.mem_publicNames.2 published)
      rw [unbound] at bound
      cases bound
  | error e =>
      obtain ⟨y, member, missing, rfl⟩ := moduleMembers_error found
      obtain ⟨e', evaluates, root⟩ := evaluates_form_of_error offers (fun n => runForm_defineModule n)
        ((ends_moduleForm_iff undotted).2 (ran.bind (ends_finishModule_of_error found)))
      exact ⟨e', y, evaluates, Scopes.mem_publicNames.1 member, missing, root⟩

end World

/-! ### What is left of a definition -/

theorem Scopes.Intact.at?_push {scopes later : Scopes} {new : Scope} {j : Nat}
    (intact : Scopes.Intact scopes.size (scopes.push new) later) (existed : j < scopes.size) :
    later.at? j = scopes.at? j := by
  rw [intact.2 j (by rw [Array.size_push]; omega) (by omega), Scopes.at?, Scopes.at?,
    Array.getElem?_push_lt existed, Array.getElem?_eq_getElem existed]

/-- Defining a module changes the modules of its scope, and nothing else. -/
theorem Scopes.at?_defineModule {scopes : Scopes} {m : NamedModule} {i j : Nat} :
    (scopes.defineModule i m).at? j =
      if i = j then (scopes.at? j).map fun scope =>
        { scope with modules := scope.modules.put m.name m }
      else scopes.at? j := by
  rw [Scopes.defineModule, Scopes.at?, Array.getElem?_modify]
  rfl

/-- A module that is defined is found under its name. -/
theorem Scopes.module?_defineModule {scopes : Scopes} {m : NamedModule} {i : Nat}
    (existing : i < scopes.size) : (scopes.defineModule i m).module? i m.name = some m := by
  have found : scopes.at? i = some scopes[i] := Array.getElem?_eq_getElem existing
  rw [Scopes.module?, Scopes.search, Scopes.searchFrom, Scopes.at?_defineModule, if_pos rfl, found,
    Option.map_some]
  simp only [Assoc.get?_put, if_true]

namespace World

variable {settings : Settings} {scope : Nat} {w u after : World} {m x : String} {body : List Form}
  {members : Assoc Value} {v : Value} {values : List Value} {e : Error}

/-- What looking a name up in a scope comes to, without any effect. -/
def Resolves (w : World) (scope : Nat) (name : String) (outcome : Outcome Value) : Prop :=
  ∀ ev : Evaluator, ev.resolve name scope w.state = .done outcome w.state

section

variable (existing : scope < u.nextScope) (named : m ≠ "") (undotted : m.contains '.' = false)
  (nonempty : x ≠ "") (undottedMember : x.contains '.' = false)
include existing named undotted nonempty undottedMember

/-- A name with a point is looked for among the members after a definition of its module. -/
theorem resolve_memberName (ev : Evaluator) :
    ev.resolve (memberName m x) scope (u.withModule scope ⟨m, members⟩).state =
      (match Assoc.get? x members with
        | some v => pure v
        | none => fail (.undefinedMember m x) : Machine Value)
      (u.withModule scope ⟨m, members⟩).state := by
  have parts : Text.split (memberName m x) "." = [m, x] := Text.split_member undotted undottedMember
  have sides : ¬ (m.isEmpty || x.isEmpty) = true := by simp [named, nonempty]
  have reaches : (u.withModule scope ⟨m, members⟩).state.scopes.module? scope m = some ⟨m, members⟩ :=
    Scopes.module?_defineModule (m := ⟨m, members⟩) existing
  rw [resolve, if_pos contains_memberName, resolveMember, parts]
  show (if (m.isEmpty || x.isEmpty) = true then _ else _ : Machine Value) _ = _
  cases known : Assoc.get? x members with
  | none =>
      rw [if_neg sides, run_look_bind, reaches]
      simp only [known]
  | some v =>
      rw [if_neg sides, run_look_bind, reaches]
      simp only [known]

/-- A member of a module resolves to its value. -/
theorem resolves_member (found : Assoc.get? x members = some v) :
    (u.withModule scope ⟨m, members⟩).Resolves scope (memberName m x) (.ok v) := by
  intro ev
  rw [resolve_memberName existing named undotted nonempty undottedMember ev, found]
  rfl

/-- Any other name in the module is reported as undefined. -/
theorem resolves_undefined (missing : Assoc.get? x members = none) :
    (u.withModule scope ⟨m, members⟩).Resolves scope (memberName m x)
      (.error (.undefinedMember m x)) := by
  intro ev
  rw [resolve_memberName existing named undotted nonempty undottedMember ev, missing]
  rfl

end

/-- What a body leaves of the scopes that existed before. -/
theorem intact_of_body (idle : w.Idle) {outcome : Outcome Unit} {n : Nat}
    (ran : (w.withInner scope).Ends ((ofSteps settings .deferred n).runAll body w.nextScope) outcome
      after) :
    w.nextScope ≤ after.nextScope ∧
      ∀ j < w.nextScope, after.state.scopes.at? j = w.state.scopes.at? j := by
  have intact : Scopes.Intact w.nextScope (w.withInner scope).state.scopes after.state.scopes :=
    ends_runAll_intact ⟨idle.threads, idle.jobs⟩ ran
  refine ⟨?_, fun j existed => intact.at?_push existed⟩
  have grows := intact.1
  rw [withInner, Array.size_push] at grows
  exact Nat.le_of_succ_le grows

end World

/-- A definition of a module whose name is not empty is exact and atomic. If it succeeds, its body has
    been evaluated in a scope of its own, and all that has changed in the scopes that existed before
    is that the given one has the module: its members are the names that the body's scope publishes,
    with their values at the end of the body, and no others. If it fails, nothing has changed in them.
    It fails if the body does or if a published name has no value, and succeeds otherwise. -/
theorem module_definition_exact {settings : Settings} {w : World} {scope : Nat} (idle : w.Idle)
    (existing : scope < w.nextScope) (offers : w.Offers settings .defineModule) {m : String}
    (named : m ≠ "") (body : List Form) :
    (∀ v after, w.Evaluates settings .deferred (moduleDefinition m body) scope (.ok v) after →
      ∃ values u members,
        (w.withInner scope).EvaluatesInTurn settings w.nextScope body values u ∧
        after.state.scopes.at? scope = (w.state.scopes.at? scope).map (fun s =>
          { s with modules := s.modules.put m ⟨m, members⟩ }) ∧
        (∀ j < w.nextScope, j ≠ scope → after.state.scopes.at? j = w.state.scopes.at? j) ∧
        ∀ x, x ≠ "" → x.contains '.' = false →
          (u.state.scopes.Publishes w.nextScope x → ∃ value,
            u.state.scopes.find? w.nextScope x = some value ∧
            after.Resolves scope (memberName m x) (.ok value)) ∧
          (¬ u.state.scopes.Publishes w.nextScope x →
            after.Resolves scope (memberName m x) (.error (.undefinedMember m x)))) ∧
    (∀ e after, w.Evaluates settings .deferred (moduleDefinition m body) scope (.error e) after →
      ∀ j < w.nextScope, after.state.scopes.at? j = w.state.scopes.at? j) ∧
    (m.contains '.' = false →
      (∀ e after, (w.withInner scope).FailsInTurn settings w.nextScope body e after →
        ∃ e', w.Evaluates settings .deferred (moduleDefinition m body) scope (.error e') after ∧
          e'.root = e.root) ∧
      ∀ values u, (w.withInner scope).EvaluatesInTurn settings w.nextScope body values u →
        ((∀ x, u.state.scopes.Publishes w.nextScope x →
            ∃ value, u.state.scopes.find? w.nextScope x = some value) →
          ∃ after, w.Evaluates settings .deferred (moduleDefinition m body) scope (.ok .nil) after) ∧
        ∀ x, u.state.scopes.Publishes w.nextScope x → u.state.scopes.find? w.nextScope x = none →
          ∃ e y, w.Evaluates settings .deferred (moduleDefinition m body) scope (.error e) u ∧
            u.state.scopes.Publishes w.nextScope y ∧ u.state.scopes.find? w.nextScope y = none ∧
            e.root = .undefinedMember m y) := by
  refine ⟨fun v after evaluates => ?_, fun e after fails => ?_, fun undotted => ⟨?_, ?_⟩⟩
  · obtain ⟨undotted, rfl, values, u, members, inTurn, found, rfl⟩ :=
      (evaluates_moduleDefinition_iff offers).1 evaluates
    obtain ⟨n, ran⟩ := evaluatesInTurn_iff_ends_runAll.1 ⟨values, inTurn⟩
    obtain ⟨grows, intact⟩ := intact_of_body idle ran
    obtain ⟨bound, view⟩ := get?_of_moduleMembers found
    refine ⟨values, u, members, inTurn, ?_, fun j existed other => ?_, fun x nonempty plain => ?_⟩
    · rw [withModule, Scopes.at?_defineModule, if_pos rfl, intact scope existing]
    · rw [withModule, Scopes.at?_defineModule, if_neg (Ne.symm other), intact j existed]
    · have inside : scope < u.nextScope := Nat.lt_of_lt_of_le existing grows
      refine ⟨fun published => ?_, fun unpublished => ?_⟩
      · have member := Scopes.mem_publicNames.2 published
        obtain ⟨value, has⟩ := bound x member
        refine ⟨value, has, resolves_member inside named undotted nonempty plain ?_⟩
        rw [view, if_pos member, has]
      · refine resolves_undefined inside named undotted nonempty plain ?_
        rw [view, if_neg fun member => unpublished (Scopes.mem_publicNames.1 member)]
  · rcases evaluates_moduleDefinition_error offers fails with rfl | ⟨bare, failed⟩ | ⟨values, inTurn⟩
    · exact fun j existed => rfl
    · obtain ⟨n, ran⟩ := failsInTurn_iff_ends_runAll.1 failed
      exact (intact_of_body idle ran).2
    · obtain ⟨n, ran⟩ := evaluatesInTurn_iff_ends_runAll.1 ⟨values, inTurn⟩
      exact (intact_of_body idle ran).2
  · exact fun e after fails => evaluates_moduleDefinition_of_body offers undotted fails
  · intro values u inTurn
    refine ⟨fun bound => ?_, fun x published unbound => ?_⟩
    · obtain ⟨members, found⟩ := exists_moduleMembers (m := m) fun x member =>
        bound x (Scopes.mem_publicNames.1 member)
      exact ⟨_, (evaluates_moduleDefinition_iff offers).2
        ⟨undotted, rfl, values, u, members, inTurn, found, rfl⟩⟩
    · exact evaluates_moduleDefinition_of_unbound offers undotted inTurn published unbound

/-- A world with `module`, `export` and `def`, and with these scopes inside a scope that binds `a`. -/
def withModules (inner : List Scope) : World where
  state := {
    managers := #[{ registry := ⟨[
      ("def", .ofBuiltin "core" (.form .define)),
      ("export", .ofBuiltin "module" (.form .publish)),
      ("module", .ofBuiltin "module" (.form .defineModule))]⟩ }]
    scopes := ({ bindings := [("a", .text "outside")] } :: inner).toArray }

/-- A body that binds `a` and `b` and exports `a`. -/
def exportingBody : List Form :=
  [.list [.symbol "def", .symbol "a", .text "inside"],
    .list [.symbol "def", .symbol "b", .text "hidden"], .list [.symbol "export", .symbol "a"]]

/-- The scope of the body at its end. -/
def exportingScope : Scope where
  bindings := [("a", .text "inside"), ("b", .text "hidden")]
  exports := ["a"]
  parent := some 0

theorem evaluatesInTurn_exportingBody :
    ((withModules []).withInner 0).EvaluatesInTurn {} 1 exportingBody
      [.text "inside", .text "hidden", .nil] (withModules [exportingScope]) := by
  let first : World := withModules [{ bindings := [("a", .text "inside")], parent := some 0 }]
  let second : World := withModules [{ exportingScope with exports := [] }]
  have bindsA : ((withModules []).withInner 0).Evaluates {} .deferred
      (.list [.symbol "def", .symbol "a", .text "inside"]) 1 (.ok (.text "inside")) first := by
    refine evaluates_of_done 5 ?_
    rfl
  have bindsB : first.Evaluates {} .deferred (.list [.symbol "def", .symbol "b", .text "hidden"]) 1
      (.ok (.text "hidden")) second := by
    refine evaluates_of_done 5 ?_
    rfl
  have exports : second.Evaluates {} .deferred (.list [.symbol "export", .symbol "a"]) 1 (.ok .nil)
      (withModules [exportingScope]) := by
    refine evaluates_of_done 5 ?_
    rfl
  exact .cons bindsA (.cons bindsB (.cons exports (.nil _)))

theorem module_definition_exact_exporting :
    (withModules []).Idle ∧ (withModules []).Offers {} .defineModule ∧
    ∃ after,
      (withModules []).Evaluates {} .deferred (moduleDefinition "m" exportingBody) 0 (.ok .nil) after ∧
      after.Resolves 0 (memberName "m" "a") (.ok (.text "inside")) ∧
      after.Resolves 0 (memberName "m" "b") (.error (.undefinedMember "m" "b")) ∧
      (after.state.scopes.at? 0).map Scope.bindings = some [("a", .text "outside")] := by
  have idle : (withModules []).Idle := ⟨rfl, rfl⟩
  have offers : (withModules []).Offers {} .defineModule := ⟨_, rfl, rfl⟩
  have plain (name : String) (undotted : '.' ∉ name.toList) : name.contains '.' = false := by
    simpa [String.contains_char_eq] using undotted
  obtain ⟨succeeds, -, runs⟩ := @module_definition_exact {} (withModules []) 0 idle (by decide) offers
    "m" (by decide) exportingBody
  have published (x : String) :
      (withModules [exportingScope]).state.scopes.Publishes 1 x ↔ x = "a" := by
    simp [Scopes.Publishes, Scopes.exportsOf, Scopes.at?, withModules, exportingScope]
  have value : (withModules [exportingScope]).state.scopes.find? 1 "a" = some (.text "inside") := rfl
  have bound : ∀ x, (withModules [exportingScope]).state.scopes.Publishes 1 x →
      ∃ v, (withModules [exportingScope]).state.scopes.find? 1 x = some v := by
    rintro x is
    rw [(published x).1 is]
    exact ⟨_, value⟩
  obtain ⟨after, evaluates⟩ :=
    ((runs (plain "m" (by simp))).2 _ _ evaluatesInTurn_exportingBody).1 bound
  obtain ⟨values, u, members, inTurn, scope, -, resolves⟩ := succeeds _ _ evaluates
  obtain ⟨rfl, rfl⟩ := evaluatesInTurn_exportingBody.unique inTurn
  refine ⟨idle, offers, after, evaluates, ?_, ?_, ?_⟩
  · obtain ⟨v, same, resolves⟩ :=
      (resolves "a" (by decide) (plain "a" (by simp))).1 ((published "a").2 rfl)
    cases value.symm.trans same
    exact resolves
  · exact (resolves "b" (by decide) (plain "b" (by simp))).2
      fun is => absurd ((published "b").1 is) (by decide)
  · rw [scope]
    rfl

/-- A module with an empty name is defined all right, but its members cannot be reached: their names
    would start with the point. -/
theorem module_definition_unnamed :
    let after : World := withModules [exportingScope]
    (withModules []).Evaluates {} .deferred (moduleDefinition "" exportingBody) 0 (.ok .nil)
      (after.withModule 0 ⟨"", [("a", .text "inside")]⟩) ∧
    (after.withModule 0 ⟨"", [("a", .text "inside")]⟩).Evaluates {} .deferred
      (.symbol (memberName "" "a")) 0 (.error (.invalidModuleAccess ".a"))
      (after.withModule 0 ⟨"", [("a", .text "inside")]⟩) := by
  intro after
  have offers : (withModules []).Offers {} .defineModule := ⟨_, rfl, rfl⟩
  have members : Evaluator.moduleMembers "" after.state.scopes 1 (after.state.scopes.publicNames 1) =
      .ok [("a", .text "inside")] := rfl
  constructor
  · exact (evaluates_moduleDefinition_iff offers).2
      ⟨by simp [String.contains_char_eq], rfl, _, after, _, evaluatesInTurn_exportingBody, members, rfl⟩
  · have dotted : (memberName "" "a").contains '.' = true := by
      simp [memberName, String.contains_char_eq]
    have parts : Text.split (memberName "" "a") "." = ["", "a"] :=
      Text.split_member (by simp [String.contains_char_eq]) (by simp [String.contains_char_eq])
    refine evaluates_iff_ends.2 ⟨1, ends_of_done ?_ (by simp)⟩
    rw [eval_symbol, Evaluator.resolve, if_pos dotted, Evaluator.resolveMember, parts]
    rfl

end PluginLisp
