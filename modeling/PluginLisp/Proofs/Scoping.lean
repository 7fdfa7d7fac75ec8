import PluginLisp.Proofs.Data.Entries
import PluginLisp.Proofs.Data.Scopes

/-!
Lexical scoping. Whatever scopes are made, inside one another or on their own, shared under several
handles and written to in any order, going outward from a scope always comes to an end and always along
the same scopes; a name comes to what has been written last for it in the nearest scope that has it; and
a write is seen from exactly those scopes to which no nearer one hides it.

Main results: `Namespace.scoped_after?`, `scopes_are_lexical`.
-/

namespace PluginLisp

namespace Scoping

/-! ### Operations on scopes -/

/-- What is done to one scope. -/
inductive Change where
  | set (name : String) (value : Value)
  | defineModule (module : NamedModule)
  | markExported (name : String)

/-- What is done with scopes. They are in hand by handles, numbered in the order they came; several
    handles may be of one scope. -/
inductive Operation where
  /-- A scope on its own. -/
  | create
  /-- A scope inside that of a handle. -/
  | child (handle : Nat)
  /-- Another handle of the same scope. -/
  | share (handle : Nat)
  | change (handle : Nat) (change : Change)

/-- The scopes there are, and the scope of each handle. -/
structure Environments where
  scopes : Scopes := #[]
  handles : List Nat := []

def Change.apply : Change → Scopes → Nat → Scopes
  | .set name v, scopes, i => scopes.set i name v
  | .defineModule m, scopes, i => scopes.defineModule i m
  | .markExported name, scopes, i => scopes.markExported i name

/-- The environments after an operation; there are none if its handle is not in hand. -/
def Operation.perform? (e : Environments) : Operation → Option Environments
  | .create => some ⟨e.scopes.add none, e.handles ++ [e.scopes.size]⟩
  | .child h => do
      let i ← e.handles[h]?
      return ⟨e.scopes.add (some i), e.handles ++ [e.scopes.size]⟩
  | .share h => do
      let i ← e.handles[h]?
      return { e with handles := e.handles ++ [i] }
  | .change h c => do
      let i ← e.handles[h]?
      return { e with scopes := c.apply e.scopes i }

/-- The environments after a history of operations, the latest first. -/
def after? : List Operation → Option Environments
  | [] => some {}
  | latest :: earlier => (after? earlier).bind latest.perform?

/-- The change as one of a scope. -/
def Change.edit : Change → Scope → Scope
  | .set name v, scope => { scope with bindings := scope.bindings.put name v }
  | .defineModule m, scope => { scope with modules := scope.modules.put m.name m }
  | .markExported name, scope =>
      if scope.exports.contains name then scope
      else { scope with exports := scope.exports ++ [name] }

/-- A change edits one scope. -/
theorem Change.apply_eq (c : Change) (scopes : Scopes) (i : Nat) :
    c.apply scopes i = scopes.modify i c.edit := by
  cases c <;> rfl

@[simp] theorem Change.edit_parent (c : Change) (scope : Scope) :
    (c.edit scope).parent = scope.parent := by
  cases c with
  | set | defineModule => rfl
  | markExported name =>
      rw [edit]
      split <;> rfl

/-- The value that a change writes under a name. -/
def Change.value? (name : String) : Change → Option Value
  | .set other v => if other = name then some v else none
  | _ => none

/-- The module that a change writes under a name. -/
def Change.module? (name : String) : Change → Option NamedModule
  | .defineModule m => if m.name = name then some m else none
  | _ => none

theorem Change.get?_edit_bindings (c : Change) (scope : Scope) (name : String) :
    Assoc.get? name (c.edit scope).bindings = (c.value? name).or (Assoc.get? name scope.bindings) := by
  cases c with
  | set other v =>
      simp only [edit, value?, Assoc.get?_put]
      split <;> rfl
  | defineModule => rfl
  | markExported other =>
      rw [edit]
      split <;> rfl

theorem Change.get?_edit_modules (c : Change) (scope : Scope) (name : String) :
    Assoc.get? name (c.edit scope).modules = (c.module? name).or (Assoc.get? name scope.modules) := by
  cases c with
  | set => rfl
  | defineModule m =>
      simp only [edit, module?, Assoc.get?_put]
      split <;> rfl
  | markExported other =>
      rw [edit]
      split <;> rfl

/-! ### Names -/

/-- One of the kinds of things that scopes have under names. -/
structure Namespace (α : Type) where
  /-- What a scope itself has under a name. -/
  look : String → Scope → Option α
  /-- What a change writes under a name. -/
  written? : String → Change → Option α
  /-- What a name comes to in a scope. -/
  find : Scopes → Nat → String → Option α
  find_eq : ∀ scopes i name, find scopes i name = scopes.search i (look name)
  look_edit : ∀ name (c : Change) scope,
    look name (c.edit scope) = (written? name c).or (look name scope)
  look_new : ∀ name parent, look name { parent } = none

def bindings : Namespace Value where
  look name scope := Assoc.get? name scope.bindings
  written? := Change.value?
  find := Scopes.find?
  find_eq _ _ _ := rfl
  look_edit name c scope := c.get?_edit_bindings scope name
  look_new _ _ := rfl

def modules : Namespace NamedModule where
  look name scope := Assoc.get? name scope.modules
  written? := Change.module?
  find := Scopes.module?
  find_eq _ _ _ := rfl
  look_edit name c scope := c.get?_edit_modules scope name
  look_new _ _ := rfl

/-- What an operation writes under a name in a scope, with the handles there are. -/
def Namespace.writtenBy? {α : Type} (ns : Namespace α) (handles : List Nat) (i : Nat) (name : String) :
    Operation → Option α
  | .change h c => if handles[h]? = some i then ns.written? name c else none
  | _ => none

/-- What a history has written last under a name in a scope, through whatever handle. -/
def Namespace.last? {α : Type} (ns : Namespace α) (handles : List Nat) (history : List Operation)
    (name : String) (i : Nat) : Option α :=
  history.findSome? (ns.writtenBy? handles i name)

/-- The scope is the first of a chain with an answer. -/
def Nearest {α : Type} (answer : Nat → Option α) (chain : List Nat) (s : Nat) : Prop :=
  ∃ inner outer, chain = inner ++ s :: outer ∧ answer s ≠ none ∧ ∀ j ∈ inner, answer j = none

section

variable {α : Type} {answer later : Nat → Option α} {chain : List Nat} {s : Nat}

theorem Nearest.findSome?_eq (nearest : Nearest answer chain s) :
    chain.findSome? answer = answer s := by
  obtain ⟨inner, outer, rfl, found, hidden⟩ := nearest
  rw [List.findSome?_append, List.findSome?_eq_none_iff.2 hidden, Option.none_or, List.findSome?_cons]
  cases there : answer s with
  | none => exact absurd there found
  | some => rfl

/-- If answers differ in one scope only, a chain comes to another answer only if that scope is the
    nearest with one. -/
theorem nearest_of_findSome?_ne (here : later s ≠ none)
    (elsewhere : ∀ j ∈ chain, j ≠ s → later j = answer j)
    (changed : chain.findSome? later ≠ chain.findSome? answer) : Nearest later chain s := by
  -- Along the chain up to `s`: an answer on the way would be the one there was before.
  induction chain with
  | nil => exact absurd rfl changed
  | cons j outward ih =>
      by_cases at_s : j = s
      · exact ⟨[], outward, by rw [at_s]; rfl, here, by simp⟩
      · have same := elsewhere j List.mem_cons_self at_s
        rw [List.findSome?_cons, List.findSome?_cons, same] at changed
        cases there : answer j with
        | some a =>
            rw [there] at changed
            exact absurd rfl changed
        | none =>
            rw [there] at changed
            obtain ⟨inner, outer, rfl, found, hidden⟩ :=
              ih (fun k member => elsewhere k (List.mem_cons_of_mem _ member)) changed
            refine ⟨j :: inner, outer, rfl, found, fun k member => ?_⟩
            rcases List.mem_cons.1 member with rfl | member
            · exact same.trans there
            · exact hidden k member

end

/-! ### One operation -/

section

variable {e e' : Environments} {op : Operation} {history : List Operation}

/-- What can happen to the environments: a scope is made and gets a handle, a scope gets another handle,
    or one scope is changed. -/
theorem Operation.perform?_cases (applied : op.perform? e = some e') :
    (∃ parent, (∀ p, parent = some p → p ∈ e.handles) ∧ (∀ h c, op ≠ .change h c) ∧
      e' = ⟨e.scopes.add parent, e.handles ++ [e.scopes.size]⟩) ∨
    (∃ i ∈ e.handles, (∀ h c, op ≠ .change h c) ∧ e' = { e with handles := e.handles ++ [i] }) ∨
    ∃ h c i, op = .change h c ∧ e.handles[h]? = some i ∧
      e' = { e with scopes := e.scopes.modify i c.edit } := by
  cases op with
  | create =>
      cases applied
      exact .inl ⟨none, by simp, by simp, rfl⟩
  | child h =>
      obtain ⟨i, held, made⟩ := Option.bind_eq_some_iff.1 applied
      cases made
      refine .inl ⟨some i, fun p same => ?_, by simp, rfl⟩
      cases same
      exact List.mem_of_getElem? held
  | share h =>
      obtain ⟨i, held, shared⟩ := Option.bind_eq_some_iff.1 applied
      cases shared
      exact .inr (.inl ⟨i, List.mem_of_getElem? held, by simp, rfl⟩)
  | change h c =>
      obtain ⟨i, held, changed⟩ := Option.bind_eq_some_iff.1 applied
      cases changed
      exact .inr (.inr ⟨h, c, i, rfl, held, by rw [c.apply_eq]⟩)

/-- The environments that a history leads to: each handle is of a scope that exists, each scope is
    inside an older one, and the history speaks of handles in hand only. -/
structure Environments.WellFormed (e : Environments) (history : List Operation) : Prop where
  existing : ∀ i ∈ e.handles, i < e.scopes.size
  ordered : e.scopes.Ordered
  known : ∀ h c, .change h c ∈ history → h < e.handles.length

/-- A scope once made keeps the scope around it. -/
theorem Operation.parent?_eq (applied : op.perform? e = some e') {i : Nat}
    (existing : i < e.scopes.size) :
    e'.scopes.parent? i = e.scopes.parent? i := by
  obtain ⟨parent, -, -, rfl⟩ | ⟨_, -, -, rfl⟩ | ⟨_, c, j, -, -, rfl⟩ := op.perform?_cases applied
  · exact Scopes.parent?_add.trans (if_neg (Nat.ne_of_lt existing))
  · rfl
  · exact Scopes.parent?_modify c.edit_parent

/-- Handles are only added. -/
theorem Operation.handles_prefix (applied : op.perform? e = some e') : e.handles <+: e'.handles := by
  obtain ⟨_, -, -, rfl⟩ | ⟨_, -, -, rfl⟩ | ⟨_, _, _, -, -, rfl⟩ := op.perform?_cases applied
  · exact List.prefix_append _ _
  · exact List.prefix_append _ _
  · exact List.prefix_refl _

theorem Operation.handle_lt {h : Nat} {c : Change} (applied : (change h c).perform? e = some e') :
    h < e.handles.length := by
  obtain ⟨i, held, -⟩ := Option.bind_eq_some_iff.1 applied
  exact (List.getElem?_eq_some_iff.1 held).1

/-- An operation keeps the scopes well formed. -/
theorem Environments.WellFormed.perform? (formed : e.WellFormed history)
    (applied : op.perform? e = some e') : e'.WellFormed (op :: history) := by
  have known : ∀ h c, .change h c ∈ op :: history → h < e'.handles.length := by
    intro h c member
    refine Nat.lt_of_lt_of_le ?_ (op.handles_prefix applied).length_le
    rcases List.mem_cons.1 member with rfl | earlier
    · exact Operation.handle_lt applied
    · exact formed.known h c earlier
  obtain ⟨parent, held, -, rfl⟩ | ⟨i, held, -, rfl⟩ | ⟨h, c, i, -, held, rfl⟩ :=
    op.perform?_cases applied
  · have grown : (e.scopes.add parent).size = e.scopes.size + 1 := Array.size_push _
    refine ⟨fun i member => ?_, formed.ordered.add fun p around => formed.existing p (held p around),
      known⟩
    show i < (e.scopes.add parent).size
    rcases List.mem_append.1 member with old | new
    · have := formed.existing i old
      omega
    · have := List.mem_singleton.1 new
      omega
  · refine ⟨fun j member => ?_, formed.ordered, known⟩
    rcases List.mem_append.1 member with old | new
    · exact formed.existing j old
    · exact List.mem_singleton.1 new ▸ formed.existing i held
  · refine ⟨fun j member => ?_, formed.ordered.modify c.edit_parent, known⟩
    simpa using formed.existing j member

/-! ### What is written under a name -/

namespace Namespace

variable {α : Type} {ns : Namespace α} {handles more : List Nat} {name : String} {i : Nat}

theorem last?_cons : ns.last? handles (op :: history) name i =
    (ns.writtenBy? handles i name op).or (ns.last? handles history name i) := by
  rw [last?, List.findSome?_cons]
  cases ns.writtenBy? handles i name op <;> rfl

/-- Further handles are no matter for a history that does not speak of them. -/
theorem last?_append (known : ∀ h c, .change h c ∈ history → h < handles.length) :
    ns.last? (handles ++ more) history name i = ns.last? handles history name i := by
  induction history with
  | nil => rfl
  | cons op earlier ih =>
      rw [last?_cons, last?_cons, ih fun h c member => known h c (List.mem_cons_of_mem _ member)]
      cases op with
      | change h c =>
          rw [writtenBy?, writtenBy?, List.getElem?_append_left (known h c List.mem_cons_self)]
      | create | child | share => rfl

theorem writtenBy?_of_quiet (quiet : ∀ h c, op ≠ .change h c) :
    ns.writtenBy? handles i name op = none := by
  cases op with
  | change h c => exact absurd rfl (quiet h c)
  | create | child | share => rfl

/-- The last write after an operation is that of the operation, or else the one before. -/
theorem last?_perform? (formed : e.WellFormed history) (applied : op.perform? e = some e') :
    ns.last? e'.handles (op :: history) name i =
      (ns.writtenBy? e.handles i name op).or (ns.last? e.handles history name i) := by
  obtain ⟨more, grown⟩ := op.handles_prefix applied
  rw [← grown, last?_cons, last?_append formed.known]
  cases op with
  | change h c =>
      rw [writtenBy?, writtenBy?, List.getElem?_append_left (Operation.handle_lt applied)]
  | create | child | share => rfl

/-- Every scope has under each name what was written there last. -/
def Faithful (ns : Namespace α) (history : List Operation) (e : Environments) : Prop :=
  ∀ name i, (e.scopes.at? i).bind (ns.look name) = ns.last? e.handles history name i

/-- An operation keeps the scopes faithful to the history. -/
theorem Faithful.perform? (faithful : ns.Faithful history e) (formed : e.WellFormed history)
    (applied : op.perform? e = some e') : ns.Faithful (op :: history) e' := by
  intro name i
  rw [last?_perform? formed applied, ← faithful name i]
  obtain ⟨parent, -, quiet, rfl⟩ | ⟨j, -, quiet, rfl⟩ | ⟨h, c, j, rfl, held, rfl⟩ :=
    op.perform?_cases applied
  · rw [writtenBy?_of_quiet quiet, Option.none_or, Scopes.at?_add]
    split
    · next new =>
        -- Nothing was written in the new scope, as there was none of its number.
        have missing : e.scopes.at? i = none := Array.getElem?_eq_none (Nat.le_of_eq new.symm)
        rw [missing]
        exact ns.look_new name parent
    · rfl
  · rw [writtenBy?_of_quiet quiet, Option.none_or]
  · rw [Scopes.at?_modify, writtenBy?, held]
    by_cases same : j = i
    · subst same
      obtain ⟨scope, there⟩ : ∃ scope, e.scopes.at? j = some scope :=
        ⟨_, Array.getElem?_eq_getElem (formed.existing j (List.mem_of_getElem? held))⟩
      simp [there, ns.look_edit]
    · simp [same]

end Namespace

/-- An operation leaves the chains of the scopes in hand as they are. -/
theorem Environments.WellFormed.chain_perform? (formed : e.WellFormed history)
    (applied : op.perform? e = some e') {i : Nat} {chain : List Nat} (held : i ∈ e.handles)
    (outward : e.scopes.Chain i chain) : e'.scopes.Chain i chain :=
  outward.of_parents fun s member => op.parent?_eq applied
    (Nat.lt_of_le_of_lt (formed.ordered.mem_le outward s member) (formed.existing i held))

/-! ### Histories -/

theorem wellFormed_after? (ran : after? history = some e) : e.WellFormed history := by
  induction history generalizing e with
  | nil =>
      cases ran
      exact ⟨by simp, fun i p inner => by simp [Scopes.Inside, Scopes.parent?, Scopes.at?] at inner,
        by simp⟩
  | cons latest earlier ih =>
      obtain ⟨before, reached, applied⟩ := Option.bind_eq_some_iff.1 ran
      exact (ih reached).perform? applied

theorem Namespace.faithful_after? {α : Type} (ns : Namespace α) (ran : after? history = some e) :
    ns.Faithful history e := by
  induction history generalizing e with
  | nil =>
      cases ran
      exact fun name i => rfl
  | cons latest earlier ih =>
      obtain ⟨before, reached, applied⟩ := Option.bind_eq_some_iff.1 ran
      exact (ih reached).perform? (wellFormed_after? reached) applied

/-- A lookup finds what the history wrote last in the nearest scope. -/
theorem Namespace.find_after? {α : Type} (ns : Namespace α) (ran : after? history = some e) {i : Nat}
    {name : String} {chain : List Nat} (outward : e.scopes.Chain i chain) :
    ns.find e.scopes i name = chain.findSome? (ns.last? e.handles history name) := by
  rw [ns.find_eq, (wellFormed_after? ran).ordered.search_eq outward]
  exact congrArg (chain.findSome? ·) (funext (ns.faithful_after? ran name))

/-- However a history goes on, handles stay handles of the same scopes and chains stay as they are. -/
theorem chains_stay {later : List Operation} (ran : after? history = some e)
    (goesOn : after? (later ++ history) = some e') : e.handles <+: e'.handles ∧
      ∀ i ∈ e.handles, ∀ chain, e.scopes.Chain i chain → e'.scopes.Chain i chain := by
  induction later generalizing e' with
  | nil =>
      cases ran.symm.trans goesOn
      exact ⟨List.prefix_refl _, fun i held chain outward => outward⟩
  | cons latest earlier ih =>
      obtain ⟨before, reached, applied⟩ := Option.bind_eq_some_iff.1 goesOn
      obtain ⟨grown, same⟩ := ih reached
      refine ⟨grown.trans (latest.handles_prefix applied), fun i held chain outward => ?_⟩
      exact (wellFormed_after? reached).chain_perform? applied (grown.subset held)
        (same i held chain outward)

/-- What names of one kind come to in the scopes that a history leads to, and how the next operation
    changes that. -/
structure Namespace.Scoped {α : Type} (ns : Namespace α) (history : List Operation)
    (e : Environments) : Prop where
  /-- Each scope itself has under a name what was written there last. -/
  own : ns.Faithful history e
  /-- A name comes to what was written last in the nearest scope where something was written. -/
  nearest : ∀ {name i chain s}, e.scopes.Chain i chain →
    Nearest (ns.last? e.handles history name) chain s →
    ns.find e.scopes i name = ns.last? e.handles history name s
  /-- It comes to nothing if nothing was written in any scope outward. -/
  missing : ∀ {name i chain}, e.scopes.Chain i chain →
    (∀ s ∈ chain, ns.last? e.handles history name s = none) → ns.find e.scopes i name = none
  /-- What a name comes to is changed only by writing under that name, in the scope that is then the
      nearest where something was written. -/
  changed : ∀ {op e' name i}, op.perform? e = some e' → i ∈ e.handles →
    ns.find e'.scopes i name ≠ ns.find e.scopes i name →
    ∃ h c s chain, op = .change h c ∧ ns.written? name c ≠ none ∧ e.handles[h]? = some s ∧
      e'.scopes.Chain i chain ∧ Nearest (ns.last? e'.handles (op :: history) name) chain s
  /-- Once something is written in that scope, the name comes to it. -/
  written : ∀ {h c e' name v i s chain}, (Operation.change h c).perform? e = some e' →
    ns.written? name c = some v → e.handles[h]? = some s → e'.scopes.Chain i chain →
    Nearest (ns.last? e'.handles (.change h c :: history) name) chain s →
    ns.find e'.scopes i name = some v

/-- After any history, names are looked up by scope. -/
theorem Namespace.scoped_after? {α : Type} (ns : Namespace α) (ran : after? history = some e) :
    ns.Scoped history e := by
  have formed := wellFormed_after? ran
  have goesOn {op e'} (applied : op.perform? e = some e') : after? (op :: history) = some e' :=
    Option.bind_eq_some_iff.2 ⟨e, ran, applied⟩
  refine ⟨ns.faithful_after? ran, fun outward near => ?_, fun outward none => ?_, ?_, ?_⟩
  · rw [ns.find_after? ran outward, near.findSome?_eq]
  · rw [ns.find_after? ran outward, List.findSome?_eq_none_iff.2 none]
  · intro op e' name i applied held changed
    obtain ⟨chain, outward, -⟩ := formed.ordered.exists_chain i
    have outward' := formed.chain_perform? applied held outward
    rw [ns.find_after? ran outward, ns.find_after? (goesOn applied) outward'] at changed
    have step (j : Nat) : ns.last? e'.handles (op :: history) name j =
        (ns.writtenBy? e.handles j name op).or (ns.last? e.handles history name j) :=
      ns.last?_perform? formed applied
    cases op with
    | create | child | share => exact absurd (congrArg (chain.findSome? ·) (funext step)) changed
    | change h c =>
        obtain ⟨s, at_h, -⟩ := Option.bind_eq_some_iff.1 applied
        simp only [writtenBy?, at_h, Option.some.injEq] at step
        have writes : ns.written? name c ≠ none := by
          intro quiet
          simp only [quiet, ite_self, Option.none_or] at step
          exact changed (congrArg (chain.findSome? ·) (funext step))
        refine ⟨h, c, s, chain, rfl, writes, at_h, outward', nearest_of_findSome?_ne ?_ ?_ changed⟩
        · rw [step, if_pos rfl]
          simp [writes]
        · intro j member other
          rw [step, if_neg (Ne.symm other), Option.none_or]
  · intro h c e' name v i s chain applied writes held outward near
    rw [ns.find_after? (goesOn applied) outward, near.findSome?_eq, ns.last?_perform? formed applied,
      writtenBy?, if_pos held, writes, Option.some_or]

end

/-- Scopes are lexical. For every history of operations: no scope is around itself, and going outward
    comes to an end; handles and the scopes met outward from them never change, however the history goes
    on; and variables as well as modules come to what was written last in the nearest scope where
    something was written, a further operation changing this only as `Namespace.Scoped` says. -/
theorem scopes_are_lexical (history : List Operation) {e : Environments}
    (ran : after? history = some e) :
    (∀ i, ¬ Relation.TransGen e.scopes.Inside i i) ∧
    (∀ i, ∃ chain, e.scopes.ComesToEnd i chain) ∧
    (∀ later e', after? (later ++ history) = some e' → e.handles <+: e'.handles ∧
      ∀ i ∈ e.handles, ∀ chain, e.scopes.Chain i chain → e'.scopes.Chain i chain) ∧
    bindings.Scoped history e ∧ modules.Scoped history e := by
  have ordered := (wellFormed_after? ran).ordered
  exact ⟨fun i => ordered.acyclic, ordered.comesToEnd, fun later e' => chains_stay ran,
    bindings.scoped_after? ran, modules.scoped_after? ran⟩

/-- A variable and a module of an outer scope, the variable bound again in the inner one through a
    second handle. -/
def shadowing : List Operation :=
  [.change 2 (.set "x" (.boolean true)), .share 1, .change 0 (.set "x" (.boolean false)),
    .change 0 (.defineModule ⟨"m", []⟩), .child 0, .create]

theorem scopes_are_lexical_shadowing :
    let e : Environments :=
      { scopes := #[{ bindings := [("x", .boolean false)], modules := [("m", ⟨"m", []⟩)] },
          { bindings := [("x", .boolean true)], parent := some 0 }]
        handles := [0, 1, 1] }
    after? shadowing = some e ∧ e.scopes.find? 1 "x" = some (.boolean true) ∧
      e.scopes.find? 0 "x" = some (.boolean false) ∧ e.scopes.module? 1 "m" = some ⟨"m", []⟩ ∧
      e.scopes.find? 1 "y" = none := by
  intro e
  have ran : after? shadowing = some e := rfl
  obtain ⟨-, -, -, values, members⟩ := scopes_are_lexical shadowing ran
  have outer : e.scopes.Chain 0 [0] := .outermost rfl
  have inner : e.scopes.Chain 1 [1, 0] := .inside rfl outer
  have own : Nearest (bindings.last? e.handles shadowing "x") [1, 0] 1 :=
    ⟨[], [0], rfl, Option.some_ne_none (Value.boolean true), by simp⟩
  have around : Nearest (bindings.last? e.handles shadowing "x") [0] 0 :=
    ⟨[], [], rfl, Option.some_ne_none (Value.boolean false), by simp⟩
  have nearer : Nearest (modules.last? e.handles shadowing "m") [1, 0] 0 :=
    ⟨[1], [], rfl, Option.some_ne_none _, by simp; rfl⟩
  have nowhere : ∀ s ∈ [1, 0], bindings.last? e.handles shadowing "y" s = none := by
    simp only [List.forall_mem_cons, List.not_mem_nil, false_imp_iff, implies_true, and_true]
    exact ⟨rfl, rfl⟩
  exact ⟨ran, values.nearest inner own, values.nearest outer around, members.nearest inner nearer,
    values.missing inner nowhere⟩

end Scoping

end PluginLisp
