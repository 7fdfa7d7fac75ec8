import Mathlib.Data.List.TakeWhile
import PluginLisp.Proofs.Data.FiniteMaps
import PluginLisp.Proofs.Evaluation.FittingCalls
import PluginLisp.Proofs.Machine.Running

/-!
Parameters and arguments. A parameter list is read as what is written with it, or refused with a reason.
A closure takes as many arguments as it has parameters, or any number from there on if it has a rest
parameter, and no argument gets lost: each is bound in the new scope that the body is evaluated in. A
call is counted twice, when it is left to be made and when it is made, and both times alike; so nothing
that is left to be made fails for the number of its arguments.

Main results: `writes_or_refused`, `parameters_take_all_arguments`.
-/

namespace PluginLisp

open Machine

/-! ### Parameter lists -/

/-- The names of a parameter list as they are written. -/
def writtenNames (params : List String) : (rest : Option String) → List String
  | none => params
  | some rest => params ++ ["&", rest]

/-- Names that make a parameter list: no ampersand is among them, or exactly one, as the last but one.
    -/
def AreParameters (names : List String) : Prop :=
  "&" ∉ names ∨ names.count "&" = 1 ∧ ∃ front last, names = front ++ ["&", last]

/-- A list or a vector of the items. -/
def Form.Lists (f : Form) (items : List Form) : Prop := f = .list items ∨ f = .vector items

/-- A list or a vector of symbols that make a parameter list. -/
def Form.IsParameterList (f : Form) : Prop :=
  ∃ names : List String, f.Lists (names.map .symbol) ∧ AreParameters names

/-- A parameter list that is written with the given parameters and the given rest parameter. -/
structure Form.Writes (f : Form) (params : List String) (rest : Option String) : Prop where
  lists : f.Lists ((writtenNames params rest).map .symbol)
  plain : "&" ∉ params
  other : rest ≠ some "&"

/-- Why a form is refused for a parameter list. -/
inductive Form.Refused (cells : Cells) : Form → (reason : String) → Prop where
  | shape {f : Form} (other : ∀ items, ¬ f.Lists items) :
      Refused cells f ("parameters must be a vector, got " ++ f.kindName)
  /-- The first item that is no symbol. -/
  | item {f item : Form} {names : List String} {more : List Form}
      (lists : f.Lists (names.map .symbol ++ item :: more)) (other : item.symbol? = none) :
      Refused cells f ("parameter must be a symbol, got " ++ item.show cells)
  | ampersand {f : Form} {names : List String} (lists : f.Lists (names.map .symbol))
      (misplaced : ¬ AreParameters names) :
      Refused cells f "`&` must be followed by exactly one parameter"

section

variable {f item : Form} {items : List Form} {names front tail params : List String}
  {rest : Option String} {reason : String} {s : State}

theorem splitRest?_of_plain (plain : "&" ∉ names) :
    Evaluator.splitRest? names = some (names, none) := by
  have ordinary : ∀ name ∈ names, (name != "&") = true := fun name member =>
    bne_iff_ne.2 fun same => plain (same ▸ member)
  have all : names.takeWhile (· != "&") = names := List.takeWhile_eq_self_iff.2 ordinary
  rw [Evaluator.splitRest?]
  simp only [all, List.drop_length]

/-- Behind the first ampersand there has to be one name, which is no ampersand. -/
theorem splitRest?_of_marked (plain : "&" ∉ front) :
    Evaluator.splitRest? (front ++ "&" :: tail) = match tail with
      | [last] => if last = "&" then none else some (front, some last)
      | _ => none := by
  have ordinary : ∀ name ∈ front, (name != "&") = true := fun name member =>
    bne_iff_ne.2 fun same => plain (same ▸ member)
  have before : (front ++ "&" :: tail).takeWhile (· != "&") = front := by
    rw [List.takeWhile_append_of_pos ordinary]
    simp
  rw [Evaluator.splitRest?]
  simp only [before, List.drop_left]
  rcases tail with _ | ⟨last, _ | ⟨more, tail⟩⟩ <;> rfl

/-- The names are split at the mark in front of the last one. -/
theorem splitRest?_eq_some_iff : Evaluator.splitRest? names = some (params, rest) ↔
    names = writtenNames params rest ∧ "&" ∉ params ∧ rest ≠ some "&" := by
  constructor
  · intro split
    by_cases marked : "&" ∈ names
    · obtain ⟨front, tail, rfl, plain⟩ := List.eq_append_cons_of_mem marked
      rw [splitRest?_of_marked plain] at split
      split at split
      next last =>
        split at split
        · cases split
        next other =>
          cases split
          exact ⟨rfl, plain, fun same => other (Option.some.inj same)⟩
      next => cases split
    · rw [splitRest?_of_plain marked] at split
      cases split
      exact ⟨rfl, marked, by simp⟩
  · rintro ⟨rfl, plain, other⟩
    cases rest with
    | none => exact splitRest?_of_plain plain
    | some last =>
        rw [writtenNames, splitRest?_of_marked plain]
        exact if_neg fun same => other (congrArg some same)

theorem areParameters_iff : AreParameters names ↔
    ∃ params rest, names = writtenNames params rest ∧ "&" ∉ params ∧ rest ≠ some "&" := by
  constructor
  · rintro (plain | ⟨once, front, last, rfl⟩)
    · exact ⟨names, none, rfl, plain, by simp⟩
    · rw [List.count_append, List.count_cons_self] at once
      have before : front.count "&" = 0 := by omega
      have behind : [last].count "&" = 0 := by omega
      rw [List.count_eq_zero] at before behind
      refine ⟨front, some last, rfl, before, fun same => behind ?_⟩
      simp [Option.some.inj same]
  · rintro ⟨params, rest, rfl, plain, other⟩
    cases rest with
    | none => exact Or.inl plain
    | some last =>
        have different : "&" ∉ [last] := fun member =>
          other (congrArg some (List.mem_singleton.1 member).symm)
        refine Or.inr ⟨?_, params, last, rfl⟩
        rw [writtenNames, List.count_append, List.count_cons_self, List.count_eq_zero.2 plain,
          List.count_eq_zero.2 different]

theorem Form.isParameterList_iff : f.IsParameterList ↔ ∃ params rest, f.Writes params rest := by
  constructor
  · rintro ⟨names, lists, areParameters⟩
    obtain ⟨params, rest, rfl, plain, other⟩ := areParameters_iff.1 areParameters
    exact ⟨params, rest, lists, plain, other⟩
  · rintro ⟨params, rest, writes⟩
    exact ⟨_, writes.lists, areParameters_iff.2 ⟨params, rest, rfl, writes.plain, writes.other⟩⟩

/-! ### Reading a parameter list -/

theorem paramNames_symbols (form : String) (names : List String) :
    Evaluator.paramNames form (names.map .symbol) = pure names := by
  induction names with
  | nil => rfl
  | cons name names ih =>
      rw [List.map_cons, Evaluator.paramNames]
      simp only [Form.symbol?, ih]
      rfl

theorem paramNames_other (form : String) (names : List String) (more : List Form)
    (other : item.symbol? = none) :
    Evaluator.paramNames form (names.map .symbol ++ item :: more) s = .done (.error
      (.invalidArguments form ("parameter must be a symbol, got " ++ item.show s.cells))) s := by
  induction names with
  | nil =>
      rw [List.map_nil, List.nil_append, Evaluator.paramNames]
      simp only [other]
      rfl
  | cons name names ih =>
      rw [List.map_cons, List.cons_append, Evaluator.paramNames]
      simp only [Form.symbol?]
      rw [bind_eq, ih]
      rfl

theorem readParams_of_lists (lists : f.Lists items) (form : String) :
    Evaluator.readParams form f = Evaluator.paramNames form items >>= fun names =>
      match Evaluator.splitRest? names with
      | some split => pure split
      | none => fail (.invalidArguments form "`&` must be followed by exactly one parameter") := by
  rcases lists with rfl | rfl <;> rfl

/-- A parameter list is read as what is written with it. -/
theorem readParams_of_writes (writes : f.Writes params rest) (form : String) :
    Evaluator.readParams form f = pure (params, rest) := by
  rw [readParams_of_lists writes.lists, paramNames_symbols, run_pure_bind,
    splitRest?_eq_some_iff.2 ⟨rfl, writes.plain, writes.other⟩]

/-- A list that is refused is reported with its reason. -/
theorem readParams_of_refused (refused : f.Refused s.cells reason) (form : String) :
    Evaluator.readParams form f s = .done (.error (.invalidArguments form reason)) s := by
  cases refused with
  | shape other =>
      rw [Evaluator.readParams]
      · rfl
      · exact fun items same => other items (Or.inl same)
      · exact fun items same => other items (Or.inr same)
  | item lists other =>
      rw [readParams_of_lists lists, bind_eq, paramNames_other form _ _ other]
      rfl
  | @ampersand names lists misplaced =>
      rw [readParams_of_lists lists, paramNames_symbols, run_pure_bind]
      cases split : Evaluator.splitRest? names with
      | none => rfl
      | some parts =>
          exact absurd (areParameters_iff.2 ⟨_, _, splitRest?_eq_some_iff.1 split⟩) misplaced

/-- Items are all symbols, or there is a first one that is none. -/
theorem exists_names_or_other (items : List Form) :
    (∃ names : List String, items = names.map .symbol) ∨
      ∃ (names : List String) (item : Form) (more : List Form),
        items = names.map .symbol ++ item :: more ∧ item.symbol? = none := by
  induction items with
  | nil => exact Or.inl ⟨[], rfl⟩
  | cons item items ih =>
      cases named : item.symbol? with
      | none => exact Or.inr ⟨[], item, items, rfl, named⟩
      | some name =>
          obtain rfl : item = .symbol name := by
            unfold Form.symbol? at named
            split at named <;> cases named
            rfl
          obtain ⟨names, rfl⟩ | ⟨names, other, more, rfl, unnamed⟩ := ih
          · exact Or.inl ⟨name :: names, rfl⟩
          · exact Or.inr ⟨name :: names, other, more, rfl, unnamed⟩

/-- Every form is a parameter list or refused. -/
theorem writes_or_refused (f : Form) (cells : Cells) :
    (∃ params rest, f.Writes params rest) ∨ ∃ reason, f.Refused cells reason := by
  by_cases listed : ∃ items, f.Lists items
  · obtain ⟨items, lists⟩ := listed
    obtain ⟨names, rfl⟩ | ⟨names, item, more, rfl, other⟩ := exists_names_or_other items
    · by_cases areParameters : AreParameters names
      · exact Or.inl (Form.isParameterList_iff.1 ⟨names, lists, areParameters⟩)
      · exact Or.inr ⟨_, .ampersand lists areParameters⟩
    · exact Or.inr ⟨_, .item lists other⟩
  · exact Or.inr ⟨_, .shape fun items lists => listed ⟨items, lists⟩⟩

/-- Reading parameters for the construct `form`: a parameter list is accepted and read as what is
    written with it, and so a closure gets its parameters; anything else is refused with a reason. -/
structure Form.ReadsAsParameters (f : Form) (form : String) (s : State) : Prop where
  accepted : (∃ split t, Evaluator.readParams form f s = .done (.ok split) t) ↔ f.IsParameterList
  read : ∀ params rest t, Evaluator.readParams form f s = .done (.ok (params, rest)) t ↔
    t = s ∧ f.Writes params rest
  refused : ∀ e t, Evaluator.readParams form f s = .done (.error e) t ↔
    t = s ∧ ∃ reason, f.Refused s.cells reason ∧ e = .invalidArguments form reason
  made : ∀ name body scope c t, Evaluator.makeClosure form name f body scope s = .done (.ok c) t ↔
    t = { s with closures := s.closures + 1 } ∧
      c = ⟨s.closures, name, c.params, c.rest, body, scope⟩ ∧ f.Writes c.params c.rest

/-- Every form is read as parameters or refused. -/
theorem Form.readsAsParameters (f : Form) (form : String) (s : State) :
    f.ReadsAsParameters form s := by
  have read (params : List String) (rest : Option String) (t : State) :
      Evaluator.readParams form f s = .done (.ok (params, rest)) t ↔ t = s ∧ f.Writes params rest := by
    constructor
    · intro read
      obtain ⟨params', rest', writes⟩ | ⟨reason, refused⟩ := writes_or_refused f s.cells
      · rw [readParams_of_writes writes] at read
        cases read
        exact ⟨rfl, writes⟩
      · cases (readParams_of_refused refused form).symm.trans read
    · rintro ⟨rfl, writes⟩
      rw [readParams_of_writes writes]
      rfl
  refine ⟨?accepted, read, ?refused, ?made⟩
  case accepted =>
      rw [Form.isParameterList_iff]
      constructor
      · rintro ⟨⟨params, rest⟩, t, accepted⟩
        exact ⟨params, rest, ((read params rest t).1 accepted).2⟩
      · rintro ⟨params, rest, writes⟩
        exact ⟨_, s, (read params rest s).2 ⟨rfl, writes⟩⟩
  case refused =>
      intro e t
      constructor
      · intro failed
        obtain ⟨params, rest, writes⟩ | ⟨reason, refused⟩ := writes_or_refused f s.cells
        · rw [readParams_of_writes writes] at failed
          cases failed
        · cases (readParams_of_refused refused form).symm.trans failed
          exact ⟨rfl, reason, refused, rfl⟩
      · rintro ⟨rfl, reason, refused, rfl⟩
        exact readParams_of_refused refused form
  case made =>
      intro name body scope c t
      constructor
      · intro made
        obtain ⟨⟨params, rest⟩, u, accepted, numbered⟩ := run_bind_eq_ok made
        obtain ⟨rfl, writes⟩ := (read params rest u).1 accepted
        cases (show Run.done (.ok _) _ = .done (.ok c) t from numbered)
        exact ⟨rfl, rfl, writes⟩
      · rintro ⟨rfl, same, writes⟩
        rw [Evaluator.makeClosure, readParams_of_writes writes, run_pure_bind, same]
        rfl

end

/-! ### Binding -/

/-- The state with one more scope, inside a given one. -/
def State.withScope (s : State) (parent : Nat) (bindings : Assoc Value) : State :=
  { s with scopes := s.scopes.push { bindings, parent := some parent } }

theorem State.cells_withScope (s : State) (parent : Nat) (bindings : Assoc Value) :
    (s.withScope parent bindings).cells = s.cells := by
  have levels (depth : Nat) : (s.withScope parent bindings).cellsTo depth = s.cellsTo depth := by
    induction depth with
    | zero => rfl
    | succ depth ih =>
        rw [State.cellsTo, State.cellsTo, ih]
        rfl
  exact levels s.printDepth

/-- What the parameters of a closure bind a name to, given arguments. -/
inductive Closure.Binds (c : Closure) (args : List Value) (name : String) : Value → Prop where
  /-- The rest parameter is bound to the arguments that are left, in order. -/
  | rest (isRest : c.rest = some name) : Binds c args name (.list (args.drop c.params.length))
  /-- Any other name is bound to the argument for the last parameter of that name. -/
  | positional {before after : List String} {v : Value} (other : c.rest ≠ some name)
      (param : c.params = before ++ name :: after) (last : name ∉ after)
      (arg : args[before.length]? = some v) : Binds c args name v

/-- The variables of a new scope are exactly the parameters of a closure, bound to the arguments. -/
structure Closure.BoundExactly (c : Closure) (args : List Value) (bindings : Assoc Value) : Prop where
  sorted : bindings.Sorted
  names : ∀ name, name ∈ bindings.names ↔ name ∈ c.params ∨ c.rest = some name
  values : ∀ name v, Assoc.get? name bindings = some v ↔ c.Binds args name v

/-- The names that are written when arguments are bound, with their values, in order. -/
def bindingWrites (params : List String) (rest : Option String) (args : List Value) :
    List (String × Value) :=
  params.zip args ++ (rest.map fun name => (name, Value.list (args.drop params.length))).toList

section

variable {c : Closure} {args : List Value} {params : List String} {rest : Option String}
  {name : String} {v : Value}

/-- Names that get arguments by position: the last one of several equal names counts. -/
theorem lastWrite?_zip_eq_some_iff (enough : params.length ≤ args.length) :
    FiniteMap.lastWrite? name (params.zip args) = some v ↔
      ∃ before after, params = before ++ name :: after ∧ name ∉ after ∧
        args[before.length]? = some v := by
  induction params generalizing args with
  | nil => simp [FiniteMap.lastWrite?]
  | cons p params ih =>
      obtain _ | ⟨arg, args⟩ := args
      · simp at enough
      have fewer : params.length ≤ args.length := Nat.le_of_succ_le_succ enough
      have keys : (params.zip args).map (·.1) = params := List.map_fst_zip fewer
      -- what is written for `p` counts only if no later parameter has its name
      rw [List.zip_cons_cons, FiniteMap.lastWrite?_cons, Option.or_eq_some_iff, ih fewer,
        FiniteMap.lastWrite?_eq_none_iff, keys]
      constructor
      · rintro (⟨before, after, rfl, last, found⟩ | ⟨last, found⟩)
        · exact ⟨p :: before, after, rfl, last, found⟩
        · obtain ⟨rfl, rfl⟩ : p = name ∧ arg = v := by simpa using found
          exact ⟨[], params, rfl, last, rfl⟩
      · rintro ⟨_ | ⟨q, before⟩, after, split, last, found⟩
        · cases split
          cases found
          exact Or.inr ⟨last, if_pos rfl⟩
        · cases split
          exact Or.inl ⟨before, after, rfl, last, found⟩

theorem map_fst_bindingWrites (enough : params.length ≤ args.length) :
    (bindingWrites params rest args).map (·.1) = params ++ rest.toList := by
  rw [bindingWrites, List.map_append, List.map_fst_zip enough]
  cases rest <;> rfl

/-- The last write under a name is the argument that the closure binds it to. -/
theorem lastWrite?_bindingWrites (enough : c.params.length ≤ args.length) :
    FiniteMap.lastWrite? name (bindingWrites c.params c.rest args) = some v ↔ c.Binds args name v := by
  by_cases isRest : c.rest = some name
  · have written : FiniteMap.lastWrite? name (bindingWrites c.params c.rest args) =
        some (.list (args.drop c.params.length)) := by
      rw [bindingWrites, isRest]
      exact (FiniteMap.lastWrite?_concat _ _ _).trans (if_pos rfl)
    rw [written]
    constructor
    · rintro ⟨⟩
      exact .rest isRest
    · rintro (_ | ⟨other, -, -, -⟩)
      · rfl
      · exact absurd isRest other
  · have written : FiniteMap.lastWrite? name (bindingWrites c.params c.rest args) =
        FiniteMap.lastWrite? name (c.params.zip args) := by
      rw [bindingWrites]
      cases restIs : c.rest with
      | none => exact congrArg _ (List.append_nil _)
      | some last =>
          have other : last ≠ name := fun same => isRest (same ▸ restIs)
          exact (FiniteMap.lastWrite?_concat _ _ _).trans (if_neg other)
    rw [written, lastWrite?_zip_eq_some_iff enough]
    constructor
    · rintro ⟨before, after, param, last, arg⟩
      exact .positional isRest param last arg
    · rintro (is | ⟨-, param, last, arg⟩)
      · exact absurd is isRest
      · exact ⟨_, _, param, last, arg⟩

theorem Closure.Takes.enough {n : Nat} (takes : c.Takes n) : c.params.length ≤ n := by
  unfold Closure.Takes at takes
  split at takes <;> omega

/-- The bindings of a call are exactly those of its parameters. -/
theorem Closure.boundExactly (takes : c.Takes args.length) :
    c.BoundExactly args (Assoc.overlay [] (bindingWrites c.params c.rest args)) where
  sorted := Assoc.sorted_overlay Assoc.sorted_nil
  names name := by
    rw [← Assoc.has_iff_mem_names, Assoc.has, Assoc.get?_overlay_nil, Option.isSome_iff_ne_none, Ne,
      FiniteMap.lastWrite?_eq_none_iff, Decidable.not_not, map_fst_bindingWrites takes.enough,
      List.mem_append, Option.mem_toList]
  values name v := by rw [Assoc.get?_overlay_nil, lastWrite?_bindingWrites takes.enough]

/-- A binding in the newest scope changes that scope. -/
theorem Scopes.set_push (scopes : Scopes) (scope : Scope) (name : String) (v : Value) :
    Scopes.set (scopes.push scope) scopes.size name v =
      scopes.push { scope with bindings := scope.bindings.put name v } := by
  apply Array.ext_getElem?
  intro i
  rw [Scopes.set, Array.getElem?_modify, Array.getElem?_push, Array.getElem?_push]
  by_cases last : i = scopes.size
  · simp [last]
  · simp [last, Ne.symm last]

/-- Binding arguments in the newest scope. -/
theorem Scopes.bindParams_push (scopes : Scopes) (scope : Scope) (params : List String)
    (rest : Option String) (args : List Value) :
    Scopes.bindParams (scopes.push scope) scopes.size params rest args = scopes.push
      { scope with bindings := scope.bindings.overlay (bindingWrites params rest args) } := by
  induction params generalizing scope args with
  | nil =>
      cases rest with
      | none => rfl
      | some name => exact scopes.set_push scope name (.list args)
  | cons p params ih =>
      cases args with
      | nil =>
          cases rest with
          | none => rfl
          | some name => exact scopes.set_push scope name (.list [])
      | cons v args =>
          rw [bindParams, set_push, ih]
          rfl

end

/-! ### Calls -/

/-- The frame that a call of a closure adds to the errors from it. -/
def Evaluator.entryFrame (ev : Evaluator) (c : Closure) (args : List Value) (s : State) : CallFrame :=
  ⟨c.displayName, if ev.settings.traced then callText s.cells c.displayName args else ""⟩

/-- A call of a closure with arguments, from when they are counted for it to the evaluation of the
    body. -/
structure Evaluator.TakesArguments (ev : Evaluator) (c : Closure) (args : List Value) (s : State) :
    Prop where
  binds_iff : (∃ t, bindParams c args s.scopes.size (s.withScope c.scope []) = .done (.ok ()) t) ↔
    c.Takes args.length
  /-- The arguments are bound in the new scope, and the body is evaluated in it. -/
  bound : c.Takes args.length → ∃ bindings, c.BoundExactly args bindings ∧
    bindParams c args s.scopes.size (s.withScope c.scope []) =
      .done (.ok ()) (s.withScope c.scope bindings) ∧
    ev.enter c args s = ev.inFrame (fun _ => ev.entryFrame c args s)
      (ev.evalBody c.body s.scopes.size) (s.withScope c.scope bindings)
  left : c.Takes args.length → ev.calls = .deferred →
    ev.callClosure c args s = .done (.ok (.pending c args)) s
  made : c.Takes args.length → ev.calls = .immediate →
    ev.callClosure c args = (yieldTurn >>= fun _ => ev.perform (.enter c args))
  /-- The error is the same when arguments are counted, bound and part of a call. -/
  refused : ¬ c.Takes args.length →
    ev.callClosure c args s = .done (.error (c.arityError args.length)) s ∧
    bindParams c args s.scopes.size (s.withScope c.scope []) =
      .done (.error (c.arityError args.length)) (s.withScope c.scope []) ∧
    ev.enter c args s = .done (.error (ev.settings.framed (ev.entryFrame c args s)
      (c.arityError args.length))) (s.withScope c.scope [])

namespace Evaluator

variable {c : Closure} {args : List Value} {s : State}

/-- A number of arguments that is taken is bound. -/
theorem bindParams_of_takes (takes : c.Takes args.length) :
    bindParams c args s.scopes.size (s.withScope c.scope []) = .done (.ok ())
      (s.withScope c.scope (Assoc.overlay [] (bindingWrites c.params c.rest args))) := by
  rw [bindParams, if_pos (Closure.accepts_iff.2 takes), run_change]
  have bound := s.scopes.bindParams_push { parent := some c.scope } c.params c.rest args
  rw [State.withScope, bound]
  rfl

/-- Any other number is refused, and nothing is bound. -/
theorem bindParams_of_not_takes (few : ¬ c.Takes args.length) (frame : Nat) :
    bindParams c args frame = fail (c.arityError args.length) := by
  rw [bindParams, if_neg (mt Closure.accepts_iff.1 few)]

theorem enter_eq (ev : Evaluator) (c : Closure) (args : List Value) (s : State) :
    ev.enter c args s = ev.inFrame (fun _ => ev.entryFrame c args s)
      (bindParams c args s.scopes.size >>= fun _ => ev.evalBody c.body s.scopes.size)
      (s.withScope c.scope []) := by
  unfold enter entryText entryFrame
  rw [← s.cells_withScope c.scope []]
  split <;> rfl

/-- A computation in a frame goes on as it does without, from the state that another one leaves. -/
theorem inFrame_congr (ev : Evaluator) (frame : State → CallFrame) {m m' : Machine Value}
    {t t' : State} (same : m t = m' t') : ev.inFrame frame m t = ev.inFrame frame m' t' := by
  rw [Correspondence.inFrame_eq, Correspondence.inFrame_eq]
  unfold Machine.decorate Machine.andThen
  rw [same]

/-- How a closure takes its arguments. -/
theorem takesArguments (ev : Evaluator) (c : Closure) (args : List Value) (s : State) :
    ev.TakesArguments c args s where
  binds_iff := by
    constructor
    · rintro ⟨t, bound⟩
      by_contra few
      rw [bindParams_of_not_takes few] at bound
      cases bound
    · exact fun takes => ⟨_, bindParams_of_takes takes⟩
  bound takes := by
    refine ⟨_, Closure.boundExactly takes, bindParams_of_takes takes, ?_⟩
    rw [enter_eq]
    apply inFrame_congr
    rw [bind_eq, bindParams_of_takes takes]
    rfl
  left takes deferred := by
    rw [callClosure, if_pos (Closure.accepts_iff.2 takes), deferred]
    rfl
  made takes immediate := by
    rw [callClosure, if_pos (Closure.accepts_iff.2 takes), immediate]
  refused few := by
    refine ⟨?_, ?_, ?_⟩
    · rw [callClosure, if_neg (mt Closure.accepts_iff.1 few)]
      rfl
    · rw [bindParams_of_not_takes few]
      rfl
    · rw [enter_eq, bindParams_of_not_takes few, run_fail_bind, Correspondence.inFrame_eq]
      rfl

end Evaluator

/-- Binding parameters loses no argument. A list or vector is a parameter list exactly if its items
    are symbols and `&` is not among them or is once, as the last but one. A closure takes as many
    arguments as it has parameters, or more if it has a rest parameter; then exactly its parameters
    are bound in the new scope, each to the argument at its last place and the rest parameter to the
    list of all that are left. Any other number of arguments is refused with the same error before a
    call is left and when it is made, and evaluation leaves only calls that the closure takes the
    arguments of. -/
theorem parameters_take_all_arguments :
    (∀ f form s, Form.ReadsAsParameters f form s) ∧
      (∀ ev c args s, Evaluator.TakesArguments ev c args s) ∧
      ∀ settings calls steps, (Evaluator.ofSteps settings calls steps).LeavesFittingCalls :=
  ⟨Form.readsAsParameters, Evaluator.takesArguments, Evaluator.ofSteps_leavesFittingCalls⟩

/-- The closure with the parameters `[x y x & y]`. -/
def repeating : Closure := ⟨0, none, ["x", "y", "x"], some "y", [.symbol "x"], 0⟩

/-- Of four arguments the third one is for `x`, at its last place, and the list of the fourth one for
    `y`, as the rest parameter; two arguments are refused. -/
theorem parameters_take_all_arguments_repeated :
    Evaluator.makeClosure "fn" none (.vector (["x", "y", "x", "&", "y"].map .symbol)) [.symbol "x"] 0 {} =
        .done (.ok repeating) { closures := 1 } ∧
      (∃ bindings,
        bindParams repeating [.text "a", .text "b", .text "c", .text "d"] 0 (State.withScope {} 0 []) =
            .done (.ok ()) (State.withScope {} 0 bindings) ∧
          (∀ name, name ∈ bindings.names ↔ name = "x" ∨ name = "y") ∧
          Assoc.get? "x" bindings = some (.text "c") ∧
          Assoc.get? "y" bindings = some (.list [.text "d"])) ∧
      (Evaluator.ofSteps default .deferred 1).callClosure repeating [.text "a", .text "b"] {} =
        .done (.error (repeating.arityError 2)) {} := by
  obtain ⟨reads, takes, -⟩ := parameters_take_all_arguments
  refine ⟨?_, ?_, ?_⟩
  · exact ((reads _ "fn" {}).made none [.symbol "x"] 0 repeating _).2
      ⟨rfl, rfl, Or.inr rfl, by decide, by decide⟩
  · have enough : repeating.Takes 4 := Nat.le_succ 3
    obtain ⟨bindings, exactly, bound, -⟩ := (takes (.ofSteps default .deferred 1) repeating
      [.text "a", .text "b", .text "c", .text "d"] {}).bound enough
    refine ⟨bindings, bound, fun name => ?_, (exactly.values _ _).2 ?_,
      (exactly.values _ _).2 (.rest rfl)⟩
    · rw [exactly.names]
      simp only [repeating, List.mem_cons, List.not_mem_nil, Option.some.injEq]
      grind
    · exact .positional (by decide) (show _ = ["x", "y"] ++ "x" :: [] from rfl) (by decide) rfl
  · have few : ¬ repeating.Takes 2 := Nat.not_succ_le_self 2
    exact ((takes _ repeating [.text "a", .text "b"] {}).refused few).1

end PluginLisp
