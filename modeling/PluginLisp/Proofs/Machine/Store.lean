import PluginLisp.Evaluator.Basic
import PluginLisp.Proofs.Machine.Rules

/-!
Corresponding states under the operations of the store. What evaluation can look at is the same in
corresponding states, except that the outcomes of futures only correspond; and every operation on the
store keeps states corresponding. Scopes are only written where that is allowed, and where data is
clean only settled values are stored.

Main results: `States.map`, `Rel.inNewScope`, `Rel.spawn`.
-/

namespace PluginLisp.Correspondence

open Machine

variable {c : Correspondence} {s t : State}

theorem Futures.refl (f : Future) : c.Futures f f := by
  refine ⟨rfl, ?_⟩
  cases f.outcome with
  | none => exact .none
  | some r =>
      refine .some ?_
      cases r with
      | ok v => exact rfl
      | error e => exact c.error_refl e

/-- A state corresponds to itself if what has to be known of it is. -/
theorem States.refl (writable : ∀ job ∈ s.jobs, c.writable job.scope) (intact : c.intact s.scopes)
    (settled : c.clean → s.Settled) : c.States s s := by
  refine ⟨s.futures, s.jobs, rfl, rfl, fun i f g left right => ?_, ?_, intact, settled⟩
  · cases left.symm.trans right
    exact Futures.refl f
  · exact List.forall₂_same.2 fun job member =>
      ⟨rfl, rfl, rfl, c.settings_refl job.settings, writable job member⟩

/-! ### Looking at the store -/

/-- Futures that correspond do so one by one. -/
theorem Twins.get {futures : Array Future} {jobs : List Job} (twins : c.Twins s futures jobs)
    (i : Nat) : Option.Rel c.Futures s.futures[i]? futures[i]? := by
  by_cases inside : i < s.futures.size
  · have inside' : i < futures.size := twins.size ▸ inside
    rw [Array.getElem?_eq_getElem inside, Array.getElem?_eq_getElem inside']
    refine .some (twins.futures i _ _ ?_ ?_)
    · exact Array.getElem?_eq_getElem inside
    · exact Array.getElem?_eq_getElem inside'
  · have outside : futures.size ≤ i := by
      rw [twins.size]
      omega
    rw [Array.getElem?_eq_none (by omega), Array.getElem?_eq_none outside]
    exact .none

/-- The futures of corresponding states correspond. -/
theorem States.future (states : c.States s t) (i : Nat) :
    Option.Rel c.Futures s.futures[i]? t.futures[i]? := by
  obtain ⟨futures, jobs, rfl, twins⟩ := states
  exact twins.get i

/-- Corresponding states are equal where errors and settings only correspond to themselves. -/
theorem States.eq (states : c.States s t) (errors : ∀ e f, c.error e f → e = f)
    (settings : ∀ a b, c.settings a b → a = b) : s = t := by
  obtain ⟨futures, jobs, rfl, twins⟩ := states
  have sameFuture (f g : Future) (related : c.Futures f g) : f = g := by
    obtain ⟨identifier, outcome⟩ := f
    obtain ⟨identifier', outcome'⟩ := g
    obtain ⟨rfl, outcomes⟩ := related
    cases outcomes with
    | none => rfl
    | @some r r' results =>
        cases r <;> cases r'
        case ok.ok => cases results; rfl
        case error.error => cases errors _ _ results; rfl
        all_goals exact results.elim
  have sameJob (j k : Job) (related : c.Jobs j k) : j = k := by
    obtain ⟨future, body, scope, here⟩ := j
    obtain ⟨future', body', scope', there⟩ := k
    obtain ⟨rfl, rfl, rfl, same, -⟩ := related
    cases settings _ _ same
    rfl
  have sameFutures : futures = s.futures := by
    apply Array.ext_getElem?
    intro i
    have related := twins.get i
    generalize s.futures[i]? = left, futures[i]? = right at related
    cases related with
    | none => rfl
    | some related => rw [sameFuture _ _ related]
  have sameJobs : s.jobs = jobs := List.forall₂_eq_eq_eq ▸ twins.jobs.imp sameJob
  rw [sameFutures, ← sameJobs]

/-- On the clean side every stored value is settled. -/
theorem States.settled (states : c.States s t) (clean : c.clean) : s.Settled := by
  obtain ⟨futures, jobs, -, twins⟩ := states
  exact twins.settled clean

theorem States.scopes (states : c.States s t) : s.scopes = t.scopes := by
  obtain ⟨futures, jobs, rfl, -⟩ := states
  rfl

theorem States.atoms (states : c.States s t) : s.atoms = t.atoms := by
  obtain ⟨futures, jobs, rfl, -⟩ := states
  rfl

theorem States.channels (states : c.States s t) : s.channels = t.channels := by
  obtain ⟨futures, jobs, rfl, -⟩ := states
  rfl

theorem States.waitGroups (states : c.States s t) : s.waitGroups = t.waitGroups := by
  obtain ⟨futures, jobs, rfl, -⟩ := states
  rfl

theorem States.managers (states : c.States s t) : s.managers = t.managers := by
  obtain ⟨futures, jobs, rfl, -⟩ := states
  rfl

theorem States.files (states : c.States s t) : s.files = t.files := by
  obtain ⟨futures, jobs, rfl, -⟩ := states
  rfl

theorem States.environment (states : c.States s t) : s.environment = t.environment := by
  obtain ⟨futures, jobs, rfl, -⟩ := states
  rfl

theorem States.clock (states : c.States s t) : s.clock = t.clock := by
  obtain ⟨futures, jobs, rfl, -⟩ := states
  rfl

/-- Futures have the same identifiers. -/
theorem States.identifier (states : c.States s t) (i : Nat) :
    (s.futures[i]?).map Future.identifier = (t.futures[i]?).map Future.identifier := by
  have related := states.future i
  generalize s.futures[i]? = left, t.futures[i]? = right at related
  cases related with
  | none => rfl
  | some futures => exact congrArg some futures.1

/-- Futures are done on both sides or on neither. -/
theorem States.isDone (states : c.States s t) (i : Nat) :
    (s.futures[i]?).map Future.isDone = (t.futures[i]?).map Future.isDone := by
  have related := states.future i
  generalize s.futures[i]? = left, t.futures[i]? = right at related
  cases related with
  | none => rfl
  | @some f g futures =>
      have outcomes := futures.2
      simp only [Option.map_some, Future.isDone]
      generalize f.outcome = left, g.outcome = right at outcomes
      cases outcomes with
      | none => rfl
      | some _ => rfl

/-- The printer shows the same of corresponding states. -/
theorem States.cells (states : c.States s t) : s.cells = t.cells := by
  have identifiers : State.cellsTo.futureIdentifier s = State.cellsTo.futureIdentifier t := by
    funext i
    simp only [State.cellsTo.futureIdentifier, states.identifier i]
  have capacities : State.cellsTo.channelCapacity s = State.cellsTo.channelCapacity t := by
    funext i
    simp only [State.cellsTo.channelCapacity, states.channels]
  have texts : State.cellsTo.atomText s = State.cellsTo.atomText t := by
    funext cells i
    simp only [State.cellsTo.atomText, states.atoms]
  have levels (depth : Nat) : s.cellsTo depth = t.cellsTo depth := by
    induction depth with
    | zero => simp only [State.cellsTo, identifiers, capacities]
    | succ depth ih => simp only [State.cellsTo, identifiers, capacities, texts, ih]
  unfold State.cells State.printDepth
  rw [states.atoms]
  exact levels _

/-- The registry that a program sees is the same. -/
theorem States.registry (states : c.States s t) (i : Nat) : s.registry i = t.registry i := by
  unfold State.registry State.manager
  rw [states.managers]

/-- Waiting is over at the same time on both sides. -/
theorem States.isOver (states : c.States s t) (w : Wait) : w.isOver s = w.isOver t := by
  have met : w.isMet s = w.isMet t := by
    cases w with
    | finish f deadline =>
        have done := states.isDone f
        simp only [Wait.isMet]
        cases left : s.futures[f]? <;> cases right : t.futures[f]? <;> simp_all
    | _ => simp only [Wait.isMet, states.channels, states.waitGroups]
  unfold Wait.isOver
  rw [met, states.clock]

/-! ### Changing the store -/

/-- An operation apart from futures and threads. -/
theorem States.map {f : State → State} (states : c.States s t)
    (apart : ∀ futures jobs, f { s with futures := futures, jobs := jobs } =
      { f s with futures := futures, jobs := jobs })
    (futures : (f s).futures = s.futures) (jobs : (f s).jobs = s.jobs)
    (intact : c.intact s.scopes → c.intact (f s).scopes)
    (settled : c.clean → s.Settled → (f s).Settled) : c.States (f s) (f t) := by
  obtain ⟨fs, js, rfl, twins⟩ := states
  refine ⟨fs, js, apart fs js, ?_, ?_, ?_, ?_, ?_⟩
  · rw [futures, twins.size]
  · rw [futures]
    exact twins.futures
  · rw [jobs]
    exact twins.jobs
  · exact intact twins.intact
  · exact fun clean => settled clean (twins.settled clean)

/-- An operation on a part of the state that holds no values. -/
theorem States.mapAside {f : State → State} (states : c.States s t)
    (apart : ∀ futures jobs, f { s with futures := futures, jobs := jobs } =
      { f s with futures := futures, jobs := jobs })
    (futures : (f s).futures = s.futures) (jobs : (f s).jobs = s.jobs)
    (scopes : (f s).scopes = s.scopes) (atoms : (f s).atoms = s.atoms)
    (channels : (f s).channels = s.channels) : c.States (f s) (f t) := by
  apply states.map apart futures jobs (fun intact => by rwa [scopes])
  intro _ settled
  constructor
  · rw [scopes]; exact settled.scopes
  · rw [atoms]; exact settled.atoms
  · rw [channels]; exact settled.channels
  · rw [futures]; exact settled.futures
  · rw [jobs]; exact settled.jobs

/-- An operation on the scopes. -/
theorem States.mapScopes (states : c.States s t) (f : Scopes → Scopes)
    (intact : c.intact s.scopes → c.intact (f s.scopes))
    (settled : c.clean → (∀ scope ∈ s.scopes, scope.Settled) →
      ∀ scope ∈ f s.scopes, scope.Settled) :
    c.States { s with scopes := f s.scopes } { t with scopes := f t.scopes } :=
  states.map (f := fun s => { s with scopes := f s.scopes }) (fun _ _ => rfl) rfl rfl intact
    fun clean before =>
      ⟨settled clean before.scopes, before.atoms, before.channels, before.futures, before.jobs⟩

/-- An operation on the atoms. -/
theorem States.mapAtoms (states : c.States s t) (f : Array Atom → Array Atom)
    (settled : c.clean → (∀ a ∈ s.atoms, a.value.Settled) → ∀ a ∈ f s.atoms, a.value.Settled) :
    c.States { s with atoms := f s.atoms } { t with atoms := f t.atoms } :=
  states.map (f := fun s => { s with atoms := f s.atoms }) (fun _ _ => rfl) rfl rfl id
    fun clean before =>
      ⟨before.scopes, settled clean before.atoms, before.channels, before.futures, before.jobs⟩

/-- An operation on the channels. -/
theorem States.mapChannels (states : c.States s t) (f : Array Channel → Array Channel)
    (settled : c.clean → (∀ channel ∈ s.channels, Value.AllSettled channel.queue) →
      ∀ channel ∈ f s.channels, Value.AllSettled channel.queue) :
    c.States { s with channels := f s.channels } { t with channels := f t.channels } :=
  states.map (f := fun s => { s with channels := f s.channels }) (fun _ _ => rfl) rfl rfl id
    fun clean before =>
      ⟨before.scopes, before.atoms, settled clean before.channels, before.futures, before.jobs⟩

/-! ### Scopes -/

/-- A new scope gets the same number, and may be written. -/
theorem Rel.newScope (parent : Nat) :
    c.Rel (fun i j => i = j ∧ c.writable i) (newScope parent) (newScope parent) := by
  refine Rel.update fun s t states => ⟨⟨?_, ?_⟩, ?_⟩
  · exact congrArg Array.size states.scopes
  · obtain ⟨futures, jobs, -, twins⟩ := states
    exact c.writable_size twins.intact
  · refine states.mapScopes (fun scopes => scopes.add (some parent)) (c.intact_push _) ?_
    intro clean before scope member
    rcases Array.mem_push.1 member with inside | rfl
    · exact before scope inside
    · exact ⟨trivial, fun entry member => absurd member List.not_mem_nil⟩

/-- Goes on in a new scope, which may be written. -/
theorem Rel.inNewScope {α β : Type} {Q : α → β → Prop} {f : Nat → Machine α} {f' : Nat → Machine β}
    (parent : Nat) (next : ∀ inner, c.writable inner → c.Rel Q (f inner) (f' inner)) :
    c.Rel Q (Machine.newScope parent >>= f) (Machine.newScope parent >>= f') :=
  (Rel.newScope parent).bind fun i j same => by
    obtain ⟨rfl, writable⟩ := same
    exact next i writable

/-- Binding a settled value keeps the scopes settled. -/
theorem settled_set {scopes : Scopes} {i : Nat} {name : String} {v : Value}
    (before : ∀ scope ∈ scopes, scope.Settled) (settled : v.Settled) :
    ∀ scope ∈ scopes.set i name v, scope.Settled :=
  forall_mem_modify before fun _ _ kept => ⟨kept.1.put settled, kept.2⟩

/-- A variable of a writable scope may be bound to a settled value. -/
theorem Rel.setVariable {scope : Nat} {name : String} {v : Value} (writable : c.writable scope)
    (settled : c.clean → v.Settled) :
    c.Rel Eq (setVariable scope name v) (setVariable scope name v) :=
  Rel.change fun _ _ states =>
    states.mapScopes (fun scopes => scopes.set scope name v) (c.intact_modify _ writable)
      fun clean before => settled_set before (settled clean)

/-- Binding parameters in a writable scope keeps the others intact. -/
theorem intact_bindParams {scopes : Scopes} {frame : Nat} {params : List String}
    {rest : Option String} {args : List Value} (writable : c.writable frame)
    (intact : c.intact scopes) : c.intact (scopes.bindParams frame params rest args) := by
  fun_induction Scopes.bindParams scopes frame params rest args with
  | case1 scopes p params v args ih => exact ih (c.intact_modify _ writable intact)
  | case2 => exact c.intact_modify _ writable intact
  | case3 => exact intact

/-- Binding settled arguments keeps the scopes settled. -/
theorem settled_bindParams {scopes : Scopes} {frame : Nat} {params : List String}
    {rest : Option String} {args : List Value} (before : ∀ scope ∈ scopes, scope.Settled)
    (settled : Value.AllSettled args) :
    ∀ scope ∈ scopes.bindParams frame params rest args, scope.Settled := by
  fun_induction Scopes.bindParams scopes frame params rest args with
  | case1 scopes p params v args ih => exact ih (settled_set before settled.1) settled.2
  | case2 => exact settled_set before settled
  | case3 => exact before

/-- Parameters are bound alike, or refused alike. -/
theorem Rel.bindParams {k : Closure} {args : List Value} {frame : Nat}
    (writable : c.writable frame) (settled : c.clean → Value.AllSettled args) :
    c.Rel Eq (bindParams k args frame) (bindParams k args frame) := by
  unfold Machine.bindParams
  split
  · exact Rel.change fun _ _ states =>
      states.mapScopes (fun scopes => scopes.bindParams frame k.params k.rest args)
        (intact_bindParams writable) fun clean before => settled_bindParams before (settled clean)
  · exact Rel.failSame _

/-- A module of settled members may be defined in a writable scope. -/
theorem Rel.defineModule {scope : Nat} {m : NamedModule} (writable : c.writable scope)
    (settled : c.clean → Value.EntriesSettled m.members) :
    c.Rel Eq (Machine.change fun s => { s with scopes := s.scopes.defineModule scope m })
      (Machine.change fun s => { s with scopes := s.scopes.defineModule scope m }) := by
  refine Rel.change fun _ _ states =>
    states.mapScopes (fun scopes => scopes.defineModule scope m) (c.intact_modify _ writable) ?_
  intro clean before
  refine forall_mem_modify before fun inner member kept => ⟨kept.1, fun entry inside => ?_⟩
  rcases Assoc.mem_put inside with rfl | inside
  · exact settled clean
  · exact kept.2 entry inside

/-- A name may be exported from a writable scope. -/
theorem Rel.markExported {scope : Nat} {name : String} (writable : c.writable scope) :
    c.Rel Eq (Machine.change fun s => { s with scopes := s.scopes.markExported scope name })
      (Machine.change fun s => { s with scopes := s.scopes.markExported scope name }) := by
  refine Rel.change fun _ _ states =>
    states.mapScopes (fun scopes => scopes.markExported scope name) (c.intact_modify _ writable) ?_
  intro clean before
  apply forall_mem_modify before
  intro inner member kept
  split
  · exact kept
  · exact kept

/-! ### Texts, turns and threads -/

theorem Rel.formText (f : Form) : c.Rel Eq (formText f) (formText f) :=
  Rel.look fun _ _ states => congrArg f.show states.cells

theorem Rel.displayJoined (values : List Value) :
    c.Rel Eq (displayJoined values) (displayJoined values) :=
  Rel.look fun _ _ states =>
    congrArg (fun cells => " ".intercalate (values.map (Value.display cells))) states.cells

theorem Rel.yieldTurn : c.Rel Eq yieldTurn yieldTurn := by
  intro s t states
  have related := states
  obtain ⟨futures, jobs, rfl, -⟩ := states
  unfold Machine.yieldTurn
  dsimp only
  split
  · exact .ok rfl related
  · split
    · exact .ok rfl (related.mapAside (f := fun s => { s with turnCalls := s.turnCalls + 1 })
        (fun _ _ => rfl) rfl rfl rfl rfl rfl)
    · exact .blocked (related.mapAside (f := fun s => { s with turnCalls := 0 })
        (fun _ _ => rfl) rfl rfl rfl rfl rfl) fun s' t' states => .ok rfl states

theorem Rel.await (w : Wait) : c.Rel Eq (await w) (await w) := by
  intro s t states
  unfold Machine.await
  rw [states.isOver w]
  split
  · exact .ok rfl states
  · exact .blocked states fun s' t' states' => .ok rfl states'

/-- What starting a thread does to the state. -/
theorem spawn_eq (s : State) (body : List Form) (scope : Nat) (settings : Settings) :
    s.spawn body scope settings = (s.futures.size, { s with
      futures := s.futures.push ⟨State.identifierText s.identifiers, none⟩
      identifiers := s.identifiers + 1
      jobs := ⟨s.futures.size, body, scope, settings⟩ :: s.jobs
      crowded := true }) := rfl

/-- Starting a thread: both sides get a future of the same number and identifier. -/
theorem Rel.spawn {body : List Form} {scope : Nat} {a b : Settings} (writable : c.writable scope)
    (settled : c.clean → Form.AllSettled body) (settings : c.settings a b) :
    c.Rel Eq (Machine.update fun s => s.spawn body scope a)
      (Machine.update fun s => s.spawn body scope b) := by
  apply Rel.update
  intro s t states
  obtain ⟨futures, jobs, rfl, twins⟩ := states
  rw [spawn_eq, spawn_eq]
  -- the identifier is the same on both sides, whatever it is
  generalize State.identifierText s.identifiers = identifier
  refine ⟨twins.size.symm, futures.push ⟨identifier, none⟩,
    ⟨futures.size, body, scope, b⟩ :: jobs, rfl, ?_, ?_, ?_, ?_, ?_⟩
  · simp only [Array.size_push, twins.size]
  · intro i f g left right
    simp only [Array.getElem?_push, twins.size] at left right
    split at left
    next same =>
      rw [if_pos same] at right
      cases left
      cases right
      exact ⟨rfl, .none⟩
    next other =>
      rw [if_neg other] at right
      exact twins.futures i f g left right
  · exact .cons ⟨twins.size.symm, rfl, rfl, settings, writable⟩ twins.jobs
  · exact twins.intact
  · intro clean
    have before := twins.settled clean
    refine ⟨before.scopes, before.atoms, before.channels, ?_, ?_⟩
    · intro f member v done
      rcases Array.mem_push.1 member with inside | rfl
      · exact before.futures f inside v done
      · cases done
    · exact List.forall_mem_cons.2 ⟨settled clean, before.jobs⟩

end PluginLisp.Correspondence
