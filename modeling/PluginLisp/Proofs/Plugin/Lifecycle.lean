import PluginLisp.Proofs.Plugin.Coherence

/-!
The life of a plugin. The callbacks of the plugins of one name run in rounds: setting up, registration
if setting up succeeded, and tearing down. `Stage.run` follows the callbacks that have run through such
a round. `Advances` says once what a load or an unload adds to them, and a plugin is loaded exactly
while its last round is open.

Main results: `Paired.advances`, `Operated.lifecycle`.
-/

namespace PluginLisp

/-! ### Rounds -/

/-- How far the present round of a plugin has got. -/
inductive Stage where
  | unloaded
  /-- It has been set up. -/
  | ready
  /-- A callback has failed. -/
  | failed
  | loaded
deriving DecidableEq, Repr, Inhabited

namespace Stage

/-- The stage after a callback. None if the callback must not run at that stage. -/
def after : Stage → PluginEvent → Option Stage
  | unloaded, ⟨.setUp, _, none⟩ => some ready
  | unloaded, ⟨.setUp, _, some _⟩ => some failed
  | ready, ⟨.registration, _, none⟩ => some loaded
  | ready, ⟨.registration, _, some _⟩ => some failed
  | failed, ⟨.tearDown, _, _⟩ | loaded, ⟨.tearDown, _, _⟩ => some unloaded
  | _, _ => none

/-- The stage after callbacks that have run in this order. -/
def run (stage : Stage) (events : List PluginEvent) : Option Stage := events.foldlM after stage

/-- The stage of a plugin between two operations. -/
def atRest (loaded : Bool) : Stage := if loaded then Stage.loaded else unloaded

/-- How many rounds are open: one, or none if nothing is to be torn down. -/
def openRounds : Stage → Nat
  | unloaded => 0
  | _ => 1

/-- At rest, a round is open if the plugin is loaded. -/
@[simp] theorem openRounds_atRest (loaded : Bool) : (atRest loaded).openRounds = loaded.toNat := by
  cases loaded <;> rfl

@[simp] theorem run_nil (stage : Stage) : stage.run [] = some stage := rfl

theorem run_cons (stage : Stage) (e : PluginEvent) (events : List PluginEvent) :
    stage.run (e :: events) = (stage.after e).bind (·.run events) := List.foldlM_cons

/-- Two histories in a row are followed one after the other. -/
theorem run_append (stage : Stage) (first second : List PluginEvent) :
    stage.run (first ++ second) = (stage.run first).bind (·.run second) := List.foldlM_append

/-- The cases of a callback that may run. -/
theorem after_cases {stage next : Stage} {e : PluginEvent} (moved : stage.after e = some next) :
    (stage = unloaded ∧ e.phase = .setUp ∧ next ≠ unloaded) ∨
      (stage = ready ∧ e.phase = .registration ∧ next ≠ unloaded) ∨
      (stage ≠ unloaded ∧ e.phase = .tearDown ∧ next = unloaded) := by
  obtain ⟨phase, p, fault⟩ := e
  cases stage <;> cases phase <;> cases fault <;> simp_all [after, eq_comm]

/-- Every round begins with setting up and ends with tearing down. -/
theorem run_count {stage last : Stage} {events : List PluginEvent}
    (ran : stage.run events = some last) :
    stage.openRounds + events.countP (·.phase = .setUp) =
      events.countP (·.phase = .tearDown) + last.openRounds := by
  induction events generalizing stage with
  | nil =>
      cases ran
      simp
  | cons e rest ih =>
      rw [run_cons] at ran
      obtain ⟨next, moved, later⟩ := Option.bind_eq_some_iff.1 ran
      have counted := ih later
      rcases after_cases moved with ⟨rfl, phase, opened⟩ | ⟨rfl, phase, opened⟩ | ⟨opened, phase, rfl⟩
      · cases next <;> simp_all [openRounds] <;> omega
      · cases next <;> simp_all [openRounds]
      · cases stage <;> simp_all [openRounds] <;> omega

/-- Between two callbacks that tear down there is one that sets up. -/
theorem exists_setUp_between {stage last : Stage} {before between rest : List PluginEvent}
    {e e' : PluginEvent} (ran : stage.run (before ++ e :: (between ++ e' :: rest)) = some last)
    (first : e.phase = .tearDown) (second : e'.phase = .tearDown) :
    ∃ s ∈ between, s.phase = .setUp := by
  rw [run_append] at ran
  obtain ⟨stage₁, -, ran⟩ := Option.bind_eq_some_iff.1 ran
  rw [run_cons] at ran
  obtain ⟨stage₂, moved, ran⟩ := Option.bind_eq_some_iff.1 ran
  obtain rfl : stage₂ = unloaded := by
    rcases after_cases moved with ⟨-, phase, -⟩ | ⟨-, phase, -⟩ | ⟨-, -, here⟩
    · simp [first] at phase
    · simp [first] at phase
    · exact here
  -- from there, only setting up goes on
  cases between with
  | nil =>
      rw [List.nil_append, run_cons] at ran
      obtain ⟨stage₃, moved', -⟩ := Option.bind_eq_some_iff.1 ran
      rcases after_cases moved' with ⟨-, phase, -⟩ | ⟨stuck, -⟩ | ⟨opened, -⟩
      · simp [second] at phase
      · cases stuck
      · exact absurd rfl opened
  | cons s others =>
      rw [List.cons_append, run_cons] at ran
      obtain ⟨stage₃, moved', -⟩ := Option.bind_eq_some_iff.1 ran
      rcases after_cases moved' with ⟨-, phase, -⟩ | ⟨stuck, -⟩ | ⟨opened, -⟩
      · exact ⟨s, List.mem_cons_self, phase⟩
      · cases stuck
      · exact absurd rfl opened

end Stage

/-! ### What loading and unloading add -/

namespace Manager

/-- The callbacks that run when a plugin is started, by the error that comes of it. -/
inductive Began (p : Plugin) : Option Error → List PluginEvent → Prop where
  | setUpFails (e : Error) : Began p (some e) [⟨.setUp, p, some e⟩]
  | registers (fault : Option Error) : Began p fault [⟨.setUp, p, none⟩, ⟨.registration, p, fault⟩]

/-- All that one load or unload can do to the callbacks that have run and to the loaded plugins. -/
inductive Advances (m m' : Manager) : Prop where
  | rests (events : m'.events = m.events) (loaded : m'.loaded = m.loaded)
  | fails (p : Plugin) (e : Error) (began : List PluginEvent) (ran : Began p (some e) began)
      (free : m.isLoaded p.name = false)
      (events : m'.events.toList = m.events.toList ++ (began ++ [⟨.tearDown, p, p.tearDownFault⟩]))
      (loaded : m'.loaded = m.loaded)
  | loads (p : Plugin) (functions : List String) (began : List PluginEvent)
      (ran : Began p none began) (free : m.isLoaded p.name = false)
      (events : m'.events.toList = m.events.toList ++ began)
      (loaded : m'.loaded = m.loaded.put p.name ⟨p, functions⟩)
  | unloads (name : String) (entry : LoadedPlugin) (found : Assoc.get? name m.loaded = some entry)
      (events : m'.events.toList =
        m.events.toList ++ [⟨.tearDown, entry.plugin, entry.plugin.tearDownFault⟩])
      (loaded : m'.loaded = m.loaded.remove name)

section

variable {m m' : Manager} {p : Plugin} {name : String}

@[simp] theorem events_removeAll (gone : String) (names : List String) :
    (m.removeAll gone names).events = m.events := by
  induction names generalizing m with
  | nil => rfl
  | cons name rest ih =>
      rw [removeAll]
      split
      · exact ih
      · exact ih

@[simp] theorem loaded_removeAll (gone : String) (names : List String) :
    (m.removeAll gone names).loaded = m.loaded := by
  induction names generalizing m with
  | nil => rfl
  | cons name rest ih =>
      rw [removeAll]
      split
      · exact ih
      · exact ih

@[simp] theorem events_tearDown (warning : String) :
    (m.tearDown warning p).events = m.events.push ⟨.tearDown, p, p.tearDownFault⟩ := by
  unfold tearDown
  split <;> rfl

/-- The callbacks that run when a plugin is started. -/
theorem start_began (m : Manager) (p : Plugin) :
    ∃ began, Began p (m.start p).2 began ∧
      (m.start p).1.events.toList = m.events.toList ++ began := by
  unfold start
  split
  next registry e _ => exact ⟨_, .setUpFails e, by simp [note]⟩
  next registry _ => exact ⟨_, .registers _, by simp [note]⟩

/-- A load adds the rounds that its outcome calls for. -/
theorem load_advances (m : Manager) (p : Plugin) : Advances m (m.load p).2 := by
  unfold load
  split
  · exact .rests rfl rfl
  · rename_i accepted
    have free := (refusal?_eq_none accepted).1
    obtain ⟨began, ran, events⟩ := start_began m p
    have loaded := (start_started m p).loaded
    rcases started : m.start p with ⟨m₁, fault⟩
    simp only [started] at ran events loaded
    cases fault with
    | none =>
        refine .loads p (m₁.registry.names.filter fun name => !m.registry.has name) began ran free
          events ?_
        rw [← loaded]
    | some e =>
        refine .fails p e began ran free ?_ ?_
        · simp [events]
        · simpa using loaded

/-- An unload adds the last callback, if it is not refused. -/
theorem unload_advances (m : Manager) (name : String) : Advances m (m.unload name).2 := by
  unfold unload
  split
  · exact .rests rfl rfl
  · rename_i entry found
    split
    · exact .unloads name entry found (by simp) (by simp)
    · exact .rests rfl rfl

/-! ### Rounds of loads and unloads -/

/-- The callbacks of plugins of a name that have run, in order. -/
def callbacksOf (m : Manager) (name : String) : List PluginEvent :=
  m.events.toList.filter fun e => e.plugin.name == name

/-- The callbacks of every name have run in rounds, the last one open exactly if a plugin of that name
    is loaded. What is loaded is known by its own name. -/
structure Paired (m : Manager) : Prop where
  sorted : m.loaded.Sorted
  named : ∀ {name entry}, Assoc.get? name m.loaded = some entry → entry.plugin.name = name
  rounds : ∀ name, Stage.unloaded.run (m.callbacksOf name) = some (.atRest (m.isLoaded name))

/-- A plugin is ready to be loaded, or has failed and is to be torn down, after it was started. -/
theorem Began.run {fault : Option Error} {began : List PluginEvent} (ran : Began p fault began) :
    Stage.unloaded.run began = some (if fault.isSome then .failed else .loaded) := by
  cases ran with
  | setUpFails e => rfl
  | registers fault => cases fault <;> rfl

/-- The callbacks of a load are those of its plugin. -/
theorem Began.plugin {fault : Option Error} {began : List PluginEvent} (ran : Began p fault began) :
    ∀ e ∈ began, e.plugin = p := by
  cases ran <;> simp

/-- Callbacks of one plugin are those of its name and of no other one. -/
theorem callbacksOf_append {events : List PluginEvent}
    (added : m'.events.toList = m.events.toList ++ events) (own : ∀ e ∈ events, e.plugin.name = name)
    (other : String) :
    m'.callbacksOf other = m.callbacksOf other ++ if name = other then events else [] := by
  unfold callbacksOf
  rw [added, List.filter_append]
  congr 1
  split
  next same =>
    rw [List.filter_eq_self]
    simpa [← same] using own
  next different =>
    rw [List.filter_eq_nil_iff]
    intro e member
    simpa [own e member] using different

/-- Callbacks of one plugin that take it from one stage of rest to another one keep all rounds. -/
theorem Paired.rounds_append (paired : Paired m) (name : String) {events : List PluginEvent}
    (added : m'.events.toList = m.events.toList ++ events) (own : ∀ e ∈ events, e.plugin.name = name)
    (moved : (Stage.atRest (m.isLoaded name)).run events = some (.atRest (m'.isLoaded name)))
    (others : ∀ other, name ≠ other → m'.isLoaded other = m.isLoaded other) (other : String) :
    Stage.unloaded.run (m'.callbacksOf other) = some (.atRest (m'.isLoaded other)) := by
  rw [callbacksOf_append added own, Stage.run_append, paired.rounds, Option.bind_some]
  split
  next same => rw [← same, moved]
  next different => rw [Stage.run_nil, others other different]

/-- An operation keeps every plugin's callbacks paired. -/
theorem Paired.advances (paired : Paired m) (advances : Advances m m') : Paired m' := by
  have sorted := paired.sorted
  cases advances with
  | rests events loaded =>
      refine ⟨loaded ▸ sorted, fun found => paired.named (loaded ▸ found), fun name => ?_⟩
      rw [callbacksOf, events, isLoaded, loaded]
      exact paired.rounds name
  | fails p e began ran free events loaded =>
      have same : m'.isLoaded = m.isLoaded := (Alike.of_eq loaded).isLoaded
      refine ⟨loaded ▸ sorted, fun found => paired.named (loaded ▸ found), ?_⟩
      refine paired.rounds_append p.name events ?_ ?_ fun other _ => by rw [same]
      · intro e member
        rcases List.mem_append.1 member with inside | last
        · rw [ran.plugin e inside]
        · rw [List.mem_singleton.1 last]
      · rw [same, free, Stage.run_append, Stage.atRest, if_neg Bool.false_ne_true, ran.run]
        rfl
  | loads p functions began ran free events loaded =>
      have now := isLoaded_of_put loaded
      refine ⟨loaded ▸ Assoc.sorted_put sorted _ _, fun {name entry} found => ?_, ?_⟩
      · rw [loaded, Assoc.get?_put] at found
        split at found
        next same =>
          cases found
          exact same
        next => exact paired.named found
      · refine paired.rounds_append p.name events ?_ ?_ fun other different => ?_
        · exact fun e member => by rw [ran.plugin e member]
        · rw [free, now, beq_self_eq_true]
          exact ran.run
        · simp [now, different]
  | unloads name entry found events loaded =>
      have now := isLoaded_of_remove sorted loaded
      have here : m.isLoaded name = true := isLoaded_eq_true_iff.2 ⟨entry, found⟩
      refine ⟨loaded ▸ Assoc.sorted_remove sorted _, fun {other entry'} found' => ?_, ?_⟩
      · rw [loaded, sorted.get?_remove] at found'
        split at found'
        next => cases found'
        next => exact paired.named found'
      · refine paired.rounds_append name events ?_ ?_ fun other different => ?_
        · simpa using paired.named found
        · rw [here, now]
          simp [Stage.run, Stage.atRest, Stage.after]
        · simp [now, Ne.symm different]

/-- A load keeps every plugin's callbacks paired. -/
theorem Paired.load (paired : Paired m) (p : Plugin) : Paired (m.load p).2 :=
  paired.advances (load_advances m p)

/-- An unload keeps every plugin's callbacks paired. -/
theorem Paired.unload (paired : Paired m) (name : String) : Paired (m.unload name).2 :=
  paired.advances (unload_advances m name)

/-! ### Whole histories -/

/-- The managers that a history of operations leads to, from any manager with nothing loaded that has
    run no callback yet. -/
inductive Operated : Manager → Prop where
  | start {m : Manager} (loaded : m.loaded = []) (events : m.events = #[]) : Operated m
  | load {m : Manager} (before : Operated m) (p : Plugin) : Operated (m.load p).2
  | loadAll {m : Manager} (before : Operated m) (plugins : List Plugin) :
      Operated (m.loadAll plugins).2
  | unload {m : Manager} (before : Operated m) (name : String) : Operated (m.unload name).2
  | reload {m : Manager} (before : Operated m) (name : String) : Operated (m.reload name).2
  /-- The registry is open to everybody, and a plugin need not do the same each time, nor depend on the
      same plugins, nor leave the names alone that are noted for it. It keeps its own name. -/
  | drift {m : Manager} (before : Operated m) (registry : Registry) (loaded : Assoc LoadedPlugin)
      (same : loaded.names = m.loaded.names)
      (named : ∀ entry ∈ loaded, entry.2.plugin.name = entry.1) :
      Operated { m with registry, loaded }

theorem sorted_of_names {α β : Type} {entries : Assoc α} {entries' : Assoc β}
    (same : entries'.names = entries.names) (sorted : entries.Sorted) : entries'.Sorted := by
  have keys : entries.names.Pairwise (· < ·) := List.pairwise_map.2 sorted
  rw [← same] at keys
  exact List.pairwise_map.1 keys

/-- Whatever operations were made, every plugin's callbacks are paired. -/
theorem Operated.paired (operated : Operated m) : Paired m := by
  induction operated with
  | @start m loaded events =>
      refine ⟨loaded ▸ Assoc.sorted_nil, fun found => ?_, fun name => ?_⟩
      · rw [loaded] at found
        cases found
      · rw [callbacksOf, events, isLoaded, loaded]
        rfl
  | load _ p ih => exact ih.load p
  | loadAll _ plugins ih =>
      exact loadPending_keeps (C := fun _ => True) (fun {m p} _ paired => paired.load p) ih
        plugins.length plugins fun _ _ => trivial
  | unload _ name ih => exact ih.unload name
  | reload _ name ih =>
      exact reload_keeps (C := fun _ => True) (fun {m p} _ paired => paired.load p)
        (fun name paired => paired.unload name) (fun _ => trivial) ih
  | @drift m _ registry loaded same named ih =>
      refine ⟨sorted_of_names same ih.sorted, fun found => ?_, fun name => ?_⟩
      · exact named _ (Assoc.get?_mem found)
      · have here : Assoc.has name loaded = m.isLoaded name := by
          rw [Bool.eq_iff_iff, Assoc.has_iff_mem_names, same, ← Assoc.has_iff_mem_names, isLoaded]
        exact (ih.rounds name).trans (congrArg (some ∘ Stage.atRest) here.symm)

/-- In every manager that a history of operations leads to, the callbacks of each name have run in
    rounds: a plugin is set up, registers exactly if that succeeded, and is torn down, where the last
    round is without its end exactly if the plugin is loaded. So it was set up once more than it was
    torn down if it is loaded, and as often otherwise, and it was set up anew between any two times it
    was torn down. -/
theorem Operated.lifecycle (operated : Operated m) (name : String) :
    Stage.unloaded.run (m.callbacksOf name) = some (.atRest (m.isLoaded name)) ∧
      (m.callbacksOf name).countP (·.phase = .setUp) =
        (m.callbacksOf name).countP (·.phase = .tearDown) + (m.isLoaded name).toNat ∧
      ∀ before e between e' rest, m.callbacksOf name = before ++ e :: (between ++ e' :: rest) →
        e.phase = .tearDown → e'.phase = .tearDown → ∃ s ∈ between, s.phase = .setUp := by
  have rounds := operated.paired.rounds name
  refine ⟨rounds, ?_, fun before e between e' rest split first second => ?_⟩
  · have counted := Stage.run_count rounds
    rwa [Stage.openRounds_atRest, Stage.openRounds, Nat.zero_add] at counted
  · exact Stage.exists_setUp_between (split ▸ rounds) first second

/-! ### A plugin that changes -/

/-- A plugin with an echo that may fail to be set up or to register, and fails to be torn down. -/
def fickle (setUpFault registrationFault : Option Error) : Plugin where
  name := "fickle"
  version := "1"
  description := ""
  setUp := ⟨[], setUpFault⟩
  registration := .registering [.builtin (echo "f")] registrationFault
  tearDownFault := some (.runtime "stuck")

/-- The plugin is loaded together with another one, then cannot register when it is reloaded, cannot be
    set up when it is loaded again, and is loaded at last. -/
def fickleManager : Manager :=
  let m : Manager := {}
  let m := (m.loadAll [echoing "top" "c" ["fickle"], fickle none none]).2
  let m := (m.reload "fickle").2
  let m := (m.unload "top").2
  let m := { m with
    registry := keepOnly, loaded := [("fickle", ⟨fickle none (some (.runtime "full")), ["f"]⟩)] }
  let m := (m.reload "fickle").2
  let m := (m.load (fickle (some (.runtime "missing")) none)).2
  (m.load (fickle none none)).2

/-- A plugin whose callbacks fail in turn. -/
theorem fickleManager_lifecycle :
    (fickleManager.callbacksOf "fickle").map (·.phase.name) =
        ["initialize", "register", "shutdown", "initialize", "register", "shutdown", "initialize",
          "shutdown", "initialize", "register"] ∧
      fickleManager.isLoaded "fickle" = true ∧
      Stage.unloaded.run (fickleManager.callbacksOf "fickle") = some .loaded := by
  have first : Operated {} := .start rfl rfl
  have busy := (((first.loadAll [echoing "top" "c" ["fickle"], fickle none none]).reload "fickle").unload
    "top")
  have changed := busy.drift keepOnly [("fickle", ⟨fickle none (some (.runtime "full")), ["f"]⟩)]
    (by decide) (by decide)
  have operated : Operated fickleManager := ((changed.reload _).load _).load _
  have loaded : fickleManager.isLoaded "fickle" = true := by decide
  have rounds := (operated.lifecycle "fickle").1
  rw [loaded] at rounds
  exact ⟨by decide, loaded, rounds⟩

end

end Manager

end PluginLisp
