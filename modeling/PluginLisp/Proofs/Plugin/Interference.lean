import PluginLisp.Proofs.Plugin.Operations

/-!
The manager of plugins in single steps. Everybody can call the registry, also while the manager is
loading or unloading a plugin: no lock is held between one call on the registry and the next.
`Manager.Step` is one step of the manager, one call on the registry, or one change of a loaded plugin.
The operations of the manager are runs of such steps in which nobody else makes a call
(`Manager.runs_load`, `Manager.runs_unload`, `Manager.runs_loadAll`, `Manager.runs_reload`).

Main results: `runs_load`, `runs_unload`, `runs_loadAll`, `runs_reload`.
-/

namespace PluginLisp

namespace Manager

/-! ### Steps -/

/-- Who makes a call on the registry: the callback that is running, or somebody else. -/
inductive Caller where
  | callback
  | other
deriving DecidableEq, Repr

/-- What the manager is at. -/
inductive Activity where
  | idle
  /-- A callback is running of a plugin that is being loaded. The registry is that from when the load
      began. -/
  | loading (phase : Phase) (p : Plugin) (before : Registry)
  /-- Names are taken out of the registry, after which the plugin is torn down. -/
  | removing (names : List String) (p : Plugin) (gone warning : String)

/-- The manager with what it is at. -/
structure Scene where
  manager : Manager
  activity : Activity := .idle

/-- What happens in one step. -/
inductive Act where
  | call (caller : Caller) (made : RegistryCall)
  | load (p : Plugin)
  /-- The callback that is running ends. -/
  | finish (fault : Option Error)
  | unload (name : String)
  | remove
  | tearDown
  /-- A loaded plugin will do something else from now on. -/
  | turn (name : String) (p : Plugin)

/-- The manager after a call on its registry: a call that fails changes nothing. -/
def withRegistry (m : Manager) (result : Except Error Registry) : Manager :=
  match result with
  | .ok registry => { m with registry }
  | .error _ => m

/-- Takes one name out of the registry, with a warning if it is gone already. -/
def removeOne (gone : String) (m : Manager) (name : String) : Manager :=
  match m.registry.unregister name with
  | .ok registry => { m with registry }
  | .error _ => m.warn gone

/-- The names that the registry has now and did not have before. -/
def newNames (m : Manager) (before : Registry) : List String :=
  m.registry.names.filter fun name => !before.has name

/-- One step. A callback may make any calls, and fail or not. An operation that is refused does nothing
    and is no step. Somebody who gives a second name to a builtin may look it up some time before the
    call: then the call is the registration of what was found. -/
inductive Step : Scene → Act → Scene → Prop where
  | called (m : Manager) (activity : Activity) (made : RegistryCall) :
      Step ⟨m, activity⟩ (.call .other made) ⟨m.withRegistry (made.apply m.registry), activity⟩
  | calls (m : Manager) (phase : Phase) (p : Plugin) (before : Registry) (made : RegistryCall) :
      Step ⟨m, .loading phase p before⟩ (.call .callback made)
        ⟨m.withRegistry (made.apply m.registry), .loading phase p before⟩
  | begins {m : Manager} {p : Plugin} (accepted : m.refusal? p = none) :
      Step ⟨m, .idle⟩ (.load p) ⟨m, .loading .setUp p m.registry⟩
  | setsUp (m : Manager) (p : Plugin) (before : Registry) :
      Step ⟨m, .loading .setUp p before⟩ (.finish none)
        ⟨m.note .setUp p none, .loading .registration p before⟩
  | registers (m : Manager) (p : Plugin) (before : Registry) :
      Step ⟨m, .loading .registration p before⟩ (.finish none)
        ⟨{ m.note .registration p none with
          loaded := m.loaded.put p.name ⟨p, m.newNames before⟩ }, .idle⟩
  | fails (m : Manager) (phase : Phase) (p : Plugin) (before : Registry) (e : Error) :
      Step ⟨m, .loading phase p before⟩ (.finish (some e))
        ⟨m.note phase p (some e), .removing (m.newNames before) p
          "function already gone during rollback" "shutdown after failed load also failed"⟩
  | unloads {m : Manager} {name : String} {entry : LoadedPlugin}
      (found : Assoc.get? name m.loaded = some entry) (unused : m.dependents name = []) :
      Step ⟨m, .idle⟩ (.unload name)
        ⟨{ m with loaded := m.loaded.remove name },
          .removing entry.functions entry.plugin "function already gone at unload"
            "plugin shutdown failed"⟩
  | removes (m : Manager) (name : String) (rest : List String) (p : Plugin) (gone warning : String) :
      Step ⟨m, .removing (name :: rest) p gone warning⟩ .remove
        ⟨m.removeOne gone name, .removing rest p gone warning⟩
  | tearsDown (m : Manager) (p : Plugin) (gone warning : String) :
      Step ⟨m, .removing [] p gone warning⟩ .tearDown ⟨m.tearDown warning p, .idle⟩
  /-- A loaded plugin need not do the same each time, nor depend on the same plugins. -/
  | turns {m : Manager} {activity : Activity} {name : String} {entry : LoadedPlugin} {p : Plugin}
      (found : Assoc.get? name m.loaded = some entry) (same : p.name = entry.plugin.name) :
      Step ⟨m, activity⟩ (.turn name p)
        ⟨{ m with loaded := m.loaded.put name ⟨p, entry.functions⟩ }, activity⟩

/-- Steps one after the other. -/
inductive Steps (s : Scene) : List Act → Scene → Prop where
  | refl : Steps s [] s
  | more {acts : List Act} {k t : Scene} {act : Act} (earlier : Steps s acts k) (step : Step k act t) :
      Steps s (acts ++ [act]) t

section

variable {s t k : Scene} {acts : List Act} {act : Act}

theorem Step.steps (step : Step s act t) : Steps s [act] t := .more .refl step

theorem Steps.trans {others : List Act} (first : Steps s acts k) (second : Steps k others t) :
    Steps s (acts ++ others) t := by
  induction second with
  | refl => simpa using first
  | more earlier step ih =>
      rw [← List.append_assoc]
      exact .more ih step

end

/-! ### Operations as runs -/

/-- Steps lead from one manager to another one, and nobody but the manager and the callbacks makes
    calls. -/
def Runs (s t : Scene) : Prop := ∃ acts, Steps s acts t ∧ ∀ made, .call .other made ∉ acts

section

variable {s t k : Scene} {m : Manager} {act : Act}

theorem Runs.refl (s : Scene) : Runs s s := ⟨[], .refl, by simp⟩

theorem Runs.step (step : Step s act t) (own : ∀ made, act ≠ .call .other made) : Runs s t :=
  ⟨[act], step.steps, fun made member => own made (List.mem_singleton.1 member).symm⟩

theorem Runs.trans (first : Runs s k) (second : Runs k t) : Runs s t := by
  obtain ⟨acts, steps, own⟩ := first
  obtain ⟨others, further, ownToo⟩ := second
  refine ⟨acts ++ others, steps.trans further, fun made member => ?_⟩
  rcases List.mem_append.1 member with early | late
  · exact own made early
  · exact ownToo made late

/-- A callback runs call by call, up to the first one that fails. -/
theorem runs_runAll (phase : Phase) (p : Plugin) (before : Registry) (fault : Option Error)
    (calls : List RegistryCall) (m : Manager) :
    Runs ⟨m, .loading phase p before⟩
      ⟨{ m with registry := (Callback.runAll fault m.registry calls).1 }, .loading phase p before⟩ := by
  induction calls generalizing m with
  | nil => exact .refl _
  | cons call rest ih =>
      rw [Callback.runAll]
      split
      next next applied =>
        have step := Step.calls m phase p before call
        rw [applied, withRegistry] at step
        exact (Runs.step step (by simp)).trans (ih { m with registry := next })
      next => exact .refl _

/-- Names are taken out one by one. -/
theorem runs_removeAll (p : Plugin) (gone warning : String) (names : List String) (m : Manager) :
    Runs ⟨m, .removing names p gone warning⟩
      ⟨m.removeAll gone names, .removing [] p gone warning⟩ := by
  induction names generalizing m with
  | nil => exact .refl _
  | cons name rest ih =>
      have step := Step.removes m name rest p gone warning
      rw [removeOne] at step
      rw [removeAll]
      split
      next registry removed =>
        rw [removed] at step
        exact (Runs.step step (by simp)).trans (ih _)
      next e refused =>
        rw [refused] at step
        exact (Runs.step step (by simp)).trans (ih _)

/-- Taking names out, and then the tearing down. -/
theorem runs_remove (p : Plugin) (gone warning : String) (names : List String) (m : Manager) :
    Runs ⟨m, .removing names p gone warning⟩ ⟨(m.removeAll gone names).tearDown warning p, .idle⟩ :=
  (runs_removeAll p gone warning names m).trans (.step (.tearsDown _ _ _ _) (by simp))

theorem runs_load (m : Manager) (p : Plugin) : Runs ⟨m, .idle⟩ ⟨(m.load p).2, .idle⟩ := by
  cases refusal : m.refusal? p with
  | some e =>
      simp only [load, refusal]
      exact .refl _
  | none =>
      have begun : Runs ⟨m, .idle⟩ ⟨m, .loading .setUp p m.registry⟩ :=
        .step (.begins refusal) (by simp)
      have setUp := begun.trans (runs_runAll .setUp p m.registry p.setUp.fault p.setUp.calls m)
      rw [← Callback.run] at setUp
      rcases ran : p.setUp.run m.registry with ⟨ready, fault⟩
      rw [ran] at setUp
      cases fault with
      | some e =>
          have failed := setUp.trans (.step (.fails _ _ _ _ e) (by simp))
          simp only [load, refusal, start, ran]
          exact failed.trans (runs_remove _ _ _ _ _)
      | none =>
          have isReady := setUp.trans (.step (.setsUp _ _ _) (by simp))
          have registered := isReady.trans
            (runs_runAll .registration p m.registry p.registration.fault p.registration.calls _)
          rw [← Callback.run, note] at registered
          rcases ranToo : p.registration.run ready with ⟨registry, fault⟩
          rw [ranToo] at registered
          cases fault with
          | some e =>
              have failed := registered.trans (.step (.fails _ _ _ _ e) (by simp))
              simp only [load, refusal, start, ran, ranToo, note]
              exact failed.trans (runs_remove _ _ _ _ _)
          | none =>
              simp only [load, refusal, start, ran, ranToo, note]
              exact registered.trans (.step (.registers _ _ _) (by simp))

theorem runs_unload (m : Manager) (name : String) : Runs ⟨m, .idle⟩ ⟨(m.unload name).2, .idle⟩ := by
  cases found : Assoc.get? name m.loaded with
  | none =>
      simp only [unload, found]
      exact .refl _
  | some entry =>
      cases used : m.dependents name with
      | nil =>
          have unloads := Step.unloads found used
          simp only [unload, found, used]
          exact (Runs.step unloads (by simp)).trans (runs_remove _ _ _ _ _)
      | cons first others =>
          simp only [unload, found, used]
          exact .refl _

theorem runs_loadAll (m : Manager) (plugins : List Plugin) :
    Runs ⟨m, .idle⟩ ⟨(m.loadAll plugins).2, .idle⟩ := by
  refine loadPending_keeps (C := fun _ => True) (P := fun k => Runs ⟨m, .idle⟩ ⟨k, .idle⟩) ?_
    (.refl _) plugins.length plugins fun _ _ => trivial
  exact fun {k p} _ runs => runs.trans (runs_load k p)

theorem runs_reload (m : Manager) (name : String) :
    Runs ⟨m, .idle⟩ ⟨(m.reload name).2, .idle⟩ := by
  refine reload_keeps (C := fun _ => True) (P := fun k => Runs ⟨m, .idle⟩ ⟨k, .idle⟩) ?_ ?_
    (fun _ => trivial) (.refl _)
  · exact fun {k p} _ runs => runs.trans (runs_load k p)
  · exact fun {k} other runs => runs.trans (runs_unload k other)

end

end Manager

end PluginLisp
