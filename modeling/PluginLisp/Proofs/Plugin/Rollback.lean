import PluginLisp.Proofs.Plugin.Lifecycle

/-!
Loads that fail, of plugins whose callbacks only register. A plugin that does not meet the preconditions
is refused before any of its callbacks runs. If a callback fails, the names that were registered by then
are taken out of the registry, every one of them and no other, then the plugin is torn down, and the
error is that of the callback. Either way the registry and the loaded plugins are as they were. All of
this is `Manager.load_failure_changes_nothing`.

Main result: `load_failure_changes_nothing`.
-/

namespace PluginLisp

/-- The callbacks of a plugin fail with an error over a registry. The list has the callbacks that have
    run by then. -/
inductive Plugin.Fails (p : Plugin) (r : Registry) (e : Error) : List PluginEvent → Prop where
  | setUp {left : Registry} (fails : p.setUp.run r = (left, some e)) :
      Fails p r e [⟨.setUp, p, some e⟩]
  | registration {ready left : Registry} (succeeds : p.setUp.run r = (ready, none))
      (fails : p.registration.run ready = (left, some e)) :
      Fails p r e [⟨.setUp, p, none⟩, ⟨.registration, p, some e⟩]

theorem Registry.Sorted.nodup_names {r : Registry} (sorted : r.Sorted) : r.names.Nodup := by
  refine List.pairwise_map.2 (List.Pairwise.imp (fun {a b} less same => ?_) sorted)
  exact String.lt_irrefl b.1 (same ▸ less)

namespace Manager

section

variable {m m' : Manager} {p : Plugin} {e : Error} {began : List PluginEvent}

/-! ### Preconditions -/

/-- What has to be so for a plugin to be started. -/
structure Admits (m : Manager) (p : Plugin) : Prop where
  named : p.name ≠ ""
  free : m.isLoaded p.name = false
  ready : ∀ d ∈ p.dependencies, m.isLoaded d = true

/-- Why a plugin is not started: the first precondition that it does not meet. -/
inductive Refuses (m : Manager) (p : Plugin) : Error → Prop where
  | unnamed (name : p.name = "") : Refuses m p .invalidPluginName
  | loaded (named : p.name ≠ "") (there : m.isLoaded p.name = true) :
      Refuses m p (.duplicatePlugin p.name)
  | lacking (named : p.name ≠ "") (free : m.isLoaded p.name = false) {d : String}
      (needed : d ∈ p.dependencies) (missing : m.isLoaded d = false) :
      Refuses m p (.missingDependency p.name d)

theorem Admits.refusal? (admits : m.Admits p) : m.refusal? p = none := by
  have found : p.dependencies.find? (fun d => !m.isLoaded d) = none := by
    simpa using admits.ready
  simp [Manager.refusal?, admits.named, admits.free, found]

theorem exists_refusal (refused : ¬m.Admits p) : ∃ e, m.refusal? p = some e ∧ m.Refuses p e := by
  by_cases named : p.name = ""
  · exact ⟨_, by simp [refusal?, named], .unnamed named⟩
  cases there : m.isLoaded p.name with
  | true => exact ⟨_, by simp [refusal?, named, there], .loaded named there⟩
  | false =>
      cases lacks : p.dependencies.find? fun d => !m.isLoaded d with
      | none => exact absurd ⟨named, there, by simpa using lacks⟩ refused
      | some d =>
          have missing : m.isLoaded d = false := by simpa using List.find?_some lacks
          exact ⟨_, by simp [refusal?, named, there, lacks],
            .lacking named there (List.mem_of_find?_eq_some lacks) missing⟩

/-! ### Rollback -/

theorem start_of_fails (fails : p.Fails m.registry e began) :
    ∃ registry, m.start p = ({ m with registry, events := m.events ++ began }, some e) := by
  cases fails with
  | @setUp left fails => exact ⟨left, by simp [Manager.start, fails, note]⟩
  | @registration ready left succeeds fails =>
      exact ⟨left, by simp [Manager.start, succeeds, fails, note]⟩

theorem exists_fails {m₁ : Manager} (started : m.start p = (m₁, some e)) :
    ∃ began, p.Fails m.registry e began := by
  unfold start at started
  split at started
  next left e' fails =>
    cases started
    exact ⟨_, .setUp fails⟩
  next ready succeeds =>
    have fails : (p.registration.run ready).2 = some e := congrArg Prod.snd started
    exact ⟨_, .registration succeeds (Prod.ext rfl fails)⟩

/-- Names that are registered are taken out without a warning. -/
theorem removeAll_of_present (gone : String) {names : List String} (sorted : m.registry.Sorted)
    (distinct : names.Nodup) (present : ∀ name ∈ names, m.registry.has name = true) :
    ∃ registry, m.removeAll gone names = { m with registry } := by
  induction names generalizing m with
  | nil => exact ⟨m.registry, rfl⟩
  | cons name rest ih =>
      obtain ⟨fresh, distinctRest⟩ := List.nodup_cons.1 distinct
      obtain ⟨here, presentRest⟩ := List.forall_mem_cons.1 present
      have removed : m.registry.unregister name = .ok ⟨m.registry.functions.remove name⟩ := by
        simp [Registry.unregister, here]
      obtain ⟨sortedRest, others⟩ := Registry.unregister_ok sorted removed
      have stays : ∀ other ∈ rest, Registry.has ⟨m.registry.functions.remove name⟩ other = true := by
        intro other member
        have different : other ≠ name := fun same => fresh (same ▸ member)
        rw [Registry.has, others other, if_neg different]
        exact presentRest other member
      obtain ⟨registry, after⟩ := ih (m := { m with registry := ⟨m.registry.functions.remove name⟩ })
        sortedRest distinctRest stays
      exact ⟨registry, by rw [removeAll, removed]; exact after⟩

/-- A rollback leaves nothing of what was registered, and no warning. -/
theorem removeAll_new (gone : String) {before : Registry} (sorted : before.Sorted)
    (grows : before.Grows m.registry) :
    m.removeAll gone (m.registry.names.filter fun name => !before.has name) =
      { m with registry := before } := by
  have sortedNow := grows.sorted sorted
  have listed : ∀ name ∈ m.registry.names.filter fun name => !before.has name,
      m.registry.has name = true := by
    intro name member
    exact Assoc.has_iff_mem_names.2 (List.mem_filter.1 member).1
  obtain ⟨registry, after⟩ :=
    removeAll_of_present gone sortedNow (sortedNow.nodup_names.filter _) listed
  have restored := (removeAll_removed gone _ sortedNow).restores sorted grows
  rw [after] at restored ⊢
  rw [← restored]

/-- A load during which a callback fails is a tearing down of a manager that is as it was, apart from
    the callbacks that have run. -/
theorem load_of_fails (sorted : m.registry.Sorted) (only : p.OnlyRegisters) (admits : m.Admits p)
    (fails : p.Fails m.registry e began) :
    m.load p = (.error e, tearDown "shutdown after failed load also failed" p
      { m with events := m.events ++ began }) := by
  obtain ⟨registry, started⟩ := start_of_fails fails
  have grows := start_grows only m
  rw [started] at grows
  have restored := removeAll_new "function already gone during rollback" sorted grows
  simp only [load, admits.refusal?, started, restored]

theorem load_of_not_admits (refused : ¬m.Admits p) :
    ∃ e, m.Refuses p e ∧ m.load p = (.error e, m) := by
  obtain ⟨e, refusal, refuses⟩ := exists_refusal refused
  exact ⟨e, refuses, by simp only [load, refusal]⟩

theorem exists_fails_of_load (admits : m.Admits p) (failed : m.load p = (.error e, m')) :
    ∃ began, p.Fails m.registry e began := by
  simp only [load, admits.refusal?] at failed
  rcases started : m.start p with ⟨m₁, fault⟩
  rw [started] at failed
  cases fault with
  | none => simp at failed
  | some e' =>
      obtain ⟨began, fails⟩ := exists_fails started
      simp only [Prod.mk.injEq, Except.error.injEq] at failed
      exact ⟨began, failed.1 ▸ fails⟩

/-- A load of a plugin that only registers changes nothing if it fails. A plugin that does not meet a
    precondition is refused, and none of its callbacks runs. If one of its callbacks fails, the plugin
    is torn down, once and last, when the registry is as it was again, and the error is that of the
    callback whether tearing down succeeds or not. There is no other way to fail. -/
theorem load_failure_changes_nothing (sorted : m.registry.Sorted) (only : p.OnlyRegisters) :
    (∀ e m', m.load p = (.error e, m') → m'.registry = m.registry ∧ m'.loaded = m.loaded ∧
      (m.Admits p → ∃ began, p.Fails m.registry e began)) ∧
    (¬m.Admits p → ∃ e, m.Refuses p e ∧ m.load p = (.error e, m)) ∧
    (m.Admits p → ∀ e began, p.Fails m.registry e began →
      m.load p = (.error e, tearDown "shutdown after failed load also failed" p
        { m with events := m.events ++ began }) ∧
      (m.load p).2.events.toList = m.events.toList ++ began ++ [⟨.tearDown, p, p.tearDownFault⟩] ∧
      ∀ event ∈ began, event.phase ≠ .tearDown) := by
  refine ⟨fun e m' failed => ?_, load_of_not_admits, fun admits e began fails => ?_⟩
  · have outcome := load_case sorted only
    rw [failed] at outcome
    cases outcome with
    | fails _ registry loaded _ =>
        exact ⟨registry, loaded, fun admits => exists_fails_of_load admits failed⟩
  · have loads := load_of_fails sorted only admits fails
    refine ⟨loads, ?_, ?_⟩
    · rw [loads, events_tearDown]
      simp
    · cases fails <;> simp

/-! ### A name that is taken -/

/-- A plugin is loaded over one builtin. -/
def groundManager : Manager := (({ registry := keepOnly } : Manager).load (echoing "ground" "a" [])).2

/-- A plugin on top of it that registers an echo, then another one under a name that is taken, and
    fails to be torn down. -/
def clashing : Plugin where
  name := "clashing"
  version := "1"
  description := ""
  dependencies := ["ground"]
  registration := .registering [.builtin (echo "d"), .builtin (echo "a")] none
  tearDownFault := some (.runtime "stuck")

theorem clashing_load_changes_nothing :
    groundManager.registry.Sorted ∧ groundManager.Admits clashing ∧
      ∃ m', groundManager.load clashing = (.error (.duplicateFunction "a"), m') ∧
        m'.registry = groundManager.registry ∧ m'.loaded = groundManager.loaded ∧
        m'.events.toList.map (·.phase.name) =
          ["initialize", "register", "initialize", "register", "shutdown"] ∧
        m'.warnings = #["shutdown after failed load also failed"] := by
  have sorted : groundManager.registry.Sorted := by
    have first : Reachable keepOnly { registry := keepOnly } := .start rfl rfl
    have loaded := (first.load (onlyRegisters_echoing "ground" "a" [])).sound
      (List.pairwise_singleton _ _)
    exact loaded.coherent.registrySorted
  have admits : groundManager.Admits clashing := ⟨by decide, by decide, by decide⟩
  have fails : clashing.Fails groundManager.registry (.duplicateFunction "a") _ :=
    .registration rfl rfl
  have only : clashing.OnlyRegisters := ⟨rfl, Callback.onlyRegisters_registering _ _⟩
  obtain ⟨changes, -, rolls⟩ := load_failure_changes_nothing sorted only
  obtain ⟨loads, -⟩ := rolls admits _ _ fails
  obtain ⟨registry, loaded, -⟩ := changes _ _ loads
  exact ⟨sorted, admits, _, loads, registry, loaded, rfl, rfl⟩

end

end Manager

end PluginLisp
