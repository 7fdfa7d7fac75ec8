import PluginLisp.Plugin.Manager
import PluginLisp.Proofs.Data.Entries

/-!
What the operations of the manager of plugins do, for plugins that take nothing out of the registry
themselves. Their callbacks only add to it, a rollback takes out exactly what they added, and an unload
takes out exactly the names that were noted. `Manager.Moves` says once what loading or unloading a
plugin can come to: nothing changes, a plugin is attached, or a plugin is detached
(`Manager.load_moves`, `Manager.unload_moves`). Loads and unloads are all that the other operations are
made of (`Manager.loadPending_keeps`, `Manager.reload_keeps`).

Main results: `load_case`, `unload_case`, `loadPending_keeps`, `reload_keeps`.
-/

namespace PluginLisp

/-! ### Registries -/

namespace Registry

/-- The names of a registry are in order, each once. -/
def Sorted (r : Registry) : Prop := r.functions.Sorted

/-- Registries with the same descriptors are equal. -/
theorem Sorted.ext {r s : Registry} (sorted : r.Sorted) (sorted' : s.Sorted)
    (same : ∀ name, r.get? name = s.get? name) : r = s := by
  cases r
  cases s
  exact congrArg Registry.mk (Assoc.Sorted.ext sorted sorted' same)

/-- The second registry has everything that is registered in the first, and is in order if the first
    one is. -/
structure Grows (r s : Registry) : Prop where
  sorted : r.Sorted → s.Sorted
  kept : ∀ {name : String} {d : Descriptor}, r.get? name = some d → s.get? name = some d

theorem Grows.refl (r : Registry) : Grows r r := ⟨id, id⟩

theorem Grows.trans {r s t : Registry} (first : Grows r s) (second : Grows s t) : Grows r t :=
  ⟨fun sorted => second.sorted (first.sorted sorted), fun found => second.kept (first.kept found)⟩

/-- Registering keeps what is there. -/
theorem register_grows {r s : Registry} {d : Descriptor} (registered : r.register d = .ok s) :
    Grows r s := by
  unfold register at registered
  split at registered
  · cases registered
  · rename_i free
    cases registered
    refine ⟨fun sorted => Assoc.sorted_put sorted _ _, fun {name d'} found => ?_⟩
    have other : d.name ≠ name := by
      rintro rfl
      simp [has, found] at free
    simpa [get?, Assoc.get?_put, other] using found

/-- An alias keeps what is there. -/
theorem registerAlias_grows {r s : Registry} {second target : String}
    (registered : r.registerAlias second target = .ok s) : Grows r s := by
  unfold registerAlias at registered
  split at registered
  · cases registered
  · exact register_grows registered

/-- Unregistering takes out the name, and nothing else. -/
theorem unregister_ok {r s : Registry} {name : String} (sorted : r.Sorted)
    (removed : r.unregister name = .ok s) :
    s.Sorted ∧ ∀ other, s.get? other = if other = name then none else r.get? other := by
  unfold unregister at removed
  split at removed
  · cases removed
    refine ⟨Assoc.sorted_remove sorted name, fun other => ?_⟩
    simp only [get?, Assoc.Sorted.get?_remove sorted]
    grind
  · cases removed

/-- Only a name that is missing cannot be unregistered. -/
theorem unregister_error {r : Registry} {name : String} {e : Error}
    (refused : r.unregister name = .error e) : r.get? name = none := by
  unfold unregister at refused
  split at refused
  · cases refused
  · rename_i missing
    simpa [has] using missing

end Registry

/-- A registration keeps what is there. -/
theorem Registration.apply_grows {r s : Registry} {registration : Registration}
    (applied : registration.apply r = .ok s) : r.Grows s := by
  cases registration with
  | builtin d => exact Registry.register_grows applied
  | secondName name target => exact Registry.registerAlias_grows applied

/-! ### Callbacks that only register -/

/-- The registration that a call is, if it is one. -/
def RegistryCall.made? : RegistryCall → Option Registration
  | registration made => some made
  | removal _ => none

namespace Callback

variable {c : Callback}

/-- The registrations among the calls of a callback. -/
def registrations (c : Callback) : List Registration := c.calls.filterMap RegistryCall.made?

/-- A callback takes nothing out of the registry. -/
def OnlyRegisters (c : Callback) : Prop := c.calls = c.registrations.map .registration

/-- The registrations of a callback that makes some and then fails are those. -/
@[simp] theorem registrations_registering (made : List Registration) (fault : Option Error) :
    (registering made fault).registrations = made := by
  simp [registrations, registering, RegistryCall.made?, List.filterMap_map, Function.comp_def]

theorem onlyRegisters_registering (made : List Registration) (fault : Option Error) :
    (registering made fault).OnlyRegisters := by
  rw [OnlyRegisters, registrations_registering]
  rfl

/-- A callback that only registers runs its registrations in order, up to its fault. -/
theorem OnlyRegisters.run_eq (only : c.OnlyRegisters) (r : Registry) :
    c.run r = runAll c.fault r (c.registrations.map .registration) := by
  rw [run, ← only]

/-- However far a callback gets that only registers, it only adds to the registry. -/
theorem runAll_grows (fault : Option Error) (registrations : List Registration) (r : Registry) :
    r.Grows (runAll fault r (registrations.map .registration)).1 := by
  induction registrations generalizing r with
  | nil => exact .refl r
  | cons registration rest ih =>
      rw [List.map_cons, runAll]
      split
      · rename_i next applied
        exact (Registration.apply_grows applied).trans (ih next)
      · exact .refl r

/-- A callback that only registers keeps what is there. -/
theorem OnlyRegisters.run_grows (only : c.OnlyRegisters) (r : Registry) : r.Grows (c.run r).1 :=
  only.run_eq r ▸ runAll_grows c.fault c.registrations r

end Callback

/-- The callbacks of a plugin take nothing out of the registry. -/
structure Plugin.OnlyRegisters (p : Plugin) : Prop where
  setUp : p.setUp.OnlyRegisters
  registration : p.registration.OnlyRegisters

/-! ### The order of loading -/

namespace Manager

/-- The plugins that have registered their builtins, the latest first, whether they are loaded or
    not. -/
def registrars (m : Manager) : List String :=
  m.events.toList.reverse.filterMap fun e =>
    if e.phase = .registration then some e.plugin.name else none

/-- The loaded plugins in the order of their most recent loading, the latest first. -/
def latestFirst (m : Manager) : List String := (m.registrars.filter m.isLoaded).eraseDups

section

variable {m m' : Manager} {p : Plugin} {name : String}

theorem isLoaded_eq_true_iff :
    m.isLoaded name = true ↔ ∃ entry, Assoc.get? name m.loaded = some entry := Assoc.has_iff

theorem isLoaded_eq_false_iff : m.isLoaded name = false ↔ Assoc.get? name m.loaded = none := by
  rw [isLoaded, Assoc.has, Option.isSome_eq_false_iff, Option.isNone_iff_eq_none]

/-- A plugin that is put into the table is loaded, and the others are as before. -/
theorem isLoaded_of_put {entry : LoadedPlugin} (loaded : m'.loaded = m.loaded.put name entry)
    (other : String) : m'.isLoaded other = (name == other || m.isLoaded other) := by
  by_cases same : name = other
  · simp [isLoaded, loaded, Assoc.has, Assoc.get?_put, same]
  · simp [isLoaded, loaded, Assoc.has, Assoc.get?_put, same]

/-- A plugin that is removed from the table is not loaded, and the others are as before. -/
theorem isLoaded_of_remove (sorted : m.loaded.Sorted) (loaded : m'.loaded = m.loaded.remove name)
    (other : String) : m'.isLoaded other = (other != name && m.isLoaded other) := by
  by_cases same : name = other
  · simp [isLoaded, loaded, Assoc.has, sorted.get?_remove, same]
  · simp [isLoaded, loaded, Assoc.has, sorted.get?_remove, same, Ne.symm same]

/-! ### What the parts of an operation do -/

/-- Only the callbacks for registration change the order of loading. -/
@[simp] theorem registrars_note (phase : Phase) (fault : Option Error) :
    (m.note phase p fault).registrars =
      if phase = .registration then p.name :: m.registrars else m.registrars := by
  cases phase <;> simp [registrars, note]

@[simp] theorem registrars_tearDown (warning : String) :
    (m.tearDown warning p).registrars = m.registrars := by
  have noted : (m.note .tearDown p p.tearDownFault).registrars = m.registrars := by simp
  unfold tearDown
  split
  · exact noted
  · exact noted

@[simp] theorem registry_tearDown (warning : String) :
    (m.tearDown warning p).registry = m.registry := by
  unfold tearDown
  split <;> rfl

@[simp] theorem loaded_tearDown (warning : String) :
    (m.tearDown warning p).loaded = m.loaded := by
  unfold tearDown
  split <;> rfl

/-- The effect of taking names out of the registry. -/
structure Removed (names : List String) (m m' : Manager) : Prop where
  loaded : m'.loaded = m.loaded
  registrars : m'.registrars = m.registrars
  sorted : m'.registry.Sorted
  get? : ∀ name, m'.registry.get? name = if name ∈ names then none else m.registry.get? name

/-- Removing names takes them out of the registry one by one. -/
theorem removeAll_removed (gone : String) (names : List String) {m : Manager}
    (sorted : m.registry.Sorted) : Removed names m (m.removeAll gone names) := by
  induction names generalizing m with
  | nil => exact ⟨rfl, rfl, sorted, by simp [removeAll]⟩
  | cons name rest ih =>
      rw [removeAll]
      split
      · rename_i registry removed
        obtain ⟨sortedRest, others⟩ := Registry.unregister_ok sorted removed
        have after := ih (m := { m with registry }) sortedRest
        refine ⟨after.loaded, after.registrars, after.sorted, fun other => ?_⟩
        rw [after.get? other, others other]
        grind
      · rename_i e refused
        have missing := Registry.unregister_error refused
        have after := ih (m := m.warn gone) sorted
        refine ⟨after.loaded, after.registrars, after.sorted, fun other => ?_⟩
        rw [after.get? other]
        simp only [warn, List.mem_cons]
        grind

/-- The effect of setting a plugin up and having it register its builtins on what is loaded. -/
structure Started (p : Plugin) (fault : Option Error) (m m' : Manager) : Prop where
  loaded : m'.loaded = m.loaded
  registrars : m'.registrars = p.name :: m.registrars ∨
    fault.isSome ∧ m'.registrars = m.registrars

/-- Starting a plugin runs its two callbacks, the second only if the first succeeds. -/
theorem start_started (m : Manager) (p : Plugin) : Started p (m.start p).2 m (m.start p).1 := by
  unfold start
  split
  next registry e _ => exact ⟨rfl, Or.inr ⟨rfl, by simp [registrars, note]⟩⟩
  next registry _ => exact ⟨rfl, Or.inl (by simp [registrars, note])⟩

/-- Starting a plugin that only registers keeps what is in the registry. -/
theorem start_grows (only : p.OnlyRegisters) (m : Manager) :
    m.registry.Grows (m.start p).1.registry := by
  have setUp := only.setUp.run_grows m.registry
  unfold start
  split
  next registry e ran =>
    rw [ran] at setUp
    exact setUp
  next registry ran =>
    rw [ran] at setUp
    exact setUp.trans (only.registration.run_grows registry)

/-! ### What loading and unloading come to -/

/-- The same plugins are loaded, with the same dependencies and the same names noted for them. -/
structure Alike (m m' : Manager) : Prop where
  sorted : m.loaded.Sorted → m'.loaded.Sorted
  isLoaded : m'.isLoaded = m.isLoaded
  entry : ∀ {name entry'}, Assoc.get? name m'.loaded = some entry' →
    ∃ entry, Assoc.get? name m.loaded = some entry ∧ entry'.functions = entry.functions ∧
      entry'.plugin.dependencies = entry.plugin.dependencies

/-- A plugin that was not loaded and had its dependencies is loaded now. -/
structure Attached (p : Plugin) (m m' : Manager) : Prop where
  free : m.isLoaded p.name = false
  ready : ∀ d ∈ p.dependencies, m.isLoaded d = true
  grows : m.registry.Grows m'.registry
  loaded : m'.loaded =
    m.loaded.put p.name ⟨p, m'.registry.names.filter fun name => !m.registry.has name⟩
  order : m'.latestFirst = p.name :: m.latestFirst

/-- A plugin that no loaded one depended on is gone, and its names with it. -/
structure Detached (name : String) (entry : LoadedPlugin) (m m' : Manager) : Prop where
  found : Assoc.get? name m.loaded = some entry
  unused : m.dependents name = []
  sorted : m'.registry.Sorted
  get? : ∀ f, m'.registry.get? f = if f ∈ entry.functions then none else m.registry.get? f
  loaded : m'.loaded = m.loaded.remove name
  order : m'.latestFirst = m.latestFirst.filter (· != name)

/-- All that one load or unload can do to the registry, the loaded plugins and their order. -/
inductive Moves (m m' : Manager) : Prop where
  | stays (registry : m'.registry = m.registry) (alike : Alike m m')
      (order : m'.latestFirst = m.latestFirst)
  | attaches (p : Plugin) (attached : Attached p m m')
  | detaches (name : String) (entry : LoadedPlugin) (detached : Detached name entry m m')

theorem Alike.of_eq (loaded : m'.loaded = m.loaded) : Alike m m' := by
  refine ⟨fun sorted => loaded ▸ sorted, ?_, fun {name entry'} found => ?_⟩
  · funext name
    unfold Manager.isLoaded
    rw [loaded]
  · exact ⟨entry', loaded ▸ found, rfl, rfl⟩

/-- A plugin that is not refused is new, and everything that it needs is loaded. -/
theorem refusal?_eq_none (accepted : m.refusal? p = none) :
    m.isLoaded p.name = false ∧ ∀ d ∈ p.dependencies, m.isLoaded d = true := by
  unfold refusal? at accepted
  split at accepted
  · cases accepted
  · split at accepted
    · cases accepted
    · rename_i free
      split at accepted
      · cases accepted
      · rename_i ready
        exact ⟨by simpa using free, by simpa using ready⟩

/-- A plugin has no dependents if none of the loaded ones needs it. -/
theorem dependents_eq_nil_iff (sorted : m.loaded.Sorted) :
    m.dependents name = [] ↔ ∀ {other entry}, Assoc.get? other m.loaded = some entry →
      name ∉ entry.plugin.dependencies := by
  simp [dependents, List.filter_eq_nil_iff, sorted.get?_eq_some_iff]

/-- Taking out the names that are new restores the registry. -/
theorem Removed.restores {before : Registry} (sorted : before.Sorted)
    (grows : before.Grows m.registry)
    (removed : Removed (m.registry.names.filter fun name => !before.has name) m m') :
    m'.registry = before := by
  refine removed.sorted.ext sorted fun name => ?_
  have listed : name ∈ m.registry.names ↔ m.registry.has name = true :=
    Assoc.has_iff_mem_names.symm
  simp only [removed.get?, List.mem_filter, listed]
  cases found : before.get? name with
  | some d => simp [Registry.has, found, grows.kept found]
  | none => simp [Registry.has, found]

/-- A failed load does not change the order of loading. -/
theorem latestFirst_of_alike (alike : Alike m m') (free : m.isLoaded name = false)
    (registrars : m'.registrars = name :: m.registrars ∨ m'.registrars = m.registrars) :
    m'.latestFirst = m.latestFirst := by
  unfold latestFirst
  rcases registrars with longer | equal
  · rw [longer, alike.isLoaded, List.filter_cons_of_neg (by simp [free])]
  · rw [equal, alike.isLoaded]

/-- A plugin that is loaded is the latest. -/
theorem latestFirst_of_put {entry : LoadedPlugin} (loaded : m'.loaded = m.loaded.put name entry)
    (free : m.isLoaded name = false) (registrars : m'.registrars = name :: m.registrars) :
    m'.latestFirst = name :: m.latestFirst := by
  have now := isLoaded_of_put loaded
  unfold latestFirst
  rw [registrars, List.filter_cons_of_pos (by simp [now]), List.eraseDups_cons, List.filter_filter]
  congr 2
  apply List.filter_congr
  intro other _
  by_cases same : other = name
  · simp [same, free]
  · have other_ne : (name == other) = false := by simpa using Ne.symm same
    simp [now, same, other_ne]

/-- Erasing duplicates commutes with filtering. -/
theorem eraseDups_filter (q : String → Bool) : ∀ names : List String,
    (names.filter q).eraseDups = names.eraseDups.filter q
  | [] => rfl
  | name :: rest => by
      have shorter := eraseDups_filter q (rest.filter fun other => !other == name)
      rw [List.eraseDups_cons]
      by_cases keep : q name = true
      · rw [List.filter_cons_of_pos keep, List.filter_cons_of_pos keep, List.eraseDups_cons, ← shorter,
          List.filter_filter, List.filter_filter]
        simp only [Bool.and_comm]
      · rw [List.filter_cons_of_neg keep, List.filter_cons_of_neg keep, ← shorter, List.filter_filter]
        congr 1
        apply List.filter_congr
        intro other _
        by_cases same : other = name
        · simp [same, keep]
        · simp [same]
termination_by names => names.length
decreasing_by exact Nat.lt_succ_of_le (List.length_filter_le _ rest)

/-- A plugin that is unloaded leaves the order of the others. -/
theorem latestFirst_of_remove (sorted : m.loaded.Sorted) (loaded : m'.loaded = m.loaded.remove name)
    (registrars : m'.registrars = m.registrars) :
    m'.latestFirst = m.latestFirst.filter (· != name) := by
  unfold latestFirst
  rw [registrars, ← eraseDups_filter, List.filter_filter]
  congr 1
  apply List.filter_congr
  intro other _
  exact isLoaded_of_remove sorted loaded other

/-- What loading a plugin comes to: it is attached, or everything is as it was. -/
inductive LoadCase (m : Manager) (p : Plugin) : Except Error Unit × Manager → Prop where
  | attaches {m' : Manager} (attached : Attached p m m')
      (registry : m'.registry = (m.start p).1.registry) : LoadCase m p (.ok (), m')
  | fails {m' : Manager} (e : Error) (registry : m'.registry = m.registry)
      (loaded : m'.loaded = m.loaded) (order : m'.latestFirst = m.latestFirst) :
      LoadCase m p (.error e, m')

/-- A load is refused, or it fails and is undone, or it attaches the plugin. -/
theorem load_case (sorted : m.registry.Sorted) (only : p.OnlyRegisters) :
    LoadCase m p (m.load p) := by
  unfold load
  split
  · exact .fails _ rfl rfl rfl
  · rename_i accepted
    obtain ⟨free, ready⟩ := refusal?_eq_none accepted
    have started := start_started m p
    have grows := start_grows only m
    rcases ran : m.start p with ⟨m₁, fault⟩
    rw [ran] at started grows
    have same : m₁.loaded = m.loaded := started.loaded
    cases fault with
    | none =>
        have registrars := started.registrars.resolve_right (by simp)
        have put : m₁.loaded.put p.name ⟨p, m₁.registry.names.filter fun name => !m.registry.has name⟩ =
            m.loaded.put p.name ⟨p, m₁.registry.names.filter fun name => !m.registry.has name⟩ := by
          rw [same]
        refine .attaches ⟨free, ready, grows, put, latestFirst_of_put put free registrars⟩ ?_
        rw [ran]
    | some e =>
        have removed := removeAll_removed "function already gone during rollback"
          (m₁.registry.names.filter fun name => !m.registry.has name) (grows.sorted sorted)
        have loaded := removed.loaded.trans same
        refine .fails e ?_ ?_ ?_
        · simpa using removed.restores sorted grows
        · simpa using loaded
        · refine latestFirst_of_alike (Alike.of_eq (by simpa using loaded)) free ?_
          simp only [registrars_tearDown, removed.registrars]
          exact started.registrars.imp id And.right

/-- A load attaches a plugin, or leaves everything as it was. -/
theorem load_moves (sorted : m.registry.Sorted) (only : p.OnlyRegisters) :
    Moves m (m.load p).2 := by
  have outcome := load_case sorted only
  generalize m.load p = result at outcome
  cases outcome with
  | attaches attached registry => exact .attaches p attached
  | fails e registry loaded order => exact .stays registry (.of_eq loaded) order

/-- A plugin that no other one depends on can be unloaded. -/
theorem unload_of_unused (registry : m.registry.Sorted) (loaded : m.loaded.Sorted)
    {entry : LoadedPlugin} (found : Assoc.get? name m.loaded = some entry)
    (unused : m.dependents name = []) :
    ∃ m', m.unload name = (.ok entry.plugin, m') ∧ Detached name entry m m' := by
  have removed := removeAll_removed (m := { m with loaded := m.loaded.remove name })
    "function already gone at unload" entry.functions registry
  have done : m.unload name = (.ok entry.plugin, Manager.tearDown "plugin shutdown failed" entry.plugin
      (Manager.removeAll "function already gone at unload"
        { m with loaded := m.loaded.remove name } entry.functions)) := by
    simp [unload, found, unused]
  refine ⟨_, done, found, unused, ?_, ?_, ?_, ?_⟩
  · simpa using removed.sorted
  · simpa using removed.get?
  · simpa using removed.loaded
  · refine latestFirst_of_remove loaded (by simpa using removed.loaded) ?_
    exact (registrars_tearDown _).trans removed.registrars

/-- What unloading a plugin comes to: it is detached, or nothing happens. -/
inductive UnloadCase (m : Manager) (name : String) : Except Error Plugin × Manager → Prop where
  | detaches {m' : Manager} (entry : LoadedPlugin) (detached : Detached name entry m m') :
      UnloadCase m name (.ok entry.plugin, m')
  | refused (e : Error) : UnloadCase m name (.error e, m)

/-- An unload is refused, or it detaches the plugin. -/
theorem unload_case (registry : m.registry.Sorted) (loaded : m.loaded.Sorted) (name : String) :
    UnloadCase m name (m.unload name) := by
  cases found : Assoc.get? name m.loaded with
  | none =>
      have refused : m.unload name = (.error (.pluginNotLoaded name), m) := by simp [unload, found]
      rw [refused]
      exact .refused _
  | some entry =>
      cases used : m.dependents name with
      | nil =>
          obtain ⟨m', done, detached⟩ := unload_of_unused registry loaded found used
          rw [done]
          exact .detaches entry detached
      | cons first others =>
          have refused : m.unload name = (.error (.pluginInUse name (first :: others)), m) := by
            simp [unload, found, used]
          rw [refused]
          exact .refused _

/-- An unload detaches a plugin, or leaves everything as it was. -/
theorem unload_moves (registry : m.registry.Sorted) (loaded : m.loaded.Sorted) (name : String) :
    Moves m (m.unload name).2 := by
  have outcome := unload_case registry loaded name
  generalize m.unload name = result at outcome
  cases outcome with
  | detaches entry detached => exact .detaches name entry detached
  | refused e => exact .stays rfl (.of_eq rfl) rfl

/-! ### Operations made of others -/

/-- The first plugin that is ready and the others are the plugins. -/
theorem perm_of_firstReady? {plugins rest : List Plugin}
    (first : m.firstReady? plugins = some (p, rest)) : plugins.Perm (p :: rest) := by
  induction plugins generalizing rest with
  | nil => simp [firstReady?] at first
  | cons head tail ih =>
      rw [firstReady?] at first
      split at first
      next =>
        cases first
        exact .refl _
      next =>
        obtain ⟨⟨q, others⟩, found, same⟩ := Option.map_eq_some_iff.1 first
        cases same
        exact ((ih found).cons head).trans (.swap _ _ _)

section

variable {P : Manager → Prop} {C : Plugin → Prop}

/-- What every load of a plugin of a kind keeps, several such loads keep. -/
theorem loadPending_keeps (load : ∀ {m p}, C p → P m → P (m.load p).2) (holds : P m) (count : Nat)
    (pending : List Plugin) (kind : ∀ p ∈ pending, C p) : P (m.loadPending count pending).2 := by
  fun_induction Manager.loadPending m count pending with
  | case1 => exact holds
  | case2 => exact holds
  | case3 => exact holds
  | case4 m count pending _ p rest ready m₁ loaded ih =>
      have kinds := List.forall_mem_cons.1 fun q member =>
        kind q ((perm_of_firstReady? ready).mem_iff.2 member)
      have after := load kinds.1 holds
      rw [loaded] at after
      exact ih after kinds.2
  | case5 m count pending _ p rest ready e m₁ failed =>
      have first := kind p ((perm_of_firstReady? ready).mem_iff.2 List.mem_cons_self)
      have after := load first holds
      rwa [failed] at after

/-- What every unload and every load of a plugin of a kind keep, a reload keeps if the plugin is of that
    kind. -/
theorem reload_keeps (load : ∀ {m p}, C p → P m → P (m.load p).2)
    (unload : ∀ {m} (name : String), P m → P (m.unload name).2)
    (kind : ∀ {p}, (m.unload name).1 = .ok p → C p) (holds : P m) : P (m.reload name).2 := by
  have unloaded := unload name holds
  unfold Manager.reload
  split
  · rename_i e m₁ refused
    rwa [refused] at unloaded
  · rename_i p m₁ done
    rw [done] at unloaded
    exact load (kind (by rw [done])) unloaded

end

end

end Manager

end PluginLisp
