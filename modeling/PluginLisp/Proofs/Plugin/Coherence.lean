import PluginLisp.Proofs.Plugin.Operations

/-!
The bookkeeping of the manager of plugins. Whatever is loaded, unloaded and reloaded, with or without
success, the manager stays coherent with the registry that it started from: plugins have their
dependencies, every name in the registry is either one of the first registry, with the descriptor it
had there, or was registered by exactly one loaded plugin, and the manager knows by which. So the
loaded plugins can always be unloaded, the latest one first, and what is left is the first registry.

Main results: `Coherent.moves`, `Reachable.sound`, `Reachable.coherent_and_unloadable`.
-/

namespace PluginLisp

/-- A loaded plugin that will do something else from now on. -/
def LoadedPlugin.withCallbacks (entry : LoadedPlugin) (setUp registration : Callback)
    (tearDownFault : Option Error) : LoadedPlugin :=
  ⟨{ entry.plugin with setUp, registration, tearDownFault }, entry.functions⟩

namespace Manager

section

variable {m m' : Manager} {p : Plugin} {name : String}

/-! ### Coherence -/

/-- A loaded plugin has a name among those that the manager noted for it. -/
def Owns (m : Manager) (plugin f : String) : Prop :=
  ∃ functions, m.functionsOf? plugin = some functions ∧ f ∈ functions

/-- The manager is coherent with the registry that it started from. -/
structure Coherent (base : Registry) (m : Manager) : Prop where
  registrySorted : m.registry.Sorted
  loadedSorted : m.loaded.Sorted
  /-- Every dependency of a loaded plugin is loaded. -/
  dependencies : ∀ {name entry}, Assoc.get? name m.loaded = some entry →
    ∀ d ∈ entry.plugin.dependencies, m.isLoaded d = true
  /-- No name is noted for two plugins. -/
  disjoint : ∀ {a b f}, m.Owns a f → m.Owns b f → a = b
  /-- No name of the first registry is noted for a plugin. -/
  fresh : ∀ {a f}, m.Owns a f → base.has f = false
  /-- The registry has the names of the first one and those noted for plugins, and no others. -/
  names : ∀ f, m.registry.has f = true ↔ base.has f = true ∨ ∃ a, m.Owns a f
  /-- The descriptors of the first registry are as they were. -/
  kept : ∀ {f d}, base.get? f = some d → m.registry.get? f = some d

/-- Every plugin was loaded after the plugins that it depends on. -/
structure LoadOrdered (m : Manager) : Prop where
  complete : ∀ {name}, m.isLoaded name = true → name ∈ m.latestFirst
  later : m.latestFirst.Pairwise fun later earlier =>
    ∀ {entry}, Assoc.get? earlier m.loaded = some entry → later ∉ entry.plugin.dependencies
  other : ∀ {name entry}, Assoc.get? name m.loaded = some entry → name ∉ entry.plugin.dependencies

/-- A plugin owns a name if it is recorded for it. -/
theorem owns_iff {plugin f : String} :
    m.Owns plugin f ↔ ∃ entry, Assoc.get? plugin m.loaded = some entry ∧ f ∈ entry.functions := by
  cases found : Assoc.get? plugin m.loaded <;> simp [Owns, functionsOf?, found]

/-- What is in the order of loading is loaded. -/
theorem isLoaded_of_mem_latestFirst (member : name ∈ m.latestFirst) : m.isLoaded name = true := by
  rw [latestFirst, List.mem_eraseDups] at member
  exact (List.mem_filter.1 member).2

/-- Loading adds what the plugin registered to what is owned. -/
theorem owns_put {functions : List String} (loaded : m'.loaded = m.loaded.put p.name ⟨p, functions⟩)
    (free : m.isLoaded p.name = false) {plugin f : String} :
    m'.Owns plugin f ↔ plugin = p.name ∧ f ∈ functions ∨ m.Owns plugin f := by
  rw [isLoaded_eq_false_iff] at free
  simp only [owns_iff, loaded, Assoc.get?_put]
  by_cases same : p.name = plugin
  · subst same
    simp [free]
  · simp [same, Ne.symm same]

/-- Unloading takes what the plugin registered out of what is owned. -/
theorem owns_remove (sorted : m.loaded.Sorted) (loaded : m'.loaded = m.loaded.remove name)
    {plugin f : String} : m'.Owns plugin f ↔ plugin ≠ name ∧ m.Owns plugin f := by
  simp only [owns_iff, loaded, sorted.get?_remove]
  by_cases same : name = plugin
  · simp [same]
  · simp [same, Ne.symm same]

section

variable {base : Registry}

/-- Attaching a plugin keeps the registry and the table coherent. -/
theorem Coherent.attaches (coherent : Coherent base m) (attached : Attached p m m') :
    Coherent base m' := by
  obtain ⟨free, ready, grows, loaded, -⟩ := attached
  have owned {plugin f : String} : m'.Owns plugin f ↔
      plugin = p.name ∧ (m'.registry.has f = true ∧ m.registry.has f = false) ∨ m.Owns plugin f := by
    rw [owns_put loaded free, List.mem_filter, Registry.names, ← Assoc.has_iff_mem_names]
    simp [Registry.has, Registry.get?, Assoc.has]
  have taken {plugin f : String} (owns : m.Owns plugin f) : m.registry.has f = true :=
    (coherent.names f).2 (Or.inr ⟨plugin, owns⟩)
  have keeps {f : String} (has : m.registry.has f = true) : m'.registry.has f = true := by
    obtain ⟨d, found⟩ := Option.isSome_iff_exists.1 has
    simp [Registry.has, grows.kept found]
  have stillLoaded {d : String} (before : m.isLoaded d = true) : m'.isLoaded d = true := by
    obtain ⟨entry, found⟩ := isLoaded_eq_true_iff.1 before
    rw [isLoaded_eq_true_iff, loaded, Assoc.get?_put]
    split
    · exact ⟨_, rfl⟩
    · exact ⟨entry, found⟩
  constructor
  case registrySorted => exact grows.sorted coherent.registrySorted
  case loadedSorted =>
      rw [loaded]
      exact Assoc.sorted_put coherent.loadedSorted _ _
  case dependencies =>
      intro name entry found d member
      apply stillLoaded
      rw [loaded, Assoc.get?_put] at found
      split at found
      · cases found
        exact ready d member
      · exact coherent.dependencies found d member
  case disjoint =>
      intro a b f first second
      rcases owned.1 first with ⟨rfl, -, new⟩ | old
      · rcases owned.1 second with ⟨rfl, -⟩ | old'
        · rfl
        · simp [taken old'] at new
      · rcases owned.1 second with ⟨rfl, -, new⟩ | old'
        · simp [taken old] at new
        · exact coherent.disjoint old old'
  case fresh =>
      intro a f owns
      rcases owned.1 owns with ⟨-, -, new⟩ | old
      · cases known : base.has f with
        | false => rfl
        | true => simp [(coherent.names f).2 (Or.inl known)] at new
      · exact coherent.fresh old
  case names =>
      intro f
      constructor
      · intro has
        cases before : m.registry.has f with
        | false => exact Or.inr ⟨p.name, owned.2 (Or.inl ⟨rfl, has, before⟩)⟩
        | true =>
            exact ((coherent.names f).1 before).imp_right
              (Exists.imp fun a owns => owned.2 (Or.inr owns))
      · rintro (known | ⟨a, owns⟩)
        · exact keeps ((coherent.names f).2 (Or.inl known))
        · rcases owned.1 owns with ⟨-, has, -⟩ | old
          · exact has
          · exact keeps (taken old)
  case kept => exact fun found => grows.kept (coherent.kept found)

/-- Detaching a plugin keeps them coherent. -/
theorem Coherent.detaches (coherent : Coherent base m) {entry : LoadedPlugin}
    (detached : Detached name entry m m') : Coherent base m' := by
  obtain ⟨found, unused, sorted, get?, loaded, -⟩ := detached
  have owned {plugin f : String} : m'.Owns plugin f ↔ plugin ≠ name ∧ m.Owns plugin f :=
    owns_remove coherent.loadedSorted loaded
  have own {f : String} (member : f ∈ entry.functions) : m.Owns name f :=
    owns_iff.2 ⟨entry, found, member⟩
  have has {f : String} :
      m'.registry.has f = true ↔ f ∉ entry.functions ∧ m.registry.has f = true := by
    simp only [Registry.has, get?]
    split <;> simp_all
  constructor
  case registrySorted => exact sorted
  case loadedSorted =>
      rw [loaded]
      exact Assoc.sorted_remove coherent.loadedSorted name
  case dependencies =>
      intro other entry' found' d member
      rw [loaded, coherent.loadedSorted.get?_remove] at found'
      split at found'
      · cases found'
      · obtain ⟨entry'', loadedBefore⟩ :=
          isLoaded_eq_true_iff.1 (coherent.dependencies found' d member)
        have different : name ≠ d := by
          rintro rfl
          exact (dependents_eq_nil_iff coherent.loadedSorted).1 unused found' member
        rw [isLoaded_eq_true_iff, loaded, coherent.loadedSorted.get?_remove, if_neg different]
        exact ⟨entry'', loadedBefore⟩
  case disjoint =>
      exact fun first second => coherent.disjoint (owned.1 first).2 (owned.1 second).2
  case fresh => exact fun owns => coherent.fresh (owned.1 owns).2
  case names =>
      intro f
      rw [has]
      constructor
      · rintro ⟨outside, before⟩
        refine ((coherent.names f).1 before).imp_right
          (Exists.imp fun a owns => owned.2 ⟨?_, owns⟩)
        rintro rfl
        obtain ⟨entry', found', member⟩ := owns_iff.1 owns
        rw [found] at found'
        cases found'
        exact outside member
      · rintro (known | ⟨a, owns⟩)
        · refine ⟨fun member => ?_, (coherent.names f).2 (Or.inl known)⟩
          simp [coherent.fresh (own member)] at known
        · obtain ⟨different, before⟩ := owned.1 owns
          refine ⟨fun member => different ?_, (coherent.names f).2 (Or.inr ⟨a, before⟩)⟩
          exact coherent.disjoint before (own member)
  case kept =>
      intro f d known
      rw [get?, if_neg, coherent.kept known]
      intro member
      have absent := coherent.fresh (own member)
      simp [Registry.has, known] at absent

/-- Where nothing is attached or detached, they stay coherent. -/
theorem Coherent.alike (coherent : Coherent base m) (registry : m'.registry = m.registry)
    (alike : Alike m m') : Coherent base m' := by
  have owned {plugin f : String} : m'.Owns plugin f ↔ m.Owns plugin f := by
    rw [owns_iff, owns_iff]
    constructor
    · rintro ⟨entry', found', member⟩
      obtain ⟨entry, found, functions, -⟩ := alike.entry found'
      exact ⟨entry, found, functions ▸ member⟩
    · rintro ⟨entry, found, member⟩
      have loaded : m'.isLoaded plugin = true := by
        rw [alike.isLoaded]
        exact isLoaded_eq_true_iff.2 ⟨entry, found⟩
      obtain ⟨entry', found'⟩ := isLoaded_eq_true_iff.1 loaded
      obtain ⟨entry₀, found₀, functions, -⟩ := alike.entry found'
      cases found.symm.trans found₀
      exact ⟨entry', found', functions ▸ member⟩
  constructor
  case registrySorted => exact registry ▸ coherent.registrySorted
  case loadedSorted => exact alike.sorted coherent.loadedSorted
  case dependencies =>
      intro name entry' found' d member
      obtain ⟨entry, found, -, dependencies⟩ := alike.entry found'
      rw [alike.isLoaded]
      exact coherent.dependencies found d (dependencies ▸ member)
  case disjoint => exact fun first second => coherent.disjoint (owned.1 first) (owned.1 second)
  case fresh => exact fun owns => coherent.fresh (owned.1 owns)
  case names =>
      intro f
      simp only [registry, coherent.names f, owned]
  case kept =>
      intro f d known
      rw [registry]
      exact coherent.kept known

/-- One load or unload keeps the manager coherent. -/
theorem Coherent.moves (coherent : Coherent base m) (moves : Moves m m') : Coherent base m' := by
  cases moves with
  | stays registry alike order => exact coherent.alike registry alike
  | attaches p attached => exact coherent.attaches attached
  | detaches name entry detached => exact coherent.detaches detached

/-- Where nothing is attached or detached, every plugin stays after its dependencies. -/
theorem LoadOrdered.alike (ordered : LoadOrdered m) (alike : Alike m m')
    (order : m'.latestFirst = m.latestFirst) : LoadOrdered m' := by
  constructor
  case complete =>
      intro name
      rw [alike.isLoaded, order]
      exact ordered.complete
  case later =>
      rw [order]
      refine ordered.later.imp fun {later earlier} apart {entry'} found' => ?_
      obtain ⟨entry, found, -, dependencies⟩ := alike.entry found'
      exact dependencies ▸ apart found
  case other =>
      intro name entry' found'
      obtain ⟨entry, found, -, dependencies⟩ := alike.entry found'
      exact dependencies ▸ ordered.other found

/-- A plugin that is attached comes after its dependencies, which are loaded, and before the plugins
    that were loaded, none of which depends on it. -/
theorem LoadOrdered.attaches (ordered : LoadOrdered m) (coherent : Coherent base m)
    (attached : Attached p m m') : LoadOrdered m' := by
  obtain ⟨free, ready, grows, loaded, order⟩ := attached
  have independent {d : String} (before : m.isLoaded d = true) : p.name ≠ d := by
    rintro rfl
    simp [before] at free
  have before {name : String} {entry : LoadedPlugin} (member : name ∈ m.latestFirst)
      (found : Assoc.get? name m'.loaded = some entry) : Assoc.get? name m.loaded = some entry := by
    rwa [loaded, Assoc.get?_put, if_neg (independent (isLoaded_of_mem_latestFirst member))] at found
  constructor
  case complete =>
      intro name now
      rw [isLoaded_eq_true_iff, loaded, Assoc.get?_put] at now
      rw [order, List.mem_cons]
      by_cases same : p.name = name
      · exact Or.inl same.symm
      · simp only [same, if_false] at now
        exact Or.inr (ordered.complete (isLoaded_eq_true_iff.2 now))
  case later =>
      rw [order, List.pairwise_cons]
      constructor
      · -- what depends on the new plugin could not have been loaded before it
        intro earlier member entry found depends
        exact independent (coherent.dependencies (before member found) _ depends) rfl
      · refine ordered.later.imp_of_mem fun {later earlier} _ member apart {entry} found => ?_
        exact apart (before member found)
  case other =>
      intro name entry found depends
      rw [loaded, Assoc.get?_put] at found
      split at found
      next same =>
        cases found
        subst same
        exact independent (ready _ depends) rfl
      next => exact ordered.other found depends

/-- The plugins that are left when one is detached stay after their dependencies. -/
theorem LoadOrdered.detaches (ordered : LoadOrdered m) (coherent : Coherent base m)
    {entry : LoadedPlugin} (detached : Detached name entry m m') : LoadOrdered m' := by
  obtain ⟨found, unused, sorted, get?, loaded, order⟩ := detached
  have before {other : String} {entry' : LoadedPlugin}
      (found' : Assoc.get? other m'.loaded = some entry') :
      name ≠ other ∧ Assoc.get? other m.loaded = some entry' := by
    rw [loaded, coherent.loadedSorted.get?_remove] at found'
    split at found'
    next => cases found'
    next different => exact ⟨different, found'⟩
  constructor
  case complete =>
      intro other now
      obtain ⟨entry', found'⟩ := isLoaded_eq_true_iff.1 now
      obtain ⟨different, found'⟩ := before found'
      rw [order, List.mem_filter]
      exact ⟨ordered.complete (isLoaded_eq_true_iff.2 ⟨entry', found'⟩), by
        simpa using Ne.symm different⟩
  case later =>
      rw [order]
      refine (ordered.later.filter _).imp fun {later earlier} apart {entry'} found' => ?_
      exact apart (before found').2
  case other => exact fun found' => ordered.other (before found').2

/-- One load or unload keeps every plugin after its dependencies. -/
theorem LoadOrdered.moves (ordered : LoadOrdered m) (coherent : Coherent base m)
    (moves : Moves m m') : LoadOrdered m' := by
  cases moves with
  | stays registry alike order => exact ordered.alike alike order
  | attaches p attached => exact ordered.attaches coherent attached
  | detaches name entry detached => exact ordered.detaches coherent detached

/-! ### Whole histories -/

/-- Unloads plugins one after the other, up to the first one that cannot be unloaded. -/
def unloadAll (m : Manager) : List String → Except Error Unit × Manager
  | [] => (.ok (), m)
  | name :: rest =>
      match m.unload name with
      | (.ok _, m) => m.unloadAll rest
      | (.error e, m) => (.error e, m)

/-- The managers that a history of operations leads to, from any manager with nothing loaded, if the
    callbacks of all plugins only register. A callback is given by the registrations that it makes at
    the time: one that fails leaves the registry as it is, so a callback that goes on after a failure
    does the same as one that leaves it out. -/
inductive Reachable (base : Registry) : Manager → Prop where
  | start {m : Manager} (registry : m.registry = base) (loaded : m.loaded = []) : Reachable base m
  | load {m : Manager} (before : Reachable base m) {p : Plugin} (only : p.OnlyRegisters) :
      Reachable base (m.load p).2
  | loadAll {m : Manager} (before : Reachable base m) {plugins : List Plugin}
      (only : ∀ p ∈ plugins, p.OnlyRegisters) : Reachable base (m.loadAll plugins).2
  | unload {m : Manager} (before : Reachable base m) (name : String) :
      Reachable base (m.unload name).2
  | reload {m : Manager} (before : Reachable base m) (name : String) :
      Reachable base (m.reload name).2
  /-- A plugin need not do the same each time: what the callbacks of a loaded one will do may change
      at any time, while its name and its dependencies stay. -/
  | turn {m : Manager} (before : Reachable base m) {name : String} {entry : LoadedPlugin}
      (found : Assoc.get? name m.loaded = some entry) {setUp registration : Callback}
      (setsUp : setUp.OnlyRegisters) (registers : registration.OnlyRegisters)
      (tearDownFault : Option Error) :
      Reachable base { m with
        loaded := m.loaded.put name (entry.withCallbacks setUp registration tearDownFault) }

/-- The callbacks of the loaded plugins only register. -/
def OnlyRegister (m : Manager) : Prop :=
  ∀ name entry, Assoc.get? name m.loaded = some entry → entry.plugin.OnlyRegisters

/-- Coherent with the first registry, and with every plugin after its dependencies, none of which takes
    anything out of the registry. -/
structure Sound (base : Registry) (m : Manager) : Prop where
  coherent : Coherent base m
  ordered : LoadOrdered m
  only : m.OnlyRegister

/-- All plugins only register if the new one does. -/
theorem OnlyRegister.put (all : m.OnlyRegister) {entry : LoadedPlugin}
    (only : entry.plugin.OnlyRegisters) (loaded : m'.loaded = m.loaded.put name entry) :
    m'.OnlyRegister := by
  intro other entry' found
  rw [loaded, Assoc.get?_put] at found
  split at found
  · cases found
    exact only
  · exact all other entry' found

/-- A load keeps a sound manager sound. -/
theorem Sound.load (sound : Sound base m) (only : p.OnlyRegisters) : Sound base (m.load p).2 := by
  have moves := load_moves sound.coherent.registrySorted only
  refine ⟨sound.coherent.moves moves, sound.ordered.moves sound.coherent moves, ?_⟩
  have outcome := load_case sound.coherent.registrySorted only
  generalize m.load p = result at outcome
  cases outcome with
  | attaches attached => exact sound.only.put only attached.loaded
  | fails e registry loaded order => exact fun name entry found => sound.only name entry (loaded ▸ found)

/-- An unload keeps a sound manager sound. -/
theorem Sound.unload (sound : Sound base m) (name : String) : Sound base (m.unload name).2 := by
  have moves := unload_moves sound.coherent.registrySorted sound.coherent.loadedSorted name
  refine ⟨sound.coherent.moves moves, sound.ordered.moves sound.coherent moves, ?_⟩
  have outcome := unload_case sound.coherent.registrySorted sound.coherent.loadedSorted name
  generalize m.unload name = result at outcome
  cases outcome with
  | detaches entry detached =>
      intro other entry' found
      rw [detached.loaded, sound.coherent.loadedSorted.get?_remove] at found
      split at found
      · cases found
      · exact sound.only other entry' found
  | refused e => exact sound.only

/-- A plugin that was unloaded only registers. -/
theorem Sound.only_of_unload (sound : Sound base m) (done : (m.unload name).1 = .ok p) :
    p.OnlyRegisters := by
  have outcome := unload_case sound.coherent.registrySorted sound.coherent.loadedSorted name
  generalize m.unload name = result at outcome done
  cases outcome with
  | detaches entry detached =>
      cases done
      exact sound.only name entry detached.found
  | refused e => cases done

/-- Other callbacks for a loaded plugin change nothing that coherence is about. -/
theorem alike_withCallbacks {entry : LoadedPlugin}
    (found : Assoc.get? name m.loaded = some entry) (setUp registration : Callback)
    (tearDownFault : Option Error) :
    Alike m { m with
      loaded := m.loaded.put name (entry.withCallbacks setUp registration tearDownFault) } := by
  constructor
  case sorted => exact fun sorted => Assoc.sorted_put sorted _ _
  case isLoaded =>
      funext other
      by_cases same : name = other
      · simp [isLoaded, Assoc.has, Assoc.get?_put, ← same, found]
      · simp [isLoaded, Assoc.has, Assoc.get?_put, same]
  case entry =>
      intro other entry' found'
      rw [Assoc.get?_put] at found'
      split at found'
      · rename_i same
        cases found'
        subst same
        exact ⟨entry, found, rfl, rfl⟩
      · exact ⟨entry', found', rfl, rfl⟩

/-- Every manager that a history reaches is sound. -/
theorem Reachable.sound (sorted : base.Sorted) (reachable : Reachable base m) : Sound base m := by
  induction reachable with
  | @start m registry loaded =>
      have nothing (name : String) : Assoc.get? name m.loaded = none := by
        rw [loaded]
        rfl
      have unowned (a f : String) : ¬m.Owns a f := by simp [owns_iff, nothing]
      have none : m.latestFirst = [] := by
        rw [latestFirst, List.filter_eq_nil_iff.2 fun name _ => by
          simp [isLoaded_eq_false_iff.2 (nothing name)]]
        rfl
      refine ⟨⟨registry ▸ sorted, loaded ▸ Assoc.sorted_nil, ?_, ?_, ?_, ?_, ?_⟩, ⟨?_, ?_, ?_⟩, ?_⟩
      · simp [nothing]
      · simp [unowned]
      · simp [unowned]
      · simp [unowned, registry]
      · simp [registry]
      · simp [isLoaded, Assoc.has, nothing]
      · simp [none]
      · simp [nothing]
      · simp [OnlyRegister, nothing]
  | load before only ih => exact ih.load only
  | @loadAll m before plugins only ih =>
      exact loadPending_keeps (fun only sound => sound.load only) ih plugins.length plugins only
  | unload before name ih => exact ih.unload name
  | reload before name ih =>
      exact reload_keeps (fun only sound => sound.load only) (fun name sound => sound.unload name)
        ih.only_of_unload ih
  | @turn m before name entry found setUp registration setsUp registers tearDownFault ih =>
      have alike := alike_withCallbacks found setUp registration tearDownFault
      have moves : Moves m { m with
          loaded := m.loaded.put name (entry.withCallbacks setUp registration tearDownFault) } := by
        refine .stays rfl alike ?_
        unfold latestFirst
        rw [alike.isLoaded]
        rfl
      exact ⟨ih.coherent.moves moves, ih.ordered.moves ih.coherent moves,
        ih.only.put ⟨setsUp, registers⟩ rfl⟩

/-! ### Unloading everything -/

theorem nodup_eraseDups : ∀ names : List String, names.eraseDups.Nodup
  | [] => List.nodup_nil
  | name :: rest => by
      rw [List.eraseDups_cons, List.nodup_cons, List.mem_eraseDups]
      exact ⟨by simp, nodup_eraseDups _⟩
termination_by names => names.length
decreasing_by exact Nat.lt_succ_of_le (List.length_filter_le _ rest)

/-- The latest plugin can be unloaded, and the others are left in their order. -/
theorem Sound.unload_latest (sound : Sound base m) {rest : List String}
    (order : m.latestFirst = name :: rest) :
    ∃ p m', m.unload name = (.ok p, m') ∧ m'.latestFirst = rest := by
  obtain ⟨coherent, ordered, -⟩ := sound
  have later := ordered.later
  have distinct : m.latestFirst.Nodup := nodup_eraseDups _
  rw [order, List.pairwise_cons] at later
  rw [order, List.nodup_cons] at distinct
  have loaded : m.isLoaded name = true := isLoaded_of_mem_latestFirst (by simp [order])
  obtain ⟨entry, found⟩ := isLoaded_eq_true_iff.1 loaded
  have unused : m.dependents name = [] := by
    rw [dependents_eq_nil_iff coherent.loadedSorted]
    intro other entry' found'
    have member := ordered.complete (isLoaded_eq_true_iff.2 ⟨entry', found'⟩)
    rw [order, List.mem_cons] at member
    rcases member with rfl | earlier
    · exact ordered.other found'
    · exact later.1 other earlier found'
  obtain ⟨m', done, detached⟩ :=
    unload_of_unused coherent.registrySorted coherent.loadedSorted found unused
  refine ⟨entry.plugin, m', done, ?_⟩
  rw [detached.order, order, List.filter_cons_of_neg (by simp), List.filter_eq_self]
  intro other member
  simpa using fun same : other = name => distinct.1 (same ▸ member)

/-- A manager with nothing loaded has the first registry. -/
theorem Coherent.registry_eq (coherent : Coherent base m) (sorted : base.Sorted)
    (loaded : m.loaded = []) : m.registry = base := by
  have unowned (a f : String) : ¬m.Owns a f := by simp [owns_iff, loaded, Assoc.get?]
  refine coherent.registrySorted.ext sorted fun name => ?_
  cases found : base.get? name with
  | some d => exact coherent.kept found
  | none =>
      have absent : ¬m.registry.has name = true := by
        rw [coherent.names name]
        simp [unowned, Registry.has, found]
      simpa [Registry.has] using absent

/-- Unloading the loaded plugins, the latest first, succeeds and gives back the first registry. -/
theorem Sound.unloadAll (sound : Sound base m) (sorted : base.Sorted) {names : List String}
    (order : m.latestFirst = names) :
    ∃ m', m.unloadAll names = (.ok (), m') ∧ m'.registry = base ∧ m'.loaded = [] := by
  induction names generalizing m with
  | nil =>
      have nothing : m.loaded = [] := by
        cases entries : m.loaded with
        | nil => rfl
        | cons entry rest =>
            have loaded : m.isLoaded entry.1 = true := by
              simp [isLoaded_eq_true_iff, entries, Assoc.get?]
            simpa [order] using sound.ordered.complete loaded
      exact ⟨m, rfl, sound.coherent.registry_eq sorted nothing, nothing⟩
  | cons name rest ih =>
      obtain ⟨p, m₁, done, orderRest⟩ := sound.unload_latest order
      have after : Sound base m₁ := by
        have unloaded := sound.unload name
        rwa [done] at unloaded
      obtain ⟨m', others, restored⟩ := ih after orderRest
      exact ⟨m', by rw [Manager.unloadAll, done]; exact others, restored⟩

/-- In every manager that a history of operations leads to, the bookkeeping is right, and unloading
    the loaded plugins in the reverse order of their most recent loading gives back the first
    registry. -/
theorem Reachable.coherent_and_unloadable (sorted : base.Sorted) (reachable : Reachable base m) :
    Coherent base m ∧
      ∃ m', m.unloadAll m.latestFirst = (.ok (), m') ∧ m'.registry = base ∧ m'.loaded = [] := by
  have sound := reachable.sound sorted
  exact ⟨sound.coherent, sound.unloadAll sorted rfl⟩

end

end

/-! ### A history -/

/-- A builtin that answers with its own name. -/
def echo (name : String) : Descriptor := ⟨name, "echoes", .variadic, "", .constant name⟩

/-- A plugin that registers an echo. -/
def echoing (name function : String) (dependencies : List String) : Plugin :=
  { name, version := "1", description := "", dependencies,
    registration := .registering [.builtin (echo function)] none }

theorem onlyRegisters_echoing (name function : String) (dependencies : List String) :
    (echoing name function dependencies).OnlyRegisters :=
  ⟨rfl, Callback.onlyRegisters_registering _ _⟩

/-- A registry with one echo. -/
def keepOnly : Registry := ⟨[("keep", echo "keep")]⟩

/-- Three plugins are loaded over one builtin, one of them on top of another; a fourth one registers
    an echo and fails; the first one is in use and cannot be reloaded, and the one on top is reloaded.
    -/
def busyManager : Manager :=
  let m : Manager := { registry := keepOnly }
  let m := (m.loadAll [echoing "top" "c" ["ground"], echoing "ground" "a" []]).2
  let m := (m.load (echoing "side" "b" [])).2
  let m := (m.load { echoing "broken" "d" [] with
    registration := .registering [.builtin (echo "d"), .builtin (echo "keep")] none }).2
  let m := (m.reload "ground").2
  (m.reload "top").2

/-- The busy manager can unload its three plugins, the latest first, and only the builtin is left. -/
theorem busyManager_unloadable :
    busyManager.registry.names = ["a", "b", "c", "keep"] ∧
      ∃ m', busyManager.unloadAll ["top", "side", "ground"] = (.ok (), m') ∧
        m'.registry = keepOnly := by
  have first : Reachable keepOnly { registry := keepOnly } := .start rfl rfl
  have pair : ∀ p ∈ [echoing "top" "c" ["ground"], echoing "ground" "a" []], p.OnlyRegisters := by
    simp [onlyRegisters_echoing]
  have broken : Plugin.OnlyRegisters { echoing "broken" "d" [] with
      registration := .registering [.builtin (echo "d"), .builtin (echo "keep")] none } :=
    ⟨rfl, Callback.onlyRegisters_registering _ _⟩
  have reachable : Reachable keepOnly busyManager :=
    ((((first.loadAll pair).load (onlyRegisters_echoing "side" "b" [])).load broken).reload _).reload _
  have sorted : keepOnly.Sorted := List.pairwise_singleton _ _
  have order : busyManager.latestFirst = ["top", "side", "ground"] := by decide
  obtain ⟨-, m', unloaded, registry, -⟩ := reachable.coherent_and_unloadable sorted
  exact ⟨by decide, m', order ▸ unloaded, registry⟩

end Manager

end PluginLisp
