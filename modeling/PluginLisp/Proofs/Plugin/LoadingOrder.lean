import PluginLisp.Proofs.Plugin.Registrations
import PluginLisp.Proofs.Plugin.Rollback

/-!
The order in which several plugins are loaded. The manager always takes the first plugin of the list
that is ready, so the order of the list decides when a plugin is loaded, but not whether it is: loaded
are the plugins of the least set that holds every plugin whose dependencies are loaded or in the set.
The registry and the table of loaded plugins that come of it are the same for every order of the list,
since they are determined by what is loaded.

Main results: `LoadsAll.agree`, `Loadable.loads_in_order`.
-/

namespace PluginLisp

namespace Manager

section

variable {m m' k k' : Manager} {p q : Plugin} {plugins permuted rest left left' : List Plugin}
  {name : String}

/-! ### Plugins that are ready -/

/-- A plugin of a list that is ready, and the others. -/
structure Picks (m : Manager) (plugins : List Plugin) (p : Plugin) (rest : List Plugin) : Prop where
  perm : plugins.Perm (p :: rest)
  ready : ∀ d ∈ p.dependencies, m.isLoaded d = true

section

variable (picks : m.Picks plugins p rest)

include picks

theorem Picks.first : p ∈ plugins := picks.perm.mem_iff.2 List.mem_cons_self

theorem Picks.other (inRest : q ∈ rest) : q ∈ plugins :=
  picks.perm.mem_iff.2 (List.mem_cons_of_mem p inRest)

theorem Picks.cases (member : q ∈ plugins) : q = p ∨ q ∈ rest :=
  List.mem_cons.1 (picks.perm.mem_iff.1 member)

theorem Picks.length_eq : plugins.length = rest.length + 1 := picks.perm.length_eq

end

/-- The first plugin that is ready is picked. -/
theorem picks_of_firstReady? (first : m.firstReady? plugins = some (p, rest)) :
    m.Picks plugins p rest := by
  refine ⟨perm_of_firstReady? first, ?_⟩
  induction plugins generalizing rest with
  | nil => simp [firstReady?] at first
  | cons head tail ih =>
      rw [firstReady?] at first
      split at first
      next ready =>
        cases first
        simpa using ready
      next =>
        obtain ⟨⟨q, others⟩, found, same⟩ := Option.map_eq_some_iff.1 first
        cases same
        exact ih found

/-- No plugin is ready if each needs one that is not loaded. -/
theorem firstReady?_eq_none :
    m.firstReady? plugins = none ↔ ∀ p ∈ plugins, ∃ d ∈ p.dependencies, m.isLoaded d = false := by
  induction plugins with
  | nil => simp [firstReady?]
  | cons head tail ih =>
      rw [firstReady?]
      split
      next ready =>
        simp only [reduceCtorEq, List.forall_mem_cons, false_iff]
        rintro ⟨⟨d, depends, missing⟩, -⟩
        simp [List.all_eq_true.1 ready d depends] at missing
      next notReady =>
        have lacks : ∃ d ∈ head.dependencies, m.isLoaded d = false := by simpa using notReady
        rw [Option.map_eq_none_iff, ih, List.forall_mem_cons, and_iff_right lacks]

/-! ### What is loaded in the end -/

/-- What is loaded, and what can be loaded of the plugins on a list: the least set that has a plugin
    of the list if it has all dependencies of the plugin. -/
inductive Available (m : Manager) (plugins : List Plugin) : String → Prop where
  | loaded {name : String} (there : m.isLoaded name = true) : Available m plugins name
  | listed {p : Plugin} (member : p ∈ plugins)
      (dependencies : ∀ d ∈ p.dependencies, Available m plugins d) : Available m plugins p.name

/-- The managers on the way: some of the plugins have been loaded, each one when it could be. -/
inductive Approach (m : Manager) (plugins : List Plugin) : Manager → Prop where
  | start : Approach m plugins m
  | load {k : Manager} {p : Plugin} (before : Approach m plugins k) (member : p ∈ plugins)
      (admits : k.Admits p) : Approach m plugins (k.load p).2

/-- The plugins on a list can be loaded as far as their dependencies allow. -/
structure Loadable (m : Manager) (plugins : List Plugin) : Prop where
  registrySorted : m.registry.Sorted
  loadedSorted : m.loaded.Sorted
  named : ∀ p ∈ plugins, p.name ≠ ""
  distinct : (plugins.map Plugin.name).Nodup
  free : ∀ p ∈ plugins, m.isLoaded p.name = false
  /-- The callbacks register and do nothing else to the registry. -/
  only : ∀ p ∈ plugins, p.OnlyRegisters
  /-- Whenever a plugin can be loaded, in whatever order, its callbacks succeed. Since a name is
      registered only once, the names that they register are free and differ from each other. -/
  succeeds : ∀ {k}, Approach m plugins k → ∀ p ∈ plugins, k.Admits p → (k.start p).2 = none

/-- A plugin has been loaded. -/
structure Adds (m : Manager) (p : Plugin) (m' : Manager) : Prop where
  registry : m.registry.extend p.registrations = .ok m'.registry
  loaded : m'.loaded =
    m.loaded.put p.name ⟨p, m'.registry.names.filter fun name => !m.registry.has name⟩

/-- A plugin that is admitted and starts is added. -/
theorem load_of_succeeds (only : p.OnlyRegisters) (admits : m.Admits p)
    (succeeds : (m.start p).2 = none) : ∃ m', m.load p = (.ok (), m') ∧ m.Adds p m' := by
  have loaded := (start_started m p).loaded
  have extended : m.registry.extend p.registrations = .ok (m.start p).1.registry := by
    unfold start at succeeds ⊢
    split at succeeds
    next => cases succeeds
    next ready setUp =>
      have first := (Callback.runAll_eq_none.1 ((only.setUp.run_eq _).symm.trans setUp)).2
      have registers : p.registration.run ready = ((p.registration.run ready).1, none) :=
        Prod.ext rfl succeeds
      have second :=
        (Callback.runAll_eq_none.1 ((only.registration.run_eq _).symm.trans registers)).2
      exact Registry.extend_append.2 ⟨_, first, second⟩
  rcases started : m.start p with ⟨m₁, fault⟩
  simp only [started] at succeeds loaded extended
  subst succeeds
  let functions := m₁.registry.names.filter fun name => !m.registry.has name
  have loads : m.load p = (.ok (), { m₁ with loaded := m₁.loaded.put p.name ⟨p, functions⟩ }) := by
    simp only [load, admits.refusal?, started, functions]
  exact ⟨_, loads, extended, by rw [← loaded]⟩

theorem Approach.trans (first : Approach m plugins k) (subset : rest ⊆ plugins)
    (second : Approach k rest k') : Approach m plugins k' := by
  induction second with
  | start => exact first
  | load before listed allowed ih => exact .load ih (subset listed) allowed

/-- A plugin that is ready can be loaded, and the others can be loaded after it. -/
theorem Loadable.load (loadable : m.Loadable plugins) (picks : m.Picks plugins p rest) :
    ∃ m', m.load p = (.ok (), m') ∧ m.Adds p m' ∧ m'.Loadable rest := by
  have admits : m.Admits p :=
    ⟨loadable.named p picks.first, loadable.free p picks.first, picks.ready⟩
  obtain ⟨m', loads, adds⟩ :=
    load_of_succeeds (loadable.only p picks.first) admits
      (loadable.succeeds .start p picks.first admits)
  have distinct := (picks.perm.map Plugin.name).nodup loadable.distinct
  obtain ⟨different, distinctRest⟩ := List.nodup_cons.1 distinct
  refine ⟨m', loads, adds, ?_⟩
  constructor
  case registrySorted => exact (Registry.extend_grows adds.registry).sorted loadable.registrySorted
  case loadedSorted => exact adds.loaded ▸ Assoc.sorted_put loadable.loadedSorted _ _
  case named => exact fun q inRest => loadable.named q (picks.other inRest)
  case distinct => exact distinctRest
  case free =>
      intro q inRest
      have other : p.name ≠ q.name := fun same => different (same ▸ List.mem_map_of_mem inRest)
      rw [isLoaded_of_put adds.loaded, loadable.free q (picks.other inRest), Bool.or_false]
      simpa using other
  case only => exact fun q inRest => loadable.only q (picks.other inRest)
  case succeeds =>
      intro k approach q inRest allowed
      have first : Approach m plugins m' := by simpa [loads] using Approach.start.load picks.first admits
      have onTheWay := first.trans (fun _ => picks.other) approach
      exact loadable.succeeds onTheWay q (picks.other inRest) allowed

/-- Whether plugins can be loaded does not depend on their order. -/
theorem Loadable.perm (loadable : m.Loadable plugins) (perm : plugins.Perm permuted) :
    m.Loadable permuted := by
  have subset : permuted ⊆ plugins := fun p => perm.mem_iff.2
  constructor
  case registrySorted => exact loadable.registrySorted
  case loadedSorted => exact loadable.loadedSorted
  case named => exact fun p member => loadable.named p (subset member)
  case distinct => exact (perm.map Plugin.name).nodup loadable.distinct
  case free => exact fun p member => loadable.free p (subset member)
  case only => exact fun p member => loadable.only p (subset member)
  case succeeds =>
      intro k approach p member
      exact loadable.succeeds (Approach.start.trans subset approach) p (subset member)

/-! ### Runs -/

/-- Plugins are loaded one after the other, always the first one that is ready, until none of those
    that are left is. -/
inductive LoadsAll : Manager → List Plugin → List Plugin → Manager → Prop where
  | stops {m : Manager} {left : List Plugin} (blocked : m.firstReady? left = none) :
      LoadsAll m left left m
  | loads {m m₁ m' : Manager} {plugins rest left : List Plugin} {p : Plugin}
      (first : m.firstReady? plugins = some (p, rest)) (loaded : m.load p = (.ok (), m₁))
      (goesOn : LoadsAll m₁ rest left m') : LoadsAll m plugins left m'

/-- The answer when these plugins are left. -/
def answer (m : Manager) (left : List Plugin) : Except Error Unit :=
  if left.isEmpty then .ok () else .error (m.blockage left)

/-- A run ends, and no run takes more loads than there are plugins. -/
theorem LoadsAll.loadPending (run : LoadsAll m plugins left m') {count : Nat}
    (enough : plugins.length ≤ count) : m.loadPending count plugins = (m'.answer left, m') := by
  induction run generalizing count with
  | @stops m left blocked =>
      cases left with
      | nil => simp [Manager.loadPending, answer]
      | cons p rest =>
          cases count with
          | zero => simp at enough
          | succ count => simp [Manager.loadPending, blocked, answer]
  | @loads m m₁ m' plugins rest left p first loaded goesOn ih =>
      have length := (picks_of_firstReady? first).length_eq
      cases count with
      | zero => omega
      | succ count =>
          cases plugins with
          | nil => simp at length
          | cons head tail =>
              rw [Manager.loadPending.eq_3 _ _ _ (by simp), first]
              simp only [loaded]
              exact ih (by omega)

/-- Plugins that can be loaded have a run that loads them. -/
theorem Loadable.exists_run (loadable : m.Loadable plugins) :
    ∃ left m', LoadsAll m plugins left m' := by
  generalize size : plugins.length = n
  induction n generalizing m plugins with
  | zero =>
      obtain rfl := List.length_eq_zero_iff.1 size
      exact ⟨[], m, .stops rfl⟩
  | succ n ih =>
      cases first : m.firstReady? plugins with
      | none => exact ⟨plugins, m, .stops first⟩
      | some found =>
          obtain ⟨p, rest⟩ := found
          have picks := picks_of_firstReady? first
          obtain ⟨m₁, loads, -, loadableRest⟩ := loadable.load picks
          have length := picks.length_eq
          obtain ⟨left, m', run⟩ := ih loadableRest (by omega)
          exact ⟨left, m', .loads first loads run⟩

/-- What a step of a run does. -/
theorem Loadable.loads {m₁ : Manager} (loadable : m.Loadable plugins)
    (first : m.firstReady? plugins = some (p, rest)) (loaded : m.load p = (.ok (), m₁)) :
    m.Picks plugins p rest ∧ m.Adds p m₁ ∧ m₁.Loadable rest := by
  have picks := picks_of_firstReady? first
  obtain ⟨m₂, loads, adds, loadableRest⟩ := loadable.load picks
  cases loaded.symm.trans loads
  exact ⟨picks, adds, loadableRest⟩

/-! ### What a run comes to -/

/-- When nothing is ready, only what is loaded is available. -/
theorem available_of_blocked (blocked : m.firstReady? plugins = none) :
    Available m plugins name ↔ m.isLoaded name = true := by
  refine ⟨fun available => ?_, .loaded⟩
  induction available with
  | loaded there => exact there
  | @listed p member dependencies ih =>
      obtain ⟨d, depends, missing⟩ := firstReady?_eq_none.1 blocked p member
      rw [ih d depends] at missing
      cases missing

/-- Loading a plugin that is ready changes nothing about what can be loaded. -/
theorem Adds.available_iff (adds : m.Adds p m') (picks : m.Picks plugins p rest) :
    Available m' rest name ↔ Available m plugins name := by
  have now := isLoaded_of_put adds.loaded
  constructor
  · intro available
    induction available with
    | @loaded name there =>
        rw [now, Bool.or_eq_true, beq_iff_eq] at there
        rcases there with rfl | there
        · exact .listed picks.first fun d depends => .loaded (picks.ready d depends)
        · exact .loaded there
    | listed member _ ih => exact .listed (picks.other member) ih
  · intro available
    induction available with
    | loaded there => exact .loaded (by simp [now, there])
    | listed member _ ih =>
        rcases picks.cases member with rfl | inRest
        · exact .loaded (by simp [now])
        · exact .listed inRest ih

/-- What is available does not depend on the order of the plugins. -/
theorem Available.perm (available : Available m plugins name) (perm : plugins.Perm permuted) :
    Available m permuted name := by
  induction available with
  | loaded there => exact .loaded there
  | listed member _ ih => exact .listed (perm.mem_iff.1 member) ih

/-- What can be loaded of the plugins on a list has been loaded, and nothing else has changed. -/
structure LoadsAvailable (m : Manager) (plugins : List Plugin) (m' : Manager) : Prop where
  registrySorted : m'.registry.Sorted
  loadedSorted : m'.loaded.Sorted
  isLoaded : ∀ name, m'.isLoaded name = true ↔ Available m plugins name
  /-- What was loaded stays as it was. -/
  kept : ∀ {name entry}, Assoc.get? name m.loaded = some entry →
    Assoc.get? name m'.loaded = some entry
  /-- What is loaded of the list is known under its name, with the names that it registered. -/
  new : ∀ p ∈ plugins, m'.isLoaded p.name = true →
    ∃ functions, Assoc.get? p.name m'.loaded = some ⟨p, functions⟩ ∧ functions.Pairwise (· < ·) ∧
      ∀ f, f ∈ functions ↔ f ∈ p.registrations.map Registration.name
  /-- What was registered stays as it was. -/
  keeps : m.registry.Keeps m'.registry
  /-- What is loaded of the list has all its registrations in the registry. -/
  holds : ∀ p ∈ plugins, m'.isLoaded p.name = true →
    ∀ registration ∈ p.registrations, registration.Holds m'.registry
  /-- There are no other names. -/
  names : ∀ f, m'.registry.has f = true ↔ m.registry.has f = true ∨
    ∃ p ∈ plugins, m'.isLoaded p.name = true ∧ f ∈ p.registrations.map Registration.name

theorem LoadsAvailable.isLoaded_of_adds {m₁ : Manager} (later : LoadsAvailable m₁ rest m')
    (adds : m.Adds p m₁) : m'.isLoaded p.name = true :=
  (later.isLoaded p.name).2 (.loaded (by simp [isLoaded_of_put adds.loaded]))

/-- When nothing can be loaded, everything that can be loaded has been loaded. -/
theorem Loadable.loadsAvailable_of_blocked (loadable : m.Loadable plugins)
    (blocked : m.firstReady? plugins = none) : LoadsAvailable m plugins m := by
  have absent {p : Plugin} (member : p ∈ plugins) : m.isLoaded p.name ≠ true := by
    simp [loadable.free p member]
  constructor
  case registrySorted => exact loadable.registrySorted
  case loadedSorted => exact loadable.loadedSorted
  case isLoaded => exact fun name => (available_of_blocked blocked).symm
  case kept => exact fun found => found
  case new => exact fun p member there => absurd there (absent member)
  case keeps => exact fun _ _ found => found
  case holds => exact fun p member there => absurd there (absent member)
  case names =>
      intro f
      refine ⟨Or.inl, fun has => has.resolve_right ?_⟩
      rintro ⟨p, member, there, -⟩
      exact absent member there

/-- Loading a plugin that is ready, and then what can be loaded, loads what can be loaded. -/
theorem Loadable.loadsAvailable_of_adds {m₁ : Manager} (loadable : m.Loadable plugins)
    (picks : m.Picks plugins p rest) (adds : m.Adds p m₁) (later : LoadsAvailable m₁ rest m') :
    LoadsAvailable m plugins m' := by
  have here : Assoc.get? p.name m'.loaded =
      some ⟨p, m₁.registry.names.filter fun name => !m.registry.has name⟩ :=
    later.kept (by simp [adds.loaded, Assoc.get?_put])
  have there := later.isLoaded_of_adds adds
  have grows := Registry.extend_grows adds.registry
  constructor
  case registrySorted => exact later.registrySorted
  case loadedSorted => exact later.loadedSorted
  case isLoaded => exact fun name => (later.isLoaded name).trans (adds.available_iff picks)
  case kept =>
      intro name entry found
      have other : p.name ≠ name := by
        rintro rfl
        have free := loadable.free p picks.first
        rw [isLoaded_eq_false_iff, found] at free
        cases free
      exact later.kept (by rw [adds.loaded, Assoc.get?_put, if_neg other, found])
  case new =>
      intro q member isThere
      rcases picks.cases member with rfl | inRest
      · have ascending : m₁.registry.names.Pairwise (· < ·) :=
          List.pairwise_map.2 (grows.sorted loadable.registrySorted)
        exact ⟨_, here, ascending.filter _, Registry.mem_new_iff adds.registry⟩
      · exact later.new q inRest isThere
  case keeps => exact fun f d found => later.keeps (grows.keeps found)
  case holds =>
      intro q member isThere
      rcases picks.cases member with rfl | inRest
      · intro registration own
        exact (Registry.extend_holds adds.registry registration own).of_keeps later.keeps
      · exact later.holds q inRest isThere
  case names =>
      intro f
      rw [later.names, Registry.extend_has adds.registry, or_assoc]
      refine or_congr_right ⟨?_, ?_⟩
      · rintro (own | ⟨q, inRest, isThere, new⟩)
        · exact ⟨p, picks.first, there, own⟩
        · exact ⟨q, picks.other inRest, isThere, new⟩
      · rintro ⟨q, member, isThere, new⟩
        rcases picks.cases member with rfl | inRest
        · exact Or.inl new
        · exact Or.inr ⟨q, inRest, isThere, new⟩

/-- A run loads what can be loaded, and left are the plugins of the list that are not loaded. -/
theorem LoadsAll.loadsAvailable (loadable : m.Loadable plugins) (run : LoadsAll m plugins left m') :
    LoadsAvailable m plugins m' ∧ ∀ p, p ∈ left ↔ p ∈ plugins ∧ m'.isLoaded p.name = false := by
  induction run with
  | stops blocked =>
      refine ⟨loadable.loadsAvailable_of_blocked blocked, fun p => ⟨fun member => ?_, And.left⟩⟩
      exact ⟨member, loadable.free p member⟩
  | @loads m m₁ m' plugins rest left p first loaded goesOn ih =>
      obtain ⟨picks, adds, loadableRest⟩ := loadable.loads first loaded
      obtain ⟨later, remaining⟩ := ih loadableRest
      refine ⟨loadable.loadsAvailable_of_adds picks adds later, fun q => ?_⟩
      rw [remaining]
      refine and_congr_left fun absent => ⟨picks.other, fun member => ?_⟩
      refine (picks.cases member).resolve_left ?_
      rintro rfl
      simp [later.isLoaded_of_adds adds] at absent

/-- A run ends when nothing is ready. -/
theorem LoadsAll.blocked (run : LoadsAll m plugins left m') : m'.firstReady? left = none := by
  induction run with
  | stops blocked => exact blocked
  | loads _ _ _ ih => exact ih

/-- A reported lack is a real one: a plugin needs what is neither loaded nor listed. -/
theorem lacking?_eq_some {names : List String} {d : String}
    (lacks : m.lacking? names p = some (name, d)) :
    name = p.name ∧ d ∈ p.dependencies ∧ m.isLoaded d = false ∧ d ∉ names := by
  obtain ⟨d', found, same⟩ := Option.map_eq_some_iff.1 lacks
  cases same
  have outside := List.find?_some found
  rw [Bool.and_eq_true, Bool.not_eq_true', Bool.not_eq_true', List.contains_eq_mem,
    decide_eq_false_iff_not] at outside
  exact ⟨rfl, List.mem_of_find?_eq_some found, outside⟩

/-- Where no lack is reported, everything needed is loaded or listed. -/
theorem lacking?_eq_none {names : List String} :
    m.lacking? names p = none ↔ ∀ d ∈ p.dependencies, m.isLoaded d = false → d ∈ names := by
  simp [lacking?]

/-- The error names a plugin that is left and a dependency that it lacks, one from outside if there
    is any. -/
theorem blockage_eq (blocked : m.firstReady? left = none) (nonempty : left ≠ []) :
    ∃ p ∈ left, ∃ d ∈ p.dependencies, m.blockage left = .missingDependency p.name d ∧
      m.isLoaded d = false ∧
      ((∃ q ∈ left, ∃ o ∈ q.dependencies, m.isLoaded o = false ∧ o ∉ left.map Plugin.name) →
        d ∉ left.map Plugin.name) := by
  cases outside : left.findSome? (m.lacking? (left.map Plugin.name)) with
  | some found =>
      obtain ⟨name, d⟩ := found
      obtain ⟨p, member, lacks⟩ := List.exists_of_findSome?_eq_some outside
      obtain ⟨rfl, depends, missing, notListed⟩ := lacking?_eq_some lacks
      exact ⟨p, member, d, depends, by simp [blockage, outside], missing, fun _ => notListed⟩
  | none =>
      obtain ⟨p, rest, rfl⟩ := List.exists_cons_of_ne_nil nonempty
      have member : p ∈ p :: rest := List.mem_cons_self
      cases lacks : m.lacking? [] p with
      | none =>
          -- The empty texts would need a plugin that lacks nothing, and that plugin were ready.
          obtain ⟨d, depends, missing⟩ := firstReady?_eq_none.1 blocked p member
          cases lacking?_eq_none.1 lacks d depends missing
      | some found =>
          obtain ⟨name, d⟩ := found
          obtain ⟨rfl, depends, missing, -⟩ := lacking?_eq_some lacks
          have blockage : m.blockage (p :: rest) = .missingDependency p.name d := by
            simp only [Manager.blockage, outside]
            simp [lacks]
          refine ⟨p, member, d, depends, blockage, missing, ?_⟩
          rintro ⟨q, inLeft, o, needed, absent, notListed⟩
          have lacksNone := List.findSome?_eq_none_iff.1 outside q inLeft
          exact absurd (lacking?_eq_none.1 lacksNone o needed absent) notListed

/-! ### Every order leads to the same -/

/-- Ascending names are the same if they have the same members. -/
theorem ascending_ext {names others : List String} (ascending : names.Pairwise (· < ·))
    (ascendingToo : others.Pairwise (· < ·)) (same : ∀ f, f ∈ names ↔ f ∈ others) :
    names = others := by
  have nodup {names : List String} (ascending : names.Pairwise (· < ·)) : names.Nodup :=
    ascending.imp fun less => String.ne_of_lt less
  have perm : names.Perm others :=
    (List.perm_ext_iff_of_nodup (nodup ascending) (nodup ascendingToo)).2 same
  refine List.Perm.eq_of_pairwise (fun a b _ _ less greater => ?_) ascending ascendingToo perm
  exact absurd greater (String.lt_asymm less)

/-- What a run registers is in every registry that has the registrations of the plugins that it
    loads. -/
theorem LoadsAll.keeps {r : Registry} (loadable : m.Loadable plugins)
    (run : LoadsAll m plugins left m') (keeps : m.registry.Keeps r)
    (holds : ∀ p ∈ plugins, m'.isLoaded p.name = true →
      ∀ registration ∈ p.registrations, registration.Holds r) : m'.registry.Keeps r := by
  induction run with
  | stops => exact keeps
  | @loads m m₁ m' plugins rest left p first loaded goesOn ih =>
      obtain ⟨picks, adds, loadableRest⟩ := loadable.loads first loaded
      have there := (goesOn.loadsAvailable loadableRest).1.isLoaded_of_adds adds
      exact ih loadableRest (keeps.extend adds.registry (holds p picks.first there))
        fun q inRest => holds q (picks.other inRest)

/-- A list in another order leads to the same registry and the same loaded plugins. -/
theorem LoadsAll.agree (loadable : m.Loadable plugins) (perm : plugins.Perm permuted)
    (run : LoadsAll m plugins left m') (other : LoadsAll m permuted left' k') :
    m'.registry = k'.registry ∧ m'.loaded = k'.loaded := by
  have here := (run.loadsAvailable loadable).1
  have there := (other.loadsAvailable (loadable.perm perm)).1
  have sameLoaded (name : String) : m'.isLoaded name = true ↔ k'.isLoaded name = true := by
    rw [here.isLoaded, there.isLoaded]
    exact ⟨fun available => available.perm perm, fun available => available.perm perm.symm⟩
  have keeps : m'.registry.Keeps k'.registry := by
    refine run.keeps loadable there.keeps fun p member isThere => ?_
    exact there.holds p (perm.mem_iff.1 member) ((sameLoaded p.name).1 isThere)
  have sameNames (f : String) : m'.registry.has f = true ↔ k'.registry.has f = true := by
    rw [here.names, there.names]
    simp only [sameLoaded, perm.mem_iff]
  constructor
  · refine here.registrySorted.ext there.registrySorted fun f => ?_
    cases found : m'.registry.get? f with
    | some d => exact (keeps found).symm
    | none =>
        have absent : ¬k'.registry.has f = true := by
          rw [← sameNames, Registry.has, found]
          simp
        exact (Option.not_isSome_iff_eq_none.1 absent).symm
  · refine here.loadedSorted.ext there.loadedSorted fun name => ?_
    cases loaded : m'.isLoaded name with
    | false =>
        have absent : k'.isLoaded name = false := by
          rw [Bool.eq_false_iff, Ne, ← sameLoaded, loaded]
          simp
        rw [isLoaded_eq_false_iff.1 loaded, isLoaded_eq_false_iff.1 absent]
    | true =>
        cases (here.isLoaded name).1 loaded with
        | loaded before =>
            obtain ⟨entry, found⟩ := isLoaded_eq_true_iff.1 before
            rw [here.kept found, there.kept found]
        | @listed p member _ =>
            obtain ⟨functions, found, sorted, own⟩ := here.new p member loaded
            obtain ⟨functions', found', sorted', own'⟩ :=
              there.new p (perm.mem_iff.1 member) ((sameLoaded p.name).1 loaded)
            have same : functions = functions' :=
              ascending_ext sorted sorted' fun f => (own f).trans (own' f).symm
            rw [found, found', same]

/-! ### Loading a list -/

/-- Loading a list succeeds if nothing is left over. -/
theorem answer_eq_ok : m.answer left = .ok () ↔ left = [] := by
  cases left <;> simp [answer]

/-- Loading a list fails with the reason why the rest is blocked. -/
theorem answer_eq_error {e : Error} (failed : m.answer left = .error e) :
    left ≠ [] ∧ e = m.blockage left := by
  cases left with
  | nil => simp [answer] at failed
  | cons p rest =>
      have same : m.blockage (p :: rest) = e := Except.error.inj failed
      exact ⟨List.cons_ne_nil p rest, same.symm⟩

/-- Why plugins of a list are left: a dependency of one of them is not loaded. It is none of the list
    if such a dependency is to be found at all. -/
inductive Lacks (m' : Manager) (plugins : List Plugin) : Error → Prop where
  | dependency {p : Plugin} {d : String} (listed : p ∈ plugins) (named : p.name ≠ "")
      (left : m'.isLoaded p.name = false) (depends : d ∈ p.dependencies)
      (missing : m'.isLoaded d = false)
      (outside : (∃ q ∈ plugins, m'.isLoaded q.name = false ∧ ∃ o ∈ q.dependencies,
        m'.isLoaded o = false ∧ o ∉ plugins.map Plugin.name) → d ∉ plugins.map Plugin.name) :
      Lacks m' plugins (.missingDependency p.name d)

/-- The reason names a plugin of the list, and a dependency that it really lacks. -/
theorem LoadsAll.lacks (loadable : m.Loadable plugins) (run : LoadsAll m plugins left m')
    (nonempty : left ≠ []) : m'.Lacks plugins (m'.blockage left) := by
  have remaining := (run.loadsAvailable loadable).2
  have notListed {d : String} (missing : m'.isLoaded d = false) :
      d ∉ left.map Plugin.name ↔ d ∉ plugins.map Plugin.name := by
    refine not_congr ?_
    simp only [List.mem_map, remaining]
    constructor
    · rintro ⟨p, ⟨member, -⟩, rfl⟩
      exact ⟨p, member, rfl⟩
    · rintro ⟨p, member, rfl⟩
      exact ⟨p, ⟨member, missing⟩, rfl⟩
  obtain ⟨p, inLeft, d, depends, blockage, missing, outside⟩ := blockage_eq run.blocked nonempty
  obtain ⟨member, absent⟩ := (remaining p).1 inLeft
  rw [blockage]
  refine .dependency member (loadable.named p member) absent depends missing ?_
  rintro ⟨q, listed, notLoaded, o, needed, lacking, elsewhere⟩
  have inLeftToo := (remaining q).2 ⟨listed, notLoaded⟩
  exact (notListed missing).1
    (outside ⟨q, inLeftToo, o, needed, lacking, (notListed lacking).2 elsewhere⟩)

/-- Loading a list takes no more loads than there are plugins on it and loads exactly what can be
    loaded. It succeeds if that is the whole list, and else names a plugin that is left and a
    dependency that it lacks. The order of the list does not matter for the registry and the loaded
    plugins that come of it. -/
theorem Loadable.loads_in_order (loadable : m.Loadable plugins) :
    (∀ more, m.loadPending (plugins.length + more) plugins = m.loadAll plugins) ∧
    LoadsAvailable m plugins (m.loadAll plugins).2 ∧
    ((m.loadAll plugins).1 = .ok () ↔ ∀ p ∈ plugins, Available m plugins p.name) ∧
    (∀ e, (m.loadAll plugins).1 = .error e → (m.loadAll plugins).2.Lacks plugins e) ∧
    ∀ permuted, plugins.Perm permuted →
      (m.loadAll permuted).2.registry = (m.loadAll plugins).2.registry ∧
      (m.loadAll permuted).2.loaded = (m.loadAll plugins).2.loaded := by
  obtain ⟨left, m', run⟩ := loadable.exists_run
  have result : m.loadAll plugins = (m'.answer left, m') := run.loadPending (Nat.le_refl _)
  obtain ⟨available, remaining⟩ := run.loadsAvailable loadable
  rw [result]
  refine ⟨fun more => run.loadPending (Nat.le_add_right _ _), available, ?_, ?_, ?_⟩
  · rw [answer_eq_ok, List.eq_nil_iff_forall_not_mem]
    constructor
    · intro none p member
      rw [← available.isLoaded, ← Bool.not_eq_false]
      exact fun absent => none p ((remaining p).2 ⟨member, absent⟩)
    · intro all p inLeft
      obtain ⟨member, absent⟩ := (remaining p).1 inLeft
      rw [(available.isLoaded p.name).2 (all p member)] at absent
      cases absent
  · intro e failed
    obtain ⟨nonempty, rfl⟩ := answer_eq_error failed
    exact run.lacks loadable nonempty
  · intro permuted perm
    obtain ⟨left', k', other⟩ := (loadable.perm perm).exists_run
    have resultToo : m.loadAll permuted = (k'.answer left', k') := other.loadPending (Nat.le_refl _)
    obtain ⟨registry, loaded⟩ := run.agree loadable perm other
    rw [resultToo]
    exact ⟨registry.symm, loaded.symm⟩

/-! ### Fresh names -/

/-- A plugin whose names are free starts. -/
theorem start_of_extend {s : Registry} (only : p.OnlyRegisters) (setUp : p.setUp.fault = none)
    (registration : p.registration.fault = none)
    (extended : m.registry.extend p.registrations = .ok s) : (m.start p).2 = none := by
  obtain ⟨ready, first, second⟩ := Registry.extend_append.1 extended
  have setsUp : p.setUp.run m.registry = (ready, none) :=
    (only.setUp.run_eq _).trans (Callback.runAll_eq_none.2 ⟨setUp, first⟩)
  have registers : p.registration.run ready = (s, none) :=
    (only.registration.run_eq _).trans (Callback.runAll_eq_none.2 ⟨registration, second⟩)
  simp [start, setsUp, registers]

/-- The callbacks of the plugins on a list have no faults, and all they do is to register fresh names,
    each name once. -/
structure Fresh (m : Manager) (plugins : List Plugin) : Prop where
  only : ∀ p ∈ plugins, p.OnlyRegisters
  faultless : ∀ p ∈ plugins, p.setUp.fault = none ∧ p.registration.fault = none
  new : ∀ p ∈ plugins, ∀ f ∈ p.registrations.map Registration.name, m.registry.has f = false
  once : ∀ p ∈ plugins, (p.registrations.map Registration.name).Nodup
  disjoint : ∀ p ∈ plugins, ∀ q ∈ plugins, p.name ≠ q.name →
    ∀ f ∈ p.registrations.map Registration.name, f ∉ q.registrations.map Registration.name
  /-- Second names are for what is there from the start. -/
  targets : ∀ p ∈ plugins, ∀ registration ∈ p.registrations, ∀ target ∈ registration.target?,
    m.registry.has target = true

/-- On the way, there are no other names than those from the start and those of the loaded plugins. -/
structure OnTheWay (m : Manager) (plugins : List Plugin) (k : Manager) : Prop where
  keeps : m.registry.Keeps k.registry
  names : ∀ f, k.registry.has f = true → m.registry.has f = true ∨
    ∃ q ∈ plugins, k.isLoaded q.name = true ∧ f ∈ q.registrations.map Registration.name

theorem Fresh.start (fresh : m.Fresh plugins) (onTheWay : m.OnTheWay plugins k) (member : p ∈ plugins)
    (admits : k.Admits p) : (k.start p).2 = none := by
  have free : ∀ f ∈ p.registrations.map Registration.name, k.registry.has f = false := by
    intro f own
    rw [← Bool.not_eq_true]
    intro taken
    rcases onTheWay.names f taken with before | ⟨q, listed, loaded, also⟩
    · rw [fresh.new p member f own] at before
      cases before
    · have other : p.name ≠ q.name := by
        intro same
        rw [← same, admits.free] at loaded
        cases loaded
      exact fresh.disjoint p member q listed other f own also
  have there : ∀ registration ∈ p.registrations, ∀ target ∈ registration.target?,
      k.registry.has target = true := by
    intro registration listed target needed
    obtain ⟨d, found⟩ :=
      Option.isSome_iff_exists.1 (fresh.targets p member registration listed target needed)
    simp [Registry.has, onTheWay.keeps found]
  obtain ⟨s, extended⟩ := Registry.exists_extend (fresh.once p member) free there
  obtain ⟨setUp, registration⟩ := fresh.faultless p member
  exact start_of_extend (fresh.only p member) setUp registration extended

theorem Fresh.onTheWay (fresh : m.Fresh plugins) (approach : Approach m plugins k) :
    m.OnTheWay plugins k := by
  induction approach with
  | start => exact ⟨fun _ _ found => found, fun _ => Or.inl⟩
  | @load k p before member admits ih =>
      obtain ⟨k', loads, adds⟩ :=
        load_of_succeeds (fresh.only p member) admits (fresh.start ih member admits)
      have now := isLoaded_of_put adds.loaded
      rw [loads]
      constructor
      case keeps =>
          exact fun f d found => (Registry.extend_grows adds.registry).keeps (ih.keeps found)
      case names =>
          intro f has
          rcases (Registry.extend_has adds.registry f).1 has with before | own
          · refine (ih.names f before).imp_right ?_
            rintro ⟨q, listed, loaded, also⟩
            exact ⟨q, listed, by simp [now, loaded], also⟩
          · exact Or.inr ⟨p, member, by simp [now], own⟩

/-- Plugins with fresh names can be loaded. -/
theorem Fresh.loadable (fresh : m.Fresh plugins) (registrySorted : m.registry.Sorted)
    (loadedSorted : m.loaded.Sorted) (named : ∀ p ∈ plugins, p.name ≠ "")
    (distinct : (plugins.map Plugin.name).Nodup) (free : ∀ p ∈ plugins, m.isLoaded p.name = false) :
    m.Loadable plugins :=
  ⟨registrySorted, loadedSorted, named, distinct, free, fresh.only,
    fun approach _ member admits => fresh.start (fresh.onTheWay approach) member admits⟩

/-- A diamond with its top first, on top of a plugin that is loaded, a plugin that depends on itself,
    and one that depends on that and on something that is not there. -/
def tangled : List Plugin :=
  [echoing "top" "t" ["left", "right"], echoing "self" "s" ["self"], echoing "left" "l" ["bottom"],
    { echoing "right" "r" ["bottom", "ground"] with
      setUp := .registering [.secondName "hold" "keep"] none },
    echoing "lost" "o" ["self", "nowhere"], echoing "bottom" "b" []]

/-- Of six plugins in a wrong order all but two are loaded, whichever way round, and the report names
    one that needs what nobody provides. -/
theorem tangled_loads_in_order :
    groundManager.Loadable tangled ∧
      ∃ m', groundManager.loadAll tangled = (.error (.missingDependency "lost" "nowhere"), m') ∧
        m'.loaded.names = ["bottom", "ground", "left", "right", "top"] ∧
        m'.registry.names = ["a", "b", "hold", "keep", "l", "r", "t"] ∧
        m'.Lacks tangled (.missingDependency "lost" "nowhere") ∧
        (groundManager.loadAll tangled.reverse).2.registry = m'.registry ∧
        (groundManager.loadAll tangled.reverse).2.loaded = m'.loaded := by
  have sound : Sound keepOnly groundManager := by
    have first : Reachable keepOnly { registry := keepOnly } := .start rfl rfl
    exact (first.load (onlyRegisters_echoing "ground" "a" [])).sound (List.pairwise_singleton _ _)
  have fresh : groundManager.Fresh tangled := by
    constructor
    case only =>
        have right : Plugin.OnlyRegisters { echoing "right" "r" ["bottom", "ground"] with
            setUp := .registering [.secondName "hold" "keep"] none } :=
          ⟨Callback.onlyRegisters_registering _ _, Callback.onlyRegisters_registering _ _⟩
        simp [tangled, onlyRegisters_echoing, right]
    case faultless => decide
    case new => decide
    case once => decide
    case disjoint => decide
    case targets => decide
  have loadable := fresh.loadable sound.coherent.registrySorted sound.coherent.loadedSorted
    (by decide) (by decide) (by decide)
  have result : groundManager.loadAll tangled =
      (.error (.missingDependency "lost" "nowhere"), (groundManager.loadAll tangled).2) := rfl
  obtain ⟨-, -, -, lacks, permuted⟩ := loadable.loads_in_order
  obtain ⟨registry, loaded⟩ := permuted tangled.reverse (List.reverse_perm tangled).symm
  exact ⟨loadable, _, result, by decide, by decide, lacks _ rfl, registry, loaded⟩

end

end Manager

end PluginLisp
