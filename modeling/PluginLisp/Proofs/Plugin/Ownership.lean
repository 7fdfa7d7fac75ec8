import PluginLisp.Proofs.Plugin.Coherence
import PluginLisp.Proofs.Plugin.Interference
import PluginLisp.Proofs.Plugin.Registrations

/-!
Whose builtins an unload takes out. The manager notes names and not builtins: those that the registry
has at the end of a load and did not have when the load began. An unload takes out what is registered
under these names by then. `Manager.Steps.unload_takes_noted_names` says so for every history of single
steps, with calls of others between any two of them, and says where an entry under such a name comes
from: it was registered during the load, unless the name has been free since.

Main results: `Steps.entry_origin`, `Steps.accounted`, `Steps.unload_takes_noted_names`.
-/

namespace PluginLisp

namespace Manager

section

variable {s t k : Scene} {m m' start first last : Manager} {p : Plugin} {acts : List Act} {act : Act}
  {caller : Caller} {name f : String} {d : Descriptor}

/-! ### What a step does to a name -/

/-- A step takes a name out of the registry. -/
inductive TakesOut (s : Scene) (f : String) : Act → Prop where
  | call (caller : Caller) : TakesOut s f (.call caller (.removal f))
  | manager {rest : List String} {p : Plugin} {gone warning : String}
      (next : s.activity = .removing (f :: rest) p gone warning) : TakesOut s f .remove

/-- What a step can do to a name: nothing, or put a builtin under it if it is free, or take it out. -/
inductive Fate (s : Scene) (f : String) : Act → Scene → Prop where
  | stays {act : Act} {t : Scene}
      (same : t.manager.registry.get? f = s.manager.registry.get? f) : Fate s f act t
  | enters {caller : Caller} {made : Registration} {t : Scene} (named : made.name = f)
      (free : s.manager.registry.has f = false)
      (applied : made.apply s.manager.registry = .ok t.manager.registry) :
      Fate s f (.call caller (.registration made)) t
  | leaves {act : Act} {t : Scene} (gone : t.manager.registry.get? f = none)
      (takesOut : TakesOut s f act) : Fate s f act t

/-- A call on the registry keeps its order. -/
theorem sorted_withRegistry (sorted : m.registry.Sorted) (made : RegistryCall) :
    (m.withRegistry (made.apply m.registry)).registry.Sorted := by
  cases applied : made.apply m.registry with
  | error e => exact sorted
  | ok registry =>
      cases made with
      | registration made => exact (Registration.apply_grows applied).sorted sorted
      | removal name => exact (Registry.unregister_ok sorted applied).1

theorem sorted_removeOne (gone : String) (sorted : m.registry.Sorted) (name : String) :
    (m.removeOne gone name).registry.Sorted := by
  unfold removeOne
  split
  next registry removed => exact (Registry.unregister_ok sorted removed).1
  next => exact sorted

/-- Removing a name leaves nothing under it, and the other entries as they are. -/
theorem get?_removeOne (gone : String) (sorted : m.registry.Sorted) (name f : String) :
    (m.removeOne gone name).registry.get? f = if f = name then none else m.registry.get? f := by
  unfold removeOne
  split
  next registry removed => exact (Registry.unregister_ok sorted removed).2 f
  next e refused =>
    have missing := Registry.unregister_error refused
    simp only [warn]
    grind

@[simp] theorem loaded_removeOne (gone name : String) :
    (m.removeOne gone name).loaded = m.loaded := by
  unfold removeOne
  split <;> rfl

@[simp] theorem loaded_withRegistry (result : Except Error Registry) :
    (m.withRegistry result).loaded = m.loaded := by
  cases result <;> rfl

/-- What a call can do to a name. -/
theorem fate_call (sorted : m.registry.Sorted) (activity : Activity) (caller : Caller)
    (made : RegistryCall) (f : String) :
    Fate ⟨m, activity⟩ f (.call caller made)
      ⟨m.withRegistry (made.apply m.registry), activity⟩ := by
  cases applied : made.apply m.registry with
  | error e => exact .stays rfl
  | ok registry =>
      cases made with
      | registration made =>
          obtain ⟨d, get?, -⟩ := Registration.apply_get? applied
          by_cases named : made.name = f
          · exact .enters named (named ▸ (Registration.apply_has applied).1) applied
          · exact .stays (by simp [withRegistry, get?, named])
      | removal name =>
          have get? := (Registry.unregister_ok sorted applied).2
          by_cases same : f = name
          · subst same
            exact .leaves (by simp [withRegistry, get?]) (.call caller)
          · exact .stays (by simp [withRegistry, get?, same])

/-- A step leaves an entry alone, changes it by a call, or removes it in an unload. -/
theorem Step.fate (sorted : s.manager.registry.Sorted) (step : Step s act t) (f : String) :
    Fate s f act t := by
  cases step with
  | called m activity made => exact fate_call sorted activity .other made f
  | calls m phase p before made => exact fate_call sorted _ .callback made f
  | removes m name rest p gone warning =>
      have get? := get?_removeOne gone sorted name f
      by_cases same : f = name
      · subst same
        exact .leaves (by simp [get?]) (.manager rfl)
      · exact .stays (by simp [get?, same])
  | tearsDown m p gone warning => exact .stays (by simp)
  | begins accepted => exact .stays rfl
  | setsUp m p before => exact .stays rfl
  | registers m p before => exact .stays rfl
  | fails m phase p before e => exact .stays rfl
  | unloads found unused => exact .stays rfl
  | turns found same => exact .stays rfl

theorem Step.sorted (sorted : s.manager.registry.Sorted) (step : Step s act t) :
    t.manager.registry.Sorted := by
  cases step with
  | called m activity made => exact sorted_withRegistry sorted made
  | calls m phase p before made => exact sorted_withRegistry sorted made
  | removes m name rest p gone warning => exact sorted_removeOne gone sorted name
  | tearsDown m p gone warning => simpa using sorted
  | begins accepted => exact sorted
  | setsUp m p before => exact sorted
  | registers m p before => exact sorted
  | fails m phase p before e => exact sorted
  | unloads found unused => exact sorted
  | turns found same => exact sorted

/-- The registry stays sorted. -/
theorem Steps.sorted (sorted : s.manager.registry.Sorted) (steps : Steps s acts t) :
    t.manager.registry.Sorted := by
  induction steps with
  | refl => exact sorted
  | more earlier step ih => exact step.sorted ih

/-! ### Where an entry comes from -/

/-- During acts, somebody registered a builtin under a name, which was free then. -/
inductive Enters (s : Scene) (acts : List Act) (caller : Caller) (f : String) (d : Descriptor) :
    Prop where
  | call {earlier later : List Act} {k : Scene} {made : Registration} {registry : Registry}
      (during : acts = earlier ++ .call caller (.registration made) :: later)
      (reached : Steps s earlier k) (free : k.manager.registry.has f = false)
      (named : made.name = f) (applied : made.apply k.manager.registry = .ok registry)
      (found : registry.get? f = some d) : Enters s acts caller f d

theorem Enters.append (enters : Enters s acts caller f d) (others : List Act) :
    Enters s (acts ++ others) caller f d := by
  obtain ⟨during, reached, free, named, applied, found⟩ := enters
  exact .call (by rw [during, List.append_assoc, List.cons_append]) reached free named applied found

theorem Enters.cons (enters : Enters k acts caller f d) (step : Step s act k) :
    Enters s (act :: acts) caller f d := by
  obtain ⟨during, reached, free, named, applied, found⟩ := enters
  exact .call (by rw [during]; rfl) (step.steps.trans reached) free named applied found

/-- What is registered at the end was there at the beginning, or somebody registered it. -/
theorem Steps.entry_origin (sorted : s.manager.registry.Sorted) (steps : Steps s acts t)
    (found : t.manager.registry.get? f = some d) :
    s.manager.registry.get? f = some d ∨ ∃ caller, Enters s acts caller f d := by
  induction steps with
  | refl => exact Or.inl found
  | more earlier step ih =>
      cases step.fate (earlier.sorted sorted) f with
      | stays same =>
          refine (ih (same ▸ found)).imp_right ?_
          rintro ⟨caller, enters⟩
          exact ⟨caller, enters.append _⟩
      | enters named free applied =>
          -- whatever stood there before is gone, as only a free name is registered
          exact Or.inr ⟨_, .call rfl earlier free named applied found⟩
      | leaves gone takesOut => simp [gone] at found

/-! ### Loads -/

/-- A plugin is being loaded. The load began with the manager `first`, and the acts have happened since,
    beginning with the load. -/
inductive Loading (first : Manager) (p : Plugin) : List Act → Scene → Prop where
  | begins {phase : Phase} {m : Manager}
      (step : Step ⟨first, .idle⟩ (.load p) ⟨m, .loading phase p first.registry⟩) :
      Loading first p [.load p] ⟨m, .loading phase p first.registry⟩
  | goesOn {acts : List Act} {act : Act} {phase phase' : Phase} {m m' : Manager}
      (loading : Loading first p acts ⟨m, .loading phase p first.registry⟩)
      (step : Step ⟨m, .loading phase p first.registry⟩ act
        ⟨m', .loading phase' p first.registry⟩) :
      Loading first p (acts ++ [act]) ⟨m', .loading phase' p first.registry⟩

/-- A plugin was loaded. The load began with the manager `first` and ended with the manager `last`. -/
inductive Loads (first : Manager) (p : Plugin) (acts : List Act) (last : Manager) : Prop where
  | ends {k : Scene} (loading : Loading first p acts k) (step : Step k (.finish none) ⟨last, .idle⟩)

/-- What happens during a load is a history of steps. -/
theorem Loading.steps (loading : Loading first p acts s) : Steps ⟨first, .idle⟩ acts s := by
  induction loading with
  | begins step => exact step.steps
  | goesOn _ step ih => exact ih.more step

/-- A whole load is a history of steps that ends at rest. -/
theorem Loads.steps (loads : Loads first p acts last) :
    Steps ⟨first, .idle⟩ (acts ++ [.finish none]) ⟨last, .idle⟩ := by
  obtain ⟨loading, step⟩ := loads
  exact loading.steps.more step

/-- The new names are those that are there and were not. -/
theorem mem_newNames_iff {before : Registry} :
    f ∈ m.newNames before ↔ m.registry.has f = true ∧ before.has f = false := by
  have listed : f ∈ m.registry.names ↔ m.registry.has f = true := Assoc.has_iff_mem_names.symm
  simp [newNames, listed]

/-- What is registered under a name that is new after a load was registered during the load. -/
theorem Loads.entry_origin (sorted : first.registry.Sorted) (loads : Loads first p acts last)
    (new : f ∈ last.newNames first.registry) (found : last.registry.get? f = some d) :
    ∃ caller, Enters ⟨first, .idle⟩ (acts ++ [.finish none]) caller f d := by
  refine (loads.steps.entry_origin sorted found).resolve_left fun before => ?_
  have free := (mem_newNames_iff.1 new).2
  simp [Registry.has, before] at free

/-- A load of a plugin that has not been unloaded since, in a history. -/
structure CurrentLoad (start : Manager) (acts : List Act) (s : Scene) (p : Plugin)
    (first last : Manager) (load since : List Act) : Prop where
  history : ∃ before, Steps ⟨start, .idle⟩ before ⟨first, .idle⟩ ∧
    acts = before ++ (load ++ .finish none :: since)
  loads : Loads first p load last
  later : Steps ⟨last, .idle⟩ since s
  stays : .unload p.name ∉ since

/-- The current load of a plugin stays the current one until the plugin is unloaded. -/
theorem CurrentLoad.goesOn {load since : List Act}
    (current : CurrentLoad start acts s p first last load since) (step : Step s act t)
    (stays : act ≠ .unload p.name) :
    CurrentLoad start (acts ++ [act]) t p first last load (since ++ [act]) := by
  obtain ⟨⟨before, reached, split⟩, loads, later, notYet⟩ := current
  refine ⟨⟨before, reached, by simp [split]⟩, loads, later.more step, ?_⟩
  simp [notYet, stays.symm]

/-! ### Histories -/

/-- What a step does to the table of loaded plugins: a plugin that is loaded afterwards was loaded
    before, with the same names noted for it, or has registered its builtins now. -/
theorem Step.entry_cases {entry' : LoadedPlugin} (sorted : s.manager.loaded.Sorted)
    (step : Step s act t) (found : Assoc.get? name t.manager.loaded = some entry') :
    (act ≠ .unload name ∧ ∃ entry, Assoc.get? name s.manager.loaded = some entry ∧
      entry'.functions = entry.functions) ∨
    ∃ p before, s.activity = .loading .registration p before ∧ act = .finish none ∧
      t.activity = .idle ∧ p.name = name ∧ entry'.functions = t.manager.newNames before := by
  cases step with
  | called m activity made => exact Or.inl ⟨by simp, entry', by simpa using found, rfl⟩
  | calls m phase p before made => exact Or.inl ⟨by simp, entry', by simpa using found, rfl⟩
  | begins accepted => exact Or.inl ⟨by simp, entry', found, rfl⟩
  | setsUp m p before => exact Or.inl ⟨by simp, entry', found, rfl⟩
  | registers m p before =>
      rw [Assoc.get?_put] at found
      split at found
      next same =>
        cases found
        exact Or.inr ⟨p, before, rfl, rfl, rfl, same, rfl⟩
      next => exact Or.inl ⟨by simp, entry', found, rfl⟩
  | fails m phase p before e => exact Or.inl ⟨by simp, entry', found, rfl⟩
  | @unloads m other entry there unused =>
      rw [sorted.get?_remove] at found
      split at found
      next => cases found
      next different => exact Or.inl ⟨by simpa using different, entry', found, rfl⟩
  | removes m other rest p gone warning =>
      exact Or.inl ⟨by simp, entry', by simpa using found, rfl⟩
  | tearsDown m p gone warning => exact Or.inl ⟨by simp, entry', by simpa using found, rfl⟩
  | @turns m activity other entry p there same =>
      rw [Assoc.get?_put] at found
      split at found
      next here =>
        cases found
        exact Or.inl ⟨by simp, entry, here ▸ there, rfl⟩
      next => exact Or.inl ⟨by simp, entry', found, rfl⟩

/-- A load that is going on after a step was going on before, or has begun now. -/
theorem Step.loading_cases {phase : Phase} {before : Registry} (step : Step s act t)
    (loading : t.activity = .loading phase p before) :
    (act = .load p ∧ s.activity = .idle ∧ before = s.manager.registry) ∨
      ∃ phase, s.activity = .loading phase p before := by
  cases step with
  | called m activity made => exact Or.inr ⟨phase, loading⟩
  | calls m phase p before made => exact Or.inr ⟨_, loading⟩
  | begins accepted =>
      cases loading
      exact Or.inl ⟨rfl, rfl, rfl⟩
  | setsUp m p before =>
      cases loading
      exact Or.inr ⟨_, rfl⟩
  | registers m p before => cases loading
  | fails m phase p before e => cases loading
  | unloads found unused => cases loading
  | removes m name rest p gone warning => cases loading
  | tearsDown m p gone warning => cases loading
  | turns found same => exact Or.inr ⟨phase, loading⟩

/-- The table of plugins stays sorted. -/
theorem Step.loaded_sorted (sorted : s.manager.loaded.Sorted) (step : Step s act t) :
    t.manager.loaded.Sorted := by
  cases step with
  | called m activity made => simpa using sorted
  | calls m phase p before made => simpa using sorted
  | begins accepted => exact sorted
  | setsUp m p before => exact sorted
  | registers m p before => exact Assoc.sorted_put sorted _ _
  | fails m phase p before e => exact sorted
  | unloads found unused => exact Assoc.sorted_remove sorted _
  | removes m name rest p gone warning => simpa using sorted
  | tearsDown m p gone warning => simpa using sorted
  | turns found same => exact Assoc.sorted_put sorted _ _

/-- What holds in the course of a history that begins with nothing loaded: the names that are noted for
    a plugin are those that were new after its current load, and a load that goes on has begun. -/
structure Accounted (start : Manager) (acts : List Act) (s : Scene) : Prop where
  steps : Steps ⟨start, .idle⟩ acts s
  loadedSorted : s.manager.loaded.Sorted
  noted : ∀ name entry, Assoc.get? name s.manager.loaded = some entry →
    ∃ p first last load since, CurrentLoad start acts s p first last load since ∧ p.name = name ∧
      entry.functions = last.newNames first.registry
  begun : ∀ phase p before, s.activity = .loading phase p before →
    ∃ earlier first load, Steps ⟨start, .idle⟩ earlier ⟨first, .idle⟩ ∧ acts = earlier ++ load ∧
      before = first.registry ∧ Loading first p load s

/-- A step keeps every recorded name accounted for. -/
theorem Accounted.step (accounted : Accounted start acts s) (step : Step s act t) :
    Accounted start (acts ++ [act]) t := by
  refine ⟨accounted.steps.more step, step.loaded_sorted accounted.loadedSorted,
    fun name entry' found => ?_, fun phase p before loading => ?_⟩
  · rcases step.entry_cases accounted.loadedSorted found with
      ⟨other, entry, there, same⟩ | ⟨p, before, loading, rfl, idle, named, functions⟩
    · obtain ⟨p, first, last, load, since, current, rfl, noted⟩ := accounted.noted name entry there
      exact ⟨p, first, last, load, since ++ [act], current.goesOn step other, rfl, same.trans noted⟩
    · obtain ⟨earlier, first, load, reached, split, rfl, begun⟩ :=
        accounted.begun .registration p before loading
      obtain ⟨m', activity⟩ := t
      cases idle
      refine ⟨p, first, m', load, [], ⟨⟨earlier, reached, ?_⟩, .ends begun step, .refl, ?_⟩, named,
        functions⟩
      · rw [split, List.append_assoc]
      · exact List.not_mem_nil
  · obtain ⟨m', activity⟩ := t
    cases loading
    rcases step.loading_cases rfl with ⟨rfl, idle, rfl⟩ | ⟨phase', going⟩
    · obtain ⟨m, activity⟩ := s
      cases idle
      exact ⟨acts, m, [.load p], accounted.steps, rfl, rfl, .begins step⟩
    · obtain ⟨earlier, first, load, reached, split, rfl, begun⟩ := accounted.begun phase' p _ going
      obtain ⟨m, activity⟩ := s
      cases going
      exact ⟨earlier, first, load ++ [act], reached, by rw [split, List.append_assoc], rfl,
        begun.goesOn step⟩

/-- In a history from an empty table, every recorded name is accounted for. -/
theorem Steps.accounted (nothing : start.loaded = []) (steps : Steps ⟨start, .idle⟩ acts s) :
    Accounted start acts s := by
  induction steps with
  | refl =>
      refine ⟨.refl, nothing ▸ Assoc.sorted_nil, fun name entry found => ?_, fun _ _ _ => by simp⟩
      rw [nothing] at found
      cases found
  | more earlier step ih => exact ih.step step

/-! ### Unloads -/

/-- A plugin was unloaded, and this has happened while names were taken out of the registry. -/
inductive Unloads (m : Manager) (name : String) (meanwhile : List Act) (m' : Manager) : Prop where
  | ends {k t : Scene} (begins : Step ⟨m, .idle⟩ (.unload name) k) (steps : Steps k meanwhile t)
      (notYet : .tearDown ∉ meanwhile) (ends : Step t .tearDown ⟨m', .idle⟩)

/-- While names are taken out, others make calls or the manager takes out the next name. -/
theorem Step.removing_cases {left : List String} {gone warning : String}
    (sorted : s.manager.registry.Sorted) (step : Step s act t)
    (removing : s.activity = .removing left p gone warning) (notYet : act ≠ .tearDown) :
    (t.activity = s.activity ∧ ∀ caller made, act = .call caller made → caller = .other) ∨
      ∃ name rest, left = name :: rest ∧ act = .remove ∧
        t.activity = .removing rest p gone warning ∧ t.manager.registry.get? name = none := by
  cases step with
  | called m activity made => exact Or.inl ⟨rfl, by simp +contextual⟩
  | calls m phase p before made => cases removing
  | begins accepted => cases removing
  | setsUp m p before => cases removing
  | registers m p before => cases removing
  | fails m phase p before e => cases removing
  | unloads found unused => cases removing
  | removes m name rest p gone warning =>
      cases removing
      exact Or.inr ⟨name, rest, rfl, rfl, rfl, by simp [get?_removeOne gone sorted]⟩
  | tearsDown m p gone warning => exact absurd rfl notYet
  | turns found same => exact Or.inl ⟨rfl, by simp⟩

/-- What has become of names that were to be taken out, and of all others: `done` are those that have
    been taken out so far. -/
structure Removing (s : Scene) (names : List String) (acts : List Act) (t : Scene)
    (done : List String) : Prop where
  /-- Any other name is there as before, unless others take it out. -/
  kept : ∀ f d, f ∉ names → .call .other (.removal f) ∉ acts →
    s.manager.registry.get? f = some d → t.manager.registry.get? f = some d
  /-- What is done is gone, unless others register it again. -/
  gone : ∀ f d, f ∈ done → t.manager.registry.get? f = some d → Enters s acts .other f d

/-- A step of an unload removes the next name, and steps of others keep to their rules. -/
theorem Removing.step {names done left : List String} {gone warning : String}
    (removing : Removing s names acts k done) (sorted : k.manager.registry.Sorted)
    (earlier : Steps s acts k) (activity : k.activity = .removing left p gone warning)
    (split : names = done ++ left) (step : Step k act t)
    (others : ∀ caller made, act = .call caller made → caller = .other) :
    Removing s names (acts ++ [act]) t done := by
  refine ⟨fun f d notNamed nobody found => ?_, fun f d isDone found => ?_⟩
  · rw [List.mem_append, not_or, List.mem_singleton] at nobody
    have there := removing.kept f d notNamed nobody.1 found
    cases step.fate sorted f with
    | stays same => rw [same, there]
    | enters named free applied => simp [Registry.has, there] at free
    | leaves gone takesOut =>
        cases takesOut with
        | call caller =>
            cases others caller _ rfl
            exact absurd rfl nobody.2
        | manager next =>
            -- the manager takes out nothing but the names that are left
            cases activity.symm.trans next
            exact absurd (by simp [split]) notNamed
  · cases step.fate sorted f with
    | stays same => exact (removing.gone f d isDone (same ▸ found)).append _
    | @enters caller made t named free applied =>
        cases others caller _ rfl
        exact .call rfl earlier free named applied found
    | leaves gone takesOut => simp [gone] at found

/-- During an unload, some of the names are removed and the others are still to come. -/
theorem Steps.removing {names : List String} {gone warning : String}
    (sorted : m.registry.Sorted) (steps : Steps ⟨m, .removing names p gone warning⟩ acts t)
    (notYet : .tearDown ∉ acts) :
    ∃ done left, names = done ++ left ∧ t.activity = .removing left p gone warning ∧
      Removing ⟨m, .removing names p gone warning⟩ names acts t done := by
  induction steps with
  | refl => exact ⟨[], names, rfl, rfl, fun _ _ _ _ found => found, by simp⟩
  | @more acts k t act earlier step ih =>
      rw [List.mem_append, not_or, List.mem_singleton] at notYet
      obtain ⟨done, left, split, activity, removing⟩ := ih notYet.1
      have sortedNow := earlier.sorted sorted
      rcases step.removing_cases sortedNow activity (Ne.symm notYet.2) with
        ⟨same, others⟩ | ⟨name, rest, rfl, rfl, next, absent⟩
      · exact ⟨done, left, split, same.trans activity,
          removing.step sortedNow earlier activity split step others⟩
      · have onward := removing.step sortedNow earlier activity split step (by simp)
        refine ⟨done ++ [name], rest, by simp [split], next, onward.kept, fun f d isDone found => ?_⟩
        rcases List.mem_append.1 isDone with before | now
        · exact onward.gone f d before found
        · rw [List.mem_singleton.1 now, absent] at found
          cases found

/-- The last callback of a plugin runs when its names are removed. -/
theorem Step.tearDown_cases (step : Step s .tearDown t) :
    (∃ p gone warning, s.activity = .removing [] p gone warning) ∧
      t.manager.registry = s.manager.registry := by
  cases step with
  | tearsDown m p gone warning => exact ⟨⟨p, gone, warning, rfl⟩, by simp⟩

/-- What an unload does to the registry. -/
theorem Unloads.registry {meanwhile : List Act} (sorted : m.registry.Sorted)
    (unloads : Unloads m name meanwhile m') :
    ∃ entry, Assoc.get? name m.loaded = some entry ∧
      Removing ⟨m, .idle⟩ entry.functions (.unload name :: meanwhile) ⟨m', .idle⟩
        entry.functions := by
  obtain ⟨begins, steps, notYet, ends⟩ := unloads
  cases begins with
  | @unloads _ _ entry found unused =>
      obtain ⟨done, left, split, activity, removing⟩ :=
        Steps.removing (m := { m with loaded := m.loaded.remove name }) sorted steps notYet
      obtain ⟨⟨p, gone, warning, atEnd⟩, same⟩ := ends.tearDown_cases
      -- a plugin is torn down once no name is left
      cases activity.symm.trans atEnd
      rw [List.append_nil] at split
      subst split
      refine ⟨entry, found, fun f d other nobody there => ?_, fun f d isDone there => ?_⟩
      · have nobody' := fun member => nobody (List.mem_cons_of_mem _ member)
        exact (congrArg (·.get? f) same).trans (removing.kept f d other nobody' there)
      · have there' := (congrArg (·.get? f) same).symm.trans there
        exact (removing.gone f d isDone there').cons (.unloads found unused)

/-- An unload takes out the names that are noted for the plugin: those that the registry had at the
    end of its current load and did not have when that load began. Whatever is registered under
    another name stays, and nothing is left under these, unless others take it out or register it
    during the unload. An entry under such a name at the end of the load was registered during the
    load, by the callbacks or by others, when the name was free. Such an entry at the time of the
    unload is that one, unless the name has been free since and was registered again. -/
theorem Steps.unload_takes_noted_names {meanwhile : List Act} (sorted : start.registry.Sorted)
    (nothing : start.loaded = []) (history : Steps ⟨start, .idle⟩ acts ⟨m, .idle⟩)
    (unloads : Unloads m name meanwhile m') :
    ∃ p first last load since,
      CurrentLoad start acts ⟨m, .idle⟩ p first last load since ∧ p.name = name ∧
      m.functionsOf? name = some (last.newNames first.registry) ∧
      (∀ f d, f ∉ last.newNames first.registry → .call .other (.removal f) ∉ meanwhile →
        m.registry.get? f = some d → m'.registry.get? f = some d) ∧
      ∀ f d, f ∈ last.newNames first.registry →
        (m'.registry.get? f = some d →
          Enters ⟨m, .idle⟩ (.unload name :: meanwhile) .other f d) ∧
        (last.registry.get? f = some d →
          ∃ caller, Enters ⟨first, .idle⟩ (load ++ [.finish none]) caller f d) ∧
        (m.registry.get? f = some d →
          last.registry.get? f = some d ∨ ∃ caller, Enters ⟨last, .idle⟩ since caller f d) := by
  obtain ⟨entry, found, removing⟩ := unloads.registry (history.sorted sorted)
  obtain ⟨p, first, last, load, since, current, named, noted⟩ :=
    (history.accounted nothing).noted name entry found
  obtain ⟨before, reached, -⟩ := current.history
  have sortedFirst : first.registry.Sorted := reached.sorted sorted
  have sortedLast : last.registry.Sorted := current.loads.steps.sorted sortedFirst
  refine ⟨p, first, last, load, since, current, named, by simp [functionsOf?, found, noted],
    fun f d other nobody there => ?_, fun f d new => ⟨fun there => ?_, fun there => ?_, fun there => ?_⟩⟩
  · exact removing.kept f d (noted ▸ other) (by simpa using nobody) there
  · exact removing.gone f d (noted ▸ new) there
  · exact current.loads.entry_origin sortedFirst new there
  · exact current.later.entry_origin sortedLast there

/-! ### A name that changes hands -/

/-- A plugin that registers echoes in a category of its own. -/
def claiming (name : String) (functions : List String) : Plugin where
  name := name
  version := "1"
  description := ""
  registration := .registering (functions.map fun f => .builtin { echo f with category := name }) none

/-- A plugin is loaded, and somebody else registers an echo during the load. -/
def intrudedManager : Manager :=
  let p := claiming "first" ["f"]
  { registry := ⟨[("f", { echo "f" with category := "first" }), ("keep", echo "keep"), ("x", echo "x")]⟩
    loaded := [("first", ⟨p, ["f", "x"]⟩)]
    events := #[⟨.setUp, p, none⟩, ⟨.registration, p, none⟩] }

/-- A load that others intrude upon comes to this manager. -/
theorem steps_intrudedManager :
    Steps ⟨{ registry := keepOnly }, .idle⟩
      [.load (claiming "first" ["f"]), .finish none,
        .call .callback (.registration (.builtin { echo "f" with category := "first" })),
        .call .other (.registration (.builtin (echo "x"))), .finish none]
      ⟨intrudedManager, .idle⟩ := by
  have begun := Step.begins (m := { registry := keepOnly }) (p := claiming "first" ["f"]) rfl
  have ready := begun.steps.more (.setsUp _ _ _)
  have own := ready.more (.calls _ _ _ _
    (.registration (.builtin { echo "f" with category := "first" })))
  have intruded := own.more (.called _ _ (.registration (.builtin (echo "x"))))
  exact intruded.more (.registers _ _ _)

/-- The plugin is unloaded, and somebody else registers an echo under one of the names. -/
theorem unloads_intrudedManager :
    ∃ m', Unloads intrudedManager "first"
        [.remove, .call .other (.registration (.builtin (echo "f"))), .remove] m' ∧
      m'.registry.names = ["f", "keep"] := by
  have begins : Step ⟨intrudedManager, .idle⟩ (.unload "first") _ := .unloads rfl rfl
  have removed := Step.removes { intrudedManager with loaded := [] } "f" ["x"]
    (claiming "first" ["f"]) "function already gone at unload" "plugin shutdown failed"
  have intruded := removed.steps.more (.called _ _ (.registration (.builtin (echo "f"))))
  have done := intruded.more (.removes _ "x" [] _ _ _)
  exact ⟨_, .ends begins done (by simp) (.tearsDown _ _ _ _), by decide⟩

/-- What an intruder registered during the load goes with the plugin. -/
theorem intrudedManager_noted_names :
    ∃ acts meanwhile m', Steps ⟨{ registry := keepOnly }, .idle⟩ acts ⟨intrudedManager, .idle⟩ ∧
      Unloads intrudedManager "first" meanwhile m' ∧ m'.registry.names = ["f", "keep"] ∧
      ∃ p first last load since,
        CurrentLoad { registry := keepOnly } acts ⟨intrudedManager, .idle⟩ p first last load since ∧
        p.name = "first" ∧ last.newNames first.registry = ["f", "x"] ∧
        ∀ d, last.registry.get? "x" = some d →
          ∃ caller, Enters ⟨first, .idle⟩ (load ++ [.finish none]) caller "x" d := by
  obtain ⟨m', unloads, names⟩ := unloads_intrudedManager
  have sorted : keepOnly.Sorted := List.pairwise_singleton _ _
  obtain ⟨p, first, last, load, since, current, named, noted, -, own⟩ :=
    steps_intrudedManager.unload_takes_noted_names sorted rfl unloads
  have known : intrudedManager.functionsOf? "first" = some ["f", "x"] := by decide
  have new : last.newNames first.registry = ["f", "x"] := Option.some.inj (noted.symm.trans known)
  exact ⟨_, _, m', steps_intrudedManager, unloads, names, p, first, last, load, since, current, named,
    new, fun d => (own "x" d (by simp [new])).2.1⟩

/-- A plugin registers two echoes, one of them is taken out of the registry, and another plugin
    registers an echo under its name. -/
def seizedManager : Manager :=
  let m : Manager := { registry := keepOnly }
  let m := (m.load (claiming "first" ["f", "h"])).2
  let m := m.withRegistry (m.registry.unregister "f")
  (m.load (claiming "second" ["f", "g"])).2

/-- A name is released and taken over between a load and an unload. -/
theorem steps_seizedManager :
    ∃ acts, Steps ⟨{ registry := keepOnly }, .idle⟩ acts ⟨seizedManager, .idle⟩ := by
  obtain ⟨acts, first, -⟩ := runs_load { registry := keepOnly } (claiming "first" ["f", "h"])
  have taken := first.more (.called _ _ (.removal "f"))
  obtain ⟨others, second, -⟩ := runs_load _ (claiming "second" ["f", "g"])
  exact ⟨_, taken.trans second⟩

/-- An unload takes the builtin of another plugin along, which is still loaded, if that one has taken
    over a name. -/
theorem unload_takes_seized_name :
    (∃ acts, Steps ⟨{ registry := keepOnly }, .idle⟩ acts ⟨seizedManager, .idle⟩) ∧
      seizedManager.registry.get? "f" = some { echo "f" with category := "second" } ∧
      (∀ registration ∈ (claiming "first" ["f", "h"]).registrations,
        registration ≠ .builtin { echo "f" with category := "second" }) ∧
      ∃ m', seizedManager.unload "first" = (.ok (claiming "first" ["f", "h"]), m') ∧
        m'.functionsOf? "second" = some ["f", "g"] ∧ m'.registry.get? "f" = none :=
  ⟨steps_seizedManager, by decide, by decide, _, rfl, by decide, by decide⟩

end

end Manager

end PluginLisp
