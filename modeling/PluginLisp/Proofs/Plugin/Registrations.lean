import PluginLisp.Proofs.Plugin.Operations

/-!
What registrations do to a registry. The names that are there after some of them are those that were
there and those that they added, which were free (`Callback.runAll_has`,
`Registry.has_eq_false_of_mem_added`). If all succeed, the registry has what it had, and under their
names what they put there (`Registry.extend_holds`, `Registry.Keeps.extend`). Since a second name is for
what is there already, what is put under a name does not depend on when the registration is carried out.

Main results: `Registry.exists_extend`, `Registry.mem_new_iff`.
-/

namespace PluginLisp

/-- All registrations of a plugin. -/
def Plugin.registrations (p : Plugin) : List Registration :=
  p.setUp.registrations ++ p.registration.registrations

/-- The name that a registration is for. -/
def Registration.name : Registration → String
  | builtin d => d.name
  | secondName name _ => name

/-- The names that registrations add to a registry, up to the first one that fails. -/
def Registry.added (r : Registry) : List Registration → List String
  | [] => []
  | registration :: rest =>
      match registration.apply r with
      | .ok next => registration.name :: next.added rest
      | .error _ => []

/-- The name that has to be there for a registration. -/
def Registration.target? : Registration → Option String
  | builtin _ => none
  | secondName _ target => some target

/-- A registry with registrations carried out one after the other. -/
def Registry.extend (r : Registry) (registrations : List Registration) : Except Error Registry :=
  registrations.foldlM Registration.apply r

section

variable {r s t : Registry} {registration : Registration} {registrations : List Registration}
  {f : String}

/-! ### Names -/

theorem Registry.register_has {d : Descriptor} (registered : r.register d = .ok s) :
    r.has d.name = false ∧ ∀ f, s.has f = (d.name == f || r.has f) := by
  cases free : r.has d.name with
  | true => simp [Registry.register, free] at registered
  | false =>
      simp only [Registry.register, free, Bool.false_eq_true, if_false, Except.ok.injEq] at registered
      subst registered
      refine ⟨rfl, fun f => ?_⟩
      by_cases same : d.name = f
      · simp [Registry.has, Registry.get?, Assoc.get?_put, same]
      · simp [Registry.has, Registry.get?, Assoc.get?_put, same]

theorem Registration.apply_has {registration : Registration}
    (applied : registration.apply r = .ok s) :
    r.has registration.name = false ∧ ∀ f, s.has f = (registration.name == f || r.has f) := by
  cases registration with
  | builtin d => exact Registry.register_has applied
  | secondName name target =>
      rw [Registration.apply, Registry.registerAlias] at applied
      cases found : r.get? target with
      | none => simp [found] at applied
      | some d =>
          simp only [found] at applied
          exact Registry.register_has applied

/-- However far a callback gets, the names there are those that were there and those it added. -/
theorem Callback.runAll_has (fault : Option Error) (registrations : List Registration)
    (r : Registry) (f : String) :
    (runAll fault r (registrations.map .registration)).1.has f = true ↔
      r.has f = true ∨ f ∈ r.added registrations := by
  induction registrations generalizing r with
  | nil => simp [runAll, Registry.added]
  | cons registration rest ih =>
      rw [List.map_cons, runAll, Registry.added, RegistryCall.apply]
      cases applied : registration.apply r with
      | ok next =>
          have has : next.has f = true ↔ registration.name = f ∨ r.has f = true := by
            rw [(Registration.apply_has applied).2 f, Bool.or_eq_true, beq_iff_eq]
          simp only [ih next, has, List.mem_cons]
          grind
      | error e => simp

/-- Only names that are free are added. -/
theorem Registry.has_eq_false_of_mem_added {registrations : List Registration}
    (member : f ∈ r.added registrations) : r.has f = false := by
  induction registrations generalizing r with
  | nil => cases member
  | cons registration rest ih =>
      rw [Registry.added] at member
      split at member
      next next applied =>
        obtain ⟨free, has⟩ := Registration.apply_has applied
        rcases List.mem_cons.1 member with rfl | later
        · exact free
        · have absent := ih later
          rw [has f, Bool.or_eq_false_iff] at absent
          exact absent.2
      next e refused => cases member

/-! ### Registrations that succeed -/

theorem Registry.extend_cons :
    r.extend (registration :: registrations) = .ok s ↔
      ∃ next, registration.apply r = .ok next ∧ next.extend registrations = .ok s := by
  rw [Registry.extend, List.foldlM_cons]
  cases registration.apply r with
  | error e => simp [bind, Except.bind]
  | ok next => simp [bind, Except.bind, Registry.extend]

theorem Registry.extend_append {others : List Registration} :
    r.extend (registrations ++ others) = .ok t ↔
      ∃ s, r.extend registrations = .ok s ∧ s.extend others = .ok t := by
  rw [Registry.extend, List.foldlM_append, ← Registry.extend]
  cases r.extend registrations with
  | error e => simp [bind, Except.bind]
  | ok s => simp [bind, Except.bind, Registry.extend]

/-- A callback succeeds if it has no fault of its own and all its registrations succeed. -/
theorem Callback.runAll_eq_none {fault : Option Error} :
    runAll fault r (registrations.map .registration) = (s, none) ↔
      fault = none ∧ r.extend registrations = .ok s := by
  induction registrations generalizing r with
  | nil => simp [runAll, Registry.extend, pure, Except.pure, and_comm]
  | cons registration rest ih =>
      rw [List.map_cons, runAll, RegistryCall.apply, Registry.extend_cons]
      cases registration.apply r with
      | error e => simp
      | ok next => simp [ih]

/-- The second registry has everything that is registered in the first. -/
def Registry.Keeps (r s : Registry) : Prop := ∀ ⦃f d⦄, r.get? f = some d → s.get? f = some d

theorem Registry.Grows.keeps (grows : r.Grows s) : r.Keeps s := fun _ _ found => grows.kept found

/-- A registry has what a registration puts there. -/
def Registration.Holds (r : Registry) : Registration → Prop
  | builtin d => r.get? d.name = some d
  | secondName name target => ∃ d, r.get? target = some d ∧
      r.get? name = some { d with name, help := "Alias for " ++ target ++ ". " ++ d.help }

theorem Registration.Holds.of_keeps (holds : registration.Holds r) (keeps : r.Keeps s) :
    registration.Holds s := by
  cases registration with
  | builtin d => exact keeps holds
  | secondName name target =>
      obtain ⟨d, found, second⟩ := holds
      exact ⟨d, keeps found, keeps second⟩

/-- What a registration puts under its name is decided by what the registry has. -/
theorem Registration.apply_get? (applied : registration.apply r = .ok s) :
    ∃ d, (∀ f, s.get? f = if registration.name = f then some d else r.get? f) ∧
      ∀ t, r.Keeps t → (registration.Holds t ↔ t.get? registration.name = some d) := by
  have registers {d : Descriptor} (registered : r.register d = .ok s) :
      ∀ f, s.get? f = if d.name = f then some d else r.get? f := by
    unfold Registry.register at registered
    split at registered
    · cases registered
    · cases registered
      exact fun f => Assoc.get?_put
  cases registration with
  | builtin d => exact ⟨d, registers applied, fun t _ => Iff.rfl⟩
  | secondName name target =>
      simp only [Registration.apply, Registry.registerAlias] at applied
      split at applied
      next => cases applied
      next d found =>
        refine ⟨_, registers applied, fun t keeps => ⟨?_, fun second => ⟨d, keeps found, second⟩⟩⟩
        rintro ⟨d', found', second⟩
        cases (keeps found).symm.trans found'
        exact second

theorem Registry.extend_grows (extended : r.extend registrations = .ok s) : r.Grows s := by
  have grows := Callback.runAll_grows none registrations r
  rwa [Callback.runAll_eq_none.2 ⟨rfl, extended⟩] at grows

theorem Registry.extend_holds (extended : r.extend registrations = .ok s) :
    ∀ registration ∈ registrations, registration.Holds s := by
  induction registrations generalizing r with
  | nil => simp
  | cons registration rest ih =>
      obtain ⟨next, applied, later⟩ := extend_cons.1 extended
      obtain ⟨d, puts, holds⟩ := Registration.apply_get? applied
      have own : registration.Holds next :=
        (holds next (Registration.apply_grows applied).keeps).2 (by simp [puts])
      exact List.forall_mem_cons.2 ⟨own.of_keeps (extend_grows later).keeps, ih later⟩

/-- A registry that has what is registered here, and what the registrations put there, has what is
    registered here afterwards. -/
theorem Registry.Keeps.extend (keeps : r.Keeps t) (extended : r.extend registrations = .ok s)
    (holds : ∀ registration ∈ registrations, registration.Holds t) : s.Keeps t := by
  induction registrations generalizing r with
  | nil =>
      cases extended
      exact keeps
  | cons registration rest ih =>
      obtain ⟨next, applied, later⟩ := extend_cons.1 extended
      obtain ⟨own, others⟩ := List.forall_mem_cons.1 holds
      obtain ⟨d, puts, decided⟩ := Registration.apply_get? applied
      have keepsNext : next.Keeps t := by
        intro f d' found
        rw [puts] at found
        split at found
        next same =>
          cases found
          exact same ▸ (decided t keeps).1 own
        next => exact keeps found
      exact ih keepsNext later others

/-- Registrations that succeed add all their names. -/
theorem Registry.added_of_extend (extended : r.extend registrations = .ok s) :
    r.added registrations = registrations.map Registration.name := by
  induction registrations generalizing r with
  | nil => rfl
  | cons registration rest ih =>
      obtain ⟨next, applied, later⟩ := extend_cons.1 extended
      simp only [added, applied, ih later, List.map_cons]

theorem Registry.has_eq_false_of_extend (extended : r.extend registrations = .ok s)
    (member : f ∈ registrations.map Registration.name) : r.has f = false :=
  Registry.has_eq_false_of_mem_added (added_of_extend extended ▸ member)

theorem Registry.extend_has (extended : r.extend registrations = .ok s) (f : String) :
    s.has f = true ↔ r.has f = true ∨ f ∈ registrations.map Registration.name := by
  have has := Callback.runAll_has none registrations r f
  rwa [Callback.runAll_eq_none.2 ⟨rfl, extended⟩, added_of_extend extended] at has

theorem Registration.exists_apply (free : r.has registration.name = false)
    (there : ∀ target ∈ registration.target?, r.has target = true) :
    ∃ s, registration.apply r = .ok s := by
  cases registration with
  | builtin d =>
      have free : r.has d.name = false := free
      simp [apply, Registry.register, free]
  | secondName name target =>
      have free : r.has name = false := free
      obtain ⟨d, found⟩ := Option.isSome_iff_exists.1 (there target rfl)
      simp [apply, Registry.registerAlias, found, Registry.register, free]

/-- Registrations succeed under names that are free and differ from each other, if what they give a
    second name to is there. -/
theorem Registry.exists_extend (distinct : (registrations.map Registration.name).Nodup)
    (free : ∀ f ∈ registrations.map Registration.name, r.has f = false)
    (there : ∀ registration ∈ registrations, ∀ target ∈ registration.target?,
      r.has target = true) : ∃ s, r.extend registrations = .ok s := by
  induction registrations generalizing r with
  | nil => exact ⟨r, rfl⟩
  | cons registration rest ih =>
      obtain ⟨different, distinctRest⟩ := List.nodup_cons.1 distinct
      obtain ⟨own, freeRest⟩ := List.forall_mem_cons.1 free
      obtain ⟨ownThere, thereRest⟩ := List.forall_mem_cons.1 there
      obtain ⟨next, applied⟩ := Registration.exists_apply own ownThere
      have has := (Registration.apply_has applied).2
      have freeNext : ∀ f ∈ rest.map Registration.name, next.has f = false := by
        intro f member
        have other : registration.name ≠ f := fun same => different (same ▸ member)
        simp [has, other, freeRest f member]
      have thereNext : ∀ other ∈ rest, ∀ target ∈ other.target?, next.has target = true := by
        intro other member target needed
        simp [has, thereRest other member target needed]
      obtain ⟨s, later⟩ := ih distinctRest freeNext thereNext
      exact ⟨s, extend_cons.2 ⟨next, applied, later⟩⟩

theorem Registry.mem_new_iff (extended : r.extend registrations = .ok s) (f : String) :
    (f ∈ s.names.filter fun name => !r.has name) ↔ f ∈ registrations.map Registration.name := by
  have listed : f ∈ s.names ↔ s.has f = true := Assoc.has_iff_mem_names.symm
  rw [List.mem_filter, listed, extend_has extended]
  constructor
  · rintro ⟨old | new, free⟩
    · simp [old] at free
    · exact new
  · exact fun new => ⟨Or.inr new, by simp [has_eq_false_of_extend extended new]⟩

end

end PluginLisp
