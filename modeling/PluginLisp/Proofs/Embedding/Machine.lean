import PluginLisp.Evaluator.Basic
import PluginLisp.Proofs.Embedding.Data
import PluginLisp.Proofs.Machine.Correspondence

/-!
Computations that are alike up to embedded decimals. Two states are alike if they are equal once the
decimals are embedded in all code they hold. Two computations are alike if from states that are alike
they end alike in states that are alike, or wait for the same thing and are alike however they are
resumed. What a result may differ by is given by a function: results are alike if it makes them equal.
So being alike is an equivalence, and what is alike to its own embedding is alike to everything with
the same embedding.

Main results: `Machine.Alike.bind`, `Machine.Alike.iterate`, `Machine.Alike.fold`.
-/

namespace PluginLisp

/-! ### Stores -/

/-- Embeds the decimals in the code that a module holds. -/
def NamedModule.embed (m : NamedModule) : NamedModule :=
  { m with members := m.members.mapValues Value.embed }

/-- Embeds the decimals in the code that a scope holds. -/
def Scope.embed (scope : Scope) : Scope :=
  { scope with
    bindings := scope.bindings.mapValues Value.embed
    modules := scope.modules.mapValues NamedModule.embed }

/-- Embeds the decimals in the code that an atom holds. -/
def Atom.embed (a : Atom) : Atom := { a with value := a.value.embed }

/-- Embeds the decimals in the code that a channel holds. -/
def Channel.embed (c : Channel) : Channel := { c with queue := c.queue.map Value.embed }

/-- Embeds the decimals in the code that a future holds. -/
def Future.embed (f : Future) : Future :=
  { f with outcome := f.outcome.map (Except.map Value.embed) }

/-- Embeds the decimals in the code of a thread. -/
def Job.embed (j : Job) : Job := { j with body := j.body.map Form.embed }

/-- Embeds the decimals in all code that a state holds. -/
def State.embed (s : State) : State :=
  { s with
    scopes := s.scopes.map Scope.embed
    atoms := s.atoms.map Atom.embed
    channels := s.channels.map Channel.embed
    futures := s.futures.map Future.embed
    jobs := s.jobs.map Job.embed }

/-- Two states that differ at most in which decimals are embedded in code. -/
def State.Alike (s t : State) : Prop := s.embed = t.embed

/-- Changing one element in a way that commutes with changing all. -/
theorem map_modify {α β : Type} {e : α → β} {f : α → α} {g : β → β} (items : Array α) (i : Nat)
    (natural : ∀ a, e (f a) = g (e a)) : (items.modify i f).map e = (items.map e).modify i g := by
  apply Array.ext_getElem?
  intro j
  simp only [Array.getElem?_map, Array.getElem?_modify]
  split
  · cases items[j]? with
    | none => rfl
    | some a => exact congrArg some (natural a)
  · rfl

namespace Scopes

variable (scopes : Scopes) (i : Nat)

/-- A search through scopes finds the embedding of what it finds otherwise. -/
theorem searchFrom_embed {α : Type} {f : α → α} {look : Scope → Option α}
    (natural : ∀ scope, look (Scope.embed scope) = (look scope).map f) (steps : Nat) :
    searchFrom look (scopes.map Scope.embed) steps i =
      (searchFrom look scopes steps i).map f := by
  induction steps generalizing i with
  | zero => rfl
  | succ steps ih =>
      simp only [searchFrom, at?, Array.getElem?_map]
      cases scopes[i]? with
      | none => rfl
      | some scope =>
          have parent : scope.embed.parent = scope.parent := rfl
          simp only [Option.map_some, natural, parent]
          cases look scope with
          | some a => rfl
          | none => cases scope.parent with
              | none => rfl
              | some p => exact ih p

/-- A variable of embedded scopes is bound to the embedded value. -/
theorem find?_embed (name : String) :
    Scopes.find? (scopes.map Scope.embed) i name = (scopes.find? i name).map Value.embed :=
  searchFrom_embed scopes i (fun scope => Assoc.get?_mapValues scope.bindings) (i + 1)

/-- A module of embedded scopes is the embedded module. -/
theorem module?_embed (name : String) :
    Scopes.module? (scopes.map Scope.embed) i name = (scopes.module? i name).map NamedModule.embed :=
  searchFrom_embed scopes i (fun scope => Assoc.get?_mapValues scope.modules) (i + 1)

theorem localNames_embed :
    Scopes.localNames (scopes.map Scope.embed) i = scopes.localNames i := by
  simp only [localNames, at?, Array.getElem?_map]
  cases scopes[i]? with
  | none => rfl
  | some scope => exact Assoc.names_mapValues scope.bindings

theorem exportsOf_embed : Scopes.exportsOf (scopes.map Scope.embed) i = scopes.exportsOf i := by
  simp only [exportsOf, at?, Array.getElem?_map]
  cases scopes[i]? <;> rfl

/-- Binding a variable commutes with embedding. -/
theorem set_embed (name : String) (v : Value) :
    (scopes.set i name v).map Scope.embed = Scopes.set (scopes.map Scope.embed) i name v.embed :=
  map_modify scopes i fun scope =>
    congrArg (fun bindings => { scope.embed with bindings })
      (Assoc.put_mapValues v scope.bindings).symm

/-- Binding parameters commutes with embedding, also of the arguments left over. -/
theorem bindParams_embed (params : List String) (rest : Option String) (args : List Value) :
    (scopes.bindParams i params rest args).map Scope.embed =
      Scopes.bindParams (scopes.map Scope.embed) i params rest (args.map Value.embed) := by
  have left (scopes : Scopes) (args : List Value) :
      (scopes.bindParams i [] rest args).map Scope.embed =
        Scopes.bindParams (scopes.map Scope.embed) i [] rest (args.map Value.embed) := by
    cases rest with
    | none => rfl
    | some name =>
        have there := set_embed scopes i name (.list args)
        rw [Value.embed, Value.embedAll_eq_map] at there
        exact there
  induction params generalizing scopes args with
  | nil => cases args <;> exact left scopes _
  | cons p params ih => cases args with
      | nil => exact left scopes []
      | cons v args => rw [List.map_cons, bindParams, bindParams, ih, set_embed]

theorem add_embed (parent : Option Nat) :
    (scopes.add parent).map Scope.embed = Scopes.add (scopes.map Scope.embed) parent := by
  rw [add, Array.map_push]
  rfl

theorem defineModule_embed (m : NamedModule) :
    (scopes.defineModule i m).map Scope.embed =
      Scopes.defineModule (scopes.map Scope.embed) i m.embed :=
  map_modify scopes i fun scope =>
    congrArg (fun modules => { scope.embed with modules })
      (Assoc.put_mapValues m scope.modules).symm

theorem markExported_embed (name : String) :
    (scopes.markExported i name).map Scope.embed =
      Scopes.markExported (scopes.map Scope.embed) i name := by
  apply map_modify
  intro scope
  have exports : scope.embed.exports = scope.exports := rfl
  rw [exports]
  split <;> rfl

end Scopes

namespace State

/-- What is printed for the atoms does not show code. -/
theorem cellsTo_embed (s : State) (depth : Nat) : s.embed.cellsTo depth = s.cellsTo depth := by
  have capacities : cellsTo.channelCapacity s.embed = cellsTo.channelCapacity s := by
    funext i
    simp only [cellsTo.channelCapacity, State.embed, Array.getElem?_map, Option.map_map]
    rfl
  have identifiers : cellsTo.futureIdentifier s.embed = cellsTo.futureIdentifier s := by
    funext i
    simp only [cellsTo.futureIdentifier, State.embed, Array.getElem?_map, Option.map_map]
    rfl
  have texts : cellsTo.atomText s.embed = cellsTo.atomText s := by
    funext cells i
    simp only [cellsTo.atomText, State.embed, Array.getElem?_map]
    cases s.atoms[i]? with
    | none => rfl
    | some a => exact Value.show_embed cells a.value
  induction depth with
  | zero => simp only [cellsTo, capacities, identifiers]
  | succ depth ih => simp only [cellsTo, capacities, identifiers, texts, ih]

variable {α β : Type} {s t : State}

/-- A look that commutes with embedding finds the same up to embedding in states that are alike. -/
theorem Alike.look (alike : s.Alike t) {k : State → α} {e : α → β} {k' : State → β}
    (natural : ∀ s, e (k s) = k' s.embed) : e (k s) = e (k t) := by
  rw [natural s, natural t, alike]

/-- A look that embedding does not bear on finds the same in states that are alike. -/
theorem Alike.same (alike : s.Alike t) {k : State → α} (natural : ∀ s, k s.embed = k s) :
    k s = k t := by
  rw [← natural s, ← natural t, alike]

/-- A change that commutes with embedding keeps states alike. -/
theorem Alike.map (alike : s.Alike t) {k : State → State} (natural : ∀ s, (k s).embed = k s.embed) :
    (k s).Alike (k t) := by
  rw [State.Alike, natural s, natural t, alike]

/-- The scopes of alike states are alike. -/
theorem Alike.scopes (alike : s.Alike t) :
    s.scopes.map Scope.embed = t.scopes.map Scope.embed :=
  congrArg State.scopes (show s.embed = t.embed from alike)

/-- Alike states stay alike when their scopes are replaced by alike ones. -/
theorem Alike.withScopes (alike : s.Alike t) {scopes scopes' : Scopes}
    (same : scopes.map Scope.embed = scopes'.map Scope.embed) :
    State.Alike { s with scopes := scopes } { t with scopes := scopes' } := by
  change { s.embed with scopes := scopes.map Scope.embed } =
    { t.embed with scopes := scopes'.map Scope.embed }
  rw [same, show s.embed = t.embed from alike]

/-- The printer cannot see the code that a store holds. -/
theorem cells_embed (s : State) : s.embed.cells = s.cells := by
  have size : s.embed.atoms.size = s.atoms.size := Array.size_map
  rw [cells, cells, printDepth, printDepth, size, cellsTo_embed]

end State

/-- Embedding does not bear on waiting. -/
theorem Wait.isOver_embed (w : Wait) (s : State) : w.isOver s.embed = w.isOver s := by
  have met : w.isMet s.embed = w.isMet s := by
    cases w with
    | turn => rfl
    | time deadline => rfl
    | zero g => rfl
    | room c =>
        simp only [isMet, State.embed, Array.getElem?_map]
        cases s.channels[c]? with
        | none => rfl
        | some channel =>
            have length : channel.embed.queue.length = channel.queue.length := List.length_map _
            change (channel.closed || decide (channel.embed.queue.length < channel.slots)) = _
            rw [length]
            rfl
    | handover c ticket =>
        simp only [isMet, State.embed, Array.getElem?_map]
        cases s.channels[c]? <;> rfl
    | arrival c deadline =>
        simp only [isMet, State.embed, Array.getElem?_map]
        cases s.channels[c]? with
        | none => rfl
        | some channel => simp [Channel.canReceive, Channel.embed]
    | finish f deadline =>
        simp only [isMet, State.embed, Array.getElem?_map]
        cases s.futures[f]? with
        | none => rfl
        | some future => simp [Future.isDone, Future.embed]
  rw [isOver, isOver, met]
  rfl

/-! ### Runs -/

variable {α β γ δ σ τ ι κ : Type}

/-- Two computations under way that differ at most in which decimals are embedded in code. -/
inductive Run.Alike (f : α → β) : Run α → Run α → Prop where
  | ok {a b : α} {s t : State} (results : f a = f b) (states : s.Alike t) :
      Alike f (.done (.ok a) s) (.done (.ok b) t)
  | error {e : Error} {s t : State} (states : s.Alike t) :
      Alike f (.done (.error e) s) (.done (.error e) t)
  | exhausted {s t : State} (states : s.Alike t) :
      Alike f (.done .exhausted s) (.done .exhausted t)
  | blocked {w : Wait} {s t : State} {resume resume' : State → Run α} (states : s.Alike t)
      (resumed : ∀ s' t', s'.Alike t' → Alike f (resume s') (resume' t')) :
      Alike f (.blocked w s resume) (.blocked w t resume')

namespace Run.Alike

variable {f : α → β} {g : γ → δ} {r r' r'' : Run α}

theorem symm (alike : Alike f r r') : Alike f r' r := by
  induction alike with
  | ok results states => exact .ok results.symm (Eq.symm states)
  | error states => exact .error (Eq.symm states)
  | exhausted states => exact .exhausted (Eq.symm states)
  | blocked states _ ih =>
      exact .blocked (Eq.symm states) fun s t states => ih t s (Eq.symm states)

theorem trans (first : Alike f r r') (second : Alike f r' r'') : Alike f r r'' := by
  induction first generalizing r'' with
  | ok results states => cases second with
      | ok results' states' => exact .ok (results.trans results') (Eq.trans states states')
  | error states => cases second with
      | error states' => exact .error (Eq.trans states states')
  | exhausted states => cases second with
      | exhausted states' => exact .exhausted (Eq.trans states states')
  | blocked states _ ih => cases second with
      | blocked states' resumed' =>
          exact .blocked (Eq.trans states states') fun s t states =>
            ih s t states (resumed' t t rfl)

/-- Going on after computations that are alike, whatever their outcomes. -/
theorem andThen {next next' : Outcome α → State → Run γ} (alike : Alike f r r')
    (ok : ∀ a b s t, f a = f b → s.Alike t → Alike g (next (.ok a) s) (next' (.ok b) t))
    (error : ∀ e s t, s.Alike t → Alike g (next (.error e) s) (next' (.error e) t))
    (exhausted : ∀ s t, s.Alike t → Alike g (next .exhausted s) (next' .exhausted t)) :
    Alike g (r.andThen next) (r'.andThen next') := by
  induction alike with
  | ok results states => exact ok _ _ _ _ results states
  | error states => exact error _ _ _ states
  | exhausted states => exact exhausted _ _ states
  | blocked states _ ih => exact .blocked states ih

end Run.Alike

/-! ### Computations -/

namespace Machine

/-- Two computations that differ at most in which decimals are embedded in code. -/
def Alike (f : α → β) (m m' : Machine α) : Prop :=
  ∀ s t, s.Alike t → Run.Alike f (m s) (m' t)

namespace Alike

variable {f : α → β} {g : γ → δ} {m m' m'' : Machine α}

theorem symm (alike : Alike f m m') : Alike f m' m :=
  fun s t states => (alike t s (Eq.symm states)).symm

theorem trans (first : Alike f m m') (second : Alike f m' m'') : Alike f m m'' :=
  fun s t states => (first s t states).trans (second t t rfl)

/-- Computations that are alike to those on embedded data are alike where the embedded data is the
    same. -/
theorem of_embed {e : ι → ι} {F : ι → Machine α} (natural : ∀ x, Alike f (F x) (F (e x))) {x y : ι}
    (same : e x = e y) : Alike f (F x) (F y) := by
  have there := natural x
  rw [same] at there
  exact there.trans (natural y).symm

/-- Answers that are alike come from alike computations. -/
theorem pure {a b : α} (same : f a = f b) : Alike f (pure a) (pure b) :=
  fun _ _ states => .ok same states

/-- The same error on both sides is alike. -/
theorem fail (e : Error) : Alike f (fail e) (fail e) := fun _ _ states => .error states

/-- A computation out of steps is alike on both sides. -/
theorem exhausted : Alike f Machine.exhausted Machine.exhausted :=
  fun _ _ states => .exhausted states

/-- Alike computations go on alike when what follows is alike for alike answers. -/
theorem bind {k k' : α → Machine γ} (first : Alike f m m')
    (next : ∀ a b, f a = f b → Alike g (k a) (k' b)) : Alike g (m >>= k) (m' >>= k') := by
  intro s t states
  rw [bind_eq, bind_eq]
  refine (first s t states).andThen ?_ ?_ ?_
  · exact fun a b s t results states => next a b results s t states
  · exact fun e s t states => .error states
  · exact fun s t states => .exhausted states

/-- After a step with the same result on both sides. -/
theorem bindSame {k k' : α → Machine γ} (first : Alike id m m')
    (next : ∀ a, Alike g (k a) (k' a)) : Alike g (m >>= k) (m' >>= k') :=
  first.bind fun a b same => by
    obtain rfl : a = b := same
    exact next a

/-- After a step that may find something. -/
theorem bindOption {m m' : Machine (Option α)} {k k' : Option α → Machine γ}
    (first : Alike (Option.map f) m m') (none : Alike g (k none) (k' none))
    (some : ∀ a b, f a = f b → Alike g (k (some a)) (k' (some b))) :
    Alike g (m >>= k) (m' >>= k') :=
  first.bind fun found found' same => by
    cases found with
    | none => cases found' with
        | none => exact none
        | some b => cases same
    | some a => cases found' with
        | none => cases same
        | some b => exact some a b (Option.some.inj same)

/-- Computations stay alike when their answers are dropped. -/
theorem discard (alike : Alike f m m') : Alike id (Functor.discard m) (Functor.discard m') :=
  alike.bind fun _ _ _ => pure rfl

/-- Results that are alike make alike computations. -/
theorem ofExcept {r r' : Except Error α} (same : r.map f = r'.map f) :
    Alike f (Machine.ofExcept r) (Machine.ofExcept r') := by
  cases r with
  | error e => cases r' with
      | error e' =>
          cases same
          exact fail e
      | ok b => cases same
  | ok a => cases r' with
      | error e => cases same
      | ok b => exact pure (Except.ok.inj same)

/-- A result that embedding does not bear on. -/
theorem ofSame {r r' : Except Error α} (same : r = r') :
    Alike id (Machine.ofExcept r) (Machine.ofExcept r') := by
  subst same
  exact ofExcept rfl

/-- A view of the state is alike if alike states look alike. -/
theorem look {k k' : State → α} (same : ∀ s t, s.Alike t → f (k s) = f (k' t)) :
    Alike f (look k) (look k') := fun s t states => .ok (same s t states) states

/-- A look that commutes with embedding. -/
theorem lookNatural {k : State → α} {h : State → β} (natural : ∀ s, f (k s) = h s.embed) :
    Alike f (Machine.look k) (Machine.look k) :=
  look fun _ _ states => states.look natural

/-- A change of the state is alike if it keeps alike states alike. -/
theorem change {k k' : State → State} (same : ∀ s t, s.Alike t → (k s).Alike (k' t)) :
    Alike id (change k) (change k') := fun s t states => .ok rfl (same s t states)

/-- A change that commutes with embedding. -/
theorem changeNatural {k : State → State} (natural : ∀ s, (k s).embed = k s.embed) :
    Alike id (Machine.change k) (Machine.change k) :=
  change fun _ _ states => states.map natural

/-- An update is alike if its answer is and if it keeps alike states alike. -/
theorem update {k k' : State → α × State}
    (same : ∀ s t, s.Alike t → f (k s).1 = f (k' t).1 ∧ (k s).2.Alike (k' t).2) :
    Alike f (update k) (update k') :=
  fun s t states => .ok (same s t states).1 (same s t states).2

/-- An update that commutes with embedding. -/
theorem updateNatural {k : State → α × State}
    (natural : ∀ s, k s.embed = ((k s).1, (k s).2.embed)) :
    Alike id (Machine.update k) (Machine.update k) := by
  apply update
  intro s t states
  have right := natural t
  rw [← states, natural s] at right
  exact Prod.mk.inj right

/-- Alike computations stay alike when their errors become answers. -/
theorem reify (alike : Alike f m m') : Alike (Except.map f) m.reify m'.reify := by
  intro s t states
  unfold Machine.reify
  rw [andThen_eq, andThen_eq]
  refine (alike s t states).andThen ?_ ?_ ?_
  · exact fun a b s t results states => .ok (congrArg Except.ok results) states
  · intro e s t states
    dsimp only
    split
    next => exact .error states
    next => exact .ok rfl states
  · exact fun s t states => .exhausted states

/-- Errors decorated alike stay the same. -/
theorem decorate {d d' : State → Error → Error} (alike : Alike f m m')
    (same : ∀ s t, s.Alike t → d s = d' t) : Alike f (m.decorate d) (m'.decorate d') := by
  intro s t states
  unfold Machine.decorate
  rw [andThen_eq, andThen_eq]
  refine (alike s t states).andThen ?_ ?_ ?_
  · exact fun a b s t results states => .ok results states
  · intro e s t states
    rw [same s t states]
    exact .error states
  · exact fun s t states => .exhausted states

/-- Waiting is the same on both sides. -/
theorem await (w : Wait) : Alike id (Machine.await w) (Machine.await w) := by
  intro s t states
  have isOver : w.isOver s = w.isOver t := states.same (k := fun s => w.isOver s) w.isOver_embed
  unfold Machine.await
  rw [isOver]
  split
  · exact .ok rfl states
  · exact .blocked states fun s t states => .ok rfl states

theorem yieldTurn : Alike id Machine.yieldTurn Machine.yieldTurn := by
  intro s t states
  have crowded : s.crowded = t.crowded := states.same fun _ => rfl
  have calls : s.turnCalls = t.turnCalls := states.same fun _ => rfl
  unfold Machine.yieldTurn
  split
  next alone =>
    rw [crowded] at alone
    rw [if_pos alone]
    exact .ok rfl states
  next busy =>
    rw [crowded] at busy
    rw [if_neg busy]
    split
    next early =>
      rw [calls] at early
      rw [if_pos early]
      exact .ok rfl (states.map (k := fun s => { s with turnCalls := s.turnCalls + 1 }) fun _ => rfl)
    next late =>
      rw [calls] at late
      rw [if_neg late]
      exact .blocked (states.map (k := fun s => { s with turnCalls := 0 }) fun _ => rfl)
        fun s t states => .ok rfl states

/-! ### Loops -/

/-- Changes what a round of a loop passes on and what it answers. -/
def mapRound (e : σ → τ) (f : α → β) : Round σ α → Round τ β
  | .again x => .again (e x)
  | .stop a => .stop (f a)

/-- What a round decides is the same on both sides, for alike states of the loop. -/
theorem afterRound {e : σ → τ} {again again' : σ → Machine α}
    (next : ∀ x y, e x = e y → Alike f (again x) (again' y)) (round round' : Round σ α)
    (same : mapRound e f round = mapRound e f round') :
    Alike f (Machine.afterRound again round) (Machine.afterRound again' round') := by
  cases round with
  | again x => cases round' with
      | again y => exact next x y (Round.again.inj same)
      | stop b => cases same
  | stop a => cases round' with
      | again y => cases same
      | stop b => exact pure (Round.stop.inj same)

/-- A loop whose rounds are alike. -/
theorem iterate {e : σ → τ} {body body' : σ → Machine (Round σ α)}
    (round : ∀ x y, e x = e y → Alike (mapRound e f) (body x) (body' y)) (steps : Nat) (x y : σ)
    (same : e x = e y) : Alike f (iterate body steps x) (iterate body' steps y) := by
  induction steps generalizing x y with
  | zero => exact exhausted
  | succ steps ih =>
      rw [iterate_succ, iterate_succ]
      exact (round x y same).bind (afterRound ih)

/-- A pass over lists whose steps are alike. -/
theorem fold {e : σ → τ} {i : ι → κ} {body body' : σ → ι → Machine (Round σ α)}
    {finish finish' : σ → α}
    (round : ∀ x y a b, e x = e y → i a = i b → Alike (mapRound e f) (body x a) (body' y b))
    (last : ∀ x y, e x = e y → f (finish x) = f (finish' y)) {items items' : List ι} {x y : σ}
    (same : e x = e y) (sameItems : items.map i = items'.map i) :
    Alike f (fold body finish x items) (fold body' finish' y items') := by
  induction items generalizing items' x y with
  | nil => cases items' with
      | nil => exact pure (last x y same)
      | cons b rest' => cases sameItems
  | cons a rest ih => cases items' with
      | nil => cases sameItems
      | cons b rest' =>
          obtain ⟨first, others⟩ := List.cons.inj sameItems
          rw [fold_cons, fold_cons]
          exact (round x y a b same first).bind (afterRound fun x y same => ih same others)

/-- Collecting alike answers for alike items gives alike lists. -/
theorem collect {i : ι → κ} {each each' : ι → Machine α}
    (alike : ∀ a b, i a = i b → Alike f (each a) (each' b)) {items items' : List ι}
    (same : items.map i = items'.map i) :
    Alike (List.map f) (collect each items) (collect each' items') := by
  refine fold (e := List.map f) (fun results results' a b before here => ?_) ?_ rfl same
  · exact (alike a b here).bind fun v w found => pure (congrArg Round.again (by simp [found, before]))
  · intro results results' before
    rw [List.map_reverse, List.map_reverse, before]

/-! ### Scopes and texts -/

/-- New scopes get the same number. -/
theorem newScope (parent : Nat) : Alike id (newScope parent) (newScope parent) := by
  apply updateNatural
  intro s
  have size : s.embed.scopes.size = s.scopes.size := Array.size_map
  rw [State.addScope, State.addScope, size]
  exact congrArg (fun scopes => (s.scopes.size, { s.embed with scopes }))
    (Scopes.add_embed s.scopes (some parent)).symm

/-- A variable has alike values in alike states. -/
theorem findVariable (scope : Nat) (name : String) :
    Alike (Option.map Value.embed) (Machine.look (·.scopes.find? scope name))
      (Machine.look (·.scopes.find? scope name)) :=
  lookNatural (h := fun s => s.scopes.find? scope name) fun s =>
    (s.scopes.find?_embed scope name).symm

/-- A module is alike in alike states. -/
theorem findModule (scope : Nat) (name : String) :
    Alike (Option.map NamedModule.embed) (Machine.look (·.scopes.module? scope name))
      (Machine.look (·.scopes.module? scope name)) :=
  lookNatural (h := fun s => s.scopes.module? scope name) fun s =>
    (s.scopes.module?_embed scope name).symm

/-- Alike values can be bound to a variable. -/
theorem setVariable (scope : Nat) (name : String) {v w : Value} (same : v.embed = w.embed) :
    Alike id (setVariable scope name v) (setVariable scope name w) := by
  apply change
  intro s t states
  apply states.withScopes
  rw [Scopes.set_embed, Scopes.set_embed, states.scopes, same]

/-- Alike arguments can be bound to the parameters of a closure and of its embedding. -/
theorem bindParams (c : Closure) {args args' : List Value} (frame : Nat)
    (same : args.map Value.embed = args'.map Value.embed) :
    Alike id (bindParams c args frame) (bindParams c.embed args' frame) := by
  have count : args.length = args'.length := by simpa using congrArg List.length same
  unfold Machine.bindParams
  rw [Closure.accepts_embed, Closure.arityError, Closure.arityError, Closure.displayName_embed,
    Closure.arityText_embed, Closure.params_embed, Closure.rest_embed, count]
  split
  · apply change
    intro s t states
    apply states.withScopes
    rw [Scopes.bindParams_embed, Scopes.bindParams_embed, states.scopes, same]
  · exact fail _

theorem defineModule (scope : Nat) {m m' : NamedModule} (same : m.embed = m'.embed) :
    Alike id (Machine.change fun s => { s with scopes := s.scopes.defineModule scope m })
      (Machine.change fun s => { s with scopes := s.scopes.defineModule scope m' }) := by
  apply change
  intro s t states
  apply states.withScopes
  rw [Scopes.defineModule_embed, Scopes.defineModule_embed, states.scopes, same]

theorem markExported (scope : Nat) (name : String) :
    Alike id (Machine.change fun s => { s with scopes := s.scopes.markExported scope name })
      (Machine.change fun s => { s with scopes := s.scopes.markExported scope name }) := by
  apply change
  intro s t states
  apply states.withScopes
  rw [Scopes.markExported_embed, Scopes.markExported_embed, states.scopes]

/-- The text of a form does not show whether it is embedded. -/
theorem formText (f : Form) : Alike id (formText f) (formText f.embed) := by
  apply look
  intro s t states
  rw [Form.show_embed, states.same State.cells_embed]

/-- Alike values make the same line. -/
theorem displayJoined {values values' : List Value}
    (same : values.map Value.embed = values'.map Value.embed) :
    Alike id (displayJoined values) (displayJoined values') := by
  apply look
  intro s t states
  rw [states.same State.cells_embed, Value.map_display_embed _ same]

end Alike

end Machine

end PluginLisp
