import PluginLisp.Interpreter
import PluginLisp.Proofs.Evaluation.Worlds

/-!
Pending calls stay out of data. Evaluation in tail position may come to a pending call, but only as its
direct result: whatever needs a value forces the call first. So no pending call occurs in a variable, in
a member of a module, in a sequence, a map or a combinator, in the code of a closure, in an atom or a
channel, or as the outcome of a future, in any world that running programs leads to.

Main results: `World.Reachable.settled`, `pending_calls_stay_out_of_data`.
-/

namespace PluginLisp

open Correspondence

/-! ### Settled runs and worlds -/

/-- A run on settled states only, which comes to values with `P`. Wherever it waits, it goes on like
    this in any settled state. -/
def Run.Settled {α : Type} (P : α → Prop) : Run α → Prop
  | .done outcome s => s.Settled ∧ ∀ a, outcome = .ok a → P a
  | .blocked _ s resume => s.Settled ∧ ∀ t : State, t.Settled → (resume t).Settled P

/-- In a settled state, the computation runs on settled states only and comes to values with `P`. -/
def Machine.Settled {α : Type} (P : α → Prop) (m : Machine α) : Prop :=
  ∀ s : State, s.Settled → (m s).Settled P

/-- No pending call occurs in the state, and the threads keep it so. -/
structure World.Settled (w : World) : Prop where
  state : w.state.Settled
  threads : ∀ thread ∈ w.threads, Machine.Settled Value.Settled thread.resume

/-- Equality of computations on settled data. -/
def settledness : Correspondence :=
  .same False True (fun _ => True) (fun _ => True) (fun _ _ _ => trivial) (fun _ _ => trivial)
    fun _ => trivial

theorem settledness_states {s : State} (settled : s.Settled) : settledness.States s s :=
  States.refl (fun _ _ => trivial) trivial fun _ => settled

section

variable {α : Type} {P : α → Prop}

theorem settled_of_runs {r r' : Run α} (runs : settledness.Runs (settledness.Both P) r r') :
    r.Settled P := by
  induction runs with
  | ok result states =>
      refine ⟨states.settled trivial, fun a same => ?_⟩
      cases same
      exact result.2 trivial
  | error _ states => exact ⟨states.settled trivial, by simp⟩
  | exhausted states => exact ⟨states.settled trivial, by simp⟩
  | gaveUp lax => exact lax.elim
  | blocked states _ ih =>
      exact ⟨states.settled trivial, fun t settled => ih t t (settledness_states settled)⟩

theorem runs_of_settled {r : Run α} (settled : r.Settled P) :
    settledness.Runs (settledness.Both P) r r := by
  induction r with
  | done outcome s =>
      have states := settledness_states settled.1
      cases outcome with
      | ok a => exact .ok ⟨rfl, fun _ => settled.2 a rfl⟩ states
      | error e => exact .error rfl states
      | exhausted => exact .exhausted states
  | blocked wait s resume ih =>
      apply Runs.blocked (settledness_states settled.1)
      intro t t' states
      obtain rfl := states.eq (fun _ _ => id) fun _ _ => id
      exact ih t (settled.2 t (states.settled trivial))

/-- A computation corresponds to itself on settled data exactly if it keeps data settled. -/
theorem Machine.settled_iff {m : Machine α} :
    Machine.Settled P m ↔ settledness.Rel (settledness.Both P) m m := by
  constructor
  · intro settled s t states
    obtain rfl := states.eq (fun _ _ => id) fun _ _ => id
    exact runs_of_settled (settled s (states.settled trivial))
  · intro related s settled
    exact settled_of_runs (related s s (settledness_states settled))

theorem World.settled_iff {w : World} : w.Settled ↔ settledness.Worlds w w := by
  constructor
  · intro settled
    refine ⟨settledness_states settled.state, List.forall₂_same.2 fun thread member => ?_⟩
    exact ⟨rfl, rfl, Machine.settled_iff.1 (settled.threads thread member)⟩
  · intro worlds
    refine ⟨worlds.states.settled trivial, fun thread member => ?_⟩
    exact Machine.settled_iff.2 (List.forall₂_same.1 worlds.threads thread member).resume

/-- What is driven to its end in a settled world leaves a settled world. -/
theorem World.Settled.drive {w : World} (settled : w.Settled) {m : Machine α}
    (keeps : Machine.Settled P m) (rounds : Nat) :
    (World.drive rounds (m w.state) w.threads).2.Settled := by
  have worlds := World.settled_iff.1 settled
  have runs := Machine.settled_iff.1 keeps w.state w.state worlds.states
  obtain ⟨-, after⟩ := runs.drive id rounds worlds.threads
  exact World.settled_iff.2 after

end

/-! ### Evaluators -/

/-- Work on settled data. -/
def Work.Settled : Work → Prop
  | .eval form _ => form.Settled
  | .builtin _ args _ => Form.AllSettled args
  | .enter k args => k.Settled ∧ Value.AllSettled args

theorem Work.Settled.workable {work : Work} (settled : work.Settled) :
    settledness.Workable work := by
  cases work with
  | eval form scope => exact ⟨fun _ => settled, trivial⟩
  | builtin b args scope => exact ⟨fun _ => settled, trivial⟩
  | enter k args => exact ⟨fun _ => settled.1, fun _ => settled.2⟩

/-- An evaluator is aligned with itself on settled data. -/
theorem settledness_aligned (settings : Settings) (calls : CallPolicy) (steps : Nat) :
    settledness.Aligned (Evaluator.ofSteps settings calls steps)
      (Evaluator.ofSteps settings calls steps) settledness.SameTails :=
  aligned_ofSteps rfl calls steps

/-- Values are settled wherever the evaluator gives a value. -/
structure Evaluator.ValuesSettled (ev : Evaluator) : Prop where
  eval : ∀ form scope, form.Settled → Machine.Settled Value.Settled (ev.eval form scope)
  call : ∀ f args scope, f.Settled → Form.AllSettled args →
    Machine.Settled Value.Settled (ev.call f args scope)
  applyValues : ∀ f args scope, f.Settled → Value.AllSettled args →
    Machine.Settled Value.Settled (ev.applyValues f args scope)
  expandMacro : ∀ k args, k.Settled → Form.AllSettled args →
    Machine.Settled Value.Settled (ev.expandMacro k args)
  force : ∀ v, v.TailSettled → Machine.Settled Value.Settled (ev.force v)

/-- What computations in tail position come to is settled, or is itself a pending call whose closure
    and arguments are settled. -/
structure Evaluator.TailsSettled (ev : Evaluator) : Prop where
  perform : ∀ work, work.Settled → Machine.Settled Value.TailSettled (ev.perform work)
  evalTail : ∀ form scope, form.Settled →
    Machine.Settled Value.TailSettled (ev.evalTail form scope)
  evalBody : ∀ body scope, Form.AllSettled body →
    Machine.Settled Value.TailSettled (ev.evalBody body scope)
  callTail : ∀ f args scope, f.Settled → Form.AllSettled args →
    Machine.Settled Value.TailSettled (ev.callTail f args scope)
  runBuiltin : ∀ b args scope, Form.AllSettled args →
    Machine.Settled Value.TailSettled (ev.runBuiltin b args scope)

theorem ofSteps_valuesSettled (settings : Settings) (calls : CallPolicy) (steps : Nat) :
    (Evaluator.ofSteps settings calls steps).ValuesSettled := by
  have aligned := settledness_aligned settings calls steps
  constructor
  case eval =>
      exact fun form scope settled =>
        Machine.settled_iff.2 (aligned.eval (fun _ => settled) trivial)
  case call =>
      exact fun f args scope settled settledArgs =>
        Machine.settled_iff.2 (aligned.call trivial (fun _ => settled) fun _ => settledArgs)
  case applyValues =>
      exact fun f args scope settled settledArgs =>
        Machine.settled_iff.2 (aligned.applyValues trivial (fun _ => settled) fun _ => settledArgs)
  case expandMacro =>
      exact fun k args settled settledArgs =>
        Machine.settled_iff.2 (aligned.expandMacro (fun _ => settled) fun _ => settledArgs)
  case force =>
      intro v settled
      have performs := performWith_sameTails (c := settledness) (a := settings) rfl calls steps
      exact Machine.settled_iff.2 (Rel.force (Or.inl rfl) performs v fun _ => settled)

theorem ofSteps_tailsSettled (settings : Settings) (calls : CallPolicy) (steps : Nat) :
    (Evaluator.ofSteps settings calls steps).TailsSettled := by
  have aligned := settledness_aligned settings calls steps
  have tails := aligned.tails
  constructor
  case perform =>
      exact fun work settled => Machine.settled_iff.2 (tails.perform settled.workable)
  case evalTail =>
      exact fun form scope settled =>
        Machine.settled_iff.2 (tails.evalTail (fun _ => settled) trivial)
  case evalBody =>
      exact fun body scope settled =>
        Machine.settled_iff.2 (aligned.evalBody tails (fun _ => settled) trivial)
  case callTail =>
      exact fun f args scope settled settledArgs =>
        Machine.settled_iff.2 (aligned.callTail trivial f tails (fun _ => settled)
          fun _ => settledArgs)
  case runBuiltin =>
      exact fun b args scope settled =>
        Machine.settled_iff.2 (aligned.runBuiltin trivial tails fun _ => settled)

/-! ### Reachable worlds -/

/-- The worlds that running programs leads to: at first there are no scopes, atoms, channels, futures
    or threads; then interpreters are made, managers load and unload plugins, and texts, files and
    forms are evaluated, with any number of steps and rounds. -/
inductive World.Reachable : World → Prop where
  | start {w : World} (scopes : w.state.scopes = #[]) (atoms : w.state.atoms = #[])
      (channels : w.state.channels = #[]) (futures : w.state.futures = #[])
      (jobs : w.state.jobs = []) (threads : w.threads = []) : Reachable w
  | interpreter {w after : World} {config : Config} {i : Interpreter} (before : Reachable w)
      (made : Interpreter.make config w = .ok (i, after)) : Reachable after
  | manage {w : World} {α : Type} (before : Reachable w) (i : Nat) (f : Manager → α × Manager) :
      Reachable (w.manage i f).2
  | source {w : World} (before : Reachable w) (settings : Settings) (calls : CallPolicy)
      (steps rounds : Nat) (text : String) (scope : Nat) :
      Reachable (World.drive rounds
        ((Evaluator.ofSteps settings calls steps).evalSource text scope w.state) w.threads).2
  | file {w : World} (before : Reachable w) (settings : Settings) (calls : CallPolicy)
      (steps rounds : Nat) (path : String) (scope : Nat) :
      Reachable (World.drive rounds
        ((Evaluator.ofSteps settings calls steps).loadFile path scope w.state) w.threads).2
  | form {w : World} (before : Reachable w) (settings : Settings) (calls : CallPolicy)
      (steps rounds : Nat) (form : Form) (settled : form.Settled) (scope : Nat) :
      Reachable (World.drive rounds
        ((Evaluator.ofSteps settings calls steps).eval form scope w.state) w.threads).2

theorem settled_addGlobals {scopes : Scopes} (settled : ∀ scope ∈ scopes, scope.Settled) :
    ∀ scope ∈ (scopes.add none).set scopes.size "nil" .nil, scope.Settled := by
  refine settled_set (fun scope member => ?_) trivial
  rcases Array.mem_push.1 member with inside | rfl
  · exact settled scope inside
  · exact ⟨trivial, fun entry member => absurd member List.not_mem_nil⟩

theorem World.Settled.interpreter {w after : World} {config : Config} {i : Interpreter}
    (settled : w.Settled) (made : Interpreter.make config w = .ok (i, after)) : after.Settled := by
  unfold Interpreter.make at made
  cases managed : Interpreter.managerFor config with
  | error e =>
      rw [managed] at made
      cases made
  | ok manager =>
      rw [managed] at made
      cases made
      have before := settled.state
      exact ⟨⟨settled_addGlobals before.scopes, before.atoms, before.channels, before.futures,
        before.jobs⟩, settled.threads⟩

theorem settled_addWarnings {s : State} (settled : s.Settled) (warnings : Array String) :
    (warnings.foldl (fun s message => s.addLog ⟨.warn, message⟩) s).Settled := by
  refine Array.foldl_induction (motive := fun _ (s : State) => s.Settled) settled
    fun _ s before => ?_
  exact ⟨before.scopes, before.atoms, before.channels, before.futures, before.jobs⟩

theorem World.Settled.manage {w : World} {α : Type} (settled : w.Settled) (i : Nat)
    (f : Manager → α × Manager) : (w.manage i f).2.Settled := by
  have before := settled_addWarnings settled.state (f (w.state.manager i)).2.warnings
  exact ⟨⟨before.scopes, before.atoms, before.channels, before.futures, before.jobs⟩,
    settled.threads⟩

theorem World.Reachable.settled {w : World} (reachable : w.Reachable) : w.Settled := by
  induction reachable with
  | start scopes atoms channels futures jobs threads =>
      refine ⟨⟨?_, ?_, ?_, ?_, ?_⟩, ?_⟩
      · simp [scopes]
      · simp [atoms]
      · simp [channels]
      · simp [futures]
      · simp [jobs]
      · simp [threads]
  | interpreter _ made ih => exact ih.interpreter made
  | manage _ i f ih => exact ih.manage i f
  | source _ settings calls steps rounds text scope ih =>
      have aligned := settledness_aligned settings calls steps
      exact ih.drive (Machine.settled_iff.2 (aligned.evalSource trivial text)) rounds
  | file _ settings calls steps rounds path scope ih =>
      have aligned := settledness_aligned settings calls steps
      exact ih.drive (Machine.settled_iff.2 (aligned.loadFile trivial path)) rounds
  | form _ settings calls steps rounds form settled scope ih =>
      exact ih.drive ((ofSteps_valuesSettled settings calls steps).eval form scope settled) rounds

/-- Pending calls stay out of data: every world that running programs leads to is settled, and from
    settled states evaluators come to settled values, or in tail position to a pending call on settled
    data. -/
theorem pending_calls_stay_out_of_data :
    (∀ w : World, w.Reachable → w.Settled) ∧
      ∀ (settings : Settings) (calls : CallPolicy) (steps : Nat),
        (Evaluator.ofSteps settings calls steps).ValuesSettled ∧
          (Evaluator.ofSteps settings calls steps).TailsSettled :=
  ⟨fun _ reachable => reachable.settled, fun settings calls steps =>
    ⟨ofSteps_valuesSettled settings calls steps, ofSteps_tailsSettled settings calls steps⟩⟩

/-- A call of a closure, with a boolean for its argument. -/
def closureCall : Form :=
  .list [.literal (.function ⟨0, some "same", ["x"], none, [.boolean true], 0⟩), .boolean false]

/-- The world after the call. -/
def World.afterClosureCall : World :=
  (World.drive 9 ((Evaluator.ofSteps {} .deferred 9).eval closureCall 0 ({} : World).state) []).2

/-- The call is pending as the direct result of evaluation in tail position, and nowhere in the world
    in which it has been made. -/
theorem closureCall_settled :
    (∃ c args s, (Evaluator.ofSteps {} .deferred 9).evalTail closureCall 0 {} =
        .done (.ok (.pending c args)) s) ∧
      World.afterClosureCall.Reachable ∧ World.afterClosureCall.state.scopes.size = 1 ∧
      World.afterClosureCall.Settled := by
  have start : World.Reachable {} := .start rfl rfl rfl rfl rfl rfl
  have literal : closureCall.Settled := ⟨⟨trivial, trivial⟩, trivial, trivial⟩
  have reachable : World.afterClosureCall.Reachable :=
    .form start {} .deferred 9 9 closureCall literal 0
  exact ⟨⟨_, _, _, rfl⟩, reachable, rfl, pending_calls_stay_out_of_data.1 _ reachable⟩

end PluginLisp
