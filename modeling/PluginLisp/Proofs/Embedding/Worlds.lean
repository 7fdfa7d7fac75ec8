import PluginLisp.Proofs.Embedding.Steps
import PluginLisp.World

/-!
Worlds that are alike up to embedded decimals. The threads of such worlds run in the same rounds and
wait for the same things, so computations that are alike come to outcomes that are alike when they are
run to their end with the threads in turn.

Main results: `Run.Alike.drive`, `World.Alike.run`.
-/

namespace PluginLisp

open Machine

variable {α β : Type} {f : α → β} {s t : State} {w u : World}

/-- Two outcomes that differ at most in which decimals are embedded in code. -/
inductive Outcome.Alike (f : α → β) : Outcome α → Outcome α → Prop where
  | ok {a b : α} (results : f a = f b) : Alike f (.ok a) (.ok b)
  | error {e : Error} : Alike f (.error e) (.error e)
  | exhausted : Alike f .exhausted .exhausted

/-- Two threads that wait for the same thing and are alike when they go on. -/
structure Thread.Alike (left right : Thread) : Prop where
  future : left.future = right.future
  wait : left.wait = right.wait
  resume : Machine.Alike Value.embed left.resume right.resume

/-- Two worlds that differ at most in which decimals are embedded in code. -/
structure World.Alike (w u : World) : Prop where
  states : w.state.Alike u.state
  threads : List.Forall₂ Thread.Alike w.threads u.threads

/-! ### Threads -/

/-- The threads of jobs that are alike. -/
theorem Job.thread_alike {j k : Job} (same : j.embed = k.embed) :
    Thread.Alike ⟨j.future, .turn, j.run⟩ ⟨k.future, .turn, k.run⟩ := by
  obtain ⟨future, body, scope, settings⟩ := j
  obtain ⟨future', body', scope', settings'⟩ := k
  simp only [Job.embed, Job.mk.injEq] at same
  obtain ⟨rfl, bodies, rfl, rfl⟩ := same
  exact ⟨rfl, rfl, (Evaluator.indifferent_ofSteps settings .deferred allSteps).runBody bodies⟩

/-- Alike jobs start alike threads. -/
theorem Job.threads_alike {jobs jobs' : List Job} (same : jobs.map Job.embed = jobs'.map Job.embed) :
    List.Forall₂ Thread.Alike (jobs.map fun job => ⟨job.future, .turn, job.run⟩)
      (jobs'.map fun job => ⟨job.future, .turn, job.run⟩) := by
  have related : List.Forall₂ (fun j k => Job.embed j = Job.embed k) jobs jobs' := by
    rw [← List.forall₂_eq_eq_eq, List.forall₂_map_left_iff, List.forall₂_map_right_iff] at same
    exact same
  rw [List.forall₂_map_left_iff, List.forall₂_map_right_iff]
  exact related.imp fun _ _ same => Job.thread_alike same

/-- Starting the jobs that are left. -/
theorem World.Alike.startJobs (worlds : w.Alike u) : w.startJobs.Alike u.startJobs := by
  have jobs : w.state.jobs.map Job.embed = u.state.jobs.map Job.embed :=
    congrArg State.jobs (show w.state.embed = u.state.embed from worlds.states)
  refine ⟨worlds.states.map (k := fun s => { s with jobs := [] }) fun _ => rfl, ?_⟩
  refine List.rel_append worlds.threads (Job.threads_alike ?_)
  rw [List.map_reverse, List.map_reverse, jobs]

/-- Completing a future with outcomes that are alike. -/
theorem State.Alike.complete (alike : s.Alike t) (i : Nat) {r r' : Except Error Value}
    (same : r.map Value.embed = r'.map Value.embed) :
    (s.complete i r).Alike (t.complete i r') := by
  have natural (s : State) (r : Except Error Value) :
      (s.complete i r).embed = s.embed.complete i (r.map Value.embed) := by
    have futures := map_modify (e := Future.embed) (f := fun f => { f with outcome := some r })
      (g := fun f => { f with outcome := some (r.map Value.embed) }) s.futures i fun _ => rfl
    exact congrArg (fun futures => { s.embed with futures }) futures
  rw [State.Alike, natural, natural, same, show s.embed = t.embed from alike]

/-- What is left of threads that are alike when they wait again or are done. -/
theorem Run.Alike.settle {r r' : Run Value} (runs : Run.Alike Value.embed r r') (i : Nat) :
    (World.settle i r).1.Alike (World.settle i r').1 ∧
      List.Forall₂ Thread.Alike (World.settle i r).2.toList (World.settle i r').2.toList := by
  cases runs with
  | ok results states => exact ⟨states.complete i (congrArg Except.ok results), .nil⟩
  | error states => exact ⟨states.complete i rfl, .nil⟩
  | exhausted states => exact ⟨states.complete i rfl, .nil⟩
  | blocked states resumed => exact ⟨states, .cons ⟨rfl, rfl, resumed⟩ .nil⟩

theorem State.Alike.crowd (alike : s.Alike t) (crowded : Bool) :
    State.Alike { s with crowded } { t with crowded } :=
  alike.map (k := fun s => { s with crowded }) fun _ => rfl

/-- What happens when a wait is over is alike. -/
theorem State.Alike.afterWait (alike : s.Alike t) (wait : Wait) :
    (World.afterWait wait s).Alike (World.afterWait wait t) := by
  apply alike.map
  intro s
  cases wait <;> rfl

theorem State.Alike.isOver (alike : s.Alike t) (wait : Wait) : wait.isOver s = wait.isOver t :=
  alike.same (k := fun s => wait.isOver s) wait.isOver_embed

/-- Every thread that need not wait runs until it has to. -/
theorem State.Alike.runThreads {ts us passed passed' : List Thread} (states : s.Alike t)
    (threads : List.Forall₂ Thread.Alike ts us) (before : List.Forall₂ Thread.Alike passed passed')
    (ran : Bool) :
    World.Alike ⟨(World.runThreads passed ran s ts).1, (World.runThreads passed ran s ts).2.1⟩
        ⟨(World.runThreads passed' ran t us).1, (World.runThreads passed' ran t us).2.1⟩ ∧
      (World.runThreads passed ran s ts).2.2 = (World.runThreads passed' ran t us).2.2 := by
  induction threads generalizing s t passed passed' ran with
  | nil => exact ⟨⟨states, List.rel_reverse before⟩, rfl⟩
  | @cons left right ts us first _ ih =>
      unfold World.runThreads
      rw [← first.wait, ← first.future, states.isOver left.wait]
      split
      next =>
        have resumed := first.resume _ _ ((states.crowd true).afterWait left.wait)
        obtain ⟨states, kept⟩ := resumed.settle left.future
        exact ih states (List.rel_append kept before) true
      next => exact ih states (.cons first before) ran

/-- Alike threads wait for the same. -/
theorem Thread.Alike.waits {ts us : List Thread} (threads : List.Forall₂ Thread.Alike ts us) :
    ts.map Thread.wait = us.map Thread.wait := by
  induction threads with
  | nil => rfl
  | cons first _ ih => rw [List.map_cons, List.map_cons, first.wait, ih]

/-- How it stands with computations that wait in worlds that are alike. -/
inductive World.Turn.Alike : World.Turn → World.Turn → Prop where
  | ready {w u : World} (worlds : w.Alike u) : Alike (.ready w) (.ready u)
  | waiting {w u : World} (worlds : w.Alike u) : Alike (.waiting w) (.waiting u)
  | stuck {w u : World} (worlds : w.Alike u) : Alike (.stuck w) (.stuck u)

/-- A turn for every thread of worlds that are alike. -/
theorem World.Alike.takeTurns (worlds : w.Alike u) (wait : Wait) :
    World.Turn.Alike (World.takeTurns wait w) (World.takeTurns wait u) := by
  have started := worlds.startJobs
  obtain ⟨⟨states, threads⟩, ran⟩ := started.states.runThreads started.threads .nil false
  unfold World.takeTurns
  dsimp only at states threads ⊢
  generalize World.runThreads [] false w.startJobs.state w.startJobs.threads = left
    at states threads ran ⊢
  generalize World.runThreads [] false u.startJobs.state u.startJobs.threads = right
    at states threads ran ⊢
  obtain ⟨s, ts, moved⟩ := left
  obtain ⟨t, us, moved'⟩ := right
  dsimp only at states threads ran ⊢
  subst ran
  have noThreads : ts.isEmpty = us.isEmpty := by cases threads <;> rfl
  have noJobs : s.jobs.isEmpty = t.jobs.isEmpty :=
    states.same (k := fun s => s.jobs.isEmpty) fun _ => List.isEmpty_map
  rw [states.isOver wait, ← Thread.Alike.waits threads, noJobs, noThreads]
  split
  · exact .ready ⟨(states.crowd _).afterWait wait, threads⟩
  · split
    · exact .waiting ⟨states, threads⟩
    · split
      next time _ =>
        have later := states.map (k := fun s => { s with clock := max s.clock time }) fun _ => rfl
        exact .waiting ⟨later, threads⟩
      next => exact .stuck ⟨states, threads⟩

/-! ### Whole runs -/

/-- Computations that are alike end alike in worlds that are alike. The induction is on the rounds; what
    it carries is that the computations, the states and the threads are alike. -/
theorem Run.Alike.drive (rounds : Nat) {r r' : Run α} {ts us : List Thread} (runs : Run.Alike f r r')
    (threads : List.Forall₂ Thread.Alike ts us) :
    Outcome.Alike f (World.drive rounds r ts).1 (World.drive rounds r' us).1 ∧
      World.Alike (World.drive rounds r ts).2 (World.drive rounds r' us).2 := by
  induction rounds generalizing r r' ts us with
  | zero =>
      cases runs with
      | ok _ states => exact ⟨.exhausted, states, threads⟩
      | error states => exact ⟨.exhausted, states, threads⟩
      | exhausted states => exact ⟨.exhausted, states, threads⟩
      | blocked states _ => exact ⟨.exhausted, states, threads⟩
  | succ rounds ih =>
      cases runs with
      | ok results states => exact ⟨.ok results, states, threads⟩
      | error states => exact ⟨.error, states, threads⟩
      | exhausted states => exact ⟨.exhausted, states, threads⟩
      | @blocked wait s t resume resume' states resumed =>
          have turns := World.Alike.takeTurns (w := ⟨s, ts⟩) (u := ⟨t, us⟩) ⟨states, threads⟩ wait
          simp only [World.drive]
          generalize World.takeTurns wait ⟨s, ts⟩ = left, World.takeTurns wait ⟨t, us⟩ = right
            at turns
          cases turns with
          | ready worlds => exact ih (resumed _ _ worlds.states) worlds.threads
          | waiting worlds => exact ih (.blocked worlds.states resumed) worlds.threads
          | stuck worlds => exact ⟨.exhausted, worlds⟩

/-- Running computations that are alike in worlds that are alike. -/
theorem World.Alike.run (worlds : w.Alike u) {m m' : Machine α} (machines : Machine.Alike f m m') :
    Outcome.Alike f (w.run m).1 (u.run m').1 ∧ (w.run m).2.Alike (u.run m').2 :=
  (machines _ _ worlds.states).drive allSteps worlds.threads

end PluginLisp
