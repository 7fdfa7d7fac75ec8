import PluginLisp.Proofs.Evaluation.Steps
import PluginLisp.World

/-!
Corresponding worlds. Computations that correspond also do so when they are driven to their end with
the threads in turn, as long as neither side may give up: the same threads run in the same rounds, and
the futures they complete get corresponding outcomes.

Main results: `Worlds.takeTurns`, `Runs.drive`.
-/

namespace PluginLisp.Correspondence

open Machine

variable {c : Correspondence} {α β : Type} {s t : State}

/-- How outcomes correspond. -/
inductive Outcomes (c : Correspondence) (Q : α → β → Prop) : Outcome α → Outcome β → Prop where
  | ok {a : α} {b : β} (result : Q a b) : Outcomes c Q (.ok a) (.ok b)
  | error {e f : Error} (errors : c.error e f) : Outcomes c Q (.error e) (.error f)
  | exhausted : Outcomes c Q .exhausted .exhausted

/-- Corresponding threads wait for the same thing and come to the same settled value. -/
structure Threads (c : Correspondence) (left right : Thread) : Prop where
  future : left.future = right.future
  wait : left.wait = right.wait
  resume : c.Rel (c.Both Value.Settled) left.resume right.resume

/-- Corresponding worlds. -/
structure Worlds (c : Correspondence) (w u : World) : Prop where
  states : c.States w.state u.state
  threads : List.Forall₂ c.Threads w.threads u.threads

/-! ### Threads -/

/-- The computations of corresponding jobs with settled code. -/
theorem Jobs.run {j k : Job} (jobs : c.Jobs j k) (settled : c.clean → Form.AllSettled j.body) :
    c.Rel (c.Both Value.Settled) j.run k.run := by
  unfold Job.run
  rw [← jobs.body, ← jobs.scope]
  exact (aligned_ofSteps jobs.settings .deferred allSteps).runBody settled jobs.writable

/-- Corresponding jobs start corresponding threads. -/
theorem Jobs.thread {j k : Job} (jobs : c.Jobs j k) (settled : c.clean → Form.AllSettled j.body) :
    c.Threads ⟨j.future, .turn, j.run⟩ ⟨k.future, .turn, k.run⟩ :=
  ⟨jobs.future, rfl, jobs.run settled⟩

/-- Jobs that correspond one by one start threads that do. -/
theorem threads_of_jobs {jobs jobs' : List Job} (related : List.Forall₂ c.Jobs jobs jobs')
    (settled : c.clean → ∀ job ∈ jobs, Form.AllSettled job.body) :
    List.Forall₂ c.Threads (jobs.map fun job => ⟨job.future, .turn, job.run⟩)
      (jobs'.map fun job => ⟨job.future, .turn, job.run⟩) := by
  induction related with
  | nil => exact .nil
  | cons first _ ih =>
      refine .cons (first.thread fun clean => settled clean _ List.mem_cons_self) (ih ?_)
      exact fun clean job member => settled clean job (List.mem_cons_of_mem _ member)

/-- Starting the jobs that are left. -/
theorem Worlds.startJobs {w u : World} (worlds : c.Worlds w u) :
    c.Worlds w.startJobs u.startJobs := by
  obtain ⟨states, threads⟩ := worlds
  obtain ⟨futures, jobs, same, twins⟩ := states
  constructor
  · refine ⟨futures, [], ?_, twins.size, twins.futures, .nil, twins.intact, fun clean => ?_⟩
    · simp only [World.startJobs, same]
    · have before := twins.settled clean
      exact ⟨before.scopes, before.atoms, before.channels, before.futures,
        fun job member => absurd member List.not_mem_nil⟩
  · have reversed : List.Forall₂ c.Jobs w.state.jobs.reverse u.state.jobs.reverse := by
      rw [same]
      exact List.rel_reverse twins.jobs
    refine List.rel_append threads (threads_of_jobs reversed fun clean job member => ?_)
    exact (twins.settled clean).jobs job (List.mem_reverse.1 member)

/-- Completing a future with corresponding outcomes. -/
theorem States.complete (states : c.States s t) (i : Nat) (r r' : Except Error Value)
    (results : c.Result (c.Both Value.Settled) r r') :
    c.States (s.complete i r) (t.complete i r') := by
  obtain ⟨futures, jobs, rfl, twins⟩ := states
  have same : c.Result Eq r r' := by
    cases r <;> cases r'
    case ok.ok => exact results.1
    all_goals exact results
  refine ⟨futures.modify i fun f => { f with outcome := some r' }, jobs, rfl, ?_, ?_, twins.jobs,
    twins.intact, fun clean => ?_⟩
  · simp only [State.complete, Array.size_modify, twins.size]
  · intro j f g left right
    simp only [State.complete, Array.getElem?_modify] at left right
    split at left
    next here =>
      rw [if_pos here] at right
      obtain ⟨f, there, rfl⟩ := Option.map_eq_some_iff.1 left
      obtain ⟨g, there', rfl⟩ := Option.map_eq_some_iff.1 right
      exact ⟨(twins.futures j f g there there').1, .some same⟩
    next other =>
      rw [if_neg other] at right
      exact twins.futures j f g left right
  · have before := twins.settled clean
    refine ⟨before.scopes, before.atoms, before.channels, ?_, before.jobs⟩
    refine forall_mem_modify (f := fun f => { f with outcome := some r }) before.futures ?_
    intro f _ _ v done
    cases r with
    | error e => cases done
    | ok a =>
        cases done
        cases r' with
        | error e => exact results.elim
        | ok b => exact results.2 clean

/-- Corresponding errors come to corresponding outcomes of futures. -/
theorem error_threadError {e f : Error} (errors : c.error e f) :
    c.error (World.threadError e) (World.threadError f) := by
  unfold World.threadError
  rw [c.error_panic? errors]
  split
  · exact c.error_refl _
  · exact errors

/-- What is left of corresponding threads when they wait again or are done. -/
theorem Runs.settle {r r' : Run Value} (runs : c.Runs (c.Both Value.Settled) r r')
    (strict : ¬ c.lax) (i : Nat) :
    c.States (World.settle i r).1 (World.settle i r').1 ∧
      Option.Rel c.Threads (World.settle i r).2 (World.settle i r').2 := by
  cases runs with
  | ok result states => exact ⟨states.complete i (.ok _) (.ok _) result, .none⟩
  | error errors states =>
      exact ⟨states.complete i (.error _) (.error _) (error_threadError errors), .none⟩
  | exhausted states =>
      exact ⟨states.complete i (.error _) (.error _) (c.error_refl _), .none⟩
  | gaveUp lax => exact absurd lax strict
  | blocked states resumed => exact ⟨states, .some ⟨rfl, rfl, resumed⟩⟩

theorem States.crowd (states : c.States s t) (crowded : Bool) :
    c.States { s with crowded := crowded } { t with crowded := crowded } :=
  states.mapAside (f := fun s => { s with crowded := crowded }) (fun _ _ => rfl) rfl rfl rfl rfl rfl

/-- What happens when a wait is over keeps states corresponding. -/
theorem States.afterWait (states : c.States s t) (wait : Wait) :
    c.States (World.afterWait wait s) (World.afterWait wait t) := by
  unfold World.afterWait
  split
  · exact states.mapAside (f := fun s => { s with clock := s.clock + World.turnTime })
      (fun _ _ => rfl) rfl rfl rfl rfl rfl
  · exact states

theorem threads_toList {left right : Option Thread} (threads : Option.Rel c.Threads left right) :
    List.Forall₂ c.Threads left.toList right.toList := by
  cases threads with
  | none => exact .nil
  | some thread => exact .cons thread .nil

/-- Every thread that need not wait runs until it has to. -/
theorem runThreads {ts us passed passed' : List Thread} (strict : ¬ c.lax) (states : c.States s t)
    (threads : List.Forall₂ c.Threads ts us) (before : List.Forall₂ c.Threads passed passed')
    (ran : Bool) :
    c.Worlds ⟨(World.runThreads passed ran s ts).1, (World.runThreads passed ran s ts).2.1⟩
        ⟨(World.runThreads passed' ran t us).1, (World.runThreads passed' ran t us).2.1⟩ ∧
      (World.runThreads passed ran s ts).2.2 = (World.runThreads passed' ran t us).2.2 := by
  induction threads generalizing s t passed passed' ran with
  | nil => exact ⟨⟨states, List.rel_reverse before⟩, rfl⟩
  | @cons left right ts us first _ ih =>
      unfold World.runThreads
      rw [← first.wait, ← first.future, states.isOver left.wait]
      split
      next =>
        have resumed := first.resume _ _ ((states.crowd true).afterWait left.wait)
        obtain ⟨states, kept⟩ := resumed.settle strict left.future
        exact ih states (List.rel_append (threads_toList kept) before) true
      next => exact ih states (.cons first before) ran

theorem isEmpty_of_forall₂ {R : α → β → Prop} {xs : List α} {ys : List β}
    (related : List.Forall₂ R xs ys) : xs.isEmpty = ys.isEmpty := by
  cases related <;> rfl

/-- There are jobs to start on both sides or on neither. -/
theorem States.noJobs (states : c.States s t) : s.jobs.isEmpty = t.jobs.isEmpty := by
  obtain ⟨futures, jobs, rfl, twins⟩ := states
  exact isEmpty_of_forall₂ twins.jobs

/-- Corresponding threads wait for the same. -/
theorem threads_waits {ts us : List Thread} (threads : List.Forall₂ c.Threads ts us) :
    ts.map Thread.wait = us.map Thread.wait := by
  induction threads with
  | nil => rfl
  | cons first _ ih => rw [List.map_cons, List.map_cons, first.wait, ih]

/-- How it stands with corresponding computations that wait. -/
inductive Turns (c : Correspondence) : World.Turn → World.Turn → Prop where
  | ready {w u : World} (worlds : c.Worlds w u) : Turns c (.ready w) (.ready u)
  | waiting {w u : World} (worlds : c.Worlds w u) : Turns c (.waiting w) (.waiting u)
  | stuck {w u : World} (worlds : c.Worlds w u) : Turns c (.stuck w) (.stuck u)

/-- A turn for every thread of corresponding worlds. -/
theorem Worlds.takeTurns {w u : World} (strict : ¬ c.lax) (worlds : c.Worlds w u) (wait : Wait) :
    c.Turns (World.takeTurns wait w) (World.takeTurns wait u) := by
  have started := worlds.startJobs
  obtain ⟨⟨states, threads⟩, ran⟩ :=
    runThreads strict started.states started.threads .nil false
  unfold World.takeTurns
  dsimp only at states threads ⊢
  generalize World.runThreads [] false w.startJobs.state w.startJobs.threads = left
    at states threads ran ⊢
  generalize World.runThreads [] false u.startJobs.state u.startJobs.threads = right
    at states threads ran ⊢
  obtain ⟨s, ts, moved⟩ := left
  obtain ⟨t, us, moved'⟩ := right
  dsimp only at states threads ran ⊢
  subst ran
  rw [states.isOver wait, ← threads_waits threads, states.noJobs, isEmpty_of_forall₂ threads]
  split
  · exact .ready ⟨(states.crowd _).afterWait wait, threads⟩
  · split
    · exact .waiting ⟨states, threads⟩
    · split
      next time _ =>
        have later := states.mapAside (f := fun s => { s with clock := max s.clock time })
        exact .waiting ⟨later (fun _ _ => rfl) rfl rfl rfl rfl rfl, threads⟩
      next => exact .stuck ⟨states, threads⟩

/-! ### Whole runs -/

/-- Corresponding computations end alike in corresponding worlds. The induction is on the rounds; what
    it carries is that the computation, the state and the threads correspond. -/
theorem Runs.drive {Q : α → β → Prop} (strict : ¬ c.lax) (rounds : Nat) {r : Run α} {r' : Run β}
    {ts us : List Thread} (runs : c.Runs Q r r') (threads : List.Forall₂ c.Threads ts us) :
    c.Outcomes Q (World.drive rounds r ts).1 (World.drive rounds r' us).1 ∧
      c.Worlds (World.drive rounds r ts).2 (World.drive rounds r' us).2 := by
  induction rounds generalizing r r' ts us with
  | zero =>
      cases runs with
      | ok _ states => exact ⟨.exhausted, states, threads⟩
      | error _ states => exact ⟨.exhausted, states, threads⟩
      | exhausted states => exact ⟨.exhausted, states, threads⟩
      | gaveUp lax => exact absurd lax strict
      | blocked states _ => exact ⟨.exhausted, states, threads⟩
  | succ rounds ih =>
      cases runs with
      | ok result states => exact ⟨.ok result, states, threads⟩
      | error errors states => exact ⟨.error errors, states, threads⟩
      | exhausted states => exact ⟨.exhausted, states, threads⟩
      | gaveUp lax => exact absurd lax strict
      | @blocked wait s t resume resume' states resumed =>
          have turns := Worlds.takeTurns (w := ⟨s, ts⟩) (u := ⟨t, us⟩) strict ⟨states, threads⟩ wait
          simp only [World.drive]
          generalize World.takeTurns wait ⟨s, ts⟩ = left, World.takeTurns wait ⟨t, us⟩ = right
            at turns
          cases turns with
          | ready worlds => exact ih (resumed _ _ worlds.states) worlds.threads
          | waiting worlds => exact ih (.blocked worlds.states resumed) worlds.threads
          | stuck worlds => exact ⟨.exhausted, worlds⟩

end PluginLisp.Correspondence
