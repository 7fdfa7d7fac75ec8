import PluginLisp.Evaluator.Eval

/-!
Threads in turn. A world is a state with the threads that have been started and are not done. A
computation runs until it is done; whenever it has to wait, every thread that need not wait runs until
it has to, in the order in which they were started. When all have to wait, the clock moves to the
first deadline.
-/

namespace PluginLisp

/-- A thread that waits: the future it works for, what it waits for, and how it goes on. -/
structure Thread where
  future : Nat
  wait : Wait
  resume : State → Run Value

/-- A state with its threads. -/
structure World where
  state : State := {}
  threads : List Thread := []
deriving Inhabited

/-- The computation of a thread that is to be started. -/
def Job.run (job : Job) : Machine Value :=
  (Evaluator.standard job.settings).runBody job.body job.scope

namespace World

/-- How much time a turn takes. -/
def turnTime : Nat := 640

/-- Makes threads of the jobs that are to be started. -/
def startJobs (w : World) : World :=
  let fresh := w.state.jobs.reverse.map fun job => (⟨job.future, .turn, job.run⟩ : Thread)
  ⟨{ w.state with jobs := [] }, w.threads ++ fresh⟩

/-- The error that a future gets: where its thread has broken off, one that tells why. -/
def threadError (e : Error) : Error :=
  match e.panic? with
  | some reason => .thread reason
  | none => e

/-- The outcome that a future gets. -/
def futureOutcome : Outcome Value → Except Error Value
  | .ok v => .ok v
  | .error e => .error (threadError e)
  | .exhausted => .error (.thread "out of steps")

/-- What is left of a thread when it waits again or is done. -/
def settle (future : Nat) : Run Value → State × Option Thread
  | .done outcome s => (s.complete future (futureOutcome outcome), none)
  | .blocked wait s resume => (s, some ⟨future, wait, resume⟩)

/-- The state in which a thread goes on after waiting. -/
def afterWait (wait : Wait) (s : State) : State :=
  match wait with
  | .turn => { s with clock := s.clock + turnTime }
  | _ => s

/-- Runs every thread that need not wait until it has to; tells whether there was one. The threads
    left are in reverse order in `passed`. -/
def runThreads (passed : List Thread) (ran : Bool) (s : State) :
    List Thread → State × List Thread × Bool
  | [] => (s, passed.reverse, ran)
  | t :: rest =>
      if t.wait.isOver s then
        let (s, left) := settle t.future (t.resume (afterWait t.wait { s with crowded := true }))
        runThreads (left.toList ++ passed) true s rest
      else runThreads (t :: passed) ran s rest

/-- The first of the deadlines. -/
def firstDeadline (waits : List Wait) : Option Nat := (waits.filterMap Wait.deadline?).min?

/-- How it stands with a computation that waits, after the threads have had a turn each. -/
inductive Turn where
  /-- Waiting is over. -/
  | ready (w : World)
  | waiting (w : World)
  /-- Everything waits for something that cannot come about. -/
  | stuck (w : World)

/-- Gives every thread a turn while a computation waits. When all have to wait, the clock moves to the
    first deadline. -/
def takeTurns (wait : Wait) (w : World) : Turn :=
  let started := startJobs w
  let (s, threads, ran) := runThreads [] false started.state started.threads
  if wait.isOver s then
    let crowded := !(threads.isEmpty && s.jobs.isEmpty)
    .ready ⟨afterWait wait { s with crowded }, threads⟩
  else if ran then .waiting ⟨s, threads⟩
  else
    match firstDeadline (wait :: threads.map Thread.wait) with
    | some time => .waiting ⟨{ s with clock := max s.clock time }, threads⟩
    | none => .stuck ⟨s, threads⟩

/-- Runs a computation to its end, with the threads in turn. It ends without an outcome of its own if
    everything waits for something that cannot come about. -/
def drive {α : Type} : (rounds : Nat) → Run α → List Thread → Outcome α × World
  | 0, .done _ s, threads => (.exhausted, ⟨s, threads⟩)
  | 0, .blocked _ s _, threads => (.exhausted, ⟨s, threads⟩)
  | _ + 1, .done outcome s, threads => (outcome, ⟨s, threads⟩)
  | rounds + 1, .blocked wait s resume, threads =>
      match takeTurns wait ⟨s, threads⟩ with
      | .ready w => drive rounds (resume w.state) w.threads
      | .waiting w => drive rounds (.blocked wait w.state resume) w.threads
      | .stuck w => (.exhausted, w)

/-- Runs a computation in a world. -/
def run {α : Type} (w : World) (m : Machine α) : Outcome α × World :=
  drive allSteps (m w.state) w.threads

/-- Has a manager do something. -/
def manage {α : Type} (w : World) (i : Nat) (f : Manager → α × Manager) : α × World :=
  let (a, s) := w.state.manage i f
  (a, { w with state := s })

/-- Starts a thread that runs a computation for a new future. -/
def spawn (w : World) (m : Machine Value) : Nat × World :=
  let (future, s) := w.state.addFuture
  (future, ⟨{ s with crowded := true }, w.threads ++ [⟨future, .turn, m⟩]⟩)

end World

end PluginLisp
