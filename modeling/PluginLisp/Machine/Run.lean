import PluginLisp.Machine.State

/-!
Computations on the state of a machine. A computation runs until it is done or has to wait for
something that another thread or the clock brings about; then it says what it waits for and how it
goes on. Failing with an error and running out of steps are two different outcomes.
-/

namespace PluginLisp

/-- How a computation ends. -/
inductive Outcome (α : Type) where
  | ok (a : α)
  | error (e : Error)
  /-- The steps given to it were not enough. -/
  | exhausted
deriving Inhabited

/-- What a thread can wait for. Deadlines are times of the clock. -/
inductive Wait where
  /-- Nothing: the other threads get a turn. -/
  | turn
  | time (deadline : Nat)
  /-- Room in a channel. -/
  | room (channel : Nat)
  /-- The value with the given number being taken from a channel. -/
  | handover (channel : Nat) (ticket : UInt64)
  /-- A value in a channel. -/
  | arrival (channel : Nat) (deadline : Option Nat)
  /-- The outcome of a future. -/
  | finish (future : Nat) (deadline : Option Nat)
  /-- A wait group at zero. -/
  | zero (waitGroup : Nat)
deriving DecidableEq, Repr, Inhabited

namespace Wait

/-- The time at which waiting ends in any case. -/
def deadline? : Wait → Option Nat
  | time deadline => some deadline
  | arrival _ deadline => deadline
  | finish _ deadline => deadline
  | _ => none

/-- Whether what is waited for has come about. -/
def isMet (s : State) : Wait → Bool
  | turn => true
  | time _ => false
  | room c => (s.channels[c]?).all Channel.canSend
  | handover c ticket => (s.channels[c]?).all (·.isTaken ticket)
  | arrival c _ => (s.channels[c]?).all Channel.canReceive
  | finish f _ => (s.futures[f]?).all Future.isDone
  | zero g => (s.waitGroups[g]?).all WaitGroup.isZero

/-- Whether waiting is over. -/
def isOver (s : State) (w : Wait) : Bool := w.isMet s || w.deadline?.any (· ≤ s.clock)

end Wait

/-- A computation under way. -/
inductive Run (α : Type) where
  | done (outcome : Outcome α) (state : State)
  | blocked (wait : Wait) (state : State) (resume : State → Run α)

instance {α : Type} : Inhabited (Run α) := ⟨.done .exhausted {}⟩

namespace Run

variable {α β : Type}

/-- Goes on with `next` when the computation is done, whatever its outcome. -/
def andThen (next : Outcome α → State → Run β) : Run α → Run β
  | done outcome s => next outcome s
  | blocked w s resume => blocked w s fun t => (resume t).andThen next

/-- Passes an outcome that is no value on. -/
@[inline] def onOk (f : α → State → Run β) (outcome : Outcome α) (s : State) : Run β :=
  match outcome with
  | .ok a => f a s
  | .error e => done (.error e) s
  | .exhausted => done .exhausted s

end Run

/-- A computation on the state of a machine. -/
def Machine (α : Type) : Type := State → Run α

namespace Machine

variable {α β σ : Type}

instance : Inhabited (Machine α) := ⟨fun s => .done .exhausted s⟩

/-- A computation that goes on with the outcome of another one. The case that it is done at once
    stands first, so that loops made from this run in constant space. -/
@[inline] def andThen (m : Machine α) (next : Outcome α → State → Run β) : Machine β := fun s =>
  match m s with
  | .done outcome t => next outcome t
  | .blocked w t resume => .blocked w t fun u => (resume u).andThen next

/-- The computation that is done with a value. -/
@[inline] protected def pure (a : α) : Machine α := fun s => .done (.ok a) s

/-- One computation after the other. -/
@[inline] protected def bind (m : Machine α) (f : α → Machine β) : Machine β :=
  m.andThen (Run.onOk f)

instance : Monad Machine where
  pure := Machine.pure
  bind := Machine.bind

/-- Fails. -/
@[inline] def fail (e : Error) : Machine α := fun s => .done (.error e) s

/-- Runs out of steps. -/
@[inline] def exhausted : Machine α := fun s => .done .exhausted s

/-- A result that needs no state. -/
@[inline] def ofExcept (r : Except Error α) : Machine α :=
  match r with
  | .ok a => pure a
  | .error e => fail e

instance : MonadLift (Except Error) Machine := ⟨ofExcept⟩

/-- Looks at the state. -/
@[inline] def look (f : State → α) : Machine α := fun s => .done (.ok (f s)) s

/-- Changes the state. -/
@[inline] def change (f : State → State) : Machine Unit := fun s => .done (.ok ()) (f s)

/-- Changes the state and answers with something. -/
@[inline] def update (f : State → α × State) : Machine α := fun s =>
  match f s with
  | (a, t) => .done (.ok a) t

/-- Makes an error of the computation a value, unless the program has broken off. -/
@[inline] def reify (m : Machine α) : Machine (Except Error α) :=
  m.andThen fun outcome s =>
    match outcome with
    | .ok a => .done (.ok (.ok a)) s
    | .error e => if e.panic?.isSome then .done (.error e) s else .done (.ok (.error e)) s
    | .exhausted => .done .exhausted s

/-- Changes the errors of a computation, by the state in which they arise; not so where the program has
    broken off. -/
@[inline] def decorate (f : State → Error → Error) (m : Machine α) : Machine α :=
  m.andThen fun outcome s =>
    match outcome with
    | .error e => .done (.error (if e.panic?.isSome then e else f s e)) s
    | outcome => .done outcome s

/-- Waits, unless waiting is over from the start. -/
def await (w : Wait) : Machine Unit := fun s =>
  if w.isOver s then .done (.ok ()) s else .blocked w s fun t => .done (.ok ()) t

/-- How many calls and rounds of loops a thread gets in one turn. -/
def turnLength : Nat := 64

/-- Counts a call or a round of a loop, and ends the turn of the thread if it was the last one and
    there are other threads. -/
def yieldTurn : Machine Unit := fun s =>
  if !s.crowded then .done (.ok ()) s
  else if s.turnCalls < turnLength then .done (.ok ()) { s with turnCalls := s.turnCalls + 1 }
  else .blocked .turn { s with turnCalls := 0 } fun t => .done (.ok ()) t

/-- What a round of a loop decides. -/
inductive Round (σ β : Type) where
  | again (next : σ)
  | stop (result : β)

/-- Repeats a computation until it stops, for at most `steps` rounds. -/
@[specialize] def iterate (body : σ → Machine (Round σ β)) : (steps : Nat) → σ → Machine β
  | 0, _ => fun s => .done .exhausted s
  | steps + 1, x => fun s =>
      match body x s with
      | .done (.ok (.again y)) t => iterate body steps y t
      | .done (.ok (.stop b)) t => .done (.ok b) t
      | .done (.error e) t => .done (.error e) t
      | .done .exhausted t => .done .exhausted t
      | .blocked w t resume => .blocked w t fun u =>
          (resume u).andThen (Run.onOk fun round => match round with
            | .again y => iterate body steps y
            | .stop b => fun v => .done (.ok b) v)

/-- Takes the items of a list one after the other, until one makes it stop; `finish` answers if none
    does. -/
@[specialize] def fold {α : Type} (body : σ → α → Machine (Round σ β)) (finish : σ → β) (x : σ) :
    List α → Machine β
  | [] => fun s => .done (.ok (finish x)) s
  | a :: rest => fun s =>
      match body x a s with
      | .done (.ok (.again y)) t => fold body finish y rest t
      | .done (.ok (.stop b)) t => .done (.ok b) t
      | .done (.error e) t => .done (.error e) t
      | .done .exhausted t => .done .exhausted t
      | .blocked w t resume => .blocked w t fun u =>
          (resume u).andThen (Run.onOk fun round => match round with
            | .again y => fold body finish y rest
            | .stop b => fun v => .done (.ok b) v)

/-- The results of a computation for each item. -/
@[inline] def collect {α : Type} (f : α → Machine β) (items : List α) : Machine (List β) :=
  fold (fun results a => do return .again ((← f a) :: results)) List.reverse [] items

end Machine

end PluginLisp
