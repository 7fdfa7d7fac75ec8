import Mathlib.Data.List.Forall2
import PluginLisp.Machine.Run
import PluginLisp.Proofs.Data.Builtins

/-!
Corresponding computations. Two computations correspond if from corresponding states they end alike in
corresponding states, or wait for the same thing and correspond however they are resumed. What
"corresponding" leaves open is a parameter, so that one passage through the evaluator serves many
purposes: that the number of steps does not matter, that a policy of calls does not, which scopes an
evaluation may write, that no pending call becomes data, or that decorating errors changes nothing
else.

The two states are always equal except for the outcomes of futures and the threads still to be
started.

Main results: `bind_assoc`, `decorate_id`.
-/

namespace PluginLisp

/-- The error that leaves a call under way: with a frame where errors are decorated. -/
def Settings.framed (settings : Settings) (frame : CallFrame) (e : Error) : Error :=
  if settings.traced then e.withFrame frame else e

/-- What two corresponding computations have in common. -/
structure Correspondence where
  /-- The left computation may run out of steps while the right one goes on. -/
  lax : Prop
  /-- No pending call occurs in data. -/
  clean : Prop
  /-- How errors correspond. -/
  error : Error → Error → Prop
  /-- How the settings of two evaluators correspond. -/
  settings : Settings → Settings → Prop
  /-- Which scopes may be written. -/
  writable : Nat → Prop
  /-- What is known of the scopes. -/
  intact : Scopes → Prop
  error_refl : ∀ e, error e e
  error_inFile : ∀ {e f} path, error e f → error (.inFile path e) (.inFile path f)
  error_caughtText : ∀ {e f}, error e f → e.caughtText = f.caughtText
  error_panic? : ∀ {e f}, error e f → e.panic? = f.panic?
  error_framed : ∀ {a b e f left right}, settings a b → error e f →
    (a.traced = true → b.traced = true → left = right) →
      error (a.framed left e) (b.framed right f)
  settings_refl : ∀ a, settings a a
  settings_manager : ∀ {a b}, settings a b → a.manager = b.manager
  settings_counter : ∀ {a b}, settings a b → a.counter = b.counter
  settings_libraries : ∀ {a b}, settings a b → a.libraries = b.libraries
  intact_modify : ∀ {scopes i} f, writable i → intact scopes → intact (scopes.modify i f)
  intact_push : ∀ {scopes} scope, intact scopes → intact (scopes.push scope)
  writable_size : ∀ {scopes}, intact scopes → writable scopes.size

namespace Correspondence

/-- Errors and settings are the same on both sides. -/
def same (lax clean : Prop) (writable : Nat → Prop) (intact : Scopes → Prop)
    (intact_modify : ∀ {scopes i} f, writable i → intact scopes → intact (scopes.modify i f))
    (intact_push : ∀ {scopes} scope, intact scopes → intact (scopes.push scope))
    (writable_size : ∀ {scopes}, intact scopes → writable scopes.size) : Correspondence where
  lax := lax
  clean := clean
  error := Eq
  settings := Eq
  writable := writable
  intact := intact
  error_refl _ := rfl
  error_inFile path same := congrArg (Error.inFile path) same
  error_caughtText same := congrArg Error.caughtText same
  error_panic? same := congrArg Error.panic? same
  error_framed settings same frames := by
    subst settings same
    unfold Settings.framed
    split
    next traced => rw [frames traced traced]
    next => rfl
  settings_refl _ := rfl
  settings_manager same := congrArg Settings.manager same
  settings_counter same := congrArg Settings.counter same
  settings_libraries same := congrArg Settings.libraries same
  intact_modify := intact_modify
  intact_push := intact_push
  writable_size := writable_size

variable (c : Correspondence)

/-- The same on both sides, and satisfying `P` where data is clean. -/
def Both {α : Type} (P : α → Prop) (a b : α) : Prop := a = b ∧ (c.clean → P a)

/-- How results that may be errors correspond. -/
def Result {α β : Type} (Q : α → β → Prop) : Except Error α → Except Error β → Prop
  | .ok a, .ok b => Q a b
  | .error e, .error f => c.error e f
  | _, _ => False

/-- How two futures correspond. -/
def Futures (f g : Future) : Prop :=
  f.identifier = g.identifier ∧ Option.Rel (c.Result Eq) f.outcome g.outcome

/-- How two threads that are to be started correspond. -/
structure Jobs (j k : Job) : Prop where
  future : j.future = k.future
  body : j.body = k.body
  scope : j.scope = k.scope
  settings : c.settings j.settings k.settings
  writable : c.writable j.scope

/-- The futures and the threads to be started of a state that corresponds to `s`, and what is known of
    `s` itself. -/
structure Twins (s : State) (futures : Array Future) (jobs : List Job) : Prop where
  size : futures.size = s.futures.size
  futures : ∀ (i : Nat) f g, s.futures[i]? = some f → futures[i]? = some g → c.Futures f g
  jobs : List.Forall₂ c.Jobs s.jobs jobs
  intact : c.intact s.scopes
  settled : c.clean → s.Settled

/-- Corresponding states. -/
def States (s t : State) : Prop :=
  ∃ futures jobs, t = { s with futures := futures, jobs := jobs } ∧ c.Twins s futures jobs

/-- Corresponding computations under way. -/
inductive Runs {α β : Type} (Q : α → β → Prop) : Run α → Run β → Prop where
  | ok {a : α} {b : β} {s t : State} (result : Q a b) (states : c.States s t) :
      Runs Q (.done (.ok a) s) (.done (.ok b) t)
  | error {e f : Error} {s t : State} (errors : c.error e f) (states : c.States s t) :
      Runs Q (.done (.error e) s) (.done (.error f) t)
  | exhausted {s t : State} (states : c.States s t) :
      Runs Q (.done .exhausted s) (.done .exhausted t)
  | gaveUp {s : State} {r : Run β} (lax : c.lax) : Runs Q (.done .exhausted s) r
  | blocked {w : Wait} {s t : State} {resume : State → Run α} {resume' : State → Run β}
      (states : c.States s t)
      (resumed : ∀ s' t', c.States s' t' → Runs Q (resume s') (resume' t')) :
      Runs Q (.blocked w s resume) (.blocked w t resume')

/-- Corresponding computations. -/
def Rel {α β : Type} (Q : α → β → Prop) (m : Machine α) (m' : Machine β) : Prop :=
  ∀ s t, c.States s t → c.Runs Q (m s) (m' t)

end Correspondence

/-! ### Machines as a monad -/

namespace Machine

variable {α β γ σ : Type}

theorem andThen_eq (m : Machine α) (next : Outcome α → State → Run β) (s : State) :
    m.andThen next s = (m s).andThen next := by
  unfold Machine.andThen
  cases m s <;> rfl

theorem bind_eq (m : Machine α) (f : α → Machine β) (s : State) :
    (m >>= f) s = (m s).andThen (Run.onOk f) := andThen_eq m _ s

theorem run_andThen_assoc (r : Run α) (f : α → Machine β) (g : β → Machine γ) :
    (r.andThen (Run.onOk f)).andThen (Run.onOk g) =
      r.andThen (Run.onOk fun a => f a >>= g) := by
  induction r with
  | done outcome s =>
      cases outcome with
      | ok a => exact (bind_eq (f a) g s).symm
      | error e => rfl
      | exhausted => rfl
  | blocked w s resume ih =>
      simp only [Run.andThen]
      congr
      funext t
      exact ih t

/-- Three computations in a row can be put together either way. -/
theorem bind_assoc (m : Machine α) (f : α → Machine β) (g : β → Machine γ) :
    m >>= f >>= g = m >>= fun a => f a >>= g := by
  funext s
  rw [bind_eq, bind_eq, bind_eq]
  exact run_andThen_assoc (m s) f g

/-- What a loop does after a round. -/
def afterRound (again : σ → Machine β) : Round σ β → Machine β
  | .again y => again y
  | .stop b => pure b

/-- A run of a round, with the cases of its outcome told apart as the loops do. -/
theorem run_afterRound (r : Run (Round σ β)) (again : σ → Machine β) :
    (match r with
      | .done (.ok (.again y)) t => again y t
      | .done (.ok (.stop b)) t => .done (.ok b) t
      | .done (.error e) t => .done (.error e) t
      | .done .exhausted t => .done .exhausted t
      | .blocked w t resume => .blocked w t fun u =>
          (resume u).andThen (Run.onOk fun round => match round with
            | .again y => again y
            | .stop b => fun v => .done (.ok b) v)) =
      r.andThen (Run.onOk (afterRound again)) := by
  cases r with
  | done outcome t =>
      cases outcome with
      | ok round => cases round <;> rfl
      | error e => rfl
      | exhausted => rfl
  | blocked w t resume => rfl

/-- An iteration makes a round and decides how to go on. -/
theorem iterate_succ (body : σ → Machine (Round σ β)) (steps : Nat) (x : σ) :
    iterate body (steps + 1) x = body x >>= afterRound (iterate body steps) := by
  funext s
  rw [bind_eq]
  exact run_afterRound (body x s) (iterate body steps)

/-- A fold makes a round for the first item and decides how to go on. -/
theorem fold_cons {α : Type} (body : σ → α → Machine (Round σ β)) (finish : σ → β) (x : σ) (a : α)
    (rest : List α) :
    fold body finish x (a :: rest) =
      body x a >>= afterRound fun y => fold body finish y rest := by
  funext s
  rw [bind_eq]
  exact run_afterRound (body x a s) fun y => fold body finish y rest

theorem run_decorate_id (r : Run α) :
    (r.andThen fun outcome s => match outcome with
      | .error e => .done (.error e) s
      | outcome => .done outcome s) = r := by
  induction r with
  | done outcome s => cases outcome <;> rfl
  | blocked w s resume ih =>
      simp only [Run.andThen]
      congr
      funext t
      exact ih t

/-- Leaving errors as they are is no decoration. -/
theorem decorate_id (m : Machine α) : m.decorate (fun _ e => e) = m := by
  funext s
  simp only [decorate, ite_self]
  exact (andThen_eq m _ s).trans (run_decorate_id (m s))

end Machine

end PluginLisp
