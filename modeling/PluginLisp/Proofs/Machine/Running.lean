import PluginLisp.Proofs.Machine.Correspondence

/-!
Running computations from a state: what the first step of a computation comes to, and what is left
of it. A computation that begins with a look at the state or a change of it is run by what follows;
one that begins with waiting goes on at once, or stops and is left to be resumed.

Main results: `run_await_bind`, `run_await_bind_blocked`.
-/

namespace PluginLisp.Machine

variable {α β : Type} {s : State}

@[simp] theorem run_pure (a : α) : (pure a : Machine α) s = .done (.ok a) s := rfl

@[simp] theorem run_fail (e : Error) : (fail e : Machine α) s = .done (.error e) s := rfl

@[simp] theorem run_look (f : State → α) : look f s = .done (.ok (f s)) s := rfl

@[simp] theorem run_change (f : State → State) : change f s = .done (.ok ()) (f s) := rfl

@[simp] theorem run_pure_bind (a : α) (next : α → Machine β) : (pure a >>= next) = next a := rfl

@[simp] theorem run_fail_bind (e : Error) (next : α → Machine β) : (fail e >>= next) = fail e := rfl

@[simp] theorem run_look_bind (f : State → α) (next : α → Machine β) :
    (look f >>= next) s = next (f s) s := rfl

@[simp] theorem run_change_bind (f : State → State) (next : Unit → Machine β) :
    (change f >>= next) s = next () (f s) := rfl

@[simp] theorem run_lift_ok (a : α) :
    (liftM (Except.ok a : Except Error α) : Machine α) = pure a := rfl

@[simp] theorem run_lift_error (e : Error) :
    (liftM (Except.error e : Except Error α) : Machine α) = fail e := rfl

/-- A computation that is done at once has had its first part done at once. -/
theorem run_bind_eq_ok {m : Machine α} {next : α → Machine β} {b : β} {t : State}
    (ok : (m >>= next) s = .done (.ok b) t) :
    ∃ a u, m s = .done (.ok a) u ∧ next a u = .done (.ok b) t := by
  rw [bind_eq] at ok
  cases first : m s with
  | done outcome u =>
      rw [first] at ok
      cases outcome with
      | ok a => exact ⟨a, u, rfl, ok⟩
      | error e => cases ok
      | exhausted => cases ok
  | blocked w u resume =>
      rw [first] at ok
      cases ok

/-! ### Waiting -/

section

variable {w : Wait}

/-- A wait that is over does not wait. -/
theorem run_await (isOver : w.isOver s = true) : await w s = .done (.ok ()) s := by
  rw [await, if_pos isOver]

/-- Going on at once when waiting is over from the start. -/
theorem run_await_bind (isOver : w.isOver s = true) (next : Unit → Machine α) :
    (await w >>= next) s = next () s := by
  rw [bind_eq, run_await isOver]
  rfl

/-- Going on later in any other case. -/
theorem run_await_bind_blocked (waits : w.isOver s = false) (next : Unit → Machine α) :
    (await w >>= next) s = .blocked w s fun t => next () t := by
  rw [bind_eq, await, if_neg (by simp [waits])]
  rfl

end

end PluginLisp.Machine
