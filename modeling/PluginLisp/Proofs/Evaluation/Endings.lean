import PluginLisp.Proofs.Evaluation.Policies
import PluginLisp.Proofs.Machine.Results

/-!
Computations that end. A computation that is started in a world and driven with the threads in turn may
come to an end, and leaves a world behind. Computations in a row end one after the other, each in the
world that the one before it left, and what ends still ends alike when more steps are given.

Main results: `Ends.bind`, `Ends.bind_cases`, `Ends.unique`, `evaluates_iff_ends`.
-/

namespace PluginLisp.World

open Machine

variable {α β : Type} {w u after : World}

/-- Started in a world, the computation comes to an end with an outcome, in the world `after`. -/
def Ends (w : World) (m : Machine α) (outcome : Outcome α) (after : World) : Prop :=
  outcome ≠ .exhausted ∧ ∃ rounds, drive rounds (m w.state) w.threads = (outcome, after)

/-! ### Driving computations in a row -/

section

variable {rounds more : Nat} {r : Run α} {next : Outcome α → State → Run β} {threads : List Thread}
  {outcome : Outcome α} {result : Outcome β}

/-- The second computation starts in the world that the first one has left. -/
theorem drive_andThen (ended : drive rounds r threads = (outcome, u)) (finished : outcome ≠ .exhausted)
    (then_ended : drive more (next outcome u.state) u.threads = (result, after))
    (then_finished : result ≠ .exhausted) :
    drive (rounds + more) (r.andThen next) threads = (result, after) := by
  induction rounds generalizing r threads with
  | zero => cases r <;> exact absurd (congrArg Prod.fst ended).symm finished
  | succ rounds ih =>
      cases r with
      | done outcome s =>
          cases ended
          exact drive_of_le then_ended then_finished (by omega)
      | blocked wait s resume =>
          rw [show rounds + 1 + more = (rounds + more) + 1 by omega]
          simp only [drive, Run.andThen] at ended ⊢
          generalize takeTurns wait ⟨s, threads⟩ = turn at ended
          cases turn with
          | ready w => exact ih ended
          | waiting w => exact ih ended
          | stuck w => exact absurd (congrArg Prod.fst ended).symm finished

/-- Where two computations in a row come to an end, the first one does, and then the second one. -/
theorem exists_drive_of_andThen
    (ended : drive rounds (r.andThen next) threads = (result, after))
    (finished : result ≠ .exhausted) :
    ∃ outcome u, drive rounds r threads = (outcome, u) ∧
      drive rounds (next outcome u.state) u.threads = (result, after) := by
  induction rounds generalizing r threads with
  | zero =>
      have out : (drive 0 (r.andThen next) threads).1 = .exhausted := by
        cases r.andThen next <;> rfl
      rw [ended] at out
      exact absurd out finished
  | succ rounds ih =>
      cases r with
      | done outcome s => exact ⟨outcome, ⟨s, threads⟩, rfl, ended⟩
      | blocked wait s resume =>
          simp only [drive, Run.andThen] at ended ⊢
          generalize takeTurns wait ⟨s, threads⟩ = turn at ended ⊢
          have one_more {outcome : Outcome α} {u : World}
              (rest : drive rounds (next outcome u.state) u.threads = (result, after)) :
              drive (rounds + 1) (next outcome u.state) u.threads = (result, after) :=
            drive_of_le rest finished (Nat.le_succ rounds)
          cases turn with
          | ready w =>
              obtain ⟨outcome, u, first, rest⟩ := ih ended
              exact ⟨outcome, u, first, one_more rest⟩
          | waiting w =>
              obtain ⟨outcome, u, first, rest⟩ := ih (r := .blocked wait w.state resume) ended
              exact ⟨outcome, u, first, one_more rest⟩
          | stuck w => exact absurd (congrArg Prod.fst ended).symm finished

end

/-! ### Computations in a row -/

section

variable {m : Machine α} {f : α → Machine β} {a : α} {b : β} {e : Error} {s : State}
  {outcome : Outcome α} {result : Outcome β}

/-- A computation that is done at once ends there, if it has not run out of steps. -/
theorem ends_of_done (done : m w.state = .done outcome s) (finished : outcome ≠ .exhausted) :
    w.Ends m outcome ⟨s, w.threads⟩ := by
  refine ⟨finished, 1, ?_⟩
  rw [done]
  rfl

theorem ends_pure (w : World) (a : α) : w.Ends (pure a) (.ok a) w := ends_of_done rfl (by simp)

/-- A computation that is done at once has no other end. -/
theorem Ends.eq_of_done (ends : w.Ends m outcome after) {done : Outcome α}
    (run : m w.state = .done done s) : outcome = done ∧ after = ⟨s, w.threads⟩ := by
  obtain ⟨finished, rounds, ended⟩ := ends
  rw [run] at ended
  cases rounds with
  | zero => exact absurd (congrArg Prod.fst ended).symm finished
  | succ rounds =>
      cases ended
      exact ⟨rfl, rfl⟩

/-- Running out of steps is not an end. -/
theorem not_ends_exhausted : ¬ w.Ends exhausted outcome after :=
  fun ends => ends.1 (ends.eq_of_done rfl).1

theorem Ends.eq_of_pure {a' : α} (ends : w.Ends (pure a) (.ok a') after) : a' = a ∧ after = w := by
  obtain ⟨same, rfl⟩ := ends.eq_of_done rfl
  cases same
  exact ⟨rfl, rfl⟩

/-- One computation after the other. -/
theorem Ends.bind (first : w.Ends m (.ok a) u) (second : u.Ends (f a) result after) :
    w.Ends (m >>= f) result after := by
  obtain ⟨finished, rounds, ended⟩ := first
  obtain ⟨then_finished, more, then_ended⟩ := second
  refine ⟨then_finished, rounds + more, ?_⟩
  rw [bind_eq]
  exact drive_andThen ended finished then_ended then_finished

/-- An error of the first computation is one of both in a row: the second one does not start. -/
theorem Ends.bind_error (first : w.Ends m (.error e) after) : w.Ends (m >>= f) (.error e) after := by
  obtain ⟨finished, rounds, ended⟩ := first
  refine ⟨by simp, rounds + 1, ?_⟩
  rw [bind_eq]
  exact drive_andThen ended finished rfl (by simp)

/-- How computations in a row end: with an error of the first one, or as the second one does. -/
theorem Ends.bind_cases (ends : w.Ends (m >>= f) result after) :
    (∃ a u, w.Ends m (.ok a) u ∧ u.Ends (f a) result after) ∨
      ∃ e, result = .error e ∧ w.Ends m (.error e) after := by
  obtain ⟨finished, rounds, ended⟩ := ends
  rw [bind_eq] at ended
  obtain ⟨outcome, u, first, rest⟩ := exists_drive_of_andThen ended finished
  cases outcome with
  | ok a => exact .inl ⟨a, u, ⟨by simp, rounds, first⟩, finished, rounds, rest⟩
  | error e =>
      cases rounds with
      | zero => exact absurd (congrArg Prod.fst rest).symm finished
      | succ rounds =>
          cases rest
          exact .inr ⟨e, rfl, by simp, rounds + 1, first⟩
  | exhausted =>
      have out : result = .exhausted := by cases rounds <;> exact (congrArg Prod.fst rest).symm
      exact absurd out finished

/-- Two computations in a row that end well have both ended well. -/
theorem Ends.of_bind (ends : w.Ends (m >>= f) (.ok b) after) :
    ∃ a u, w.Ends m (.ok a) u ∧ u.Ends (f a) (.ok b) after := by
  obtain both | ⟨e, same, -⟩ := ends.bind_cases
  · exact both
  · cases same

/-- Two computations in a row end well just if the first does and then the second. -/
theorem ends_bind_iff :
    w.Ends (m >>= f) (.ok b) after ↔ ∃ a u, w.Ends m (.ok a) u ∧ u.Ends (f a) (.ok b) after :=
  ⟨Ends.of_bind, fun ⟨_, _, first, second⟩ => first.bind second⟩

/-- An answer is its own end, and changes nothing. -/
theorem ends_pure_iff {a' : α} : w.Ends (pure a) (.ok a') after ↔ a' = a ∧ after = w := by
  constructor
  · exact Ends.eq_of_pure
  · rintro ⟨rfl, rfl⟩
    exact ends_pure _ _

/-- Changing the answer does not change how a computation ends. -/
theorem ends_map_iff {g : α → β} :
    w.Ends (m >>= fun a => pure (g a)) (.ok b) after ↔ ∃ a, w.Ends m (.ok a) after ∧ b = g a := by
  constructor
  · intro ends
    obtain ⟨a, u, first, last⟩ := ends.of_bind
    obtain ⟨rfl, rfl⟩ := last.eq_of_pure
    exact ⟨a, first, rfl⟩
  · rintro ⟨a, first, rfl⟩
    exact first.bind (ends_pure _ _)

theorem ends_ofExcept_iff {r : Except Error α} :
    w.Ends (Machine.ofExcept r) (.ok a) after ↔ r = .ok a ∧ after = w := by
  cases r with
  | ok a' =>
      rw [Except.ok.injEq, eq_comm]
      exact ends_pure_iff
  | error e =>
      constructor
      · intro ends
        cases (ends.eq_of_done rfl).1
      · rintro ⟨failed, -⟩
        cases failed

/-- A result that is checked first has to be a success. -/
theorem ends_ofExcept_bind_iff {r : Except Error α} :
    w.Ends (Machine.ofExcept r >>= f) (.ok b) after ↔
      ∃ a, r = .ok a ∧ w.Ends (f a) (.ok b) after := by
  simp [ends_bind_iff, ends_ofExcept_iff, and_assoc]

/-- A computation ends in one way only. -/
theorem Ends.unique {outcome' : Outcome α} {after' : World} (ends : w.Ends m outcome after)
    (ends' : w.Ends m outcome' after') : outcome = outcome' ∧ after = after' := by
  obtain ⟨finished, rounds, ended⟩ := ends
  obtain ⟨finished', rounds', ended'⟩ := ends'
  have left := drive_of_le ended finished (Nat.le_max_left rounds rounds')
  have right := drive_of_le ended' finished' (Nat.le_max_right rounds rounds')
  exact Prod.mk.inj (left.symm.trans right)

/-- Only what a computation does in the state of the world matters. -/
theorem Ends.congr {m' : Machine α} (ends : w.Ends m outcome after)
    (same : m w.state = m' w.state) : w.Ends m' outcome after := by
  rwa [Ends, ← same]

/-- Decorating errors changes nothing about a value. -/
theorem Ends.decorate (ends : w.Ends m (.ok a) after) (change : State → Error → Error) :
    w.Ends (m.decorate change) (.ok a) after := by
  obtain ⟨finished, rounds, ended⟩ := ends
  refine ⟨finished, rounds + 1, ?_⟩
  rw [Machine.decorate, andThen_eq]
  exact drive_andThen ended finished rfl finished

/-- A computation that succeeds does so without its decoration. -/
theorem Ends.of_decorate {change : State → Error → Error}
    (ends : w.Ends (m.decorate change) (.ok a) after) : w.Ends m (.ok a) after := by
  obtain ⟨finished, rounds, ended⟩ := ends
  rw [Machine.decorate, andThen_eq] at ended
  obtain ⟨outcome, u, first, rest⟩ := exists_drive_of_andThen ended finished
  cases rounds with
  | zero => cases outcome <;> cases rest
  | succ rounds =>
      cases outcome with
      | ok made =>
          cases rest
          exact ⟨finished, rounds + 1, first⟩
      | error e => cases rest
      | exhausted => cases rest

/-- What ends also does so where the steps suffice for more. -/
theorem Ends.approximated {m' : Machine α} (ends : w.Ends m outcome after)
    (approximates : Approximates m m') : w.Ends m' outcome after := by
  obtain ⟨finished, rounds, ended⟩ := ends
  have runs := approximates w.state w.state (approximation_states_refl w.state)
  exact ⟨finished, rounds, drive_of_approximates runs ended finished⟩

/-- A computation that ends with a value comes to that value. -/
theorem Ends.holds {P : α → Prop} (ends : w.Ends m (.ok a) after) (gives : m.Gives P) : P a := by
  obtain ⟨finished, rounds, ended⟩ := ends
  have gives := gives w.state
  generalize m w.state = r, w.threads = threads at ended gives
  induction rounds generalizing r threads with
  | zero => cases r <;> cases ended
  | succ rounds ih =>
      cases r with
      | done outcome s =>
          cases ended
          exact gives a rfl
      | blocked wait s resume =>
          simp only [drive] at ended
          generalize takeTurns wait ⟨s, threads⟩ = turn at ended
          cases turn with
          | ready w => exact ih _ _ ended (gives w.state)
          | waiting w => exact ih _ _ ended gives
          | stuck w => cases ended

/-- What a form evaluates to is how its evaluation ends, given enough steps. -/
theorem evaluates_iff_ends {settings : Settings} {calls : CallPolicy} {form : Form} {scope : Nat}
    {outcome : Outcome Value} :
    w.Evaluates settings calls form scope outcome after ↔
      ∃ steps, w.Ends ((Evaluator.ofSteps settings calls steps).eval form scope) outcome after := by
  constructor
  · rintro ⟨finished, steps, rounds, ended⟩
    exact ⟨steps, finished, rounds, ended⟩
  · rintro ⟨steps, finished, rounds, ended⟩
    exact ⟨finished, steps, rounds, ended⟩

/-- An evaluation that is done at once, with some number of steps, is one. -/
theorem evaluates_of_done {settings : Settings} {form : Form} {scope : Nat} {t : State} {made : Value}
    (steps : Nat)
    (done : (Evaluator.ofSteps settings .deferred steps).eval form scope w.state = .done (.ok made) t) :
    w.Evaluates settings .deferred form scope (.ok made) ⟨t, w.threads⟩ :=
  evaluates_iff_ends.2 ⟨steps, ends_of_done done (by simp)⟩

end

end PluginLisp.World
