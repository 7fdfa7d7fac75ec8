import PluginLisp.Proofs.Evaluation.Policies

/-!
Decorated errors. Where errors are decorated, every call that an error passes through becomes a frame of
it. This changes nothing but the decoration: evaluation with and without it comes to the same value, or
to errors with the same root, and leaves the same scopes, atoms, counters and output. In particular a
handler is told the same text, so that it does the same.

Main result: `evaluates_traced_untraced`.
-/

namespace PluginLisp

open Correspondence

theorem Error.root_withFrame (frame : CallFrame) (e : Error) : (e.withFrame frame).root = e.root := by
  unfold Error.withFrame
  split <;> rfl

theorem Settings.root_framed (settings : Settings) (frame : CallFrame) (e : Error) :
    (settings.framed frame e).root = e.root := by
  unfold Settings.framed
  split
  · exact Error.root_withFrame frame e
  · rfl

/-- Equality up to the decoration of errors. -/
def decoration : Correspondence where
  lax := False
  clean := False
  error e f := e.root = f.root
  settings a b := a.manager = b.manager ∧ a.counter = b.counter ∧ a.libraries = b.libraries
  writable _ := True
  intact _ := True
  error_refl _ := rfl
  error_inFile _ same := same
  error_caughtText same := by
    unfold Error.caughtText
    rw [same]
  error_panic? same := by
    unfold Error.panic?
    rw [same]
  error_framed _ same _ := by rw [Settings.root_framed, Settings.root_framed, same]
  settings_refl _ := ⟨rfl, rfl, rfl⟩
  settings_manager same := same.1
  settings_counter same := same.2.1
  settings_libraries same := same.2.2
  intact_modify _ _ _ := trivial
  intact_push _ _ := trivial
  writable_size _ := trivial

namespace World

variable {manager counter : Nat} {libraries : Libraries} {w after after' : World} {form : Form}
variable {scope : Nat} {outcome outcome' : Outcome Value}

/-- What comes to an end with decorated errors does so without, up to the decoration. -/
theorem Evaluates.withoutTrace {calls : CallPolicy} (alone : w.threads = [])
    (evaluates : w.Evaluates ⟨manager, true, counter, libraries⟩ calls form scope outcome after) :
    ∃ outcome' after',
      w.Evaluates ⟨manager, false, counter, libraries⟩ calls form scope outcome' after' ∧
      decoration.Outcomes (decoration.Both Value.Settled) outcome outcome' ∧
      decoration.Worlds after after' := by
  obtain ⟨finished, steps, rounds, ended⟩ := evaluates
  have settings : decoration.settings ⟨manager, true, counter, libraries⟩
      ⟨manager, false, counter, libraries⟩ := ⟨rfl, rfl, rfl⟩
  have related : decoration.Rel (decoration.Both Value.Settled)
      ((Evaluator.ofSteps ⟨manager, true, counter, libraries⟩ calls steps).eval form scope)
      ((Evaluator.ofSteps ⟨manager, false, counter, libraries⟩ calls steps).eval form scope) :=
    (aligned_ofSteps settings calls steps).eval False.elim trivial
  have states : decoration.States w.state w.state :=
    States.refl (fun _ _ => trivial) trivial False.elim
  have threads : List.Forall₂ decoration.Threads w.threads w.threads := by
    rw [alone]
    exact .nil
  obtain ⟨outcomes, worlds⟩ := (related w.state w.state states).drive id rounds threads
  rw [ended] at outcomes worlds
  refine ⟨_, _, ⟨fun exhausted => ?_, steps, rounds, rfl⟩, outcomes, worlds⟩
  rw [exhausted] at outcomes
  cases outcomes
  exact finished rfl

/-- Decorating errors changes nothing else: with and without it, a form evaluates to the same value or
    to errors with the same root, and the states afterwards are the same apart from the outcomes of
    futures and the threads still to be started. -/
theorem evaluates_traced_untraced (alone : w.threads = [])
    (traced : w.Evaluates ⟨manager, true, counter, libraries⟩ .deferred form scope outcome after)
    (untraced : w.Evaluates ⟨manager, false, counter, libraries⟩ .deferred form scope outcome' after') :
    ((∃ v, outcome = .ok v ∧ outcome' = .ok v) ∨
        ∃ e f, outcome = .error e ∧ outcome' = .error f ∧ e.root = f.root) ∧
      after'.state = { after.state with
        futures := after'.state.futures, jobs := after'.state.jobs } := by
  obtain ⟨_, _, evaluates, outcomes, worlds⟩ := traced.withoutTrace alone
  cases evaluates.unique rfl untraced
  constructor
  · cases outcomes with
    | ok both =>
        obtain ⟨rfl, -⟩ := both
        exact Or.inl ⟨_, rfl, rfl⟩
    | error errors => exact Or.inr ⟨_, _, rfl, rfl, errors⟩
    | exhausted => exact absurd rfl traced.1
  · obtain ⟨futures, jobs, same, -⟩ := worlds.states
    rw [same]

/-- A call of a closure whose body cannot be evaluated. -/
def failingCall : Form := .list [.literal (.function ⟨0, some "fail", [], none, [.list []], 0⟩)]

/-- The outcome and the world of the call, with or without a trace. -/
def afterFailingCall (traced : Bool) : Outcome Value × World :=
  drive 9 ((Evaluator.ofSteps ⟨0, traced, 0, .standard⟩ .deferred 9).eval failingCall 0 {}) []

theorem evaluates_failingCall :
    let frame : CallFrame := ⟨"fail", callText ({} : State).cells "fail" []⟩
    let traced := World.Evaluates ⟨0, true, 0, .standard⟩ .deferred {} failingCall 0
      (.error (.traced .emptyList [frame])) (afterFailingCall true).2
    let untraced := World.Evaluates ⟨0, false, 0, .standard⟩ .deferred {} failingCall 0
      (.error .emptyList) (afterFailingCall false).2
    ({} : World).threads = [] ∧ traced ∧ untraced ∧
      (afterFailingCall false).2.state = { (afterFailingCall true).2.state with
        futures := (afterFailingCall false).2.state.futures
        jobs := (afterFailingCall false).2.state.jobs } := by
  intro frame traced untraced
  -- the call is shown in the scope of the closure, but there is nothing to be shown of that
  have shown (cells cells' : Cells) : callText cells "fail" [] = callText cells' "fail" [] := rfl
  have inside : frame = ⟨"fail", callText (State.addScope {} (some 0)).2.cells "fail" []⟩ :=
    congrArg (CallFrame.mk "fail") (shown _ _)
  have left : traced := by
    refine ⟨by simp, 9, 9, ?_⟩
    rw [inside]
    exact Prod.ext rfl rfl
  have right : untraced := ⟨by simp, 9, 9, Prod.ext rfl rfl⟩
  exact ⟨rfl, left, right, (evaluates_traced_untraced rfl left right).2⟩

end World

end PluginLisp
