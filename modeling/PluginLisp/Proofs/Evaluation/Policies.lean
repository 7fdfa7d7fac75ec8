import PluginLisp.Proofs.Evaluation.Worlds

/-!
Steps and policies of calls. A computation approximates another one if they agree unless the first runs
out of steps. Given enough steps, an evaluator of one policy is approximated by any evaluator of any
policy: a call that is left to be made and forced later has the same effects, in the same order, as a
call that is made at once. So whether evaluation comes to an end and what it comes to depends neither on
the number of steps nor on the policy.

Errors are not decorated here, since a call that is left escapes the frame it was made in.

Main results: `exists_eval_approximates`, `World.Evaluates.under`, `World.Evaluates.unique`.
-/

namespace PluginLisp

open Machine Correspondence

/-! ### Approximation -/

/-- Equality, except that the left computation may run out of steps. -/
def approximation : Correspondence :=
  .same True False (fun _ => True) (fun _ => True) (fun _ _ _ => trivial) (fun _ _ => trivial)
    fun _ => trivial

/-- The two computations agree unless the left one runs out of steps. -/
abbrev Approximates {α : Type} (m m' : Machine α) : Prop := approximation.Rel Eq m m'

theorem approximation_states_refl (s : State) : approximation.States s s :=
  States.refl (fun _ _ => trivial) trivial False.elim

/-- States that approximate each other are the same. -/
theorem eq_of_approximation_states {s t : State} (states : approximation.States s t) : s = t :=
  states.eq (fun _ _ => id) fun _ _ => id

/-! ### Forcing -/

section

variable {settings : Settings} {p p' : CallPolicy} {N M k n m r b : Nat}

/-- Makes the calls that are left, for at most `rounds` rounds, each with a number of steps. -/
abbrev forcing (settings : Settings) (p : CallPolicy) (steps rounds : Nat) :
    Value → Machine Value :=
  iterate (Evaluator.ofSteps settings p steps).forceRound rounds

/-- A call that is left is made in a round of its own. -/
theorem forcing_pending (c : Closure) (args : List Value) :
    forcing settings p M (k + 1) (.pending c args) =
      yieldTurn >>= fun _ => performWith settings p M (.enter c args) >>= forcing settings p M k := by
  rw [forcing, iterate_succ]
  simp only [Evaluator.forceRound, Machine.bind_assoc]
  rfl

/-- A value that is not a pending call is left alone. -/
theorem forcing_value {v : Value} (value : ∀ c args, v ≠ .pending c args) :
    forcing settings p M (k + 1) v = pure v := by
  rw [forcing, iterate_succ, Evaluator.forceRound]
  · rfl
  · exact value

/-- Work done with `N` steps and forced for `k` rounds with `M` steps is approximated under another
    policy, as long as no number there is below `b`. -/
def Simulated (settings : Settings) (p p' : CallPolicy) (N M k b : Nat) : Prop :=
  ∀ n m r, b ≤ n → b ≤ m → b ≤ r → ∀ w,
    Approximates (performWith settings p N w >>= forcing settings p M k)
      (performWith settings p' n w >>= forcing settings p' m r)

/-- A simulation with some steps is one with more. -/
theorem Simulated.mono {b' : Nat} (simulated : Simulated settings p p' N M k b) (above : b ≤ b') :
    Simulated settings p p' N M k b' :=
  fun n m r hn hm hr => simulated n m r (by omega) (by omega) (by omega)

/-- Without steps, nothing has to be shown. -/
theorem Simulated.zero : Simulated settings p p' 0 M k b :=
  fun _ _ _ _ _ _ _ => Rel.gaveUp trivial _

/-- The same value is forced alike, given that a call that is left is made alike. -/
theorem forcing_approximates (later : ∀ j, k = j + 1 → Simulated settings p p' M M j b)
    (hm : b ≤ m) (hr : b < r) (v : Value) :
    Approximates (forcing settings p M k v) (forcing settings p' m r v) := by
  cases k with
  | zero => exact Rel.gaveUp trivial _
  | succ j =>
      obtain ⟨r, rfl⟩ : ∃ q, r = q + 1 := ⟨r - 1, by omega⟩
      by_cases pending : ∃ c args, v = .pending c args
      · obtain ⟨c, args, rfl⟩ := pending
        rw [forcing_pending, forcing_pending]
        exact Rel.yieldTurn.bindEq fun _ => later j rfl m m r hm hm (by omega) _
      · have value : ∀ c args, v ≠ .pending c args :=
          fun c args same => pending ⟨c, args, same⟩
        rw [forcing_value value, forcing_value value]
        exact Rel.pure rfl

/-- The deferring policy leaves the call of a closure pending. -/
theorem callClosure_deferred {c : Closure} {args : List Value}
    (accepts : c.accepts args.length = true) (next : Value → Machine Value) :
    (Evaluator.ofSteps settings .deferred N).callClosure c args >>= next =
      next (.pending c args) := by
  rw [Evaluator.callClosure, if_pos accepts]
  rfl

/-- The immediate policy enters the closure, after a turn of the others. -/
theorem callClosure_immediate {c : Closure} {args : List Value}
    (accepts : c.accepts args.length = true) (next : Value → Machine Value) :
    (Evaluator.ofSteps settings .immediate N).callClosure c args >>= next =
      yieldTurn >>= fun _ => performWith settings .immediate N (.enter c args) >>= next := by
  rw [Evaluator.callClosure, if_pos accepts]
  exact Machine.bind_assoc _ _ _

/-- A call in tail position, once it is forced: whether it is left on one side, on both or on neither,
    it is entered after the same effects. -/
theorem callClosure_approximates (early : Simulated settings p p' N M k b)
    (later : ∀ j, k = j + 1 → Simulated settings p p' M M j b) (hn : b ≤ n) (hm : b ≤ m)
    (hr : b < r) (c : Closure) (args : List Value) :
    Approximates
      ((Evaluator.ofSteps settings p N).callClosure c args >>= forcing settings p M k)
      ((Evaluator.ofSteps settings p' n).callClosure c args >>= forcing settings p' m r) := by
  by_cases accepts : c.accepts args.length = true
  · obtain ⟨r, rfl⟩ : ∃ q, r = q + 1 := ⟨r - 1, by omega⟩
    cases p with
    | deferred =>
        rw [callClosure_deferred accepts]
        cases p' with
        | deferred =>
            rw [callClosure_deferred accepts]
            exact forcing_approximates later hm hr _
        | immediate =>
            rw [callClosure_immediate accepts]
            cases k with
            | zero => exact Rel.gaveUp trivial _
            | succ j =>
                rw [forcing_pending]
                exact Rel.yieldTurn.bindEq fun _ => later j rfl n m _ hn hm (by omega) _
    | immediate =>
        rw [callClosure_immediate accepts]
        cases p' with
        | deferred =>
            rw [callClosure_deferred accepts, forcing_pending]
            exact Rel.yieldTurn.bindEq fun _ => early m m r hm hm (by omega) _
        | immediate =>
            rw [callClosure_immediate accepts]
            exact Rel.yieldTurn.bindEq fun _ => early n m _ hn hm (by omega) _
  · unfold Evaluator.callClosure
    rw [if_neg accepts, if_neg accepts]
    exact Rel.failSame _

/-- Computations in tail position correspond if they do once they are forced. -/
theorem forced_tails (untraced : settings.traced = false)
    (early : Simulated settings p p' N M k b)
    (later : ∀ j, k = j + 1 → Simulated settings p p' M M j b) (hn : b ≤ n) (hm : b ≤ m)
    (hr : b < r) :
    approximation.TailRules (Evaluator.ofSteps settings p N) (Evaluator.ofSteps settings p' n)
      fun left right => Approximates (left >>= forcing settings p M k)
        (right >>= forcing settings p' m r) where
  ofRel rel := rel.bindBoth fun v _ => forcing_approximates later hm hr v
  bind first next := by
    rw [Machine.bind_assoc, Machine.bind_assoc]
    exact first.bind next
  perform _ := early n m r hn hm (by omega) _
  closure {c args} _ _ := callClosure_approximates early later hn hm hr c args
  inFrame rel _ := by
    have plain (p : CallPolicy) (n : Nat) (frame : State → CallFrame) (m : Machine Value) :
        (Evaluator.ofSteps settings p n).inFrame frame m = m := by
      rw [Evaluator.inFrame, Evaluator.ofSteps, untraced]
      rfl
    rw [plain, plain]
    exact rel

/-! ### Enough steps -/

/-- One more step. -/
theorem Simulated.succ (untraced : settings.traced = false)
    (early : Simulated settings p p' N M k b)
    (later : ∀ j, k = j + 1 → Simulated settings p p' M M j b)
    (inner : Simulated settings p p' N N N b)
    (innerLater : ∀ j, N = j + 1 → Simulated settings p p' N N j b) :
    Simulated settings p p' (N + 1) M k (max N b + 2) := by
  intro n m r hn hm hr w
  obtain ⟨n, rfl⟩ : ∃ q, n = q + 1 := ⟨n - 1, by omega⟩
  rw [performWith_succ, performWith_succ]
  have aligned : approximation.Aligned (Evaluator.ofSteps settings p N)
      (Evaluator.ofSteps settings p' n) fun left right =>
        Approximates (left >>= forcing settings p N N) (right >>= forcing settings p' n n) := by
    refine ⟨rfl, Or.inr ⟨trivial, show N ≤ n by omega⟩, ?_, ?_⟩
    · exact forced_tails untraced inner innerLater (by omega) (by omega) (by omega)
    · exact fun rel => rel.weaken fun _ _ same => ⟨same, False.elim⟩
  have workable : approximation.Workable w := by
    cases w with
    | eval form scope => exact ⟨False.elim, trivial⟩
    | builtin b args scope => exact ⟨False.elim, trivial⟩
    | enter c args => exact ⟨False.elim, False.elim⟩
  have tails := forced_tails untraced early later
    (show b ≤ n by omega) (show b ≤ m by omega) (show b < r by omega)
  exact aligned.step tails workable

/-- A bound for the round after the first one, if there is one. -/
theorem exists_simulated_pred {P : Nat → Nat → Prop} (k : Nat)
    (each : ∀ j, k = j + 1 → ∃ b, P j b) : ∃ b, ∀ j, k = j + 1 → P j b := by
  cases k with
  | zero => exact ⟨0, by simp⟩
  | succ k =>
      obtain ⟨b, holds⟩ := each k rfl
      refine ⟨b, fun j same => ?_⟩
      cases same
      exact holds

/-- All work is simulated from some number of steps on. The induction is on a bound for the numbers of
    steps, then on the rounds, and then on the steps of the work itself: work may enter smaller work
    with the same rounds left, force what that leaves with the steps it has, or be forced in a later
    round. -/
theorem exists_simulated (untraced : settings.traced = false) (p p' : CallPolicy) (d : Nat) :
    ∀ k N M, N ≤ d → M ≤ d → ∃ b, Simulated settings p p' N M k b := by
  induction d with
  | zero =>
      intro k N M hN _
      obtain rfl : N = 0 := by omega
      exact ⟨0, Simulated.zero⟩
  | succ d ihSteps =>
      intro k
      induction k using Nat.strongRecOn with
      | _ k ihRounds =>
          intro N
          induction N with
          | zero => exact fun _ _ _ => ⟨0, Simulated.zero⟩
          | succ N ihWork =>
              intro M hN hM
              obtain ⟨b₁, early⟩ := ihWork M (by omega) hM
              obtain ⟨b₂, later⟩ := exists_simulated_pred k fun j same =>
                ihRounds j (by omega) M M hM hM
              obtain ⟨b₃, inner⟩ := ihSteps N N N (by omega) (by omega)
              obtain ⟨b₄, innerLater⟩ := exists_simulated_pred N fun j _ =>
                ihSteps j N N (by omega) (by omega)
              let b := max (max b₁ b₂) (max b₃ b₄)
              refine ⟨max N b + 2, Simulated.succ untraced ?_ ?_ ?_ ?_⟩
              · exact early.mono (by omega)
              · exact fun j same => (later j same).mono (by omega)
              · exact inner.mono (by omega)
              · exact fun j same => (innerLater j same).mono (by omega)

/-- An evaluation is approximated by all evaluations with enough steps, under any policy. -/
theorem exists_eval_approximates (untraced : settings.traced = false) (p p' : CallPolicy)
    (steps : Nat) : ∃ b, ∀ n, b ≤ n → ∀ form scope,
      Approximates ((Evaluator.ofSteps settings p steps).eval form scope)
        ((Evaluator.ofSteps settings p' n).eval form scope) := by
  obtain ⟨b, simulated⟩ := exists_simulated untraced p p' steps steps steps steps
    (Nat.le_refl steps) (Nat.le_refl steps)
  exact ⟨b, fun n above form scope => simulated n n n above above above (.eval form scope)⟩

end

/-! ### Outcomes -/

namespace World

variable {α : Type}

/-- A run that comes to an end ends alike when it is approximated. -/
theorem drive_of_approximates {rounds : Nat} {r r' : Run α} {threads : List Thread}
    {outcome : Outcome α} {w : World} (runs : approximation.Runs Eq r r')
    (ended : drive rounds r threads = (outcome, w)) (finished : outcome ≠ .exhausted) :
    drive rounds r' threads = (outcome, w) := by
  induction rounds generalizing r r' threads with
  | zero => cases r <;> exact absurd (congrArg Prod.fst ended).symm finished
  | succ rounds ih =>
      cases runs with
      | ok same states => rwa [← same, ← eq_of_approximation_states states]
      | error same states =>
          obtain rfl := same
          rwa [← eq_of_approximation_states states]
      | exhausted states => rwa [← eq_of_approximation_states states]
      | gaveUp => exact absurd (congrArg Prod.fst ended).symm finished
      | @blocked wait s t resume resume' states resumed =>
          obtain rfl := eq_of_approximation_states states
          simp only [drive] at ended ⊢
          generalize takeTurns wait ⟨s, threads⟩ = turn at ended
          cases turn with
          | ready w => exact ih (resumed _ _ (approximation_states_refl _)) ended
          | waiting w => exact ih (.blocked (approximation_states_refl _) resumed) ended
          | stuck w => exact ended

/-- More rounds change nothing about a run that comes to an end. -/
theorem drive_of_le {rounds more : Nat} {r : Run α} {threads : List Thread} {outcome : Outcome α}
    {w : World} (ended : drive rounds r threads = (outcome, w)) (finished : outcome ≠ .exhausted)
    (below : rounds ≤ more) : drive more r threads = (outcome, w) := by
  induction rounds generalizing r threads more with
  | zero => cases r <;> exact absurd (congrArg Prod.fst ended).symm finished
  | succ rounds ih =>
      obtain ⟨more, rfl⟩ : ∃ q, more = q + 1 := ⟨more - 1, by omega⟩
      have below : rounds ≤ more := by omega
      cases r with
      | done outcome s => exact ended
      | blocked wait s resume =>
          simp only [drive] at ended ⊢
          generalize takeTurns wait ⟨s, threads⟩ = turn at ended
          cases turn with
          | ready w => exact ih ended below
          | waiting w => exact ih ended below
          | stuck w => exact ended

/-- A form evaluates to an outcome and a world: it comes to an end there, given enough steps and
    rounds. -/
def Evaluates (settings : Settings) (calls : CallPolicy) (w : World) (form : Form) (scope : Nat)
    (outcome : Outcome Value) (after : World) : Prop :=
  outcome ≠ .exhausted ∧ ∃ steps rounds,
    drive rounds ((Evaluator.ofSteps settings calls steps).eval form scope w.state) w.threads =
      (outcome, after)

section

variable {settings : Settings} {calls : CallPolicy} {w after after' : World} {form : Form}
variable {scope : Nat} {outcome outcome' : Outcome Value}

/-- What a form evaluates to is what it comes to under any policy, with any large enough number of
    steps. -/
theorem Evaluates.eventually (untraced : settings.traced = false)
    (evaluates : Evaluates settings calls w form scope outcome after) (calls' : CallPolicy) :
    ∃ b, ∀ n, b ≤ n → ∃ rounds, ∀ more, rounds ≤ more →
      drive more ((Evaluator.ofSteps settings calls' n).eval form scope w.state) w.threads =
        (outcome, after) := by
  obtain ⟨finished, steps, rounds, ended⟩ := evaluates
  obtain ⟨b, approximates⟩ := exists_eval_approximates untraced calls calls' steps
  refine ⟨b, fun n above => ⟨rounds, fun more below => ?_⟩⟩
  have runs := approximates n above form scope w.state w.state (approximation_states_refl w.state)
  exact drive_of_le (drive_of_approximates runs ended finished) finished below

/-- An evaluation by one policy is one by any other. -/
theorem Evaluates.under (untraced : settings.traced = false)
    (evaluates : Evaluates settings calls w form scope outcome after) (calls' : CallPolicy) :
    Evaluates settings calls' w form scope outcome after := by
  obtain ⟨b, eventually⟩ := evaluates.eventually untraced calls'
  obtain ⟨rounds, ended⟩ := eventually b (Nat.le_refl b)
  exact ⟨evaluates.1, b, rounds, ended rounds (Nat.le_refl rounds)⟩

/-- A form evaluates to at most one outcome. -/
theorem Evaluates.unique (untraced : settings.traced = false)
    (evaluates : Evaluates settings calls w form scope outcome after)
    (evaluates' : Evaluates settings calls w form scope outcome' after') :
    (outcome, after) = (outcome', after') := by
  obtain ⟨b, eventually⟩ := evaluates.eventually untraced calls
  obtain ⟨b', eventually'⟩ := evaluates'.eventually untraced calls
  obtain ⟨rounds, ended⟩ := eventually (max b b') (Nat.le_max_left b b')
  obtain ⟨rounds', ended'⟩ := eventually' (max b b') (Nat.le_max_right b b')
  have left := ended (max rounds rounds') (Nat.le_max_left rounds rounds')
  have right := ended' (max rounds rounds') (Nat.le_max_right rounds rounds')
  exact left.symm.trans right

end

end World

end PluginLisp
