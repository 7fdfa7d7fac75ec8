import Mathlib.Data.List.Infix
import PluginLisp.Evaluator.Primitives
import PluginLisp.Proofs.Data.Integers
import PluginLisp.Proofs.Machine.Running
import PluginLisp.Proofs.Number.Checked

/-!
Counting with a wait group. Any number of parties add to the counter, take one off when they are done,
and wait for it to be zero. A party goes on until it has to wait, and in between anybody else may go
on, in any order. Whatever the order, the counter is the exact sum of what was added by those that
succeeded (`Counting.Reachable.counts`). The counter is kept in a word of sixty-four bits: a sum that
would be negative is refused, and at a sum that the word cannot hold the program breaks off.

Main results: `Orderly.step`, `Reachable.orderly`, `Reachable.counts`.
-/

namespace PluginLisp

open Machine

namespace Counting

/-! ### Exact sums -/

/-- What a counter can be: not negative, and small enough for its word. -/
def IsCount (n : Int) : Prop := 0 ≤ n ∧ n < 2 ^ 63

/-- The error of whoever would make the counter negative. -/
def refusal : Error := .runtime "wait group counter went negative"

/-- The program breaks off when the sum is too large for its word. -/
def breakage : Error := Number.overflowError "add"

section

variable {group : WaitGroup} {delta : Int64}

/-- From a counter that is not negative, the sum fits its word unless it is too large. -/
theorem fitsWord_sum (nonneg : 0 ≤ group.count.toInt) :
    Number.fitsWord (group.count.toInt + delta.toInt) = true ↔
      group.count.toInt + delta.toInt < 2 ^ 63 := by
  have lower := delta.le_toInt
  rw [Number.fitsWord_iff]
  omega

/-- Adding comes to the exact sum, if that is a count. -/
theorem add_of_isCount (isCount : IsCount (group.count.toInt + delta.toInt)) :
    ∃ next, group.add delta = .ok next ∧ next.count.toInt = group.count.toInt + delta.toInt := by
  obtain ⟨lower, upper⟩ := isCount
  obtain ⟨next, added, exact⟩ :=
    Number.addInt64_ok (Number.fitsWord_iff.2 ⟨by omega, upper⟩)
  have nonneg : ¬next < 0 := by
    rw [Int64.lt_iff_toInt_lt, exact]
    exact Int.not_lt.2 lower
  exact ⟨⟨next⟩, by simp [WaitGroup.add, added, bind, Except.bind, nonneg], exact⟩

/-- Adding is refused if the exact sum is negative. -/
theorem add_of_negative (nonneg : 0 ≤ group.count.toInt)
    (negative : group.count.toInt + delta.toInt < 0) : group.add delta = .error refusal := by
  have small : group.count.toInt + delta.toInt < 2 ^ 63 := by omega
  obtain ⟨next, added, exact⟩ := Number.addInt64_ok ((fitsWord_sum nonneg).2 small)
  have below : next < 0 := by
    rw [Int64.lt_iff_toInt_lt, exact]
    exact negative
  simp [WaitGroup.add, added, bind, Except.bind, below, refusal]

/-- Adding breaks off if the word cannot hold the exact sum. -/
theorem add_of_too_large (nonneg : 0 ≤ group.count.toInt)
    (large : 2 ^ 63 ≤ group.count.toInt + delta.toInt) : group.add delta = .error breakage := by
  have overflows := Number.addInt64_error (mt (fitsWord_sum nonneg).1 (Int.not_lt.2 large))
  simp [WaitGroup.add, overflows, bind, Except.bind, breakage]

end

/-! ### Parties -/

/-- What can be asked of a wait group. -/
inductive Request where
  | add (delta : Int64)
  | done
  | wait

/-- The computation of a request. -/
def Request.run (g : Nat) : Request → Machine Unit
  | add delta => Evaluator.addToGroup g delta.toInt
  | done => Evaluator.addToGroup g (-1)
  | wait => await (.zero g)

/-- What a request adds to the counter, if it is one that does. -/
def Request.addend? : Request → Option Int
  | add delta => some delta.toInt
  | done => some (-1)
  | wait => none

/-- How far a request has come. -/
inductive Progress where
  | waiting (wait : Wait) (resume : State → Run Unit)
  | done (outcome : Outcome Unit)

/-- A party with its request. -/
structure Party where
  request : Request
  progress : Progress

/-- A party has gone on until it had to wait or was done. -/
structure Move where
  request : Request
  /-- The wait group as it was when the party went on. -/
  found : WaitGroup
  /-- What the party has come to, unless it has to wait. -/
  result : Option (Outcome Unit)
  /-- The wait group as the party left it. -/
  left : WaitGroup

/-- The state in which a run stops. -/
def stateOf : Run Unit → State
  | .done _ s => s
  | .blocked _ s _ => s

/-- What a run has come to. -/
def resultOf : Run Unit → Option (Outcome Unit)
  | .done outcome _ => some outcome
  | .blocked .. => none

/-- How far a run has come. -/
def progressOf : Run Unit → Progress
  | .done outcome _ => .done outcome
  | .blocked wait _ resume => .waiting wait resume

/-- The wait group with a number. -/
def groupAt (s : State) (g : Nat) : WaitGroup := s.waitGroups.getD g {}

end Counting

open Counting in
/-- A state with the parties around one of its wait groups, and what these have done, in order. -/
structure Counting where
  state : State
  parties : List Party
  trace : List Move

namespace Counting

/-- A party has gone on. -/
def advance (x : Counting) (g i : Nat) (request : Request) (run : Run Unit) : Counting where
  state := stateOf run
  parties := x.parties.set i ⟨request, progressOf run⟩
  trace := x.trace ++ [⟨request, groupAt x.state g, resultOf run, groupAt (stateOf run) g⟩]

/-- What can happen around wait group `g`. -/
inductive Step (g : Nat) (x : Counting) : Counting → Prop where
  /-- Somebody comes with a request. -/
  | ask (request : Request) :
      Step g x { x with parties := x.parties ++ [⟨request, .waiting .turn (request.run g)⟩] }
  /-- Anything happens that does not touch the wait group. -/
  | elsewhere (s : State) (same : s.waitGroups[g]? = x.state.waitGroups[g]?) :
      Step g x { x with state := s }
  /-- A party that need not wait any longer goes on. -/
  | proceed {i : Nat} {request : Request} {wait : Wait} {resume : State → Run Unit}
      (party : x.parties[i]? = some ⟨request, .waiting wait resume⟩)
      (isOver : wait.isOver x.state = true) :
      Step g x (x.advance g i request (resume x.state))

/-- What can come about around a new wait group. -/
inductive Reachable (g : Nat) : Counting → Prop where
  | start (s : State) (new : s.waitGroups[g]? = some {}) : Reachable g ⟨s, [], []⟩
  | step {x y : Counting} (before : Reachable g x) (step : Step g x y) : Reachable g y

/-- What a move has added to the counter: nothing, unless it has succeeded. -/
def Move.added (m : Move) : Int :=
  match m.request.addend?, m.result with
  | some n, some (.ok ()) => n
  | _, _ => 0

/-- The exact sum of what was added. -/
def sum (trace : List Move) : Int := (trace.map Move.added).sum

/-! ### What a request comes to -/

/-- What a request comes to by the wait group that it finds, and what it makes of it. -/
inductive Serves (found : WaitGroup) : Request → Option (Outcome Unit) → WaitGroup → Prop where
  | added {request : Request} {n : Int} {next : WaitGroup} (adds : request.addend? = some n)
      (isCount : IsCount (found.count.toInt + n)) (exact : next.count.toInt = found.count.toInt + n) :
      Serves found request (some (.ok ())) next
  | refused {request : Request} {n : Int} (adds : request.addend? = some n)
      (negative : found.count.toInt + n < 0) : Serves found request (some (.error refusal)) found
  | breaks {request : Request} {n : Int} (adds : request.addend? = some n)
      (large : 2 ^ 63 ≤ found.count.toInt + n) : Serves found request (some (.error breakage)) found
  | released (zero : found.count.toInt = 0) : Serves found .wait (some (.ok ())) found
  | waited (positive : 0 < found.count.toInt) : Serves found .wait none found

/-- Where a party stands: what is left is its request, or it has waited and is released. -/
inductive Standing (g : Nat) : Request → Progress → Prop where
  | asks {request : Request} : Standing g request (.waiting .turn (request.run g))
  | waits : Standing g .wait (.waiting (.zero g) fun t => .done (.ok ()) t)
  | done {request : Request} {outcome : Outcome Unit} : Standing g request (.done outcome)

section

variable {g : Nat} {s : State} {found : WaitGroup}

/-- A run that stops in a state with the wait group `next`, having done what `Serves` allows. -/
structure Served (g : Nat) (found : WaitGroup) (request : Request) (run : Run Unit)
    (next : WaitGroup) : Prop where
  serves : Serves found request (resultOf run) next
  standing : Standing g request (progressOf run)
  there : (stateOf run).waitGroups[g]? = some next

theorem groupAt_eq (there : s.waitGroups[g]? = some found) : groupAt s g = found := by
  rw [groupAt, Array.getD_eq_getD_getElem?, there, Option.getD_some]

/-- Waiting is over as soon as the counter is not positive. -/
theorem zero_isOver (there : s.waitGroups[g]? = some found) :
    (Wait.zero g).isOver s = true ↔ found.count.toInt ≤ 0 := by
  simp [Wait.isOver, Wait.isMet, Wait.deadline?, there, WaitGroup.isZero, Int64.le_iff_toInt_le]

/-- The two requests that add are the same but for the number. -/
theorem add_served (there : s.waitGroups[g]? = some found) (nonneg : 0 ≤ found.count.toInt)
    {request : Request} {delta : Int64} (adds : request.addend? = some delta.toInt) :
    ∃ next, Served g found request (Evaluator.addToGroup g delta.toInt s) next := by
  have fails {e : Error} (failed : found.add delta = .error e) :
      Evaluator.addToGroup g delta.toInt s = .done (.error e) s := by
    simp [Evaluator.addToGroup, there, failed]
  by_cases negative : found.count.toInt + delta.toInt < 0
  · rw [fails (add_of_negative nonneg negative)]
    exact ⟨found, .refused adds negative, .done, there⟩
  by_cases small : found.count.toInt + delta.toInt < 2 ^ 63
  · have isCount : IsCount (found.count.toInt + delta.toInt) := ⟨Int.not_lt.1 negative, small⟩
    obtain ⟨next, added, exact⟩ := add_of_isCount isCount
    have ran : Evaluator.addToGroup g delta.toInt s =
        .done (.ok ()) { s with waitGroups := s.waitGroups.modify g fun _ => next } := by
      simp [Evaluator.addToGroup, there, added]
    rw [ran]
    refine ⟨next, .added adds isCount exact, .done, ?_⟩
    simp [stateOf, Array.getElem?_modify, there]
  · rw [fails (add_of_too_large nonneg (Int.not_lt.1 small))]
    exact ⟨found, .breaks adds (Int.not_lt.1 small), .done, there⟩

/-- A party that waits leaves the counter alone. -/
theorem wait_served (there : s.waitGroups[g]? = some found) (nonneg : 0 ≤ found.count.toInt) :
    Served g found .wait (await (.zero g) s) found := by
  by_cases isOver : (Wait.zero g).isOver s = true
  · rw [run_await isOver]
    exact ⟨.released (Int.le_antisymm ((zero_isOver there).1 isOver) nonneg), .done, there⟩
  · have blocked : await (.zero g) s = .blocked (.zero g) s fun t => .done (.ok ()) t := if_neg isOver
    rw [zero_isOver there, Int.not_le] at isOver
    rw [blocked]
    exact ⟨.waited isOver, .waits, there⟩

/-- Whatever is asked of a wait group is served. -/
theorem Request.served (request : Request) (there : s.waitGroups[g]? = some found)
    (nonneg : 0 ≤ found.count.toInt) : ∃ next, Served g found request (request.run g s) next := by
  cases request with
  | add delta => exact add_served there nonneg rfl
  | done =>
      have minusOne : (-1 : Int64).toInt = -1 := by decide
      have adds : Request.done.addend? = some (-1 : Int64).toInt := rfl
      have served := add_served there nonneg adds
      rwa [minusOne] at served
  | wait => exact ⟨found, wait_served there nonneg⟩

/-- A party that goes on is served. -/
theorem Standing.served {request : Request} {wait : Wait} {resume : State → Run Unit}
    (standing : Standing g request (.waiting wait resume)) (isOver : wait.isOver s = true)
    (there : s.waitGroups[g]? = some found) (nonneg : 0 ≤ found.count.toInt) :
    ∃ next, Served g found request (resume s) next := by
  cases standing with
  | asks => exact request.served there nonneg
  | waits =>
      have zero := Int.le_antisymm ((zero_isOver there).1 isOver) nonneg
      exact ⟨found, .released zero, .done, there⟩

end

/-! ### Any order of steps -/

section

variable {g : Nat} {x y : Counting} {trace : List Move}

theorem sum_append (trace : List Move) (m : Move) : sum (trace ++ [m]) = sum trace + m.added := by
  simp [sum]

/-- The sum of what was added moves with the counter. -/
theorem Serves.sum_append {m : Move} (serves : Serves m.found m.request m.result m.left)
    (before : m.found.count.toInt = sum trace) : m.left.count.toInt = sum (trace ++ [m]) := by
  obtain ⟨request, found, result, left⟩ := m
  rw [Counting.sum_append, ← before]
  cases serves with
  | added adds isCount exact => simp [Move.added, adds, exact]
  | refused adds negative => simp [Move.added, adds]
  | breaks adds large => simp [Move.added, adds]
  | released zero => simp [Move.added, Request.addend?]
  | waited positive => simp [Move.added]

/-- No request makes the counter negative. -/
theorem Serves.nonneg {m : Move} (serves : Serves m.found m.request m.result m.left)
    (before : 0 ≤ m.found.count.toInt) : 0 ≤ m.left.count.toInt := by
  obtain ⟨request, found, result, left⟩ := m
  cases serves with
  | added adds isCount exact => exact exact ▸ isCount.1
  | refused | breaks | released | waited => exact before

/-- Every party stands where a party can stand; the counter is the sum of what was added, and every
    move was made by that counter. -/
structure Orderly (g : Nat) (x : Counting) : Prop where
  standing : ∀ party ∈ x.parties, Standing g party.request party.progress
  now : ∃ group, x.state.waitGroups[g]? = some group ∧ group.count.toInt = sum x.trace ∧
    0 ≤ group.count.toInt
  past : ∀ (earlier : List Move) (m : Move), earlier ++ [m] <+: x.trace →
    m.found.count.toInt = sum earlier ∧ 0 ≤ m.found.count.toInt ∧
      Serves m.found m.request m.result m.left

/-- Every step keeps the counter at the exact sum. -/
theorem Orderly.step (orderly : Orderly g x) (step : Step g x y) : Orderly g y := by
  obtain ⟨standing, now, past⟩ := orderly
  cases step with
  | ask request =>
      refine ⟨fun party member => ?_, now, past⟩
      rcases List.mem_append.1 member with before | new
      · exact standing party before
      · obtain rfl := List.mem_singleton.1 new
        exact .asks
  | elsewhere s same => exact ⟨standing, by rwa [same], past⟩
  | @proceed i request wait resume party isOver =>
      obtain ⟨found, there, counted, nonneg⟩ := now
      have member : (⟨request, .waiting wait resume⟩ : Party) ∈ x.parties :=
        List.mem_of_getElem? party
      obtain ⟨next, served⟩ := (standing _ member).served isOver there nonneg
      let m : Move := ⟨request, found, resultOf (resume x.state), next⟩
      have moved : x.advance g i request (resume x.state) =
          ⟨stateOf (resume x.state), x.parties.set i ⟨request, progressOf (resume x.state)⟩,
            x.trace ++ [m]⟩ := by
        rw [advance, groupAt_eq there, groupAt_eq served.there]
      have serves : Serves m.found m.request m.result m.left := served.serves
      rw [moved]
      refine ⟨fun party member => ?_, ⟨next, served.there, ?_, ?_⟩, fun earlier m' inside => ?_⟩
      · rcases List.mem_or_eq_of_mem_set member with before | rfl
        · exact standing party before
        · exact served.standing
      · exact serves.sum_append counted
      · exact serves.nonneg nonneg
      · -- the move that ends a beginning of the trace is the new one, or it was there before
        rcases List.prefix_concat_iff.1 inside with same | before
        · obtain ⟨rfl, last⟩ := List.append_inj' same rfl
          obtain rfl := List.singleton_inj.1 last
          exact ⟨counted, nonneg, serves⟩
        · exact past earlier m' before

/-- Whatever the order of the steps, the counter is the exact sum. -/
theorem Reachable.orderly (reachable : Reachable g x) : Orderly g x := by
  induction reachable with
  | start s new => exact ⟨by simp, ⟨{}, new, rfl, Int.le_refl 0⟩, by simp⟩
  | step _ step ih => exact ih.step step

/-! ### The counter -/

/-- The builtin adds any integer that a value can be read as. -/
theorem runThread_add (g : Nat) {v : Value} {n : Int} (reads : v.asInt = .ok n) :
    ∃ delta : Int64, delta.toInt = n ∧ Evaluator.runThread .add [.waitGroup g, v] =
      ((Request.add delta).run g >>= fun _ => pure .nil) := by
  have bounds := Number.fitsWord_iff.1 (Value.fitsWord_of_asInt reads)
  have same : (Int64.ofInt n).toInt = n := Int64.toInt_ofInt_of_le bounds.1 bounds.2
  refine ⟨Int64.ofInt n, same, ?_⟩
  simp [Evaluator.runThread, Request.run, Evaluator.asWaitGroup, reads, same]

/-- Parties count with wait group `g` as they should. -/
structure Counts (g : Nat) (x : Counting) : Prop where
  /-- The parties do what the builtins do. -/
  builtins : (∀ v n, v.asInt = .ok n → ∃ delta : Int64, delta.toInt = n ∧
      Evaluator.runThread .add [.waitGroup g, v] =
        ((Request.add delta).run g >>= fun _ => pure .nil)) ∧
    Evaluator.runThread .add [.waitGroup g] = ((Request.add 1).run g >>= fun _ => pure .nil) ∧
    Evaluator.runThread .done [.waitGroup g] = (Request.done.run g >>= fun _ => pure .nil) ∧
    Evaluator.runThread .waitZero [.waitGroup g] = (Request.wait.run g >>= fun _ => pure .nil)
  /-- The counter is the exact sum of what was added, and not negative. -/
  counter : ∃ group, x.state.waitGroups[g]? = some group ∧ group.count.toInt = sum x.trace ∧
    0 ≤ sum x.trace
  /-- So it was before and after every move. -/
  moves : ∀ (earlier : List Move) (m : Move), earlier ++ [m] <+: x.trace →
    m.found.count.toInt = sum earlier ∧ m.left.count.toInt = sum (earlier ++ [m]) ∧
      0 ≤ sum earlier
  /-- Adding never waits. It succeeds if the exact sum is not negative and fits its word, is refused
      exactly if the sum is negative, and breaks off if it is too large. -/
  adds : ∀ (earlier : List Move) (m : Move) (n : Int), earlier ++ [m] <+: x.trace →
    m.request.addend? = some n →
    (m.result = some (.ok ()) ↔ 0 ≤ sum earlier + n ∧ sum earlier + n < 2 ^ 63) ∧
    (m.result = some (.error refusal) ↔ sum earlier + n < 0) ∧
    (m.result = some (.error breakage) ↔ 2 ^ 63 ≤ sum earlier + n)
  /-- Whoever fails has changed nothing. -/
  failures : ∀ (earlier : List Move) (m : Move) (e : Error), earlier ++ [m] <+: x.trace →
    m.result = some (.error e) → m.left = m.found
  /-- Whoever has waited goes on when the counter is zero, and waits when it is not. -/
  waits : ∀ (earlier : List Move) (m : Move), earlier ++ [m] <+: x.trace → m.request = .wait →
    m.left = m.found ∧
    (m.result = some (.ok ()) ∧ sum earlier = 0 ∨ m.result = none ∧ 0 < sum earlier)
  /-- Whoever still waits need not wait any longer exactly when the counter is zero. -/
  released : (Wait.zero g).isOver x.state = true ↔ sum x.trace = 0

/-- What an addition answers tells how large the exact sum is. -/
theorem Serves.adds {found left : WaitGroup} {request : Request} {result : Option (Outcome Unit)}
    {n : Int} (serves : Serves found request result left) (adds : request.addend? = some n) :
    (result = some (.ok ()) ↔ IsCount (found.count.toInt + n)) ∧
      (result = some (.error refusal) ↔ found.count.toInt + n < 0) ∧
      (result = some (.error breakage) ↔ 2 ^ 63 ≤ found.count.toInt + n) := by
  have differ : refusal ≠ breakage := by simp [refusal, breakage, Number.overflowError]
  cases serves with
  | added adds' isCount =>
      cases adds.symm.trans adds'
      obtain ⟨lower, upper⟩ := isCount
      simp [IsCount]
      omega
  | refused adds' negative =>
      cases adds.symm.trans adds'
      simp [IsCount, differ]
      omega
  | breaks adds' large =>
      cases adds.symm.trans adds'
      simp [IsCount, differ.symm]
      omega
  | released | waited => cases adds

/-- However the parties go on, the counter is the exact sum. -/
theorem Reachable.counts (reachable : Reachable g x) : x.Counts g := by
  obtain ⟨standing, ⟨group, there, counted, nonneg⟩, past⟩ := reachable.orderly
  constructor
  case builtins => exact ⟨fun v n => runThread_add g, rfl, rfl, rfl⟩
  case counter => exact ⟨group, there, counted, counted ▸ nonneg⟩
  case moves =>
      intro earlier m inside
      obtain ⟨before, nonneg, serves⟩ := past earlier m inside
      exact ⟨before, serves.sum_append before, before ▸ nonneg⟩
  case adds =>
      intro earlier m n inside adds
      obtain ⟨before, -, serves⟩ := past earlier m inside
      have decided := serves.adds adds
      rwa [before] at decided
  case failures =>
      intro earlier m e inside failed
      obtain ⟨-, -, serves⟩ := past earlier m inside
      obtain ⟨request, found, result, left⟩ := m
      cases serves with
      | added => cases failed
      | refused | breaks | released | waited => rfl
  case waits =>
      intro earlier m inside waits
      obtain ⟨before, -, serves⟩ := past earlier m inside
      obtain ⟨request, found, result, left⟩ := m
      rw [← before]
      cases serves with
      | added adds | refused adds | breaks adds =>
          obtain rfl : request = .wait := waits
          cases adds
      | released zero => exact ⟨rfl, Or.inl ⟨rfl, zero⟩⟩
      | waited positive => exact ⟨rfl, Or.inr ⟨rfl, positive⟩⟩
  case released =>
      rw [zero_isOver there, counted]
      omega

/-- Two are added and somebody waits. After one of them is done, one less cannot be taken off than
    there is; after the other one is done as well, the one who waits goes on. -/
theorem twoDone_counts : ∃ x, Reachable 0 x ∧ sum x.trace = 0 ∧
    x.trace.map Move.result = [some (.ok ()), none, some (.ok ()), some (.error refusal),
      some (.ok ()), some (.ok ())] ∧ x.Counts 0 := by
  have start : Reachable 0 ⟨{ waitGroups := #[{}] }, [], []⟩ := .start _ rfl
  have asked := ((((start.step (.ask (.add 2))).step (.ask .wait)).step (.ask .done)).step
    (.ask (.add (-2)))).step (.ask .done)
  have added := asked.step (.proceed (i := 0) rfl rfl)
  have waited := added.step (.proceed (i := 1) rfl rfl)
  have one := waited.step (.proceed (i := 2) rfl rfl)
  have refused := one.step (.proceed (i := 3) rfl rfl)
  have other := refused.step (.proceed (i := 4) rfl rfl)
  have released := other.step (.proceed (i := 1) rfl rfl)
  exact ⟨_, released, rfl, rfl, released.counts⟩

/-- Adding one to the largest word breaks off, although the sum is not negative. -/
theorem largestWord_breaks : ∃ (x : Counting) (earlier : List Move) (m : Move),
    Reachable 0 x ∧ earlier ++ [m] <+: x.trace ∧
    m.request = .add 1 ∧ 0 ≤ sum earlier + 1 ∧ m.result = some (.error breakage) := by
  have start : Reachable 0 ⟨{ waitGroups := #[{}] }, [], []⟩ := .start _ rfl
  have asked := (start.step (.ask (.add Int64.maxValue))).step (.ask (.add 1))
  have added := asked.step (.proceed (i := 0) rfl rfl)
  have breaks := added.step (.proceed (i := 1) rfl rfl)
  exact ⟨_, _, _, breaks, List.prefix_rfl, rfl, by decide, rfl⟩

end

end Counting

end PluginLisp
