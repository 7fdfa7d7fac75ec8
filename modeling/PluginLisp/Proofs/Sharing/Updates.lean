import PluginLisp.Evaluator.Eval
import PluginLisp.Evaluator.Primitives
import PluginLisp.Proofs.Machine.Running

/-!
Updates of an atom. Any number of parties read an atom, write it, or update it by a function, and
between any two accesses of one of them anybody else may go on. An update calls its function while
the others go on, and the function may use the atom itself, as a party of its own. Whatever the
order, every update that comes to a value has written it once, in place of the value that its function
was called with; so no write is lost. That rests on versions and not on values: a value may come back,
and need not be equal to itself.

Main results: `Orderly.step`, `Reachable.orderly`, `Reachable.linearizes`.
-/

namespace PluginLisp

open Machine

/-- What a run can come to, in whatever states it is resumed. -/
inductive Run.Yields {α : Type} : Run α → Outcome α → Prop where
  | done {outcome : Outcome α} {s : State} : Yields (.done outcome s) outcome
  | resumed {w : Wait} {s : State} {resume : State → Run α} {outcome : Outcome α} (t : State)
      (rest : Yields (resume t) outcome) : Yields (.blocked w s resume) outcome

/-- What a computation can come to, whatever happens before it starts and while it waits. -/
def Machine.Yields {α : Type} (m : Machine α) (outcome : Outcome α) : Prop :=
  ∃ s, (m s).Yields outcome

namespace Contention

/-! ### Programs -/

/-- What a party does to an atom, access by access. Each access is indivisible; a call is not. -/
inductive Program where
  | done (outcome : Outcome Value)
  | read (next : Atom → Program)
  | write (v : Value) (next : Program)
  | compareAndSet (version : UInt64) (v : Value) (next : Bool → Program)
  | call (m : Machine Value) (next : Value → Program)

/-- The computation of a program, if nobody interferes with it. -/
def Program.machine (i : Nat) : Program → Machine Value
  | done outcome => fun s => .done outcome s
  | read next => Evaluator.readAtom i >>= fun a => (next a).machine i
  | write v next => Evaluator.writeAtom i v >>= fun _ => next.machine i
  | compareAndSet version v next =>
      Evaluator.compareAndSet i version v >>= fun written => (next written).machine i
  | call m next => m >>= fun v => (next v).machine i

/-- What can be asked of an atom. -/
inductive Task where
  | deref
  | reset (v : Value)
  | swap (f : Value) (extra : List Value)

/-- A task, and who evaluates it where. -/
structure Request where
  ev : Evaluator
  scope : Nat
  task : Task

namespace Request

variable (r : Request)

/-- The computation of a request. -/
def run (i : Nat) : Machine Value :=
  match r.task with
  | .deref => r.ev.runAtom .deref [.atom i] r.scope
  | .reset v => r.ev.runAtom .reset [.atom i, v] r.scope
  | .swap f extra => r.ev.runAtom .swap (.atom i :: f :: extra) r.scope

/-- The call of a function with the value found and further arguments. -/
def apply (f : Value) (extra : List Value) (v : Value) : Machine Value :=
  r.ev.applyValues f (v :: extra) r.scope

/-- What an update does after its function has answered. -/
def conclude (v : Value) (rest : Program) (written : Bool) : Program :=
  if written then .done (.ok v) else rest

/-- The attempts of an update. -/
def attempts (f : Value) (extra : List Value) : (rounds : Nat) → Program
  | 0 => .done .exhausted
  | rounds + 1 => .read fun found => .call (r.apply f extra found.value) fun v =>
      .compareAndSet found.version v (conclude v (attempts f extra rounds))

/-- The program of a request. -/
def program : Program :=
  match r.task with
  | .deref => .read fun found => .done (.ok found.value)
  | .reset v => .write v (.done (.ok v))
  | .swap f extra => r.attempts f extra r.ev.steps

theorem attempts_machine (i : Nat) (f : Value) (extra : List Value) (rounds : Nat) :
    (r.attempts f extra rounds).machine i = iterate (fun _ => do
      let found ← Evaluator.readAtom i
      let v ← r.ev.applyValues f (found.value :: extra) r.scope
      if ← Evaluator.compareAndSet i found.version v then return .stop v else return .again ())
        rounds () := by
  induction rounds with
  | zero => rfl
  | succ rounds ih =>
      rw [iterate_succ, attempts, Program.machine]
      simp only [Program.machine, bind_assoc]
      congr 1
      funext found
      congr 1
      funext v
      congr 1
      funext written
      cases written with
      | false => exact ih
      | true => rfl

/-- The builtins access the atom as the programs say. -/
theorem program_machine (i : Nat) : r.program.machine i = r.run i := by
  obtain ⟨ev, scope, task⟩ := r
  cases task with
  | deref => rfl
  | reset v => rfl
  | swap f extra => exact attempts_machine _ i f extra ev.steps

end Request

/-! ### Parties -/

/-- A party with its request. -/
structure Party where
  request : Request
  /-- What is left to be done. -/
  program : Program
  /-- How many writes there had been when the request was made. -/
  asked : Nat
  /-- How many writes there had been when the party last read the atom. -/
  seen : Nat

/-- What a party has made of the atom by writing it. -/
structure Write where
  author : Nat
  atom : Atom

end Contention

open Contention in
/-- A state with the parties around one of its atoms, and the writes so far, in order. -/
structure Contention where
  state : State
  parties : List Party
  log : List Write

namespace Contention

/-- A party goes on. -/
def set (x : Contention) (p : Nat) (party : Party) : Contention :=
  { x with parties := x.parties.set p party }

/-- A party goes on and leaves the atom written. -/
def wrote (x : Contention) (p : Nat) (party : Party) (s : State) (a : Atom) : Contention where
  state := s
  parties := x.parties.set p party
  log := x.log ++ [⟨p, a⟩]

/-- What can happen around atom `i`. -/
inductive Step (i : Nat) (x : Contention) : Contention → Prop where
  /-- Somebody comes with a request; that may be the function of an update. -/
  | ask (r : Request) :
      Step i x { x with parties := x.parties ++ [⟨r, r.program, x.log.length, x.log.length⟩] }
  /-- Anything happens that does not touch the atom. -/
  | elsewhere (s : State) (same : s.atoms[i]? = x.state.atoms[i]?) : Step i x { x with state := s }
  | read {p : Nat} {r : Request} {next : Atom → Program} {asked seen : Nat} {found : Atom}
      (party : x.parties[p]? = some ⟨r, .read next, asked, seen⟩)
      (ran : Evaluator.readAtom i x.state = .done (.ok found) x.state) :
      Step i x (x.set p ⟨r, next found, asked, x.log.length⟩)
  | write {p : Nat} {r : Request} {v : Value} {next : Program} {asked seen : Nat} {s : State}
      {a : Atom} (party : x.parties[p]? = some ⟨r, .write v next, asked, seen⟩)
      (ran : Evaluator.writeAtom i v x.state = .done (.ok ()) s) (there : s.atoms[i]? = some a) :
      Step i x (x.wrote p ⟨r, next, asked, seen⟩ s a)
  /-- The versions agree. Fewer writes than there are versions have come since the party read the
      atom. -/
  | replace {p : Nat} {r : Request} {version : UInt64} {v : Value} {next : Bool → Program}
      {asked seen : Nat} {s : State} {a : Atom}
      (party : x.parties[p]? = some ⟨r, .compareAndSet version v next, asked, seen⟩)
      (recent : x.log.length < seen + UInt64.size)
      (ran : Evaluator.compareAndSet i version v x.state = .done (.ok true) s)
      (there : s.atoms[i]? = some a) : Step i x (x.wrote p ⟨r, next true, asked, seen⟩ s a)
  /-- The versions do not agree. -/
  | refuse {p : Nat} {r : Request} {version : UInt64} {v : Value} {next : Bool → Program}
      {asked seen : Nat} {s : State}
      (party : x.parties[p]? = some ⟨r, .compareAndSet version v next, asked, seen⟩)
      (ran : Evaluator.compareAndSet i version v x.state = .done (.ok false) s) :
      Step i x { x.set p ⟨r, next false, asked, seen⟩ with state := s }
  /-- A call answers. What it has done in the meantime are steps of their own. -/
  | answer {p : Nat} {r : Request} {m : Machine Value} {next : Value → Program} {asked seen : Nat}
      {v : Value} (party : x.parties[p]? = some ⟨r, .call m next, asked, seen⟩)
      (yields : m.Yields (.ok v)) : Step i x (x.set p ⟨r, next v, asked, seen⟩)
  /-- A call fails, or runs out of steps. -/
  | fail {p : Nat} {r : Request} {m : Machine Value} {next : Value → Program} {asked seen : Nat}
      {outcome : Outcome Value} (party : x.parties[p]? = some ⟨r, .call m next, asked, seen⟩)
      (yields : m.Yields outcome) (failed : ∀ v, outcome ≠ .ok v) :
      Step i x (x.set p ⟨r, .done outcome, asked, seen⟩)

/-- What can come about around an atom that is `a` at first. -/
inductive Reachable (i : Nat) (a : Atom) : Contention → Prop where
  | start (s : State) (there : s.atoms[i]? = some a) : Reachable i a ⟨s, [], []⟩
  | step {x y : Contention} (before : Reachable i a x) (step : Step i x y) : Reachable i a y

/-! ### What the writes come to -/

/-- What an atom that is `a` at first is after some writes. -/
def latest (a : Atom) (log : List Write) : Atom := (log.getLast?.map Write.atom).getD a

/-- The party has not written. -/
def Silent (log : List Write) (p : Nat) : Prop := ∀ w ∈ log, w.author ≠ p

/-- The party has written once: the value `v`, after `n` other writes. -/
structure WroteOnce (log : List Write) (p n : Nat) (v : Value) : Prop where
  wrote : ∃ w, log[n]? = some w ∧ w.author = p ∧ w.atom.value = v
  once : ∀ m w, log[m]? = some w → w.author = p → m = n

/-- Each write has the next version. -/
def Versioned (a : Atom) (log : List Write) : Prop :=
  ∀ n w, log[n]? = some w → w.atom.version = a.version + UInt64.ofNat (n + 1)

section

variable {a : Atom} {log : List Write} {p n : Nat} {v : Value}

@[simp] theorem latest_nil : latest a [] = a := rfl

@[simp] theorem latest_append (w : Write) : latest a (log ++ [w]) = w.atom := by
  simp [latest]

theorem getElem?_concat {α : Type} {items : List α} {w u : α}
    (found : (items ++ [w])[n]? = some u) :
    items[n]? = some u ∨ n = items.length ∧ u = w := by
  rcases Nat.lt_trichotomy n items.length with inside | rfl | outside
  · exact Or.inl (List.getElem?_append_left inside ▸ found)
  · rw [List.getElem?_concat_length] at found
    exact Or.inr ⟨rfl, (Option.some.inj found).symm⟩
  · rw [List.getElem?_eq_none (by simp; omega)] at found
    cases found

/-- The version counts the writes. -/
theorem latest_version (versioned : Versioned a log) :
    (latest a log).version = a.version + UInt64.ofNat log.length := by
  rcases List.eq_nil_or_concat' log with rfl | ⟨log, w, rfl⟩
  · simp
  · rw [latest_append, versioned log.length w (by simp), List.length_append]
    rfl

/-- The first writes of a log are versioned. -/
theorem Versioned.take (versioned : Versioned a log) (n : Nat) : Versioned a (log.take n) := by
  intro m w found
  rw [List.getElem?_take] at found
  split at found
  · exact versioned m w found
  · cases found

/-- A write under the next version keeps the log versioned. -/
theorem Versioned.append (versioned : Versioned a log) {w : Write}
    (next : w.atom.version = (latest a log).version + 1) : Versioned a (log ++ [w]) := by
  intro n u found
  rcases getElem?_concat found with before | ⟨rfl, rfl⟩
  · exact versioned n u before
  · rw [next, latest_version versioned, UInt64.ofNat_add, UInt64.add_assoc]
    rfl

/-- An atom that has the version it had after `n` writes has not been written since, unless all
    versions have been used in the meantime. -/
theorem Versioned.eq_length (versioned : Versioned a log) (within : n ≤ log.length)
    (recent : log.length < n + UInt64.size)
    (same : (latest a log).version = (latest a (log.take n)).version) : n = log.length := by
  rw [latest_version versioned, latest_version (versioned.take n), List.length_take,
    Nat.min_eq_left within] at same
  have same := congrArg UInt64.toNat ((UInt64.add_right_inj _).1 same)
  simp only [UInt64.toNat_ofNat', UInt64.size] at same recent
  omega

/-- Writes of others keep a party silent. -/
theorem Silent.append (silent : Silent log p) {w : Write} (other : w.author ≠ p) :
    Silent (log ++ [w]) p := by
  intro u member
  rcases List.mem_append.1 member with before | last
  · exact silent u before
  · exact List.mem_singleton.1 last ▸ other

/-- Writes of others do not change what a party has written. -/
theorem WroteOnce.append (wrote : WroteOnce log p n v) {w : Write} (other : w.author ≠ p) :
    WroteOnce (log ++ [w]) p n v := by
  obtain ⟨⟨u, found, author, value⟩, once⟩ := wrote
  refine ⟨⟨u, ?_, author, value⟩, fun m u found author => ?_⟩
  · rw [List.getElem?_append_left (List.getElem?_eq_some_iff.1 found).1, found]
  · rcases getElem?_concat found with before | ⟨-, rfl⟩
    · exact once m u before author
    · exact absurd author other

/-- Who writes for the first time has then written once. -/
theorem Silent.wroteOnce (silent : Silent log p) (b : Atom) :
    WroteOnce (log ++ [⟨p, b⟩]) p log.length b.value := by
  refine ⟨⟨_, List.getElem?_concat_length, rfl, rfl⟩, fun m w found author => ?_⟩
  rcases getElem?_concat found with before | ⟨rfl, -⟩
  · exact absurd author (silent w (List.mem_of_getElem? before))
  · rfl

end

/-! ### Where a party can stand -/

/-- Where party `p` stands with its request, after the writes so far. -/
inductive Standing (a : Atom) (log : List Write) (p : Nat) (r : Request) (asked seen : Nat) :
    Task → Program → Prop where
  | derefs (silent : Silent log p) :
      Standing a log p r asked seen .deref (.read fun found => .done (.ok found.value))
  | dereferenced {n : Nat} (silent : Silent log p) (after : asked ≤ n) (within : n ≤ log.length) :
      Standing a log p r asked seen .deref (.done (.ok (latest a (log.take n)).value))
  | resets {v : Value} (silent : Silent log p) :
      Standing a log p r asked seen (.reset v) (.write v (.done (.ok v)))
  | reset {v : Value} {n : Nat} (after : asked ≤ n) (wrote : WroteOnce log p n v) :
      Standing a log p r asked seen (.reset v) (.done (.ok v))
  | attempts {f : Value} {extra : List Value} {rounds : Nat} (silent : Silent log p) :
      Standing a log p r asked seen (.swap f extra)
        (.read fun found => .call (r.apply f extra found.value) fun v =>
          .compareAndSet found.version v (Request.conclude v (r.attempts f extra rounds)))
  | calls {f : Value} {extra : List Value} {rounds : Nat} {found : Atom} (silent : Silent log p)
      (after : asked ≤ seen) (within : seen ≤ log.length)
      (same : found = latest a (log.take seen)) :
      Standing a log p r asked seen (.swap f extra)
        (.call (r.apply f extra found.value) fun v =>
          .compareAndSet found.version v (Request.conclude v (r.attempts f extra rounds)))
  | answered {f : Value} {extra : List Value} {rounds : Nat} {found : Atom} {v : Value}
      (silent : Silent log p) (within : seen ≤ log.length) (same : found = latest a (log.take seen))
      (yields : (r.apply f extra found.value).Yields (.ok v)) :
      Standing a log p r asked seen (.swap f extra)
        (.compareAndSet found.version v (Request.conclude v (r.attempts f extra rounds)))
  | swapped {f : Value} {extra : List Value} {n : Nat} {v : Value} (after : asked ≤ n)
      (wrote : WroteOnce log p n v)
      (yields : (r.apply f extra (latest a (log.take n)).value).Yields (.ok v)) :
      Standing a log p r asked seen (.swap f extra) (.done (.ok v))
  | failed {f : Value} {extra : List Value} {n : Nat} {outcome : Outcome Value}
      (silent : Silent log p) (failed : ∀ v, outcome ≠ .ok v) (after : asked ≤ n)
      (within : n ≤ log.length)
      (yields : (r.apply f extra (latest a (log.take n)).value).Yields outcome) :
      Standing a log p r asked seen (.swap f extra) (.done outcome)
  | spent {f : Value} {extra : List Value} (silent : Silent log p) :
      Standing a log p r asked seen (.swap f extra) (.done .exhausted)

section

variable {a : Atom} {log : List Write} {p asked seen : Nat} {r : Request} {task : Task}
  {program : Program}

theorem Standing.of_attempts {f : Value} {extra : List Value} (silent : Silent log p)
    (rounds : Nat) :
    Standing a log p r asked seen (.swap f extra) (r.attempts f extra rounds) := by
  cases rounds with
  | zero => exact .spent silent
  | succ rounds => exact .attempts silent

/-- A party that has done nothing stands at the start of its program. -/
theorem Standing.of_program (silent : Silent log p) :
    Standing a log p r asked seen r.task r.program := by
  obtain ⟨ev, scope, task⟩ := r
  cases task with
  | deref => exact .derefs silent
  | reset v => exact .resets silent
  | swap f extra => exact .of_attempts silent ev.steps

/-- A party stands where it stood when another one writes. -/
theorem Standing.append (standing : Standing a log p r asked seen task program) {w : Write}
    (other : w.author ≠ p) : Standing a (log ++ [w]) p r asked seen task program := by
  have longer {n : Nat} (within : n ≤ log.length) : n ≤ (log ++ [w]).length := by
    rw [List.length_append]
    omega
  have same {n : Nat} (within : n ≤ log.length) : (log ++ [w]).take n = log.take n :=
    List.take_append_of_le_length within
  cases standing with
  | derefs silent => exact .derefs (silent.append other)
  | @dereferenced n silent after within =>
      rw [← same within]
      exact .dereferenced (silent.append other) after (longer within)
  | resets silent => exact .resets (silent.append other)
  | reset after wrote => exact .reset after (wrote.append other)
  | attempts silent => exact .attempts (silent.append other)
  | calls silent after within found =>
      exact .calls (silent.append other) after (longer within) (by rw [same within, found])
  | answered silent within found yields =>
      exact .answered (silent.append other) (longer within) (by rw [same within, found]) yields
  | @swapped f extra n v after wrote yields =>
      have within : n ≤ log.length := by
        obtain ⟨w, found, -⟩ := wrote.wrote
        exact Nat.le_of_lt (List.getElem?_eq_some_iff.1 found).1
      exact .swapped after (wrote.append other) (by rwa [same within])
  | failed silent failed after within yields =>
      exact .failed (silent.append other) failed after (longer within) (by rwa [same within])
  | spent silent => exact .spent (silent.append other)

/-! The next access of a party, by where it stands. -/

variable {v : Value}

/-- A party that reads has seen the latest write. -/
theorem Standing.read {next : Atom → Program}
    (standing : Standing a log p r asked seen task (.read next)) (within : asked ≤ log.length) :
    Standing a log p r asked log.length task (next (latest a log)) := by
  have whole : log.take log.length = log := List.take_length
  cases standing with
  | derefs silent =>
      have read : Standing a log p r asked log.length .deref
          (.done (.ok (latest a (log.take log.length)).value)) :=
        .dereferenced silent within (Nat.le_refl _)
      rwa [whole] at read
  | attempts silent => exact .calls silent within (Nat.le_refl _) (by rw [whole])

/-- A party that writes is done, with the write at the end of the log. -/
theorem Standing.write {next : Program}
    (standing : Standing a log p r asked seen task (.write v next)) (within : asked ≤ log.length) :
    next = .done (.ok v) ∧
      Standing a (log ++ [⟨p, (latest a log).set v⟩]) p r asked seen task next := by
  cases standing with
  | resets silent => exact ⟨rfl, .reset within (silent.wroteOnce _)⟩

/-- An update writes in place of the value that its function was called with: if the versions agree,
    that is what the atom still is. -/
theorem Standing.replace {version : UInt64} {next : Bool → Program}
    (standing : Standing a log p r asked seen task (.compareAndSet version v next))
    (within : asked ≤ log.length) (versioned : Versioned a log)
    (recent : log.length < seen + UInt64.size) (same : (latest a log).version = version) :
    next true = .done (.ok v) ∧
      Standing a (log ++ [⟨p, (latest a log).set v⟩]) p r asked seen task (next true) := by
  cases standing with
  | answered silent read found yields =>
      subst found
      obtain rfl := versioned.eq_length read recent same
      refine ⟨rfl, .swapped within (silent.wroteOnce _) ?_⟩
      rwa [List.take_append_of_le_length read]

/-- A party whose write is refused tries again or gives up. -/
theorem Standing.refuse {version : UInt64} {next : Bool → Program}
    (standing : Standing a log p r asked seen task (.compareAndSet version v next)) :
    Standing a log p r asked seen task (next false) := by
  cases standing with
  | answered silent => exact .of_attempts silent _

/-- A party whose function answers goes on with the answer. -/
theorem Standing.answer {m : Machine Value} {next : Value → Program}
    (standing : Standing a log p r asked seen task (.call m next)) (yields : m.Yields (.ok v)) :
    Standing a log p r asked seen task (next v) := by
  cases standing with
  | calls silent _ within found => exact .answered silent within found yields

/-- A party whose function fails is done, and has written nothing. -/
theorem Standing.fail {m : Machine Value} {next : Value → Program} {outcome : Outcome Value}
    (standing : Standing a log p r asked seen task (.call m next)) (yields : m.Yields outcome)
    (failed : ∀ v, outcome ≠ .ok v) :
    Standing a log p r asked seen task (.done outcome) := by
  cases standing with
  | calls silent after within found => exact .failed silent failed after within (found ▸ yields)

end

/-! ### Any order of steps -/

/-- What is known of party `p`. -/
structure Stands (a : Atom) (log : List Write) (p : Nat) (party : Party) : Prop where
  asked : party.asked ≤ log.length
  standing : Standing a log p party.request party.asked party.seen party.request.task party.program

/-- Every party stands where a party can stand, and the atom is what the last write has made of
    it. -/
structure Orderly (i : Nat) (a : Atom) (x : Contention) : Prop where
  stands : ∀ p party, x.parties[p]? = some party → Stands a x.log p party
  now : x.state.atoms[i]? = some (latest a x.log)
  versioned : Versioned a x.log
  authors : ∀ w ∈ x.log, ∃ party, x.parties[w.author]? = some party ∧
    party.program = .done (.ok w.atom.value)

section

variable {i : Nat} {a : Atom} {x y : Contention} {p : Nat} {old new : Party}

/-- What holds of the party that has gone on and of all others holds of every party. -/
theorem forall_set {P : Nat → Party → Prop}
    (rest : ∀ q party, q ≠ p → x.parties[q]? = some party → P q party) (here : P p new) :
    ∀ q party, (x.parties.set p new)[q]? = some party → P q party := by
  intro q party found
  by_cases same : p = q
  · subst same
    rw [List.getElem?_set, if_pos rfl] at found
    split at found
    · exact Option.some.inj found ▸ here
    · cases found
  · rw [List.getElem?_set_ne same] at found
    exact rest q party (Ne.symm same) found

/-- Whoever has written is done, and so it is not the party that goes on. -/
theorem Orderly.authors_set (orderly : Orderly i a x) (party : x.parties[p]? = some old)
    (busy : ∀ v, old.program ≠ .done (.ok v)) (w : Write) (member : w ∈ x.log) :
    ∃ author, (x.parties.set p new)[w.author]? = some author ∧
      author.program = .done (.ok w.atom.value) := by
  obtain ⟨author, found, done⟩ := orderly.authors w member
  have other : p ≠ w.author := by
    rintro rfl
    obtain rfl := Option.some.inj (found.symm.trans party)
    exact busy _ done
  exact ⟨author, (List.getElem?_set_ne other).trans found, done⟩

/-- A party may take a step that leaves the atom alone. -/
theorem Orderly.set (orderly : Orderly i a x) (party : x.parties[p]? = some old)
    (busy : ∀ v, old.program ≠ .done (.ok v)) (stands : Stands a x.log p new) :
    Orderly i a (x.set p new) where
  stands := forall_set (fun q other _ => orderly.stands q other) stands
  now := orderly.now
  versioned := orderly.versioned
  authors := orderly.authors_set party busy

/-- A party may write, if its write is the next one. -/
theorem Orderly.wrote (orderly : Orderly i a x) (party : x.parties[p]? = some old)
    (busy : ∀ v, old.program ≠ .done (.ok v)) {s : State} {v : Value}
    (there : s.atoms[i]? = some ((latest a x.log).set v))
    (stands : Stands a (x.log ++ [⟨p, (latest a x.log).set v⟩]) p new)
    (done : new.program = .done (.ok v)) :
    Orderly i a (x.wrote p new s ((latest a x.log).set v)) := by
  constructor
  case stands =>
      refine forall_set (fun q other apart found => ?_) stands
      obtain ⟨asked, standing⟩ := orderly.stands q other found
      exact ⟨Nat.le_trans asked (by simp [Contention.wrote]), standing.append (Ne.symm apart)⟩
  case now =>
      rw [Contention.wrote, latest_append]
      exact there
  case versioned => exact orderly.versioned.append rfl
  case authors =>
      intro w member
      rcases List.mem_append.1 member with before | last
      · exact orderly.authors_set party busy w before
      · obtain rfl := List.mem_singleton.1 last
        have inside := (List.getElem?_eq_some_iff.1 party).1
        exact ⟨new, List.getElem?_set_self inside, done⟩

/-! ### The accesses -/

variable {s t : State} {b found : Atom} {v : Value} {version : UInt64}

/-- Reading finds the atom as it is. -/
theorem readAtom_found (there : s.atoms[i]? = some b)
    (ran : Evaluator.readAtom i s = .done (.ok found) s) : found = b := by
  simp only [Evaluator.readAtom, run_look, there, Option.getD_some, Run.done.injEq,
    Outcome.ok.injEq] at ran
  exact ran.1.symm

theorem getElem?_modify_atom (there : s.atoms[i]? = some b) (f : Atom → Atom) :
    (s.atoms.modify i f)[i]? = some (f b) := by
  rw [Array.getElem?_modify, if_pos rfl, there]
  rfl

theorem writeAtom_found (there : s.atoms[i]? = some b)
    (ran : Evaluator.writeAtom i v s = .done (.ok ()) t) (after : t.atoms[i]? = some found) :
    found = b.set v := by
  simp only [Evaluator.writeAtom, run_change, Run.done.injEq] at ran
  obtain ⟨-, rfl⟩ := ran
  exact Option.some.inj (after.symm.trans (getElem?_modify_atom there _))

/-- With the version of the atom, the value is written. -/
theorem compareAndSet_same (there : s.atoms[i]? = some b) (v : Value) :
    Evaluator.compareAndSet i b.version v s =
      .done (.ok true) { s with atoms := s.atoms.modify i fun _ => b.set v } := by
  simp [Evaluator.compareAndSet, there, Atom.compareAndSet]

/-- With any other version, nothing is written. -/
theorem compareAndSet_other (there : s.atoms[i]? = some b) (other : b.version ≠ version)
    (v : Value) :
    Evaluator.compareAndSet i version v s =
      .done (.ok false) { s with atoms := s.atoms.modify i fun _ => b } := by
  simp [Evaluator.compareAndSet, there, Atom.compareAndSet, other]

/-- A write that succeeds had the version of the atom. -/
theorem compareAndSet_true (there : s.atoms[i]? = some b)
    (ran : Evaluator.compareAndSet i version v s = .done (.ok true) t)
    (after : t.atoms[i]? = some found) : b.version = version ∧ found = b.set v := by
  by_cases same : b.version = version
  · subst same
    cases (compareAndSet_same there v).symm.trans ran
    exact ⟨rfl, Option.some.inj (after.symm.trans (getElem?_modify_atom there _))⟩
  · cases (compareAndSet_other there same v).symm.trans ran

/-- A write that is refused leaves the atom alone. -/
theorem compareAndSet_false (there : s.atoms[i]? = some b)
    (ran : Evaluator.compareAndSet i version v s = .done (.ok false) t) : t.atoms[i]? = some b := by
  by_cases same : b.version = version
  · subst same
    cases (compareAndSet_same there v).symm.trans ran
  · cases (compareAndSet_other there same v).symm.trans ran
    exact getElem?_modify_atom there _

/-! ### Steps -/

/-- Every step keeps the parties and the atom in order. -/
theorem Orderly.step (orderly : Orderly i a x) (step : Step i x y) : Orderly i a y := by
  cases step with
  | ask r =>
      refine ⟨fun p party found => ?_, orderly.now, orderly.versioned, fun w member => ?_⟩
      · rcases getElem?_concat found with old | ⟨rfl, rfl⟩
        · exact orderly.stands p party old
        · refine ⟨Nat.le_refl _, .of_program fun w member author => ?_⟩
          obtain ⟨_, found, -⟩ := orderly.authors w member
          rw [author, List.getElem?_eq_none (Nat.le_refl _)] at found
          cases found
      · obtain ⟨author, found, done⟩ := orderly.authors w member
        have inside := (List.getElem?_eq_some_iff.1 found).1
        exact ⟨author, (List.getElem?_append_left inside).trans found, done⟩
  | elsewhere s same =>
      exact ⟨orderly.stands, same.trans orderly.now, orderly.versioned, orderly.authors⟩
  | read party ran =>
      obtain rfl := readAtom_found orderly.now ran
      obtain ⟨within, standing⟩ := orderly.stands _ _ party
      exact orderly.set party (by simp) ⟨within, standing.read within⟩
  | write party ran there =>
      obtain rfl := writeAtom_found orderly.now ran there
      obtain ⟨within, standing⟩ := orderly.stands _ _ party
      obtain ⟨done, standing⟩ := standing.write within
      exact orderly.wrote party (by simp) there ⟨Nat.le_trans within (by simp), standing⟩ done
  | replace party recent ran there =>
      obtain ⟨same, rfl⟩ := compareAndSet_true orderly.now ran there
      obtain ⟨within, standing⟩ := orderly.stands _ _ party
      obtain ⟨done, standing⟩ := standing.replace within orderly.versioned recent same
      exact orderly.wrote party (by simp) there ⟨Nat.le_trans within (by simp), standing⟩ done
  | @refuse p r version v next asked seen s party ran =>
      have now := compareAndSet_false orderly.now ran
      obtain ⟨within, standing⟩ := orderly.stands _ _ party
      have gone : Orderly i a (x.set p ⟨r, next false, asked, seen⟩) :=
        orderly.set party (by simp) ⟨within, standing.refuse⟩
      exact ⟨gone.stands, now, gone.versioned, gone.authors⟩
  | answer party yields =>
      obtain ⟨within, standing⟩ := orderly.stands _ _ party
      exact orderly.set party (by simp) ⟨within, standing.answer yields⟩
  | fail party yields failed =>
      obtain ⟨within, standing⟩ := orderly.stands _ _ party
      exact orderly.set party (by simp) ⟨within, standing.fail yields failed⟩

/-- Whatever the order of the steps, the parties and the atom are in order. -/
theorem Reachable.orderly (reachable : Reachable i a x) : Orderly i a x := by
  induction reachable with
  | start s there =>
      constructor
      case stands => simp
      case now => exact there
      case versioned => simp [Versioned]
      case authors => simp
  | step _ step ih => exact ih.step step

/-! ### No update is lost -/

/-- Party `p`, whose request was made after `asked` writes, has come to an outcome. -/
def Ended (x : Contention) (p : Nat) (r : Request) (asked : Nat) (outcome : Outcome Value) : Prop :=
  ∃ seen, x.parties[p]? = some ⟨r, .done outcome, asked, seen⟩

/-- The writes of atom `i`, which is `a` at first, are in the order of their versions, and each
    request is served by one write, or by one look, in that order. -/
structure Linearizes (i : Nat) (a : Atom) (x : Contention) : Prop where
  /-- The parties do what the builtins do. -/
  builtins : ∀ party ∈ x.parties, party.request.program.machine i = party.request.run i
  /-- The atom is what the last write has made of it. -/
  current : x.state.atoms[i]? = some (latest a x.log)
  versioned : Versioned a x.log
  /-- A write is made by somebody who is done with the value written. -/
  authors : ∀ w ∈ x.log, ∃ party, x.parties[w.author]? = some party ∧
    party.program = .done (.ok w.atom.value)
  /-- An update that has come to a value has written it once, and its function came to it when
      called with the value just before that. -/
  swaps : ∀ p r asked f extra v, x.Ended p r asked (.ok v) → r.task = .swap f extra →
    ∃ n, asked ≤ n ∧ WroteOnce x.log p n v ∧
      (r.apply f extra (latest a (x.log.take n)).value).Yields (.ok v)
  /-- An update fails only if its function does, called with a value that was current. -/
  failures : ∀ p r asked f extra e, x.Ended p r asked (.error e) → r.task = .swap f extra →
    ∃ n, asked ≤ n ∧ n ≤ x.log.length ∧
      (r.apply f extra (latest a (x.log.take n)).value).Yields (.error e)
  /-- Setting the value does not fail, and has written it once. -/
  resets : ∀ p r asked outcome v, x.Ended p r asked outcome → r.task = .reset v →
    outcome = .ok v ∧ ∃ n, asked ≤ n ∧ WroteOnce x.log p n v
  /-- A look at the value does not fail, and finds what was current after the request. -/
  derefs : ∀ p r asked outcome, x.Ended p r asked outcome → r.task = .deref →
    ∃ n, asked ≤ n ∧ n ≤ x.log.length ∧ outcome = .ok (latest a (x.log.take n)).value
  /-- Who is not done, has failed or has only looked has written nothing. -/
  silent : ∀ (p : Nat) (party : Party), x.parties[p]? = some party →
    (party.request.task = .deref ∨ ∀ v, party.program ≠ .done (.ok v)) → Silent x.log p

/-- A party that has ended stands at an end of its task. -/
theorem Orderly.ended (orderly : Orderly i a x) {r : Request} {asked : Nat}
    {outcome : Outcome Value} {task : Task} (ended : x.Ended p r asked outcome)
    (same : r.task = task) :
    ∃ seen, Standing a x.log p r asked seen task (.done outcome) := by
  obtain ⟨seen, party⟩ := ended
  exact ⟨seen, same ▸ (orderly.stands p _ party).standing⟩

/-- A party that only looks, or that has no result, has written nothing. -/
theorem Standing.silent {log : List Write} {asked seen : Nat} {r : Request} {task : Task}
    {program : Program} (standing : Standing a log p r asked seen task program)
    (idle : task = .deref ∨ ∀ v, program ≠ .done (.ok v)) : Silent log p := by
  cases standing with
  | derefs silent | dereferenced silent | resets silent | attempts silent | calls silent
  | answered silent | failed silent | spent silent => exact silent
  | reset | swapped => simp at idle

/-- However the parties go on, no update is lost. -/
theorem Reachable.linearizes (reachable : Reachable i a x) : x.Linearizes i a := by
  have orderly := reachable.orderly
  constructor
  case builtins => exact fun party _ => party.request.program_machine i
  case current => exact orderly.now
  case versioned => exact orderly.versioned
  case authors => exact orderly.authors
  case swaps =>
      intro p r asked f extra v ended task
      obtain ⟨seen, standing⟩ := orderly.ended ended task
      cases standing with
      | swapped after wrote yields => exact ⟨_, after, wrote, yields⟩
      | failed _ failed => exact absurd rfl (failed v)
  case failures =>
      intro p r asked f extra e ended task
      obtain ⟨seen, standing⟩ := orderly.ended ended task
      cases standing with
      | failed _ _ after within yields => exact ⟨_, after, within, yields⟩
  case resets =>
      intro p r asked outcome v ended task
      obtain ⟨seen, standing⟩ := orderly.ended ended task
      cases standing with
      | reset after wrote => exact ⟨rfl, _, after, wrote⟩
  case derefs =>
      intro p r asked outcome ended task
      obtain ⟨seen, standing⟩ := orderly.ended ended task
      cases standing with
      | dereferenced _ after within => exact ⟨_, after, within, rfl⟩
  case silent => exact fun p party found => (orderly.stands p party found).standing.silent

/-- An update of `false` by negation is overtaken by another party that sets the atom to `true`, and
    so negates `true` at its second attempt. -/
theorem negation_linearizes : ∃ x, Reachable 0 ⟨0, .boolean false⟩ x ∧
    x.log.map (·.atom.value) = [.boolean true, .boolean false] ∧
    (∃ r, x.Ended 0 r 0 (.ok (.boolean false))) ∧ x.Linearizes 0 ⟨0, .boolean false⟩ := by
  let ev : Evaluator := .ofSteps {} .deferred 2
  let negate : Request := ⟨ev, 0, .swap (.complement (.comp [])) []⟩
  have start : Reachable 0 ⟨0, .boolean false⟩
      ⟨{ atoms := #[⟨0, .boolean false⟩] }, [], []⟩ := .start _ rfl
  have asked := (start.step (.ask negate)).step (.ask ⟨ev, 0, .reset (.boolean true)⟩)
  have looked := asked.step (.read (p := 0) rfl rfl)
  have called := looked.step (.answer (p := 0) (v := .boolean true) rfl ⟨{}, .done⟩)
  have overtaken := called.step (.write (p := 1) rfl rfl rfl)
  have refused := overtaken.step (.refuse (p := 0) rfl rfl)
  have again := refused.step (.read (p := 0) rfl rfl)
  have negated := again.step (.answer (p := 0) (v := .boolean false) rfl ⟨{}, .done⟩)
  have replaced := negated.step (.replace (p := 0) rfl (by decide) rfl rfl)
  exact ⟨_, replaced, rfl, ⟨negate, _, rfl⟩, replaced.linearizes⟩


end

end Contention

end PluginLisp
