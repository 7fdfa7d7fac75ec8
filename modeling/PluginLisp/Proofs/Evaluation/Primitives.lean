import PluginLisp.Proofs.Data.Results
import PluginLisp.Proofs.Evaluation.Calls

/-!
Aligned evaluators run the builtins that are functions alike. Most of them need neither the state nor
the evaluator, and that they keep data settled is known already; the others call functions, print, use
files, or look at what threads share.

Main results: `Rel.runThread`, `Aligned.runFunctional`, `Aligned.runPrimitive`.
-/

namespace PluginLisp.Correspondence

open Machine

variable {c : Correspondence} {ev ev' : Evaluator} {S : Machine Value → Machine Value → Prop}
variable {scope : Nat}

/-! ### What threads share -/

/-- An atom holds the same value on both sides, and a settled one. -/
theorem Rel.readAtom (i : Nat) :
    c.Rel (c.Both fun a => a.value.Settled) (Evaluator.readAtom i) (Evaluator.readAtom i) := by
  refine Rel.look fun s t states => ⟨by rw [states.atoms], fun clean => ?_⟩
  cases found : s.atoms[i]? with
  | none => trivial
  | some a => exact (states.settled clean).atoms a (Array.mem_of_getElem? found)

/-- A new atom starts from a settled value. -/
theorem Rel.addAtom {v : Value} (settled : c.clean → v.Settled) :
    c.Rel Eq (Machine.update fun s => s.addAtom v) (Machine.update fun s => s.addAtom v) := by
  refine Rel.update fun s t states => ⟨congrArg Array.size states.atoms, ?_⟩
  apply states.mapAtoms (fun atoms => atoms.push { value := v })
  intro clean before a member
  rcases Array.mem_push.1 member with inside | rfl
  · exact before a inside
  · exact settled clean

/-- An atom is given a settled value. -/
theorem Rel.writeAtom {i : Nat} {v : Value} (settled : c.clean → v.Settled) :
    c.Rel Eq (Evaluator.writeAtom i v) (Evaluator.writeAtom i v) :=
  Rel.change fun _ _ states => states.mapAtoms (fun atoms => atoms.modify i (·.set v))
    fun clean before => forall_mem_modify before fun _ _ _ => settled clean

/-- An atom is written on both sides or on neither, as its version is the same. -/
theorem Rel.compareAndSet {i : Nat} {version : UInt64} {v : Value}
    (settled : c.clean → v.Settled) :
    c.Rel Eq (Evaluator.compareAndSet i version v) (Evaluator.compareAndSet i version v) := by
  refine Rel.bindBoth (P := fun found => ∀ written a, found = some (written, a) → a.value.Settled)
    (Rel.look fun s t states => ⟨by rw [states.atoms], fun clean written a found => ?_⟩)
    fun found holds => ?_
  · obtain ⟨old, there, same⟩ := Option.map_eq_some_iff.1 found
    have before := (states.settled clean).atoms old (Array.mem_of_getElem? there)
    unfold Atom.compareAndSet at same
    split at same
    · cases same
      exact settled clean
    · cases same
      exact before
  · split
    next written a =>
      refine Rel.bindEq ?_ fun _ => Rel.pure rfl
      exact Rel.change fun s t states => states.mapAtoms (fun atoms => atoms.modify i fun _ => a)
        fun clean before => forall_mem_modify before fun _ _ _ => holds clean written a rfl
    next => exact Rel.pure rfl

theorem Rel.deadlineOf (limit : List Value) :
    c.Rel Eq (Evaluator.deadlineOf limit) (Evaluator.deadlineOf limit) := by
  unfold Evaluator.deadlineOf
  split
  · exact Rel.pure rfl
  · exact Rel.pure rfl
  · apply Rel.bindEq (Rel.ofExceptEq _)
    intro ms
    exact (Rel.look fun s t states => states.clock).bindEq fun now => Rel.pure rfl

/-- A channel is replaced by one whose queue is settled. -/
theorem Rel.setChannel {i : Nat} {channel : Channel}
    (settled : c.clean → Value.AllSettled channel.queue) :
    c.Rel Eq (Evaluator.setChannel i channel) (Evaluator.setChannel i channel) :=
  Rel.change fun _ _ states =>
    states.mapChannels (fun channels => channels.modify i fun _ => channel)
      fun clean before => forall_mem_modify before fun _ _ _ => settled clean

/-- A channel whose values were counted, on either side. -/
theorem Rel.counted {count : Channel → Except Error Channel} {channel : Channel}
    (kept : ∀ counted, count channel = .ok counted → counted.queue = channel.queue)
    (settled : c.clean → Value.AllSettled channel.queue) :
    c.Rel (c.Both fun counted => Value.AllSettled counted.queue)
      (Machine.ofExcept (count channel)) (Machine.ofExcept (count channel)) := by
  apply Rel.ofExcept
  intro clean
  cases counts : count channel with
  | error e => trivial
  | ok counted =>
      have queue := settled clean
      rwa [← kept counted counts] at queue

/-- Counting a value sent leaves the queue alone. -/
theorem Channel.queue_of_countSent {channel counted : Channel}
    (counts : channel.countSent = .ok counted) : counted.queue = channel.queue := by
  obtain ⟨n, -, same⟩ := bind_eq_ok_iff.1 counts
  cases same
  rfl

/-- Counting a value received leaves the queue alone. -/
theorem Channel.queue_of_countReceived {channel counted : Channel}
    (counts : channel.countReceived = .ok counted) : counted.queue = channel.queue := by
  obtain ⟨n, -, same⟩ := bind_eq_ok_iff.1 counts
  cases same
  rfl

/-- A value taken from a channel is settled, as the queue was. -/
theorem Rel.takeFrom (i : Nat) :
    c.Rel (c.Both fun found => ∀ v, found = some v → v.Settled) (Evaluator.takeFrom? i)
      (Evaluator.takeFrom? i) := by
  refine Rel.bindBoth
    (P := fun found => ∀ v rest, found = some (v, rest) →
      v.Settled ∧ Value.AllSettled rest.queue)
    (Rel.look fun s t states => ⟨by rw [states.channels], fun clean v rest found => ?_⟩)
    fun found holds => ?_
  · obtain ⟨channel, there, taken⟩ := Option.bind_eq_some_iff.1 found
    have before := (states.settled clean).channels channel (Array.mem_of_getElem? there)
    unfold Channel.take? at taken
    split at taken
    · cases taken
    next first others queue =>
      cases taken
      rw [queue] at before
      exact before
  · split
    next v rest =>
      have others := fun clean => (holds clean v rest rfl).2
      refine (Rel.setChannel others).bindEq fun _ => ?_
      refine (Rel.counted (fun _ => Channel.queue_of_countReceived) others).bindBoth
        fun counted kept => (Rel.setChannel kept).bindEq fun _ => Rel.pure ⟨rfl, fun clean v' same => ?_⟩
      cases same
      exact (holds clean v rest rfl).1
    next => exact Rel.pure ⟨rfl, by simp⟩

/-- A receiver waits for the same turn and gets the same value. -/
theorem Rel.receive (i : Nat) (deadline : Option Nat) :
    c.Rel (c.Both fun found => ∀ v, found = some v → v.Settled) (Evaluator.receive? i deadline)
      (Evaluator.receive? i deadline) := by
  apply (Rel.await _).bindEq
  intro _
  apply (Rel.takeFrom i).bindBoth
  intro found holds
  split
  next v => exact Rel.pure ⟨rfl, holds⟩
  next =>
    refine Rel.bindEq (Rel.look fun s t states => by rw [states.channels]) fun closed => ?_
    split
    · refine Rel.pure ⟨rfl, fun _ v same => ?_⟩
      cases same
      trivial
    · exact Rel.pure ⟨rfl, by simp⟩

/-- A sender waits for the same turn, puts its value into the queue and waits for it to be taken. -/
theorem Rel.send {i : Nat} {v : Value} (settled : c.clean → v.Settled) :
    c.Rel Eq (Evaluator.send i v) (Evaluator.send i v) := by
  apply (Rel.await _).bindEq
  intro _
  refine Rel.bindBoth (P := fun found => ∀ channel, found = some channel →
      Value.AllSettled channel.queue)
    (Rel.look fun s t states => ⟨by rw [states.channels], fun clean channel there => ?_⟩)
    fun found holds => ?_
  · exact (states.settled clean).channels channel (Array.mem_of_getElem? there)
  · split
    · exact Rel.pure rfl
    next channel =>
      refine Rel.bindBoth (P := fun accepted => Value.AllSettled accepted.queue)
        (Rel.ofExcept fun clean => ?_) fun accepted settledQueue => ?_
      · unfold Channel.accept
        split
        · trivial
        · exact Value.allSettled_append.2 ⟨holds clean channel rfl, settled clean, trivial⟩
      · refine (Rel.setChannel settledQueue).bindEq fun _ => ?_
        refine (Rel.counted (fun _ => Channel.queue_of_countSent) settledQueue).bindBoth
          fun counted kept => (Rel.setChannel kept).bindEq fun _ => ?_
        split
        · exact Rel.await _
        · exact Rel.pure rfl

theorem Rel.closeChannel (i : Nat) :
    c.Rel Eq (Evaluator.closeChannel i) (Evaluator.closeChannel i) :=
  Rel.change fun _ _ states =>
    states.mapChannels (fun channels => channels.modify i Channel.close)
      fun _ before => forall_mem_modify before fun _ _ kept => kept

/-- Wait groups hold no values, and both sides count alike. -/
theorem Rel.addToGroup (i : Nat) (delta : Int) :
    c.Rel Eq (Evaluator.addToGroup i delta) (Evaluator.addToGroup i delta) := by
  refine Rel.bindEq (Rel.look fun s t states => by rw [states.waitGroups]) fun found => ?_
  split
  · exact Rel.pure rfl
  · apply Rel.bindEq (Rel.ofExceptEq _)
    intro next
    exact Rel.change fun s t states => states.mapAside
      (f := fun s => { s with waitGroups := s.waitGroups.modify i fun _ => next })
      (fun _ _ => rfl) rfl rfl rfl rfl rfl

/-- The outcome of a future: a value that is the same on both sides, or errors that correspond. -/
theorem Rel.awaitFuture (i : Nat) (deadline : Option Nat) :
    c.Rel (Option.Rel (c.Result (c.Both Value.Settled))) (Evaluator.awaitFuture? i deadline)
      (Evaluator.awaitFuture? i deadline) := by
  refine (Rel.await _).bindEq fun _ => Rel.look fun s t states => ?_
  have related := states.future i
  have settled : c.clean → ∀ f, s.futures[i]? = some f → ∀ v, f.outcome = some (.ok v) →
      v.Settled := fun clean f there =>
    (states.settled clean).futures f (Array.mem_of_getElem? there)
  generalize s.futures[i]? = left, t.futures[i]? = right at related settled
  cases related with
  | none => exact .none
  | @some f g futures =>
      have outcomes := futures.2
      have here := fun clean => settled clean f rfl
      simp only [Option.bind_some]
      generalize f.outcome = left, g.outcome = right at outcomes here
      cases outcomes with
      | none => exact .none
      | @some r r' results =>
          refine .some ?_
          cases r with
          | error e =>
              cases r' with
              | error f => exact results
              | ok v => exact results.elim
          | ok v =>
              cases r' with
              | error f => exact results.elim
              | ok v' => exact ⟨results, fun clean => here clean v rfl⟩

/-- An operation that answers and changes a part of the state that holds no values. -/
theorem Rel.updateAside {α : Type} {f : State → α × State}
    (apart : ∀ s futures jobs, f { s with futures := futures, jobs := jobs } =
      ((f s).1, { (f s).2 with futures := futures, jobs := jobs }))
    (kept : ∀ s, (f s).2.futures = s.futures ∧ (f s).2.jobs = s.jobs ∧ (f s).2.scopes = s.scopes ∧
      (f s).2.atoms = s.atoms ∧ (f s).2.channels = s.channels) :
    c.Rel Eq (Machine.update f) (Machine.update f) := by
  apply Rel.update
  intro s t states
  obtain ⟨futures, jobs, scopes, atoms, channels⟩ := kept s
  refine ⟨?_, states.mapAside (f := fun s => (f s).2) (fun fs js => congrArg Prod.snd (apart s fs js))
    futures jobs scopes atoms channels⟩
  obtain ⟨fs, js, rfl, -⟩ := states
  exact (congrArg Prod.fst (apart s fs js)).symm

/-- A computation that answers `nil`. -/
theorem Rel.thenNil {α β : Type} {Q : α → β → Prop} {m : Machine α} {m' : Machine β}
    (rel : c.Rel Q m m') :
    c.Rel (c.Both Value.Settled) (m >>= fun _ => Pure.pure Value.nil)
      (m' >>= fun _ => Pure.pure Value.nil) :=
  rel.bind fun _ _ _ => Rel.pure ⟨rfl, fun _ => trivial⟩

/-- A new channel is empty. -/
theorem Rel.addChannel (capacity : Nat) :
    c.Rel Eq (Machine.update fun s => s.addChannel capacity)
      (Machine.update fun s => s.addChannel capacity) := by
  refine Rel.update fun s t states => ⟨congrArg Array.size states.channels, ?_⟩
  refine states.mapChannels (fun channels => channels.push { capacity }) ?_
  intro clean before channel member
  rcases Array.mem_push.1 member with inside | rfl
  · exact before channel inside
  · trivial

/-- Where nothing is found, the answer is `nil`, which is settled. -/
theorem getD_settled {found : Option Value} (settled : ∀ v, found = some v → v.Settled) :
    (found.getD .nil).Settled := by
  cases found with
  | none => trivial
  | some v => exact settled v rfl

section

variable {future channel group v : Value} {args : List Value}

/-- Waiting for a future gives its outcome, which corresponds. -/
theorem Rel.runThread_await :
    c.Rel (c.Both Value.Settled) (Evaluator.runThread .await (future :: args))
      (Evaluator.runThread .await (future :: args)) := by
  refine Rel.bindEq (Rel.ofExceptEq _) fun f => ?_
  apply (Rel.deadlineOf args).bindEq
  intro deadline
  apply (Rel.awaitFuture f deadline).bind
  intro found found' results
  cases results with
  | none => exact Rel.pure ⟨rfl, fun _ => trivial⟩
  | some result => exact Rel.ofResult result

/-- Whether a future is done does not depend on its outcome. -/
theorem Rel.runThread_isDone :
    c.Rel (c.Both Value.Settled) (Evaluator.runThread .isDone [future])
      (Evaluator.runThread .isDone [future]) := by
  refine Rel.bindEq (Rel.ofExceptEq _) fun f => ?_
  refine Rel.bindEq (Rel.look fun s t states => ?_) fun done => Rel.pure ⟨rfl, fun _ => trivial⟩
  have same := states.isDone f
  cases left : s.futures[f]? <;> cases right : t.futures[f]? <;> simp_all

theorem Rel.runThread_makeChannel :
    c.Rel (c.Both Value.Settled) (Evaluator.runThread .makeChannel args)
      (Evaluator.runThread .makeChannel args) := by
  have made (capacity : Nat) : c.Rel (c.Both Value.Settled)
      (do return Value.channel (← Machine.update fun s => s.addChannel capacity))
      (do return Value.channel (← Machine.update fun s => s.addChannel capacity)) :=
    (Rel.addChannel capacity).bindEq fun i => Rel.pure ⟨rfl, fun _ => trivial⟩
  cases args with
  | nil => exact (Rel.pure (Eq.refl (0 : Nat))).bindEq made
  | cons v rest => exact (Rel.ofExceptEq _).bindEq made

/-- The value sent is the second argument. -/
theorem Rel.runThread_send (settled : c.clean → v.Settled) :
    c.Rel (c.Both Value.Settled) (Evaluator.runThread .send [channel, v])
      (Evaluator.runThread .send [channel, v]) := by
  refine Rel.bindEq (Rel.ofExceptEq _) fun i => ?_
  exact (Rel.send settled).bindEq fun _ => Rel.pure ⟨rfl, fun _ => trivial⟩

/-- What is received is settled, or `nil` at the end. -/
theorem Rel.runThread_receive :
    c.Rel (c.Both Value.Settled) (Evaluator.runThread .receive (channel :: args))
      (Evaluator.runThread .receive (channel :: args)) := by
  refine (Rel.deadlineOf args).bindEq fun deadline => ?_
  apply Rel.bindEq (Rel.ofExceptEq _)
  intro i
  apply (Rel.receive i deadline).bindBoth
  intro found holds
  exact Rel.pure ⟨rfl, fun clean => getD_settled (holds clean)⟩

theorem Rel.runThread_tryReceive :
    c.Rel (c.Both Value.Settled) (Evaluator.runThread .tryReceive [channel])
      (Evaluator.runThread .tryReceive [channel]) := by
  refine Rel.bindEq (Rel.ofExceptEq _) fun i => ?_
  apply (Rel.takeFrom i).bindBoth
  intro found holds
  exact Rel.pure ⟨rfl, fun clean => getD_settled (holds clean)⟩

theorem Rel.runThread_close :
    c.Rel (c.Both Value.Settled) (Evaluator.runThread .close [channel])
      (Evaluator.runThread .close [channel]) := by
  refine Rel.bindEq (Rel.ofExceptEq _) fun i => ?_
  exact (Rel.closeChannel i).thenNil

theorem Rel.runThread_isClosed :
    c.Rel (c.Both Value.Settled) (Evaluator.runThread .isClosed [channel])
      (Evaluator.runThread .isClosed [channel]) := by
  refine Rel.bindEq (Rel.ofExceptEq _) fun i => ?_
  refine Rel.bindEq (Rel.look fun s t states => by rw [states.channels]) fun closed => ?_
  exact Rel.pure ⟨rfl, fun _ => trivial⟩

theorem Rel.runThread_makeWaitGroup :
    c.Rel (c.Both Value.Settled) (Evaluator.runThread .makeWaitGroup [])
      (Evaluator.runThread .makeWaitGroup []) := by
  refine Rel.bindEq (Rel.updateAside (fun _ _ _ => rfl) fun _ => ?_) fun i => ?_
  · exact ⟨rfl, rfl, rfl, rfl, rfl⟩
  · exact Rel.pure ⟨rfl, fun _ => trivial⟩

/-- The number to add is the same on both sides, and one without an argument. -/
theorem Rel.runThread_add :
    c.Rel (c.Both Value.Settled) (Evaluator.runThread .add (group :: args))
      (Evaluator.runThread .add (group :: args)) := by
  have added (n : Int) : c.Rel (c.Both Value.Settled)
      (do Evaluator.addToGroup (← Evaluator.asWaitGroup group) n; return Value.nil)
      (do Evaluator.addToGroup (← Evaluator.asWaitGroup group) n; return Value.nil) := by
    apply Rel.bindEq (Rel.ofExceptEq _)
    intro g
    exact (Rel.addToGroup g n).thenNil
  cases args with
  | nil => exact (Rel.pure (Eq.refl (1 : Int))).bindEq added
  | cons v rest => exact (Rel.ofExceptEq _).bindEq added

theorem Rel.runThread_done :
    c.Rel (c.Both Value.Settled) (Evaluator.runThread .done [group])
      (Evaluator.runThread .done [group]) := by
  refine Rel.bindEq (Rel.ofExceptEq _) fun g => ?_
  exact (Rel.addToGroup g (-1)).thenNil

theorem Rel.runThread_waitZero :
    c.Rel (c.Both Value.Settled) (Evaluator.runThread .waitZero [group])
      (Evaluator.runThread .waitZero [group]) := by
  refine Rel.bindEq (Rel.ofExceptEq _) fun g => ?_
  exact (Rel.await _).thenNil

theorem Rel.sleep (ms : Nat) : c.Rel Eq (Evaluator.sleep ms) (Evaluator.sleep ms) :=
  (Rel.look fun _ _ states => states.clock).bindEq fun _ => Rel.await _

theorem Rel.runThread_sleep :
    c.Rel (c.Both Value.Settled) (Evaluator.runThread .sleep [v])
      (Evaluator.runThread .sleep [v]) := by
  refine Rel.bindEq (Rel.ofExceptEq _) fun ms => ?_
  exact (Rel.sleep ms).thenNil

end

/-- What threads share is the same on both sides, whatever the evaluators. -/
theorem Rel.runThread {op : ThreadOp} {args : List Value}
    (settled : c.clean → Value.AllSettled args) :
    c.Rel (c.Both Value.Settled) (Evaluator.runThread op args) (Evaluator.runThread op args) := by
  unfold Evaluator.runThread
  split
  case h_1 => exact Rel.runThread_await
  case h_2 => exact Rel.runThread_isDone
  case h_3 => exact Rel.runThread_makeChannel
  case h_4 => exact Rel.runThread_send fun clean => (settled clean).2.1
  case h_5 => exact Rel.runThread_receive
  case h_6 => exact Rel.runThread_tryReceive
  case h_7 => exact Rel.runThread_close
  case h_8 => exact Rel.runThread_isClosed
  case h_9 => exact Rel.runThread_makeWaitGroup
  case h_10 => exact Rel.runThread_add
  case h_11 => exact Rel.runThread_done
  case h_12 => exact Rel.runThread_waitZero
  case h_13 => exact Rel.runThread_sleep
  case h_14 => exact Rel.failSame _

/-! ### Console and files -/

theorem Rel.readFile (path : String) :
    c.Rel Eq (Evaluator.readFile path) (Evaluator.readFile path) := by
  refine Rel.bindEq (Rel.look fun s t states => by rw [states.files]) fun content => ?_
  split
  · exact Rel.pure rfl
  · exact Rel.failSame _

/-- A change of a part of the state that holds no values. -/
theorem Rel.changeAside {f : State → State}
    (apart : ∀ s futures jobs, f { s with futures := futures, jobs := jobs } =
      { f s with futures := futures, jobs := jobs })
    (kept : ∀ s, (f s).futures = s.futures ∧ (f s).jobs = s.jobs ∧ (f s).scopes = s.scopes ∧
      (f s).atoms = s.atoms ∧ (f s).channels = s.channels) :
    c.Rel Eq (Machine.change f) (Machine.change f) := by
  apply Rel.change
  intro s t states
  obtain ⟨futures, jobs, scopes, atoms, channels⟩ := kept s
  exact states.mapAside (apart s) futures jobs scopes atoms channels

/-! ### Sequences in step -/

/-- The first elements of settled sequences are settled. -/
theorem heads_settled {seqs : List (List Value)} {heads : List Value}
    (settled : ∀ seq ∈ seqs, Value.AllSettled seq) (found : seqs.mapM List.head? = some heads) :
    Value.AllSettled heads := by
  induction seqs generalizing heads with
  | nil =>
      cases found
      trivial
  | cons seq rest ih =>
      rw [List.mapM_cons] at found
      obtain ⟨first, head, more⟩ := Option.bind_eq_some_iff.1 found
      obtain ⟨others, tail, same⟩ := Option.bind_eq_some_iff.1 more
      cases same
      obtain ⟨here, there⟩ := List.forall_mem_cons.1 settled
      exact ⟨Value.allSettled_iff.1 here first (List.mem_of_head? head), ih there tail⟩

/-- Settled sequences taken in step give settled arguments. -/
theorem inStep_settled {count : Nat} {seqs : List (List Value)}
    (settled : ∀ seq ∈ seqs, Value.AllSettled seq) :
    ∀ values ∈ Evaluator.inStep count seqs, Value.AllSettled values := by
  fun_induction Evaluator.inStep count seqs with
  | case1 => exact fun values member => absurd member List.not_mem_nil
  | case2 count seqs heads found ih =>
      refine List.forall_mem_cons.2 ⟨heads_settled settled found, ih fun seq member => ?_⟩
      obtain ⟨whole, inside, rfl⟩ := List.mem_map.1 member
      exact (settled whole inside).of_subset fun v => List.mem_of_mem_drop
  | case3 => exact fun values member => absurd member List.not_mem_nil

/-- Settled values are settled functions, if they are functions at all. -/
theorem Rel.asCallables (form : String) {fs : List Value}
    (settled : c.clean → Value.AllSettled fs) :
    c.Rel (c.Both Value.AllSettled) (Evaluator.asCallables form fs : Machine (List Value))
      (Evaluator.asCallables form fs : Machine (List Value)) := by
  apply Rel.ofExcept
  intro clean
  have each := Value.allSettled_iff.1 (settled clean)
  exact (Yields.mapM fun f member => Value.asCallable_settled (each f member) form).of_weaker
    fun _ => Value.allSettled_iff.2

namespace Aligned

variable (aligned : c.Aligned ev ev' S)
include aligned

/-- Identity gives back its settled argument, and a generated symbol has the same number. -/
theorem runGeneral {op : GeneralOp} {args : List Value}
    (settled : c.clean → Value.AllSettled args) :
    c.Rel (c.Both Value.Settled) (ev.runGeneral op args) (ev'.runGeneral op args) := by
  unfold Evaluator.runGeneral
  split
  case h_1 v => exact Rel.pure ⟨rfl, fun clean => (settled clean).1⟩
  case h_2 v => exact Rel.pure ⟨rfl, fun _ => trivial⟩
  case h_3 =>
      rw [c.settings_counter aligned.settings]
      have counted (stem : String) : c.Rel (c.Both Value.Settled)
          (Machine.update (fun s => s.count ev'.settings.counter) >>= fun n =>
            Pure.pure (Value.symbol (stem ++ "__" ++ toString n.toNat)))
          (Machine.update (fun s => s.count ev'.settings.counter) >>= fun n =>
            Pure.pure (Value.symbol (stem ++ "__" ++ toString n.toNat))) := by
        refine Rel.bindEq (Rel.updateAside (fun _ _ _ => rfl) fun _ => ?_) fun n => ?_
        · exact ⟨rfl, rfl, rfl, rfl, rfl⟩
        · exact Rel.pure ⟨rfl, fun _ => trivial⟩
      cases args with
      | nil => exact counted "G"
      | cons v rest =>
          exact Rel.bindEq (Rel.look fun s t states => by rw [states.cells]) fun stem => counted stem
  case h_4 v =>
      exact Rel.bindEq (Rel.look fun s t states => by rw [states.cells]) fun text => Rel.failSame _
  case h_5 v => exact Rel.pure ⟨rfl, fun _ => trivial⟩
  case h_6 => exact Rel.failSame _

section

variable (writable : c.writable scope)
include writable

/-! ### Functions that call functions -/

/-- A settled function gives related answers for one settled argument. -/
theorem applyToOne {f item : Value} (settled : c.clean → f.Settled)
    (settledItem : c.clean → item.Settled) :
    c.Rel (c.Both Value.Settled) (ev.applyValues f [item] scope) (ev'.applyValues f [item] scope) :=
  aligned.applyValues writable settled fun clean => ⟨settledItem clean, trivial⟩

/-- A settled function gives related answers for two settled arguments. -/
theorem applyToTwo {f first second : Value} (settled : c.clean → f.Settled)
    (settledFirst : c.clean → first.Settled) (settledSecond : c.clean → second.Settled) :
    c.Rel (c.Both Value.Settled) (ev.applyValues f [first, second] scope)
      (ev'.applyValues f [first, second] scope) :=
  aligned.applyValues writable settled fun clean =>
    ⟨settledFirst clean, settledSecond clean, trivial⟩

/-- A comparator that calls a function decides the same on both sides. -/
theorem comparatorBefore {f a b : Value} (settled : c.clean → f.Settled)
    (settledA : c.clean → a.Settled) (settledB : c.clean → b.Settled) :
    c.Rel Eq (ev.comparatorBefore f scope a b) (ev'.comparatorBefore f scope a b) := by
  have asked := aligned.applyToTwo writable settled settledA settledB
  have askedBack := aligned.applyToTwo writable settled settledB settledA
  apply asked.bindBoth
  intro answer _
  split
  · exact Rel.pure rfl
  · exact askedBack.discard.bindEq fun _ => Rel.pure rfl
  · exact askedBack.discard.bindEq fun _ => Rel.pure rfl
  · exact Rel.bindEq (Rel.ofExceptEq _) fun x => Rel.pure rfl

/-- Folding a sequence keeps the intermediate result settled. -/
theorem combine {f first : Value} {items : List Value} (settled : c.clean → f.Settled)
    (settledFirst : c.clean → first.Settled) (settledItems : c.clean → Value.AllSettled items) :
    c.Rel (c.Both Value.Settled) (ev.combine f first items scope)
      (ev'.combine f first items scope) := by
  refine Rel.fold (X := c.Both Value.Settled) ?_ (fun _ _ both => both) first first
    ⟨rfl, settledFirst⟩
  intro item member acc acc' both
  obtain ⟨rfl, inside⟩ := both
  have here := fun clean => Value.allSettled_iff.1 (settledItems clean) item member
  exact (aligned.applyToTwo writable settled inside here).bindBoth fun v holds =>
    Rel.pure (show c.Both Value.Settled v v from ⟨rfl, holds⟩)

section

variable {f coll : Value} {args : List Value}

/-- Each call of `map` has settled arguments, and its results are settled. -/
theorem runFunctional_map (settled : c.clean → f.Settled)
    (settledArgs : c.clean → Value.AllSettled args) :
    c.Rel (c.Both Value.Settled) (ev.runFunctional .map (f :: args) scope)
      (ev'.runFunctional .map (f :: args) scope) := by
  refine Rel.bindBoth (P := fun seqs => ∀ seq ∈ seqs, Value.AllSettled seq)
    (Rel.ofExcept fun clean => ?_) fun seqs holds => ?_
  · have each := Value.allSettled_iff.1 (settledArgs clean)
    exact Yields.mapM fun coll member => Value.asSeq_settled (each coll member)
  · refine (Rel.collect (P := Value.Settled) fun values member => ?_).bindBoth
      fun results inside => ?_
    · exact aligned.applyValues writable settled fun clean =>
        inStep_settled (holds clean) values member
    · exact Rel.pure ⟨rfl, fun clean => Value.allSettled_iff.2 (inside clean)⟩

/-- The elements that `filter` keeps are the same on both sides. -/
theorem runFunctional_filter (settled : c.clean → f.Settled) (settledColl : c.clean → coll.Settled) :
    c.Rel (c.Both Value.Settled) (ev.runFunctional .filter [f, coll] scope)
      (ev'.runFunctional .filter [f, coll] scope) := by
  refine Rel.bindBoth (Rel.ofExcept fun clean => Value.asSeq_settled (settledColl clean))
    fun items holds => ?_
  refine Rel.bindBoth (P := Value.AllSettled) ?_ fun kept inside => Rel.pure ⟨rfl, inside⟩
  refine Rel.fold (X := c.Both Value.AllSettled) ?_ ?_ [] [] ⟨rfl, fun _ => trivial⟩
  · intro item member kept kept' both
    obtain ⟨rfl, inside⟩ := both
    have here := fun clean => Value.allSettled_iff.1 (holds clean) item member
    apply (aligned.applyToOne writable settled here).bindBoth
    intro answer _
    split
    · refine Rel.pure (show c.Both Value.AllSettled _ _ from ⟨rfl, fun clean => ?_⟩)
      exact ⟨here clean, inside clean⟩
    · exact Rel.pure (show c.Both Value.AllSettled _ _ from ⟨rfl, inside⟩)
  · intro kept kept' both
    obtain ⟨rfl, inside⟩ := both
    exact ⟨rfl, fun clean => Value.allSettled_reverse.2 (inside clean)⟩

/-- `reduce` starts from a settled value, given or the first element. -/
theorem runFunctional_reduce (settled : c.clean → f.Settled)
    (settledArgs : c.clean → Value.AllSettled args) :
    c.Rel (c.Both Value.Settled) (ev.runFunctional .reduce (f :: args) scope)
      (ev'.runFunctional .reduce (f :: args) scope) := by
  rw [Evaluator.runFunctional, Evaluator.runFunctional]
  cases last : args.getLast? with
  | none => exact Rel.failSame _
  | some coll =>
      have inColl := fun clean =>
        Value.allSettled_iff.1 (settledArgs clean) coll (List.mem_of_getLast? last)
      have start := fun clean => (settledArgs clean).of_subset (List.dropLast_subset args)
      generalize args.dropLast = given at start
      refine Rel.bindBoth (Rel.ofExcept fun clean => Value.asSeq_settled (inColl clean))
        fun items holds => ?_
      split
      · exact aligned.combine writable settled (fun clean => (start clean).1) holds
      · exact aligned.combine writable settled (fun clean => (holds clean).1)
          fun clean => (holds clean).2
      · exact aligned.applyValues writable settled fun _ => trivial

/-- `every?` answers a truth value. -/
theorem runFunctional_every (settled : c.clean → f.Settled) (settledColl : c.clean → coll.Settled) :
    c.Rel (c.Both Value.Settled) (ev.runFunctional .every [f, coll] scope)
      (ev'.runFunctional .every [f, coll] scope) := by
  refine Rel.bindBoth (Rel.ofExcept fun clean => Value.asSeq_settled (settledColl clean))
    fun items holds => ?_
  refine Rel.fold (X := Eq) ?_ (fun _ _ _ => ⟨rfl, fun _ => trivial⟩) () () rfl
  intro item member _ _ _
  have here := fun clean => Value.allSettled_iff.1 (holds clean) item member
  apply (aligned.applyToOne writable settled here).bindBoth
  intro answer _
  split
  · exact Rel.pure (Eq.refl ())
  · exact Rel.pure ⟨rfl, fun _ => trivial⟩

/-- `some` answers what its function does, or `nil`. -/
theorem runFunctional_some (settled : c.clean → f.Settled) (settledColl : c.clean → coll.Settled) :
    c.Rel (c.Both Value.Settled) (ev.runFunctional .some [f, coll] scope)
      (ev'.runFunctional .some [f, coll] scope) := by
  refine Rel.bindBoth (Rel.ofExcept fun clean => Value.asSeq_settled (settledColl clean))
    fun items holds => ?_
  refine Rel.fold (X := Eq) ?_ (fun _ _ _ => ⟨rfl, fun _ => trivial⟩) () () rfl
  intro item member _ _ _
  have here := fun clean => Value.allSettled_iff.1 (holds clean) item member
  apply (aligned.applyToOne writable settled here).bindBoth
  intro answer settledAnswer
  split
  · exact Rel.pure ⟨rfl, settledAnswer⟩
  · exact Rel.pure (Eq.refl ())

end

/-- Functions that call functions, and those that make new ones of them. -/
theorem runFunctional {op : FunctionalOp} {args : List Value}
    (settled : c.clean → Value.AllSettled args) :
    c.Rel (c.Both Value.Settled) (ev.runFunctional op args scope)
      (ev'.runFunctional op args scope) := by
  have first {f : Value} {rest : List Value} (settled : c.clean → Value.AllSettled (f :: rest)) :
      c.clean → f.Settled := fun clean => (settled clean).1
  unfold Evaluator.runFunctional
  split
  case h_1 => exact aligned.runFunctional_map writable (first settled) fun clean => (settled clean).2
  case h_2 =>
      exact aligned.runFunctional_filter writable (first settled) fun clean => (settled clean).2.1
  case h_3 =>
      exact aligned.runFunctional_reduce writable (first settled) fun clean => (settled clean).2
  case h_4 =>
      exact aligned.runFunctional_every writable (first settled) fun clean => (settled clean).2.1
  case h_5 =>
      exact aligned.runFunctional_some writable (first settled) fun clean => (settled clean).2.1
  case h_6 f bound =>
      refine Rel.bindBoth (Rel.ofExcept fun clean => Value.asCallable_settled (settled clean).1 _)
        fun g holds => ?_
      exact Rel.pure ⟨rfl, fun clean => ⟨holds clean, (settled clean).2⟩⟩
  case h_7 => exact (Rel.asCallables "comp" settled).bindBoth fun fs holds => Rel.pure ⟨rfl, holds⟩
  case h_8 => exact (Rel.asCallables "juxt" settled).bindBoth fun fs holds => Rel.pure ⟨rfl, holds⟩
  case h_9 f =>
      refine Rel.bindBoth (Rel.ofExcept fun clean => Value.asCallable_settled (settled clean).1 _)
        fun g holds => ?_
      exact Rel.pure ⟨rfl, holds⟩
  case h_10 v =>
      have body := fun clean => (show Form.AllSettled [.literal v] from ⟨(settled clean).1, trivial⟩)
      exact (Rel.makeClosure _ _ _ _ body).bindBoth fun k holds => Rel.pure ⟨rfl, holds⟩
  case h_11 => exact Rel.failSame _

/-! ### Files, atoms and the system -/

/-- The forms of a text are settled, as nothing that is read holds a pending call. -/
theorem evalSource (source : String) :
    c.Rel (c.Both Value.Settled) (ev.evalSource source scope) (ev'.evalSource source scope) := by
  refine Rel.bindBoth (P := Form.AllSettled) (Rel.ofExcept fun clean => ?_) fun forms holds => ?_
  · cases read : parse source with
    | error e => trivial
    | ok forms => exact parse_settled read
  · refine Rel.fold (X := c.Both Value.Settled) ?_ (fun _ _ both => both) .nil .nil
      ⟨rfl, fun _ => trivial⟩
    intro form member _ _ _
    have here := fun clean => Form.allSettled_iff.1 (holds clean) form member
    exact (aligned.eval here writable).bindBoth fun v settled =>
      Rel.pure (show c.Both Value.Settled v v from ⟨rfl, settled⟩)

/-- Errors from a file name it on both sides. -/
theorem loadFile (path : String) :
    c.Rel (c.Both Value.Settled) (ev.loadFile path scope) (ev'.loadFile path scope) := by
  have content := (Rel.readFile path).bindEq fun source => aligned.evalSource writable source
  exact content.decorate fun _ _ e f _ errors => c.error_inFile path errors

/-- What is printed is the same, since the cells are. -/
theorem runConsole {op : ConsoleOp} {args : List Value} :
    c.Rel (c.Both Value.Settled) (ev.runConsole op args scope) (ev'.runConsole op args scope) := by
  unfold Evaluator.runConsole
  split
  case h_1 =>
      apply (Rel.displayJoined args).bindEq
      intro line
      exact Rel.thenNil (Rel.changeAside (fun _ _ _ => rfl) fun _ => ⟨rfl, rfl, rfl, rfl, rfl⟩)
  case h_2 =>
      apply (Rel.displayJoined args).bindEq
      intro line
      exact Rel.thenNil (Rel.changeAside (fun _ _ _ => rfl) fun _ => ⟨rfl, rfl, rfl, rfl, rfl⟩)
  case h_3 =>
      refine Rel.bindEq (Rel.look fun s t states => by rw [states.cells]) fun text => ?_
      exact Rel.pure ⟨rfl, fun _ => trivial⟩
  case h_4 path =>
      apply Rel.bindEq (Rel.ofExceptEq _)
      intro name
      exact (Rel.readFile name).bindEq fun content => Rel.pure ⟨rfl, fun _ => trivial⟩
  case h_5 path content =>
      apply Rel.bindEq (Rel.ofExceptEq _)
      intro name
      refine Rel.bindEq (Rel.look fun s t states => by rw [states.files, states.cells])
        fun result => ?_
      split
      · exact Rel.thenNil (Rel.changeAside (fun _ _ _ => rfl) fun _ => ⟨rfl, rfl, rfl, rfl, rfl⟩)
      · exact Rel.failSame _
  case h_6 path =>
      apply Rel.bindEq (Rel.ofExceptEq _)
      intro name
      refine Rel.bindEq (Rel.look fun s t states => by rw [states.files]) fun present => ?_
      exact Rel.pure ⟨rfl, fun _ => trivial⟩
  case h_7 path =>
      exact Rel.bindEq (Rel.ofExceptEq _) fun name => aligned.loadFile writable name
  case h_8 =>
      apply (Rel.displayJoined _).bindEq
      intro message
      split
      · exact Rel.thenNil (Rel.changeAside (fun _ _ _ => rfl) fun _ => ⟨rfl, rfl, rfl, rfl, rfl⟩)
      · exact Rel.failSame _
  case h_9 => exact Rel.failSame _

/-- The rounds of a swap end at the same time: the version of the atom is the same. -/
theorem swapAtom {i : Nat} {f : Value} {extra : List Value} (settled : c.clean → f.Settled)
    (settledExtra : c.clean → Value.AllSettled extra) :
    c.Rel (c.Both Value.Settled) (ev.swapAtom i f extra scope) (ev'.swapAtom i f extra scope) := by
  refine Rel.iterate (X := Eq) ?_ aligned.steps () () rfl
  intro _ _ _
  apply (Rel.readAtom i).bindBoth
  intro a holds
  have arguments : c.clean → Value.AllSettled (a.value :: extra) := fun clean =>
    ⟨holds clean, settledExtra clean⟩
  apply (aligned.applyValues writable settled arguments).bindBoth
  intro next settledNext
  apply (Rel.compareAndSet settledNext).bindEq
  intro written
  split
  · exact Rel.pure ⟨rfl, settledNext⟩
  · exact Rel.pure (Eq.refl ())

/-- Every operation on atoms is related to itself. -/
theorem runAtom {op : AtomOp} {args : List Value} (settled : c.clean → Value.AllSettled args) :
    c.Rel (c.Both Value.Settled) (ev.runAtom op args scope) (ev'.runAtom op args scope) := by
  unfold Evaluator.runAtom
  split
  case h_1 v =>
      refine (Rel.addAtom fun clean => (settled clean).1).bindEq fun i => ?_
      exact Rel.pure ⟨rfl, fun _ => trivial⟩
  case h_2 v =>
      apply Rel.bindEq (Rel.ofExceptEq _)
      intro i
      exact (Rel.readAtom i).bindBoth fun a holds => Rel.pure ⟨rfl, holds⟩
  case h_3 target v =>
      have new := fun clean => (settled clean).2.1
      apply Rel.bindEq (Rel.ofExceptEq _)
      intro i
      exact (Rel.writeAtom new).bindEq fun _ => Rel.pure ⟨rfl, new⟩
  case h_4 target f extra =>
      apply Rel.bindEq (Rel.ofExceptEq _)
      intro i
      exact aligned.swapAtom writable (fun clean => (settled clean).2.1)
        fun clean => (settled clean).2.2
  case h_5 v => exact Rel.pure ⟨rfl, fun _ => trivial⟩
  case h_6 => exact Rel.failSame _

omit writable in
theorem helpFor (name : String) :
    c.Rel (c.Both Value.Settled) (ev.helpFor name) (ev'.helpFor name) := by
  apply aligned.registry.bindEq
  intro registry
  split
  · exact Rel.pure ⟨rfl, fun _ => trivial⟩
  · exact Rel.pure ⟨rfl, fun _ => trivial⟩

omit writable in
/-- The clock, the settings and the help for functions are the same on both sides. -/
theorem runSystem {op : SystemOp} {args : List Value}
    (settled : c.clean → Value.AllSettled args) :
    c.Rel (c.Both Value.Settled) (ev.runSystem op args) (ev'.runSystem op args) := by
  have clock : c.Rel Eq Evaluator.readClock Evaluator.readClock :=
    Rel.updateAside (fun _ _ _ => rfl) fun _ => ⟨rfl, rfl, rfl, rfl, rfl⟩
  unfold Evaluator.runSystem
  split
  case h_1 => exact clock.bindEq fun now => Rel.pure ⟨rfl, fun _ => trivial⟩
  case h_2 v rest =>
      split
      · rw [c.settings_libraries aligned.settings]
        exact clock.bindEq fun now => Rel.pure ⟨rfl, fun _ => trivial⟩
      · exact Rel.bindEq (Rel.look fun s t states => by rw [states.cells]) fun text =>
          Rel.failSame _
  case h_3 =>
      refine Rel.bindEq (Rel.updateAside (fun _ _ _ => rfl) fun _ => ?_) fun text => ?_
      · exact ⟨rfl, rfl, rfl, rfl, rfl⟩
      · exact Rel.pure ⟨rfl, fun _ => trivial⟩
  case h_4 name fallback =>
      apply Rel.bindEq (Rel.ofExceptEq _)
      intro key
      refine Rel.bindEq (Rel.look fun s t states => by rw [states.environment]) fun found => ?_
      split
      · exact Rel.pure ⟨rfl, fun _ => trivial⟩
      · exact Rel.pure ⟨rfl, fun clean => Value.headD_settled (settled clean).2⟩
  case h_5 v =>
      split
      · exact aligned.helpFor _
      · exact aligned.helpFor _
      · exact aligned.helpFor _
      · exact aligned.helpFor _
      · exact Rel.pure ⟨rfl, fun _ => trivial⟩
      · exact Rel.pure ⟨rfl, fun _ => trivial⟩
      · exact Rel.failSame _
  case h_6 =>
      have listed (names : List String) : Value.AllSettled (names.map .text) := by
        simp [Value.allSettled_iff, Value.Settled]
      cases args with
      | nil =>
          apply aligned.registry.bindEq
          intro registry
          exact Rel.pure ⟨rfl, fun _ => listed _⟩
      | cons v rest =>
          apply Rel.bindEq (Rel.ofExceptEq _)
          intro key
          apply aligned.registry.bindEq
          intro registry
          exact Rel.pure ⟨rfl, fun _ => listed _⟩
  case h_7 => exact Rel.failSame _

/-! ### All functions -/

/-- Every builtin that is a function is related to itself, on settled arguments. -/
theorem runPrimitive {p : Primitive} {args : List Value}
    (settled : c.clean → Value.AllSettled args) :
    c.Rel (c.Both Value.Settled) (ev.runPrimitive p args scope)
      (ev'.runPrimitive p args scope) := by
  have libraries := c.settings_libraries aligned.settings
  cases p with
  | general op => exact aligned.runGeneral settled
  | math op => exact Rel.ofExcept fun clean => MathOp.apply_settled (settled clean) op
  | comparison op => exact Rel.ofExcept fun _ => ComparisonOp.apply_settled op args
  | sequence op =>
      simp only [Evaluator.runPrimitive]
      split
      next f coll =>
        refine Rel.bindBoth (Rel.ofExcept fun clean => Value.asSeq_settled (settled clean).2.1)
          fun items holds => ?_
        refine (Rel.sort (P := Value.Settled) (fun a b settledA settledB => ?_) ?_).bindBoth
          fun sorted inside => ?_
        · exact aligned.comparatorBefore writable (fun clean => (settled clean).1) settledA settledB
        · exact fun clean => Value.allSettled_iff.1 (holds clean)
        · exact Rel.pure ⟨rfl, fun clean => Value.allSettled_iff.2 (inside clean)⟩
      next => exact Rel.ofExcept fun clean => SequenceOp.apply_settled (settled clean) _
  | functional op => exact aligned.runFunctional writable settled
  | text op =>
      refine (Rel.look fun s t states => states.cells).bindEq fun cells => ?_
      rw [libraries]
      exact Rel.ofExcept fun _ => TextOp.apply_settled cells op args
  | table op => exact Rel.ofExcept fun clean => TableOp.apply_settled (settled clean) op
  | json op =>
      rw [Evaluator.runPrimitive, Evaluator.runPrimitive, libraries]
      exact Rel.ofExcept fun _ => JsonOp.apply_settled op args
  | console op => exact aligned.runConsole writable
  | atom op => exact aligned.runAtom writable settled
  | thread op => exact Rel.runThread settled
  | encoding op =>
      rw [Evaluator.runPrimitive, Evaluator.runPrimitive, libraries]
      exact Rel.ofExcept fun _ => EncodingOp.apply_settled op args
  | system op => exact aligned.runSystem settled

end

end Aligned

end PluginLisp.Correspondence
