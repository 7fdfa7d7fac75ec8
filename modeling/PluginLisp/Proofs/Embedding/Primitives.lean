import PluginLisp.Proofs.Embedding.Calls

/-!
Indifferent evaluators run the builtins that are functions alike. Those that need neither the state nor
the evaluator are known to commute with embedding; the others call functions, print, use files, or look
at what threads share. What they print or write cannot show code, and what they share is alike again.

Main results: `Machine.Alike.runThread`, `Evaluator.Indifferent.runPrimitive`.
-/

namespace PluginLisp

open Machine

/-! ### Atoms and channels -/

section

variable (v : Value)

theorem asAtom_embed : Evaluator.asAtom v = Evaluator.asAtom v.embed := by cases v <;> rfl

theorem asChannel_embed : Evaluator.asChannel v = Evaluator.asChannel v.embed := by cases v <;> rfl

theorem asFuture_embed : Evaluator.asFuture v = Evaluator.asFuture v.embed := by cases v <;> rfl

theorem asWaitGroup_embed : Evaluator.asWaitGroup v = Evaluator.asWaitGroup v.embed := by
  cases v <;> rfl

theorem asCount_embed (form : String) :
    Evaluator.asCount form v = Evaluator.asCount form v.embed := by
  rw [Evaluator.asCount, Evaluator.asCount, Value.asInt_embed]

end

/-- Writing to an atom if it has the expected version does not look at its value. -/
theorem Atom.compareAndSet_embed (a : Atom) (version : UInt64) (v : Value) :
    a.embed.compareAndSet version v.embed =
      Prod.map id Atom.embed (a.compareAndSet version v) := by
  unfold Atom.compareAndSet
  have versions : a.embed.version = a.version := rfl
  rw [versions]
  split <;> rfl

/-- Taking from an embedded channel takes the embedded value. -/
theorem Channel.take?_embed (c : Channel) :
    c.embed.take? = c.take?.map (Prod.map Value.embed Channel.embed) := by
  obtain ⟨capacity, _ | ⟨v, rest⟩, closed, sent, received⟩ := c <;> rfl

/-- Whether a channel accepts a value does not depend on the value. -/
theorem Channel.accept_embed (c : Channel) (v : Value) :
    c.embed.accept v.embed = (c.accept v).map Channel.embed := by
  unfold Channel.accept
  have closed : c.embed.closed = c.closed := rfl
  rw [closed]
  split
  · rfl
  · simp [Channel.embed, map_ok]

/-- Counting a value sent leaves the queue alone. -/
theorem Channel.countSent_embed (c : Channel) :
    c.embed.countSent = c.countSent.map Channel.embed := by
  rw [Channel.countSent, Channel.countSent, map_bind]
  rfl

/-- Counting a value received leaves the queue alone. -/
theorem Channel.countReceived_embed (c : Channel) :
    c.embed.countReceived = c.countReceived.map Channel.embed := by
  rw [Channel.countReceived, Channel.countReceived, map_bind]
  rfl

namespace State.Alike

variable {s t : State} (alike : s.Alike t)
include alike

theorem atoms : s.atoms.map Atom.embed = t.atoms.map Atom.embed :=
  congrArg State.atoms (show s.embed = t.embed from alike)

theorem channels : s.channels.map Channel.embed = t.channels.map Channel.embed :=
  congrArg State.channels (show s.embed = t.embed from alike)

/-- Alike states stay alike when their atoms are replaced by alike ones. -/
theorem withAtoms {atoms atoms' : Array Atom} (same : atoms.map Atom.embed = atoms'.map Atom.embed) :
    State.Alike { s with atoms } { t with atoms := atoms' } := by
  change { s.embed with atoms := atoms.map Atom.embed } =
    { t.embed with atoms := atoms'.map Atom.embed }
  rw [same, show s.embed = t.embed from alike]

/-- Alike states stay alike when their channels are replaced by alike ones. -/
theorem withChannels {channels channels' : Array Channel}
    (same : channels.map Channel.embed = channels'.map Channel.embed) :
    State.Alike { s with channels } { t with channels := channels' } := by
  change { s.embed with channels := channels.map Channel.embed } =
    { t.embed with channels := channels'.map Channel.embed }
  rw [same, show s.embed = t.embed from alike]

end State.Alike

namespace Machine.Alike

/-- Atoms of alike values get the same number. -/
theorem addAtom {v w : Value} (same : v.embed = w.embed) :
    Alike id (Machine.update fun s => s.addAtom v) (Machine.update fun s => s.addAtom w) := by
  refine update fun s t states => ⟨?_, states.withAtoms ?_⟩
  · have sizes := congrArg Array.size states.atoms
    rwa [Array.size_map, Array.size_map] at sizes
  · rw [Array.map_push, Array.map_push, states.atoms]
    simp only [Atom.embed, same]

/-- In alike states an atom holds alike values, under the same version. -/
theorem readAtom (i : Nat) : Alike Atom.embed (Evaluator.readAtom i) (Evaluator.readAtom i) := by
  refine lookNatural (h := fun s => (s.atoms[i]?).getD ⟨0, .nil⟩) fun s => ?_
  simp only [State.embed, Array.getElem?_map]
  cases s.atoms[i]? <;> rfl

/-- Alike values can be written to an atom. -/
theorem writeAtom (i : Nat) {v w : Value} (same : v.embed = w.embed) :
    Alike id (Evaluator.writeAtom i v) (Evaluator.writeAtom i w) := by
  have written (atoms : Array Atom) (v : Value) : (atoms.modify i (·.set v)).map Atom.embed =
      (atoms.map Atom.embed).modify i (·.set v.embed) := map_modify atoms i fun _ => rfl
  apply change
  intro s t states
  apply states.withAtoms
  rw [written, written, states.atoms, same]

/-- An atom can be replaced by alike ones. -/
theorem replaceAtom (i : Nat) {a b : Atom} (same : a.embed = b.embed) :
    Alike id (Machine.change fun s => { s with atoms := s.atoms.modify i fun _ => a })
      (Machine.change fun s => { s with atoms := s.atoms.modify i fun _ => b }) := by
  have written (atoms : Array Atom) (a : Atom) : (atoms.modify i fun _ => a).map Atom.embed =
      (atoms.map Atom.embed).modify i fun _ => a.embed := map_modify atoms i fun _ => rfl
  apply change
  intro s t states
  apply states.withAtoms
  rw [written, written, states.atoms, same]

/-- With alike values, both sides succeed in writing, or neither does. -/
theorem compareAndSet (i : Nat) (version : UInt64) {v w : Value} (same : v.embed = w.embed) :
    Alike id (Evaluator.compareAndSet i version v) (Evaluator.compareAndSet i version w) := by
  have natural (s : State) (v : Value) :
      ((s.atoms[i]?).map (·.compareAndSet version v)).map (Prod.map id Atom.embed) =
        (s.embed.atoms[i]?).map (·.compareAndSet version v.embed) := by
    simp [State.embed, Function.comp_def, Atom.compareAndSet_embed]
  refine bindOption (f := Prod.map id Atom.embed) (look fun s t states => ?_) (pure rfl)
    fun written written' sameWritten => ?_
  · rw [natural, natural, states, same]
  · obtain ⟨written, a⟩ := written
    obtain ⟨written', b⟩ := written'
    obtain ⟨rfl, sameAtom⟩ : written = written' ∧ a.embed = b.embed := Prod.mk.inj sameWritten
    exact (replaceAtom i sameAtom).bindSame fun _ => pure rfl

/-- New channels get the same number. -/
theorem addChannel (capacity : Nat) :
    Alike id (Machine.update fun s => s.addChannel capacity)
      (Machine.update fun s => s.addChannel capacity) := by
  refine update fun s t states => ⟨?_, states.withChannels ?_⟩
  · have sizes := congrArg Array.size states.channels
    rwa [Array.size_map, Array.size_map] at sizes
  · rw [Array.map_push, Array.map_push, states.channels]

theorem setChannel (i : Nat) {c d : Channel} (same : c.embed = d.embed) :
    Alike id (Evaluator.setChannel i c) (Evaluator.setChannel i d) := by
  have written (channels : Array Channel) (c : Channel) :
      (channels.modify i fun _ => c).map Channel.embed =
        (channels.map Channel.embed).modify i fun _ => c.embed := map_modify channels i fun _ => rfl
  apply change
  intro s t states
  apply states.withChannels
  rw [written, written, states.channels, same]

/-- The value taken from a channel is alike in alike states. -/
theorem takeFrom (c : Nat) :
    Alike (Option.map Value.embed) (Evaluator.takeFrom? c) (Evaluator.takeFrom? c) := by
  refine bindOption (f := Prod.map Value.embed Channel.embed)
    (lookNatural (h := fun s => (s.channels[c]?).bind Channel.take?) fun s => ?_) (pure rfl)
    fun taken taken' same => ?_
  · simp only [State.embed, Array.getElem?_map]
    cases s.channels[c]? with
    | none => rfl
    | some channel => exact (Channel.take?_embed channel).symm
  · obtain ⟨v, rest⟩ := taken
    obtain ⟨w, rest'⟩ := taken'
    obtain ⟨sameValue, sameRest⟩ := Prod.mk.inj same
    have counted : rest.countReceived.map Channel.embed = rest'.countReceived.map Channel.embed := by
      rw [← Channel.countReceived_embed, ← Channel.countReceived_embed, sameRest]
    exact (setChannel c sameRest).bindSame fun _ => (ofExcept counted).bind
      fun _ _ sameCounted => (setChannel c sameCounted).bindSame fun _ => pure (congrArg some sameValue)

theorem isClosed (c : Nat) :
    Alike id (Machine.look fun s => (s.channels[c]?).any Channel.closed)
      (Machine.look fun s => (s.channels[c]?).any Channel.closed) := by
  refine lookNatural (h := fun s => (s.channels[c]?).any Channel.closed) fun s => ?_
  simp only [State.embed, Array.getElem?_map]
  cases s.channels[c]? <;> rfl

/-- Receiving waits for the same turn and gives alike values. -/
theorem receive (c : Nat) (deadline : Option Nat) :
    Alike (Option.map Value.embed) (Evaluator.receive? c deadline)
      (Evaluator.receive? c deadline) := by
  refine (await _).bindSame fun _ => bindOption (takeFrom c) ?_ fun v w same => ?_
  · refine (isClosed c).bindSame fun closed => ?_
    split <;> exact pure rfl
  · exact pure (congrArg some same)

/-- Sending alike values waits for the same turns, and is refused alike. -/
theorem send (c : Nat) {v w : Value} (same : v.embed = w.embed) :
    Alike id (Evaluator.send c v) (Evaluator.send c w) := by
  refine (await _).bindSame fun _ => bindOption (f := Channel.embed)
    (lookNatural (h := fun s => s.channels[c]?) fun s => ?_) (pure rfl)
    fun channel channel' sameChannel => ?_
  · simp only [State.embed, Array.getElem?_map]
  · have accepted : (channel.accept v).map Channel.embed = (channel'.accept w).map Channel.embed := by
      rw [← Channel.accept_embed, ← Channel.accept_embed, sameChannel, same]
    refine (ofExcept accepted).bind fun after after' sameAfter => ?_
    have counted : after.countSent.map Channel.embed = after'.countSent.map Channel.embed := by
      rw [← Channel.countSent_embed, ← Channel.countSent_embed, sameAfter]
    refine (setChannel c sameAfter).bindSame fun _ => (ofExcept counted).bind
      fun last last' sameCounted => (setChannel c sameCounted).bindSame fun _ => ?_
    have capacity : last.capacity = last'.capacity := by
      simpa [Channel.embed] using congrArg Channel.capacity sameCounted
    have sent : last.sent = last'.sent := by
      simpa [Channel.embed] using congrArg Channel.sent sameCounted
    rw [capacity, sent]
    split
    · exact await _
    · exact pure rfl

theorem closeChannel (c : Nat) :
    Alike id (Evaluator.closeChannel c) (Evaluator.closeChannel c) := by
  have closed (channels : Array Channel) : (channels.modify c Channel.close).map Channel.embed =
      (channels.map Channel.embed).modify c Channel.close := map_modify channels c fun _ => rfl
  apply change
  intro s t states
  apply states.withChannels
  rw [closed, closed, states.channels]

/-- Wait groups hold no values, so both sides count alike. -/
theorem addToGroup (g : Nat) (delta : Int) :
    Alike id (Evaluator.addToGroup g delta) (Evaluator.addToGroup g delta) := by
  refine bindSame (lookNatural (h := fun s => s.waitGroups[g]?) fun _ => rfl) fun found => ?_
  split
  · exact pure rfl
  · exact (ofSame rfl).bindSame fun next => changeNatural fun _ => rfl

/-- The outcome of a future is alike in alike states. -/
theorem awaitFuture (f : Nat) (deadline : Option Nat) :
    Alike (Option.map (Except.map Value.embed)) (Evaluator.awaitFuture? f deadline)
      (Evaluator.awaitFuture? f deadline) := by
  refine (await _).bindSame fun _ => lookNatural (h := fun s => (s.futures[f]?).bind Future.outcome)
    fun s => ?_
  simp only [State.embed, Array.getElem?_map]
  cases s.futures[f]? <;> rfl

theorem isDone (f : Nat) :
    Alike id (Machine.look fun s => (s.futures[f]?).any Future.isDone)
      (Machine.look fun s => (s.futures[f]?).any Future.isDone) := by
  refine lookNatural (h := fun s => (s.futures[f]?).any Future.isDone) fun s => ?_
  simp only [State.embed, Array.getElem?_map]
  cases s.futures[f]? with
  | none => rfl
  | some future => simp [Future.isDone, Future.embed]

theorem clock : Alike id (Machine.look (·.clock)) (Machine.look (·.clock)) :=
  lookNatural (h := fun s => s.clock) fun _ => rfl

/-- A time limit is a number, which embedding leaves alone. -/
theorem deadlineOf (limit : List Value) :
    Alike id (Evaluator.deadlineOf limit) (Evaluator.deadlineOf (limit.map Value.embed)) := by
  cases limit with
  | nil => exact pure rfl
  | cons v rest =>
      by_cases none : v = .nil
      · subst none
        exact pure rfl
      · rw [List.map_cons, Evaluator.deadlineOf, Evaluator.deadlineOf]
        · refine (ofSame (asCount_embed v "timeout")).bindSame fun ms => ?_
          exact clock.bindSame fun now => pure rfl
        · intro same
          cases v <;> simp_all
        · exact none

/-- A computation that answers `nil`. -/
theorem thenNil {α β : Type} {f : α → β} {m m' : Machine α} (alike : Alike f m m') :
    Alike Value.embed (m >>= fun _ => Pure.pure Value.nil) (m' >>= fun _ => Pure.pure Value.nil) :=
  alike.bind fun _ _ _ => pure rfl

/-- The report of a wrong number of arguments shows the number only. -/
theorem wrongCount (p : Primitive) (args : List Value) :
    Alike Value.embed (Evaluator.wrongCount p args)
      (Evaluator.wrongCount p (args.map Value.embed)) := by
  rw [Evaluator.wrongCount, Evaluator.wrongCount, List.length_map]
  exact fail _

section

variable (future channel group v : Value) (args : List Value)

/-- Waiting for a future gives its outcome, which is alike. -/
theorem runThread_await :
    Alike Value.embed (Evaluator.runThread .await (future :: args))
      (Evaluator.runThread .await (future.embed :: args.map Value.embed)) := by
  refine (ofSame (asFuture_embed future)).bindSame fun f => ?_
  refine (deadlineOf args).bindSame fun deadline => ?_
  exact bindOption (awaitFuture f deadline) (pure rfl) fun _ _ same => ofExcept same

theorem runThread_isDone :
    Alike Value.embed (Evaluator.runThread .isDone [future])
      (Evaluator.runThread .isDone [future.embed]) := by
  refine (ofSame (asFuture_embed future)).bindSame fun f => ?_
  exact (isDone f).bindSame fun done => pure rfl

/-- A channel is made with the same capacity on both sides. -/
theorem runThread_makeChannel :
    Alike Value.embed (Evaluator.runThread .makeChannel args)
      (Evaluator.runThread .makeChannel (args.map Value.embed)) := by
  cases args with
  | nil => exact (addChannel 0).bindSame fun i => pure rfl
  | cons v rest =>
      refine (ofSame (asCount_embed v "chan")).bindSame fun capacity => ?_
      exact (addChannel capacity).bindSame fun i => pure rfl

/-- The value sent is put into the queue as it is. -/
theorem runThread_send :
    Alike Value.embed (Evaluator.runThread .send [channel, v])
      (Evaluator.runThread .send [channel.embed, v.embed]) := by
  refine (ofSame (asChannel_embed channel)).bindSame fun i => ?_
  exact (send i (Value.embed_embed v).symm).bindSame fun _ => pure rfl

/-- What is received is what was taken, or `nil` at the end. -/
theorem runThread_receive :
    Alike Value.embed (Evaluator.runThread .receive (channel :: args))
      (Evaluator.runThread .receive (channel.embed :: args.map Value.embed)) := by
  refine (deadlineOf args).bindSame fun deadline => ?_
  refine (ofSame (asChannel_embed channel)).bindSame fun i => ?_
  refine (receive i deadline).bind fun found found' same => pure ?_
  rw [← Value.getD_nil_embed, same, Value.getD_nil_embed]

/-- Without a value to take, both sides answer `nil`. -/
theorem runThread_tryReceive :
    Alike Value.embed (Evaluator.runThread .tryReceive [channel])
      (Evaluator.runThread .tryReceive [channel.embed]) := by
  refine (ofSame (asChannel_embed channel)).bindSame fun i => ?_
  refine (takeFrom i).bind fun found found' same => pure ?_
  rw [← Value.getD_nil_embed, same, Value.getD_nil_embed]

theorem runThread_isClosed :
    Alike Value.embed (Evaluator.runThread .isClosed [channel])
      (Evaluator.runThread .isClosed [channel.embed]) := by
  refine (ofSame (asChannel_embed channel)).bindSame fun i => ?_
  exact (isClosed i).bindSame fun closed => pure rfl

/-- The number added is read from a plain value. -/
theorem runThread_add :
    Alike Value.embed (Evaluator.runThread .add (group :: args))
      (Evaluator.runThread .add (group.embed :: args.map Value.embed)) := by
  cases args with
  | nil =>
      refine bindSame (pure rfl) fun n => ?_
      exact (ofSame (asWaitGroup_embed group)).bindSame fun g => (addToGroup g n).thenNil
  | cons delta rest =>
      refine (ofSame (Value.asInt_embed delta).symm).bindSame fun n => ?_
      exact (ofSame (asWaitGroup_embed group)).bindSame fun g => (addToGroup g n).thenNil

theorem runThread_sleep :
    Alike Value.embed (Evaluator.runThread .sleep [v]) (Evaluator.runThread .sleep [v.embed]) := by
  refine (ofSame (asCount_embed v "sleep")).bindSame fun ms => ?_
  have slept : Alike id (Evaluator.sleep ms) (Evaluator.sleep ms) :=
    clock.bindSame fun now => await _
  exact slept.thenNil

end

/-- What threads share does not show whether code is embedded. -/
theorem runThread (op : ThreadOp) (args : List Value) :
    Alike Value.embed (Evaluator.runThread op args)
      (Evaluator.runThread op (args.map Value.embed)) := by
  have wrong := wrongCount (.thread op) args
  cases op with
  | await =>
      cases args with
      | nil => exact wrong
      | cons future limit => exact runThread_await future limit
  | isDone =>
      rcases args with _ | ⟨future, _ | ⟨b, rest⟩⟩
      · exact wrong
      · exact runThread_isDone future
      · exact wrong
  | makeChannel => exact runThread_makeChannel args
  | send =>
      rcases args with _ | ⟨channel, _ | ⟨v, _ | ⟨c, rest⟩⟩⟩
      · exact wrong
      · exact wrong
      · exact runThread_send channel v
      · exact wrong
  | receive =>
      cases args with
      | nil => exact wrong
      | cons channel limit => exact runThread_receive channel limit
  | tryReceive =>
      rcases args with _ | ⟨channel, _ | ⟨b, rest⟩⟩
      · exact wrong
      · exact runThread_tryReceive channel
      · exact wrong
  | close =>
      rcases args with _ | ⟨channel, _ | ⟨b, rest⟩⟩
      · exact wrong
      · exact (ofSame (asChannel_embed channel)).bindSame fun i => (closeChannel i).thenNil
      · exact wrong
  | isClosed =>
      rcases args with _ | ⟨channel, _ | ⟨b, rest⟩⟩
      · exact wrong
      · exact runThread_isClosed channel
      · exact wrong
  | makeWaitGroup =>
      cases args with
      | nil => exact (updateNatural fun _ => rfl).bindSame fun i => pure rfl
      | cons a rest => exact wrong
  | add =>
      cases args with
      | nil => exact wrong
      | cons group delta => exact runThread_add group delta
  | done =>
      rcases args with _ | ⟨group, _ | ⟨b, rest⟩⟩
      · exact wrong
      · exact (ofSame (asWaitGroup_embed group)).bindSame fun g => (addToGroup g (-1)).thenNil
      · exact wrong
  | waitZero =>
      rcases args with _ | ⟨group, _ | ⟨b, rest⟩⟩
      · exact wrong
      · exact (ofSame (asWaitGroup_embed group)).bindSame fun g => (await _).thenNil
      · exact wrong
  | sleep =>
      rcases args with _ | ⟨limit, _ | ⟨b, rest⟩⟩
      · exact wrong
      · exact runThread_sleep limit
      · exact wrong

end Machine.Alike

/-! ### Sorting -/

namespace Machine.Alike

variable {before before' : Value → Value → Machine Bool}

/-- Merging asks for the same comparisons on both sides. -/
theorem merge_embed (compare : ∀ a b a' b', a.embed = a'.embed → b.embed = b'.embed →
      Alike id (before a b) (before' a' b')) (merged left right : List Value) :
    Alike (List.map Value.embed) (mergeInto before merged left right)
      (mergeInto before' (merged.map Value.embed) (left.map Value.embed)
        (right.map Value.embed)) := by
  fun_induction mergeInto before merged left right with
  | case1 merged right =>
      rw [List.map_nil, mergeInto]
      exact pure (by simp)
  | case2 merged left notNil =>
      cases left with
      | nil => exact absurd rfl notNil
      | cons a left =>
          rw [List.map_cons, List.map_nil, mergeInto]
          · exact pure (by simp)
          · simp
  | case3 merged a left b right ihRight ihLeft =>
      have asked := compare b a b.embed a.embed (Value.embed_embed b).symm (Value.embed_embed a).symm
      rw [List.map_cons, List.map_cons, mergeInto]
      refine asked.bindSame fun first => ?_
      split
      · exact ihRight
      · exact ihLeft

/-- Merging by comparisons that are alike. -/
theorem merge (compare : ∀ a b a' b', a.embed = a'.embed → b.embed = b'.embed →
      Alike id (before a b) (before' a' b')) {left left' right right' : List Value}
    (sameLeft : left.map Value.embed = left'.map Value.embed)
    (sameRight : right.map Value.embed = right'.map Value.embed) :
    Alike (List.map Value.embed) (mergeInto before [] left right)
      (mergeInto before' [] left' right') := by
  have self (a b a' b' : Value) (sameA : a.embed = a'.embed) (sameB : b.embed = b'.embed) :
      Alike id (before' a b) (before' a' b') :=
    (compare a b a b rfl rfl).symm.trans (compare a b a' b' sameA sameB)
  have there := merge_embed compare [] left right
  rw [sameLeft, sameRight] at there
  exact there.trans (merge_embed self [] left' right').symm

/-- Sorting by comparisons that are alike. -/
theorem sort_embed (compare : ∀ a b a' b', a.embed = a'.embed → b.embed = b'.embed →
      Alike id (before a b) (before' a' b')) (items : List Value) :
    Alike (List.map Value.embed) (mergeSortBy before items)
      (mergeSortBy before' (items.map Value.embed)) := by
  fun_induction mergeSortBy before items with
  | case1 items short =>
      rw [mergeSortBy, if_pos (by simpa using short)]
      exact pure (by simp)
  | case2 items long ihLeft ihRight =>
      have halves : mergeSortBy before' (items.map Value.embed) = (do
          let left ← mergeSortBy before' ((items.take (items.length / 2)).map Value.embed)
          let right ← mergeSortBy before' ((items.drop (items.length / 2)).map Value.embed)
          mergeInto before' [] left right) := by
        rw [mergeSortBy, if_neg (by simpa using long), List.length_map, List.map_take, List.map_drop]
      rw [halves]
      exact ihLeft.bind fun _ _ sameLeft => ihRight.bind fun _ _ sameRight =>
        merge compare sameLeft sameRight

/-- Alike sequences are sorted alike by comparators that answer alike. -/
theorem sort (compare : ∀ a b a' b', a.embed = a'.embed → b.embed = b'.embed →
      Alike id (before a b) (before' a' b')) {items items' : List Value}
    (same : items.map Value.embed = items'.map Value.embed) :
    Alike (List.map Value.embed) (mergeSortBy before items) (mergeSortBy before' items') := by
  have self (a b a' b' : Value) (sameA : a.embed = a'.embed) (sameB : b.embed = b'.embed) :
      Alike id (before' a b) (before' a' b') :=
    (compare a b a b rfl rfl).symm.trans (compare a b a' b' sameA sameB)
  have there := sort_embed compare items
  rw [same] at there
  exact there.trans (sort_embed self items').symm

end Machine.Alike

/-! ### Functions that call functions -/

/-- Taking sequences in step does not look at their elements. -/
theorem inStep_embed (count : Nat) (seqs : List (List Value)) :
    Evaluator.inStep count (seqs.map (List.map Value.embed)) =
      (Evaluator.inStep count seqs).map (List.map Value.embed) := by
  induction count generalizing seqs with
  | zero => rfl
  | succ count ih =>
      have heads : (seqs.map (List.map Value.embed)).mapM List.head? =
          (seqs.mapM List.head?).map (List.map Value.embed) := by
        induction seqs with
        | nil => rfl
        | cons seq rest ihRest =>
            rw [List.map_cons, List.mapM_cons, List.mapM_cons, ihRest, List.head?_map]
            cases seq.head? with
            | none => rfl
            | some v => cases rest.mapM List.head? <;> rfl
      have tails : (seqs.map (List.map Value.embed)).map (List.drop 1) =
          (seqs.map (List.drop 1)).map (List.map Value.embed) := by
        simp [Function.comp_def]
      rw [Evaluator.inStep, Evaluator.inStep, heads, tails, ih]
      cases seqs.mapM List.head? <;> rfl

namespace Evaluator.Indifferent

variable {ev : Evaluator} (indifferent : ev.Indifferent) {scope : Nat}
include indifferent

omit indifferent in
/-- Identity, the questions for a type and generated symbols act alike. -/
theorem runGeneral (op : GeneralOp) (args : List Value) :
    Alike Value.embed (ev.runGeneral op args) (ev.runGeneral op (args.map Value.embed)) := by
  have wrong := Alike.wrongCount (.general op) args
  have shown (v : Value) : Alike id (Machine.look fun s => v.display s.cells)
      (Machine.look fun s => v.embed.display s.cells) := Alike.look fun s t states => by
    rw [Value.display_embed, states.same State.cells_embed]
  cases op with
  | identity =>
      rcases args with _ | ⟨v, _ | ⟨b, rest⟩⟩
      · exact wrong
      · exact Alike.pure (Value.embed_embed v).symm
      · exact wrong
  | typeOf =>
      rcases args with _ | ⟨v, _ | ⟨b, rest⟩⟩
      · exact wrong
      · exact Alike.pure (by simp)
      · exact wrong
  | freshSymbol =>
      have counted (stem : String) : Alike Value.embed (do
            let n ← Machine.update fun s => s.count ev.settings.counter
            return .symbol (stem ++ "__" ++ toString n.toNat))
          (do
            let n ← Machine.update fun s => s.count ev.settings.counter
            return .symbol (stem ++ "__" ++ toString n.toNat)) :=
        (Alike.updateNatural fun _ => rfl).bindSame fun n => Alike.pure rfl
      cases args with
      | nil => exact (Alike.pure rfl).bindSame counted
      | cons v rest => exact (shown v).bindSame counted
  | throw =>
      rcases args with _ | ⟨v, _ | ⟨b, rest⟩⟩
      · exact wrong
      · exact (shown v).bindSame fun text => Alike.fail _
      · exact wrong
  | not =>
      rcases args with _ | ⟨v, _ | ⟨b, rest⟩⟩
      · exact wrong
      · exact Alike.pure (by simp)
      · exact wrong

/-- A comparator's answer is a truth value or a number, which embedding leaves alone. -/
theorem comparatorBefore {f g a b a' b' : Value} (sameCallee : f.embed = g.embed)
    (sameA : a.embed = a'.embed) (sameB : b.embed = b'.embed) :
    Alike id (ev.comparatorBefore f scope a b) (ev.comparatorBefore g scope a' b') := by
  have asked : Alike Value.embed (ev.applyValues f [a, b] scope)
      (ev.applyValues g [a', b'] scope) := indifferent.applyValues sameCallee (by simp [sameA, sameB])
  have askedBack : Alike Value.embed (ev.applyValues f [b, a] scope)
      (ev.applyValues g [b', a'] scope) := indifferent.applyValues sameCallee (by simp [sameA, sameB])
  refine asked.bind fun v w same => ?_
  have number : v.asNumber = w.asNumber := by rw [← Value.asNumber_embed v, same, Value.asNumber_embed]
  split
  next =>
    obtain rfl := Value.embed_eq_boolean same.symm
    exact Alike.pure rfl
  next =>
    obtain rfl := Value.embed_eq_boolean same.symm
    exact askedBack.discard.bindSame fun _ => Alike.pure rfl
  next =>
    obtain rfl := Value.embed_eq_nil same.symm
    exact askedBack.discard.bindSame fun _ => Alike.pure rfl
  next notTrue notFalse notNil =>
    split
    next => exact absurd (Value.embed_eq_boolean same) notTrue
    next => exact absurd (Value.embed_eq_boolean same) notFalse
    next => exact absurd (Value.embed_eq_nil same) notNil
    next => exact (Alike.ofSame number).bindSame fun x => Alike.pure rfl

/-- Folding with alike functions over alike sequences gives alike results. -/
theorem combine {f g first first' : Value} {items items' : List Value}
    (sameCallee : f.embed = g.embed) (sameFirst : first.embed = first'.embed)
    (same : items.map Value.embed = items'.map Value.embed) :
    Alike Value.embed (ev.combine f first items scope) (ev.combine g first' items' scope) := by
  refine Alike.fold (fun acc acc' item item' sameAcc sameItem => ?_) (fun _ _ same => same) sameFirst
    same
  have called : Alike Value.embed (ev.applyValues f [acc, item] scope)
      (ev.applyValues g [acc', item'] scope) :=
    indifferent.applyValues sameCallee (by simp [sameAcc, sameItem])
  exact called.bind fun v w found => Alike.pure (congrArg Round.again found)

/-- Alike functions give alike results for one argument. -/
theorem applyToOne {f g v w : Value} (sameCallee : f.embed = g.embed) (same : v.embed = w.embed) :
    Alike Value.embed (ev.applyValues f [v] scope) (ev.applyValues g [w] scope) :=
  indifferent.applyValues sameCallee (by simp [same])

omit indifferent in
/-- The elements of a sequence and of the embedded one. -/
theorem elements_same (v : Value) : v.asSeq.map (List.map Value.embed) =
    v.embed.asSeq.map (List.map Value.embed) := Value.asSeq_same (Value.embed_embed v).symm

omit indifferent in
/-- Alike values are accepted as functions alike. -/
theorem asCallables_same (form : String) (fs : List Value) :
    (Evaluator.asCallables form fs).map (List.map Value.embed) =
      (Evaluator.asCallables form (fs.map Value.embed)).map (List.map Value.embed) := by
  rw [Evaluator.asCallables, Evaluator.asCallables, mapM_commutes (Value.asCallable_embed form),
    map_map]
  simp

section

variable (f coll : Value) (args : List Value)

/-- Each call of `map` gets alike elements. -/
theorem runFunctional_map :
    Alike Value.embed (ev.runFunctional .map (f :: args) scope)
      (ev.runFunctional .map (f.embed :: args.map Value.embed) scope) := by
  have seqs : (args.mapM Value.asSeq).map (List.map (List.map Value.embed)) =
      ((args.map Value.embed).mapM Value.asSeq).map (List.map (List.map Value.embed)) := by
    rw [mapM_commutes Value.asSeq_embed, map_map]
    simp [Function.comp_def]
  refine (Alike.ofExcept seqs).bind fun seqs seqs' same => ?_
  have lengths : seqs.map List.length = seqs'.map List.length := by
    simpa [Function.comp_def] using congrArg (List.map List.length) same
  have calls : (Evaluator.inStep ((seqs.map List.length).headD 0) seqs).map
        (List.map Value.embed) =
      (Evaluator.inStep ((seqs'.map List.length).headD 0) seqs').map
        (List.map Value.embed) := by
    rw [← inStep_embed, ← inStep_embed, same, lengths]
  refine (Alike.collect (f := Value.embed) (fun values values' sameValues => ?_) calls).bind
    fun results results' found => Alike.pure (by simp [found])
  exact indifferent.applyValues (Value.embed_embed f).symm sameValues

/-- The elements that `filter` keeps are found by answers that are alike. -/
theorem runFunctional_filter :
    Alike Value.embed (ev.runFunctional .filter [f, coll] scope)
      (ev.runFunctional .filter [f.embed, coll.embed] scope) := by
  refine (Alike.ofExcept (elements_same coll)).bind fun items items' same => ?_
  refine Alike.bind (f := List.map Value.embed) ?_ fun kept kept' sameKept =>
    Alike.pure (by simp [sameKept])
  refine Alike.fold (e := List.map Value.embed) (fun kept kept' item item' sameKept sameItem => ?_)
    (fun kept kept' sameKept => by rw [List.map_reverse, sameKept, ← List.map_reverse]) rfl same
  refine (indifferent.applyToOne (Value.embed_embed f).symm sameItem).bind fun v w answer => ?_
  rw [← Value.isTruthy_embed v, answer, Value.isTruthy_embed]
  split
  · exact Alike.pure (congrArg Round.again (by simp [sameItem, sameKept]))
  · exact Alike.pure (congrArg Round.again sameKept)

/-- `reduce` starts from alike values and combines alike elements. -/
theorem runFunctional_reduce :
    Alike Value.embed (ev.runFunctional .reduce (f :: args) scope)
      (ev.runFunctional .reduce (f.embed :: args.map Value.embed) scope) := by
  have callee : f.embed = f.embed.embed := (Value.embed_embed f).symm
  have wrong := Alike.wrongCount (.functional .reduce) (f :: args)
  simp only [Evaluator.runFunctional, List.getLast?_map, ← List.map_dropLast]
  cases args.getLast? with
  | none => simpa using wrong
  | some coll =>
      refine (Alike.ofExcept (elements_same coll)).bind fun items items' same => ?_
      cases args.dropLast with
      | cons first more => exact indifferent.combine callee (Value.embed_embed first).symm same
      | nil => cases items with
          | nil => cases items' with
              | nil => exact indifferent.applyValues callee rfl
              | cons first more => cases same
          | cons first more => cases items' with
              | nil => cases same
              | cons first' more' =>
                  obtain ⟨sameFirst, sameMore⟩ := List.cons.inj same
                  exact indifferent.combine callee sameFirst sameMore

/-- `every?` stops at the same element on both sides. -/
theorem runFunctional_every :
    Alike Value.embed (ev.runFunctional .every [f, coll] scope)
      (ev.runFunctional .every [f.embed, coll.embed] scope) := by
  refine (Alike.ofExcept (elements_same coll)).bind fun items items' same => ?_
  refine Alike.fold (e := id) (fun _ _ item item' _ sameItem => ?_) (fun _ _ _ => rfl) rfl same
  refine (indifferent.applyToOne (Value.embed_embed f).symm sameItem).bind fun v w answer => ?_
  rw [← Value.isTruthy_embed v, answer, Value.isTruthy_embed]
  split <;> exact Alike.pure rfl

/-- `some` stops at the same element, with an answer that is alike. -/
theorem runFunctional_some :
    Alike Value.embed (ev.runFunctional .some [f, coll] scope)
      (ev.runFunctional .some [f.embed, coll.embed] scope) := by
  refine (Alike.ofExcept (elements_same coll)).bind fun items items' same => ?_
  refine Alike.fold (e := id) (fun _ _ item item' _ sameItem => ?_) (fun _ _ _ => rfl) rfl same
  refine (indifferent.applyToOne (Value.embed_embed f).symm sameItem).bind fun v w answer => ?_
  rw [← Value.isTruthy_embed v, answer, Value.isTruthy_embed]
  split
  · exact Alike.pure (congrArg Round.stop answer)
  · exact Alike.pure rfl

omit indifferent in
/-- The value is kept in the body of the new function, where embedding reaches it. -/
theorem runFunctional_constantly :
    Alike Value.embed (ev.runFunctional .constantly [f] scope)
      (ev.runFunctional .constantly [f.embed] scope) := by
  have made := Alike.makeClosure "constantly" (some "constantly")
    (.vector [.symbol "&", .symbol "_"]) [.literal f] scope
  exact made.bind fun c d same => Alike.pure (by simp [same])

end

/-- Functions that call functions, and those that make new ones of them. -/
theorem runFunctional (op : FunctionalOp) (args : List Value) :
    Alike Value.embed (ev.runFunctional op args scope)
      (ev.runFunctional op (args.map Value.embed) scope) := by
  have wrong := Alike.wrongCount (.functional op) args
  cases op with
  | map =>
      cases args with
      | nil => exact wrong
      | cons f colls => exact indifferent.runFunctional_map f colls
  | filter =>
      rcases args with _ | ⟨f, _ | ⟨coll, _ | ⟨c, rest⟩⟩⟩
      · exact wrong
      · exact wrong
      · exact indifferent.runFunctional_filter f coll
      · exact wrong
  | reduce =>
      cases args with
      | nil => exact wrong
      | cons f rest => exact indifferent.runFunctional_reduce f rest
  | every =>
      rcases args with _ | ⟨f, _ | ⟨coll, _ | ⟨c, rest⟩⟩⟩
      · exact wrong
      · exact wrong
      · exact indifferent.runFunctional_every f coll
      · exact wrong
  | some =>
      rcases args with _ | ⟨f, _ | ⟨coll, _ | ⟨c, rest⟩⟩⟩
      · exact wrong
      · exact wrong
      · exact indifferent.runFunctional_some f coll
      · exact wrong
  | partialCall =>
      cases args with
      | nil => exact wrong
      | cons f bound =>
          exact (Alike.ofExcept (Value.asCallable_same "partial" (Value.embed_embed f).symm)).bind
            fun g g' same => Alike.pure (by simp [same])
  | comp =>
      exact (Alike.ofExcept (asCallables_same "comp" args)).bind fun fs fs' same =>
        Alike.pure (by simp [same])
  | juxt =>
      exact (Alike.ofExcept (asCallables_same "juxt" args)).bind fun fs fs' same =>
        Alike.pure (by simp [same])
  | complement =>
      rcases args with _ | ⟨f, _ | ⟨b, rest⟩⟩
      · exact wrong
      · exact (Alike.ofExcept (Value.asCallable_same "complement" (Value.embed_embed f).symm)).bind
          fun g g' same => Alike.pure (by simp [same])
      · exact wrong
  | constantly =>
      rcases args with _ | ⟨v, _ | ⟨b, rest⟩⟩
      · exact wrong
      · exact runFunctional_constantly v
      · exact wrong

/-! ### Console and files -/

omit indifferent in
/-- Files are texts, which embedding leaves alone. -/
theorem readFile (path : String) :
    Alike id (Evaluator.readFile path) (Evaluator.readFile path) := by
  refine Alike.bindSame (Alike.lookNatural (h := fun s => s.files.read path) fun _ => rfl)
    fun content => ?_
  split
  · exact Alike.pure rfl
  · exact Alike.fail _

/-- The text of a file is read to the same forms on both sides. -/
theorem evalSource (source : String) :
    Alike Value.embed (ev.evalSource source scope) (ev.evalSource source scope) := by
  refine (Alike.ofSame rfl).bindSame fun forms => ?_
  refine Alike.fold (e := Value.embed) (i := Form.embed) (fun _ _ form form' _ same => ?_)
    (fun _ _ same => same) rfl rfl
  exact (indifferent.eval same).bind fun v w found => Alike.pure (congrArg Round.again found)

/-- Evaluating a file gives alike values, and errors under the same name. -/
theorem loadFile (path : String) :
    Alike Value.embed (ev.loadFile path scope) (ev.loadFile path scope) :=
  ((readFile path).bindSame fun source => indifferent.evalSource source).decorate fun _ _ _ => rfl

omit indifferent in
/-- Whether a log call names a level shows in its first argument. -/
theorem splitLevel_embed (args : List Value) :
    Evaluator.splitLevel (args.map Value.embed) =
      Prod.map id (List.map Value.embed) (Evaluator.splitLevel args) := by
  rcases args with _ | ⟨first, _ | ⟨second, rest⟩⟩
  · rfl
  · cases first <;> rfl
  · cases first <;> rfl

omit indifferent in
/-- What is written to a file is the same text. -/
theorem runConsole_writeFile (path content : Value) :
    Alike Value.embed (ev.runConsole .writeFile [path, content] scope)
      (ev.runConsole .writeFile [path.embed, content.embed] scope) := by
  refine (Alike.ofSame (Value.asText_embed path).symm).bindSame fun name => ?_
  refine Alike.bindSame (Alike.look fun s t states => ?_) fun written => ?_
  · have files : s.files = t.files := states.same fun _ => rfl
    rw [Value.display_embed, files, states.same State.cells_embed]
  · split
    · exact Alike.thenNil (Alike.changeNatural fun _ => rfl)
    · exact Alike.fail _

omit indifferent in
/-- A line of the log has the same level and the same text. -/
theorem runConsole_log (args : List Value) :
    Alike Value.embed (ev.runConsole .log args scope)
      (ev.runConsole .log (args.map Value.embed) scope) := by
  simp only [Evaluator.runConsole, splitLevel_embed]
  obtain ⟨levelName, values⟩ := Evaluator.splitLevel args
  refine Alike.bindSame (Alike.displayJoined (by simp)) fun message => ?_
  dsimp only [Prod.map, id]
  split
  · exact Alike.thenNil (Alike.changeNatural fun _ => rfl)
  · exact Alike.fail _

/-- What is printed, logged and written to files is the same text. -/
theorem runConsole (op : ConsoleOp) (args : List Value) :
    Alike Value.embed (ev.runConsole op args scope)
      (ev.runConsole op (args.map Value.embed) scope) := by
  have wrong := Alike.wrongCount (.console op) args
  have embedded : args.map Value.embed = (args.map Value.embed).map Value.embed := by simp
  cases op with
  | print =>
      refine (Alike.displayJoined embedded).bindSame fun line => ?_
      exact Alike.thenNil (Alike.changeNatural fun _ => rfl)
  | println =>
      refine (Alike.displayJoined embedded).bindSame fun line => ?_
      exact Alike.thenNil (Alike.changeNatural fun _ => rfl)
  | readable =>
      refine Alike.bindSame (Alike.look fun s t states => ?_) fun text => Alike.pure rfl
      rw [states.same State.cells_embed, Value.map_show_embed _ embedded]
  | readFile =>
      rcases args with _ | ⟨path, _ | ⟨b, rest⟩⟩
      · exact wrong
      · refine (Alike.ofSame (Value.asText_embed path).symm).bindSame fun name => ?_
        exact (readFile name).bindSame fun content => Alike.pure rfl
      · exact wrong
  | writeFile =>
      rcases args with _ | ⟨path, _ | ⟨content, _ | ⟨c, rest⟩⟩⟩
      · exact wrong
      · exact wrong
      · exact runConsole_writeFile path content
      · exact wrong
  | fileExists =>
      rcases args with _ | ⟨path, _ | ⟨b, rest⟩⟩
      · exact wrong
      · refine (Alike.ofSame (Value.asText_embed path).symm).bindSame fun name => ?_
        refine Alike.bindSame (Alike.lookNatural (h := fun s => s.files.present name) fun _ => rfl) ?_
        exact fun present => Alike.pure rfl
      · exact wrong
  | loadFile =>
      rcases args with _ | ⟨path, _ | ⟨b, rest⟩⟩
      · exact wrong
      · refine (Alike.ofSame (Value.asText_embed path).symm).bindSame fun name => ?_
        exact indifferent.loadFile name
      · exact wrong
  | log => exact runConsole_log args

/-! ### Atoms and the system -/

/-- The new value comes from alike calls, and is written on both sides or on neither. -/
theorem swapAtom (i : Nat) {f g : Value} {extra extra' : List Value}
    (sameCallee : f.embed = g.embed) (same : extra.map Value.embed = extra'.map Value.embed) :
    Alike Value.embed (ev.swapAtom i f extra scope) (ev.swapAtom i g extra' scope) := by
  refine Alike.iterate (e := id) (fun _ _ _ => ?_) ev.steps () () rfl
  refine (Alike.readAtom i).bind fun a b sameAtom => ?_
  have version : a.version = b.version := by
    simpa [Atom.embed] using congrArg Atom.version sameAtom
  have value : a.value.embed = b.value.embed := by
    simpa [Atom.embed] using congrArg Atom.value sameAtom
  have called : Alike Value.embed (ev.applyValues f (a.value :: extra) scope)
      (ev.applyValues g (b.value :: extra') scope) :=
    indifferent.applyValues sameCallee (by simp [value, same])
  refine called.bind fun next next' sameNext => ?_
  rw [version]
  refine (Alike.compareAndSet i b.version sameNext).bindSame fun written => ?_
  split
  · exact Alike.pure (congrArg Round.stop sameNext)
  · exact Alike.pure rfl

/-- All operations on atoms act alike. -/
theorem runAtom (op : AtomOp) (args : List Value) :
    Alike Value.embed (ev.runAtom op args scope) (ev.runAtom op (args.map Value.embed) scope) := by
  have wrong := Alike.wrongCount (.atom op) args
  cases op with
  | make =>
      rcases args with _ | ⟨v, _ | ⟨b, rest⟩⟩
      · exact wrong
      · exact (Alike.addAtom (Value.embed_embed v).symm).bindSame fun i => Alike.pure rfl
      · exact wrong
  | deref =>
      rcases args with _ | ⟨v, _ | ⟨b, rest⟩⟩
      · exact wrong
      · refine (Alike.ofSame (asAtom_embed v)).bindSame fun i => ?_
        refine (Alike.readAtom i).bind fun a b same => Alike.pure ?_
        simpa [Atom.embed] using congrArg Atom.value same
      · exact wrong
  | reset =>
      rcases args with _ | ⟨target, _ | ⟨v, _ | ⟨c, rest⟩⟩⟩
      · exact wrong
      · exact wrong
      · have same : v.embed = v.embed.embed := (Value.embed_embed v).symm
        refine (Alike.ofSame (asAtom_embed target)).bindSame fun i => ?_
        exact (Alike.writeAtom i same).bindSame fun _ => Alike.pure same
      · exact wrong
  | swap =>
      rcases args with _ | ⟨target, _ | ⟨f, extra⟩⟩
      · exact wrong
      · exact wrong
      · refine (Alike.ofSame (asAtom_embed target)).bindSame fun i => ?_
        exact indifferent.swapAtom i (Value.embed_embed f).symm (by simp)
  | isAtom =>
      rcases args with _ | ⟨v, _ | ⟨b, rest⟩⟩
      · exact wrong
      · cases v <;> exact Alike.pure rfl
      · exact wrong

omit indifferent in
theorem helpFor (name : String) : Alike Value.embed (ev.helpFor name) (ev.helpFor name) := by
  refine registry.bindSame fun registry => ?_
  split <;> exact Alike.pure rfl

omit indifferent in
theorem readClock : Alike id Evaluator.readClock Evaluator.readClock :=
  Alike.updateNatural fun _ => rfl

omit indifferent in
/-- A time is given out as a number or in one format; any other format is shown in the error. -/
theorem runSystem_now (format : Value) (rest : List Value) :
    Alike Value.embed (ev.runSystem .now (format :: rest))
      (ev.runSystem .now (format.embed :: rest.map Value.embed)) := by
  have unknown (v : Value) : Alike Value.embed
      (do Machine.fail (.invalidArguments "now"
        ("unknown format " ++ (← Machine.look fun s => v.show s.cells))))
      (do Machine.fail (.invalidArguments "now"
        ("unknown format " ++ (← Machine.look fun s => v.embed.show s.cells)))) := by
    refine Alike.bindSame (Alike.look fun s t states => ?_) fun text => Alike.fail _
    rw [Value.show_embed, states.same State.cells_embed]
  cases format with
  | keyword name =>
      by_cases iso : name = "iso"
      · subst iso
        exact readClock.bindSame fun now => Alike.pure rfl
      · simpa [Evaluator.runSystem, iso] using unknown (.keyword name)
  | _ => exact unknown _

omit indifferent in
/-- A setting that there is not is replaced by the fallback. -/
theorem runSystem_setting (name : Value) (fallback : List Value) :
    Alike Value.embed (ev.runSystem .setting (name :: fallback))
      (ev.runSystem .setting (name.embed :: fallback.map Value.embed)) := by
  refine (Alike.ofSame (Value.asText_embed name).symm).bindSame fun key => ?_
  refine Alike.bindSame (Alike.lookNatural (h := fun s => Assoc.get? key s.environment)
    fun _ => rfl) fun found => ?_
  split
  · exact Alike.pure rfl
  · refine Alike.pure ?_
    rw [Value.headD_embed, Value.embed_embed]

omit indifferent in
/-- Help goes by a name, or by the name and the parameters of a closure. -/
theorem runSystem_help (v : Value) :
    Alike Value.embed (ev.runSystem .help [v]) (ev.runSystem .help [v.embed]) := by
  cases v with
  | builtin name | text name | symbol name | keyword name => exact helpFor name
  | function c | transformer c =>
      simp only [Value.embed, Evaluator.runSystem, Closure.displayName_embed,
        Closure.arityText_embed]
      exact Alike.pure rfl
  | _ => exact Alike.fail _

omit indifferent in
/-- The names of builtins, of all or of one category, do not depend on values. -/
theorem runSystem_functions (args : List Value) :
    Alike Value.embed (ev.runSystem .functions args)
      (ev.runSystem .functions (args.map Value.embed)) := by
  have listed (names : List String) : Alike Value.embed
      (Pure.pure (Value.vector (names.map .text))) (Pure.pure (Value.vector (names.map .text))) :=
    Alike.pure rfl
  cases args with
  | nil => exact registry.bindSame fun registry => listed _
  | cons v rest =>
      refine (Alike.ofSame (Value.asKey_embed v).symm).bindSame fun key => ?_
      exact registry.bindSame fun registry => listed _

omit indifferent in
/-- The clock, the settings and the help for functions do not depend on values. -/
theorem runSystem (op : SystemOp) (args : List Value) :
    Alike Value.embed (ev.runSystem op args) (ev.runSystem op (args.map Value.embed)) := by
  have wrong := Alike.wrongCount (.system op) args
  cases op with
  | now =>
      cases args with
      | nil => exact readClock.bindSame fun now => Alike.pure rfl
      | cons format rest => exact runSystem_now format rest
  | uuid =>
      cases args with
      | nil => exact (Alike.updateNatural fun _ => rfl).bindSame fun text => Alike.pure rfl
      | cons a rest => exact wrong
  | setting =>
      cases args with
      | nil => exact wrong
      | cons name fallback => exact runSystem_setting name fallback
  | help =>
      rcases args with _ | ⟨v, _ | ⟨b, rest⟩⟩
      · exact wrong
      · exact runSystem_help v
      · exact wrong
  | functions => exact runSystem_functions args

/-! ### All functions -/

/-- Every builtin that is a function acts alike on alike arguments. -/
theorem runPrimitive (p : Primitive) (args : List Value) :
    Alike Value.embed (ev.runPrimitive p args scope)
      (ev.runPrimitive p (args.map Value.embed) scope) := by
  have plain {r : List Value → Except Error Value}
      (natural : ∀ args, r (args.map Value.embed) = (r args).map Value.embed) :
      Alike Value.embed (Machine.ofExcept (r args)) (Machine.ofExcept (r (args.map Value.embed))) := by
    apply Alike.ofExcept
    rw [natural, map_map]
    simp
  cases p with
  | general op => exact runGeneral op args
  | math op => exact plain op.apply_embed
  | comparison op => exact plain op.apply_embed
  | sequence op =>
      by_cases sorting : op = .sort
      · subst sorting
        rcases args with _ | ⟨f, _ | ⟨coll, _ | ⟨c, rest⟩⟩⟩
        · exact plain (SequenceOp.apply_embed .sort)
        · exact plain (SequenceOp.apply_embed .sort)
        · have elements := Value.asSeq_same (Value.embed_embed coll).symm
          refine (Alike.ofExcept elements).bind fun items items' same => ?_
          refine (Alike.sort (fun a b a' b' sameA sameB => ?_) same).bind
            fun sorted sorted' found => Alike.pure (by simp [found])
          exact indifferent.comparatorBefore (Value.embed_embed f).symm sameA sameB
        · exact plain (SequenceOp.apply_embed .sort)
      · have unfolded (args : List Value) : ev.runPrimitive (.sequence op) args scope =
            Machine.ofExcept (op.apply args) := by
          rw [Evaluator.runPrimitive]
          · rfl
          · exact fun _ _ same => absurd same sorting
        rw [unfolded, unfolded]
        exact plain op.apply_embed
  | functional op => exact indifferent.runFunctional op args
  | text op =>
      refine Alike.bindSame (Alike.lookNatural (h := State.cells) fun s => s.cells_embed.symm)
        fun cells => plain (op.apply_embed ev.settings.libraries cells)
  | table op => exact plain op.apply_embed
  | json op => exact plain (op.apply_embed ev.settings.libraries)
  | console op => exact indifferent.runConsole op args
  | atom op => exact indifferent.runAtom op args
  | thread op => exact Alike.runThread op args
  | encoding op => exact plain (op.apply_embed ev.settings.libraries)
  | system op => exact runSystem op args

end Evaluator.Indifferent

end PluginLisp
