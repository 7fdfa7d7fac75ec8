import Mathlib.Algebra.Group.Nat.Defs
import PluginLisp.Evaluator.Primitives
import PluginLisp.Proofs.Machine.Running
import PluginLisp.Proofs.Number.Checked

/-!
Delivery through a channel. Any number of parties send to a channel, receive from it with or without a
deadline, try to receive, and close it. A party goes on until it has to wait, and in between anybody
else may go on, in any order. Whatever the order, the values taken are the values accepted, in the
order in which they were accepted, except for those that are still in the channel. Once the channel is
closed no value is accepted, and once it is drained as well every receiver is told so. All of this is
`Exchange.Reachable.delivers`. The channel counts in words of sixty-four bits, so it is for fewer than
`2 ^ 64` values.

Main results: `Orderly.step`, `Reachable.orderly`, `Reachable.delivers`.
-/

namespace PluginLisp

open Machine

/-- Waiting to be served, and not for a value that has been accepted to be taken. -/
def Wait.asks : Wait → Bool
  | .handover _ _ => false
  | _ => true

namespace Exchange

/-! ### Parties -/

/-- What can be asked of a channel. -/
inductive Request where
  | send (v : Value)
  | receive (deadline : Option Nat)
  | tryReceive
  | close

/-- The computation of a request. A receiver answers with the value that it got, if it got one. -/
def Request.run (c : Nat) : Request → Machine (Option Value)
  | send v => do
      Evaluator.send c v
      return none
  | receive deadline => Evaluator.receive? c deadline
  | tryReceive => Evaluator.takeFrom? c
  | close => do
      Evaluator.closeChannel c
      return none

/-- How far a request has come. -/
inductive Progress where
  | waiting (wait : Wait) (resume : State → Run (Option Value))
  | done (outcome : Outcome (Option Value))

/-- A party with its request. -/
structure Party where
  request : Request
  progress : Progress

/-- What a party has come to when it stops: it waits for something, or it is done. -/
inductive Result where
  | waits (wait : Wait)
  | done (outcome : Outcome (Option Value))

/-- A party has gone on until it had to wait again or was done. -/
structure Move where
  request : Request
  /-- What it had waited for before. -/
  wait : Wait
  /-- The channel as it was when the party went on. -/
  found : Channel
  result : Result

/-- The state in which a run stops. -/
def stateOf : Run (Option Value) → State
  | .done _ s => s
  | .blocked _ s _ => s

/-- What a run has come to. -/
def resultOf : Run (Option Value) → Result
  | .done outcome _ => .done outcome
  | .blocked wait _ _ => .waits wait

/-- How far a run has come. -/
def progressOf : Run (Option Value) → Progress
  | .done outcome _ => .done outcome
  | .blocked wait _ resume => .waiting wait resume

end Exchange

open Exchange in
/-- A state with the parties around one of its channels, and what these have done, in order. -/
structure Exchange where
  state : State
  parties : List Party
  trace : List Move

namespace Exchange

/-- A party has gone on. -/
def advance (x : Exchange) (i : Nat) (request : Request) (wait : Wait) (found : Channel)
    (run : Run (Option Value)) : Exchange where
  state := stateOf run
  parties := x.parties.set i ⟨request, progressOf run⟩
  trace := x.trace ++ [⟨request, wait, found, resultOf run⟩]

/-! ### The flow of values -/

namespace Move

variable (m : Move)

/-- The request has not been served before: if the party is a sender, its value has not been
    accepted. -/
def asks : Bool := m.wait.asks

/-- The party is a sender whose value has not been accepted before. -/
def Offers : Prop := (∃ v, m.request = .send v) ∧ m.asks = true

/-- The party is a receiver that waits for a value if need be. -/
def Receives : Prop := ∃ deadline, m.request = .receive deadline

/-- The value that has been accepted: the one of a sender that has succeeded, or waits for its value
    to be taken from now on. -/
def accepted? : Option Value :=
  match m.asks, m.request, m.result with
  | true, .send v, .done (.ok _) => some v
  | true, .send v, .waits (.handover _ _) => some v
  | _, _, _ => none

/-- The value that has been taken: the one that a receiver has got from a channel that was not
    empty. -/
def taken? : Option Value :=
  match m.request, m.found.queue, m.result with
  | .receive _, _ :: _, .done (.ok got) => got
  | .tryReceive, _ :: _, .done (.ok got) => got
  | _, _, _ => none

/-- A receiver has been told by `nil` that there will be no value any more. -/
def Ends : Prop := m.Receives ∧ m.found.queue = [] ∧ m.result = .done (.ok (some .nil))

end Move

/-- The values accepted, in order. -/
def accepted (trace : List Move) : List Value := trace.filterMap Move.accepted?

/-- The values taken, in order. -/
def taken (trace : List Move) : List Value := trace.filterMap Move.taken?

/-! ### Steps -/

/-- What can happen around channel `c`, as long as not all the values have been accepted that the
    channel can count. -/
inductive Step (c : Nat) (x : Exchange) : Exchange → Prop where
  /-- Somebody comes with a request. -/
  | ask (request : Request) :
      Step c x { x with parties := x.parties ++ [⟨request, .waiting .turn (request.run c)⟩] }
  /-- Anything happens that does not touch the channel. -/
  | elsewhere (s : State) (same : s.channels[c]? = x.state.channels[c]?) :
      Step c x { x with state := s }
  /-- A party that need not wait any longer goes on. -/
  | proceed {i : Nat} {request : Request} {wait : Wait} {resume : State → Run (Option Value)}
      {found : Channel} (party : x.parties[i]? = some ⟨request, .waiting wait resume⟩)
      (isOver : wait.isOver x.state = true) (there : x.state.channels[c]? = some found)
      (few : (accepted x.trace).length + 1 < 2 ^ 64) :
      Step c x (x.advance i request wait found (resume x.state))

/-- What can come about around a new channel. -/
inductive Reachable (c capacity : Nat) : Exchange → Prop where
  | start (s : State) (new : s.channels[c]? = some { capacity }) :
      Reachable c capacity ⟨s, [], []⟩
  | step {x y : Exchange} (before : Reachable c capacity x) (step : Step c x y) :
      Reachable c capacity y

/-! ### What a request comes to -/

/-- What a request waits for before it is served. -/
def Request.wait (c : Nat) : Request → Wait
  | send _ => .room c
  | receive deadline => .arrival c deadline
  | tryReceive | close => .turn

/-- What a request comes to by the channel that it finds, and what it makes of the channel. -/
inductive Serves (c : Nat) (found : Channel) : Request → Result → Channel → Prop where
  | refused {v : Value} (closed : found.closed = true) :
      Serves c found (.send v) (.done (.error .channelClosed)) found
  | full {v : Value} (opened : found.closed = false) (full : found.slots ≤ found.queue.length) :
      Serves c found (.send v) (.waits (.room c)) found
  | sent {v : Value} (opened : found.closed = false) (room : found.queue.length < found.slots)
      (counts : (found.sent + 1).toNat = found.sent.toNat + 1) :
      Serves c found (.send v) (.done (.ok none))
        { found with queue := found.queue ++ [v], sent := found.sent + 1 }
  | offered {v : Value} (opened : found.closed = false) (room : found.queue.length < found.slots)
      (counts : (found.sent + 1).toNat = found.sent.toNat + 1) :
      Serves c found (.send v) (.waits (.handover c (found.sent + 1)))
        { found with queue := found.queue ++ [v], sent := found.sent + 1 }
  | received {deadline : Option Nat} {v : Value} {rest : List Value}
      (first : found.queue = v :: rest)
      (counts : (found.received + 1).toNat = found.received.toNat + 1) :
      Serves c found (.receive deadline) (.done (.ok (some v)))
        { found with queue := rest, received := found.received + 1 }
  | ended {deadline : Option Nat} (closed : found.closed = true) (empty : found.queue = []) :
      Serves c found (.receive deadline) (.done (.ok (some .nil))) found
  | expired {deadline : Nat} (opened : found.closed = false) (empty : found.queue = []) :
      Serves c found (.receive (some deadline)) (.done (.ok none)) found
  | waited {deadline : Option Nat} (opened : found.closed = false) (empty : found.queue = []) :
      Serves c found (.receive deadline) (.waits (.arrival c deadline)) found
  | tried {v : Value} {rest : List Value} (first : found.queue = v :: rest)
      (counts : (found.received + 1).toNat = found.received.toNat + 1) :
      Serves c found .tryReceive (.done (.ok (some v)))
        { found with queue := rest, received := found.received + 1 }
  | missed (empty : found.queue = []) : Serves c found .tryReceive (.done (.ok none)) found
  | closed : Serves c found .close (.done (.ok none)) found.close

/-- Where a party stands: it asks, or its value waits to be taken, or it is done. -/
inductive Standing (c : Nat) : Request → Progress → Prop where
  /-- What is left is what the request would be by itself. -/
  | asks {request : Request} {wait : Wait} {resume : State → Run (Option Value)}
      (waits : wait = .turn ∨ wait = request.wait c)
      (resumes : ∀ t, wait.isOver t = true → resume t = request.run c t) :
      Standing c request (.waiting wait resume)
  | handsOver {v : Value} {ticket : UInt64} {resume : State → Run (Option Value)}
      (resumes : ∀ t, resume t = .done (.ok none) t) :
      Standing c (.send v) (.waiting (.handover c ticket) resume)
  | done {request : Request} {outcome : Outcome (Option Value)} :
      Standing c request (.done outcome)

section

variable {c : Nat} {s : State} {found : Channel}

/-- A run that stops in a state with the channel `next`, having done what `Serves` allows. -/
structure Served (c : Nat) (found : Channel) (request : Request) (run : Run (Option Value))
    (next : Channel) : Prop where
  serves : Serves c found request (resultOf run) next
  standing : Standing c request (progressOf run)
  there : (stateOf run).channels[c]? = some next

/-- Neither counter of a channel is at its end. -/
structure CanCount (channel : Channel) : Prop where
  sent : channel.sent.toNat + 1 < UInt64.size
  received : channel.received.toNat + 1 < UInt64.size

/-- A value can be counted as sent as long as the counter has room. -/
theorem countSent_eq (channel : Channel) (small : channel.sent.toNat + 1 < UInt64.size) :
    channel.countSent = .ok { channel with sent := channel.sent + 1 } := by
  simp [Channel.countSent, Number.addUInt64_one small, bind, Except.bind, pure, Except.pure]

/-- A value can be counted as received as long as the counter has room. -/
theorem countReceived_eq (channel : Channel) (small : channel.received.toNat + 1 < UInt64.size) :
    channel.countReceived = .ok { channel with received := channel.received + 1 } := by
  simp [Channel.countReceived, Number.addUInt64_one small, bind, Except.bind, pure, Except.pure]

/-- What is left of a send when there is room or the channel is closed. -/
def offer (c : Nat) (v : Value) : Machine Unit := do
  match ← look fun s => s.channels[c]? with
  | none => pure ()
  | some channel =>
      let accepted ← channel.accept v
      Evaluator.setChannel c accepted
      let counted ← accepted.countSent
      Evaluator.setChannel c counted
      if counted.capacity = 0 then await (.handover c counted.sent) else pure ()

theorem run_send (v : Value) :
    (Request.send v).run c = await (.room c) >>= fun _ => offer c v >>= fun _ => pure none := by
  simp only [Request.run, Evaluator.send, bind_assoc]
  rfl

theorem getElem?_modify_self (there : s.channels[c]? = some found) (f : Channel → Channel) :
    (s.channels.modify c f)[c]? = some (f found) := by
  rw [Array.getElem?_modify, if_pos rfl, there]
  rfl

/-- The state with another channel in place `c`. -/
abbrev withChannel (s : State) (c : Nat) (next : Channel) : State :=
  { s with channels := s.channels.modify c fun _ => next }

theorem withChannel_there (there : s.channels[c]? = some found) (next : Channel) :
    (withChannel s c next).channels[c]? = some next := getElem?_modify_self there _

theorem run_setChannel_bind {α : Type} (s : State) (c : Nat) (next : Channel)
    (rest : Unit → Machine α) :
    (Evaluator.setChannel c next >>= rest) s = rest () (withChannel s c next) := rfl

/-- A channel that is replaced twice is the second one. -/
theorem withChannel_withChannel (s : State) (c : Nat) (first second : Channel) :
    withChannel (withChannel s c first) c second = withChannel s c second := by
  have same : (s.channels.modify c fun _ => first).modify c (fun _ => second) =
      s.channels.modify c fun _ => second := by
    ext i
    · simp
    · by_cases here : c = i <;> simp [Array.getElem_modify, here]
  rw [withChannel, withChannel, withChannel, same]

/-- A channel that is open accepts a value and counts it. -/
theorem offer_opened (there : s.channels[c]? = some found) (v : Value)
    (opened : found.closed = false) (small : found.sent.toNat + 1 < UInt64.size) :
    offer c v s = (if found.capacity = 0 then await (.handover c (found.sent + 1)) else pure ())
      (withChannel s c { found with queue := found.queue ++ [v], sent := found.sent + 1 }) := by
  have accepts : found.accept v = .ok { found with queue := found.queue ++ [v] } := by
    simp [Channel.accept, opened]
  have counted := countSent_eq { found with queue := found.queue ++ [v] } small
  simp only [offer, run_look_bind, there, accepts, run_lift_ok, run_pure_bind, run_setChannel_bind,
    counted, withChannel_withChannel]

/-- An offer is accepted, or refused by a closed channel. -/
theorem offer_served (there : s.channels[c]? = some found) (v : Value)
    (counts : found.closed = false → CanCount found)
    (room : found.closed = false → found.queue.length < found.slots) :
    ∃ next, Served c found (.send v) ((offer c v >>= fun _ => pure none) s) next := by
  cases closed : found.closed with
  | true =>
      have refused : (offer c v >>= fun _ => pure none) s =
          (Run.done (.error .channelClosed) s : Run (Option Value)) := by
        simp [offer, bind_assoc, there, Channel.accept, closed]
      rw [refused]
      exact ⟨found, .refused closed, .done, there⟩
  | false =>
      let next := { found with queue := found.queue ++ [v], sent := found.sent + 1 }
      let t := withChannel s c next
      have there' : t.channels[c]? = some next := withChannel_there there next
      have serves := room closed
      have ran : (offer c v >>= fun _ => pure (none : Option Value)) s =
          ((if found.capacity = 0 then await (.handover c (found.sent + 1)) else pure ()) >>=
            fun _ => pure none) t := by
        rw [bind_eq, offer_opened there v closed (counts closed).sent, bind_eq]
      have oneMore := Number.toNat_add_one (counts closed).sent
      rw [ran]
      refine ⟨next, ?_⟩
      split
      · cases isOver : (Wait.handover c (found.sent + 1)).isOver t with
        | true =>
            rw [run_await_bind isOver]
            exact ⟨.sent closed serves oneMore, .done, there'⟩
        | false =>
            rw [run_await_bind_blocked isOver]
            exact ⟨.offered closed serves oneMore, .handsOver fun _ => rfl, there'⟩
      · exact ⟨.sent closed serves oneMore, .done, there'⟩

theorem canSend_iff :
    found.canSend = true ↔ (found.closed = false → found.queue.length < found.slots) := by
  cases closed : found.closed <;> simp [Channel.canSend, closed]

/-- A sender waits for room, or its offer is served. -/
theorem send_served (there : s.channels[c]? = some found)
    (counts : found.closed = false → CanCount found) (v : Value) :
    ∃ next, Served c found (.send v) ((Request.send v).run c s) next := by
  have over_iff : (Wait.room c).isOver s = found.canSend := by
    simp [Wait.isOver, Wait.isMet, Wait.deadline?, there]
  cases isOver : found.canSend with
  | true =>
      rw [run_send, run_await_bind (over_iff.trans isOver)]
      exact offer_served there v counts (canSend_iff.1 isOver)
  | false =>
      have waits := over_iff.trans isOver
      rw [Channel.canSend] at isOver
      simp only [Bool.or_eq_false_iff, decide_eq_false_iff_not, Nat.not_lt] at isOver
      have resumes : Standing c (.send v) (progressOf ((Request.send v).run c s)) := by
        rw [run_send, run_await_bind_blocked waits]
        refine .asks (Or.inr rfl) fun t isOver => ?_
        rw [run_send, run_await_bind isOver]
      refine ⟨found, ?_, resumes, ?_⟩
      · rw [run_send, run_await_bind_blocked waits]
        exact .full isOver.1 isOver.2
      · rw [run_send, run_await_bind_blocked waits]
        exact there

/-- What is left of a receive when there is a value, the channel is closed or the deadline has
    passed. -/
def fetch (c : Nat) : Machine (Option Value) := do
  match ← Evaluator.takeFrom? c with
  | some v => return some v
  | none => do
      if ← look fun s => (s.channels[c]?).any Channel.closed then return some .nil else return none

theorem run_receive (deadline : Option Nat) :
    (Request.receive deadline).run c = await (.arrival c deadline) >>= fun _ => fetch c := rfl

/-- From an empty queue nothing is taken. -/
theorem takeFrom_nil (there : s.channels[c]? = some found) (empty : found.queue = []) :
    Evaluator.takeFrom? c s = .done (.ok none) s := by
  simp [Evaluator.takeFrom?, there, Channel.take?, empty]

/-- From any other queue the first value is taken and counted. -/
theorem takeFrom_cons (there : s.channels[c]? = some found) (counts : CanCount found) {v : Value}
    {rest : List Value} (first : found.queue = v :: rest) :
    Evaluator.takeFrom? c s = .done (.ok (some v))
      (withChannel s c { found with queue := rest, received := found.received + 1 }) := by
  have takes : found.take? = some (v, { found with queue := rest }) := by
    simp [Channel.take?, first]
  have counted := countReceived_eq { found with queue := rest } counts.received
  simp only [Evaluator.takeFrom?, run_look_bind, there, Option.bind_some, takes, run_setChannel_bind,
    counted, run_lift_ok, run_pure_bind, withChannel_withChannel, run_pure]

/-- An attempt to receive takes the first value, or ends without one. -/
theorem tryReceive_served (there : s.channels[c]? = some found) (counts : CanCount found) :
    ∃ next, Served c found .tryReceive (Request.tryReceive.run c s) next := by
  cases queue : found.queue with
  | nil =>
      refine ⟨found, ?_, ?_, ?_⟩ <;> rw [Request.run, takeFrom_nil there queue]
      · exact .missed queue
      · exact .done
      · exact there
  | cons v rest =>
      refine ⟨{ found with queue := rest, received := found.received + 1 }, ?_, ?_, ?_⟩ <;>
        rw [Request.run, takeFrom_cons there counts queue]
      · exact .tried queue (Number.toNat_add_one counts.received)
      · exact .done
      · exact withChannel_there there _

/-- A receiver waits for a value, takes it, or gets the end of the channel. -/
theorem receive_served (there : s.channels[c]? = some found)
    (counts : found.queue ≠ [] → CanCount found) (deadline : Option Nat) :
    ∃ next, Served c found (.receive deadline) ((Request.receive deadline).run c s) next := by
  cases isOver : (Wait.arrival c deadline).isOver s with
  | true =>
      rw [run_receive, run_await_bind isOver]
      cases queue : found.queue with
      | cons v rest =>
          have counts := counts (by simp [queue])
          have ran : fetch c s = .done (.ok (some v))
              (withChannel s c { found with queue := rest, received := found.received + 1 }) := by
            rw [fetch, bind_eq, takeFrom_cons there counts queue]
            rfl
          rw [ran]
          have oneMore := Number.toNat_add_one counts.received
          exact ⟨_, .received queue oneMore, .done, withChannel_there there _⟩
      | nil =>
          have ran : fetch c s = .done (.ok (if found.closed then some .nil else none)) s := by
            rw [fetch, bind_eq, takeFrom_nil there queue]
            cases closed : found.closed <;> simp [Run.andThen, Run.onOk, there, closed]
          rw [ran]
          cases closed : found.closed with
          | true => exact ⟨found, .ended closed queue, .done, there⟩
          | false =>
              cases deadline with
              | none => simp [Wait.isOver, Wait.isMet, Wait.deadline?, there, Channel.canReceive, closed,
                  queue] at isOver
              | some deadline => exact ⟨found, .expired closed queue, .done, there⟩
  | false =>
      have opened : found.closed = false ∧ found.queue = [] := by
        simp only [Wait.isOver, Wait.isMet, there, Option.all_some, Bool.or_eq_false_iff] at isOver
        simpa [Channel.canReceive] using isOver.1
      rw [run_receive, run_await_bind_blocked isOver]
      refine ⟨found, .waited opened.1 opened.2, ?_, there⟩
      refine .asks (Or.inr rfl) fun t isOver => ?_
      rw [run_receive, run_await_bind isOver]

/-- Closing marks the channel and changes nothing else. -/
theorem close_served (there : s.channels[c]? = some found) :
    ∃ next, Served c found .close (Request.close.run c s) next :=
  ⟨found.close, .closed, .done, getElem?_modify_self there _⟩

/-- Whatever is asked of a channel is served. -/
theorem Request.served (request : Request) (there : s.channels[c]? = some found)
    (counts : CanCount found) :
    ∃ next, Served c found request (request.run c s) next := by
  cases request with
  | send v => exact send_served there (fun _ => counts) v
  | receive deadline => exact receive_served there (fun _ => counts) deadline
  | tryReceive => exact tryReceive_served there counts
  | close => exact close_served there

end

/-! ### What the trace tells about the channel -/

/-- What a party comes to when it goes on, and what it makes of the channel that it finds. -/
inductive Moves (c : Nat) (m : Move) (next : Channel) : Prop where
  /-- Its request is served. -/
  | served (asks : m.asks = true) (serves : Serves c m.found m.request m.result next)
  /-- Its value was accepted before, and need not be waited for any longer. -/
  | handedOver (sender : ∃ v, m.request = .send v) (accepted : m.asks = false)
      (result : m.result = .done (.ok none)) (same : next = m.found)

/-- The channel is what it has to be after the moves of a trace. -/
structure Accounts (capacity : Nat) (trace : List Move) (channel : Channel) : Prop where
  sized : channel.capacity = capacity
  /-- Nothing is lost, duplicated or reordered. -/
  delivered : taken trace ++ channel.queue = accepted trace
  sent : channel.sent.toNat = (accepted trace).length
  received : channel.received.toNat = (taken trace).length
  bounded : channel.queue.length ≤ max capacity 1
  closed : channel.closed = true ↔ ∃ m ∈ trace, m.request = .close
  /-- Whoever was told that there will be no value any more was told the truth. -/
  ended : (∃ m ∈ trace, m.Ends) → channel.closed = true ∧ channel.queue = []

section

variable {c capacity : Nat} {trace : List Move} {m : Move} {next : Channel}

theorem accepted_append (trace : List Move) (m : Move) :
    accepted (trace ++ [m]) = accepted trace ++ m.accepted?.toList := by
  cases new : m.accepted? <;> simp [accepted, new]

theorem taken_append (trace : List Move) (m : Move) :
    taken (trace ++ [m]) = taken trace ++ m.taken?.toList := by
  cases new : m.taken? <;> simp [taken, new]

/-- What a move does to the queue is what the trace says. -/
structure Move.Shifts (m : Move) (next : Channel) : Prop where
  sized : next.capacity = m.found.capacity
  queue : m.found.queue ++ m.accepted?.toList = m.taken?.toList ++ next.queue
  sent : next.sent.toNat = m.found.sent.toNat + m.accepted?.toList.length
  received : next.received.toNat = m.found.received.toNat + m.taken?.toList.length
  bounded : m.found.queue.length ≤ m.found.slots → next.queue.length ≤ m.found.slots
  closed : next.closed = true ↔ m.found.closed = true ∨ m.request = .close
  ended : m.Ends → next.closed = true ∧ next.queue = []
  /-- What is drained stays so. -/
  drained : m.found.closed = true → m.found.queue = [] → next.queue = []

/-- Serving a request moves values as its move tells. -/
theorem Serves.shifts {request : Request} {wait : Wait} {found : Channel} {result : Result}
    (serves : Serves c found request result next)
    (asks : (Move.mk request wait found result).asks = true) :
    Move.Shifts ⟨request, wait, found, result⟩ next := by
  cases serves with
  | refused closed =>
      constructor <;> simp [Move.accepted?, Move.taken?, Move.Ends, Move.Receives]
  | full opened full =>
      constructor <;> simp [Move.accepted?, Move.taken?, Move.Ends, Move.Receives]
  | sent opened room counts =>
      constructor <;> simp [asks, opened, counts, Move.accepted?, Move.taken?, Move.Ends, Move.Receives]
      omega
  | offered opened room counts =>
      constructor <;> simp [asks, opened, counts, Move.accepted?, Move.taken?, Move.Ends, Move.Receives]
      omega
  | received first counts =>
      constructor <;> simp [first, counts, Move.accepted?, Move.taken?, Move.Ends]
      omega
  | ended closed empty =>
      constructor <;> simp [closed, empty, Move.accepted?, Move.taken?]
  | expired opened empty =>
      constructor <;> simp [opened, empty, Move.accepted?, Move.taken?, Move.Ends]
  | waited opened empty =>
      constructor <;> simp [opened, empty, Move.accepted?, Move.taken?, Move.Ends]
  | tried first counts =>
      constructor <;> simp [first, counts, Move.accepted?, Move.taken?, Move.Ends]
      omega
  | missed empty =>
      constructor <;> simp [empty, Move.accepted?, Move.taken?, Move.Ends]
  | closed =>
      constructor <;> simp [Channel.close, Move.accepted?, Move.taken?, Move.Ends, Move.Receives]

/-- A move shifts what it accepts into the queue, and what it takes out of it. -/
theorem Moves.shifts (moves : Moves c m next) : m.Shifts next := by
  obtain ⟨request, wait, found, result⟩ := m
  cases moves with
  | handedOver sender accepted result same =>
      obtain ⟨v, rfl⟩ := sender
      dsimp only at result same
      subst result same
      constructor <;> simp [accepted, Move.accepted?, Move.taken?, Move.Ends, Move.Receives]
  | served asks serves => exact serves.shifts asks

/-- The channel that a move leaves is what it has to be, if the one that it found was. -/
theorem Accounts.move (accounts : Accounts capacity trace m.found) (shifts : m.Shifts next) :
    Accounts capacity (trace ++ [m]) next := by
  have slots : m.found.slots = max capacity 1 := by rw [Channel.slots, accounts.sized]
  constructor
  case sized => exact shifts.sized.trans accounts.sized
  case delivered =>
      calc taken (trace ++ [m]) ++ next.queue
          = taken trace ++ (m.taken?.toList ++ next.queue) := by
            rw [taken_append, List.append_assoc]
        _ = taken trace ++ m.found.queue ++ m.accepted?.toList := by
            rw [← shifts.queue, List.append_assoc]
        _ = accepted (trace ++ [m]) := by rw [accounts.delivered, accepted_append]
  case sent => rw [shifts.sent, accounts.sent, accepted_append, List.length_append]
  case received => rw [shifts.received, accounts.received, taken_append, List.length_append]
  case bounded =>
      rw [← slots]
      exact shifts.bounded (slots ▸ accounts.bounded)
  case closed => simp [shifts.closed, accounts.closed, or_and_right, exists_or]
  case ended =>
      rintro ⟨earlier, member, ends⟩
      rcases List.mem_append.1 member with before | last
      · obtain ⟨closed, empty⟩ := accounts.ended ⟨earlier, before, ends⟩
        exact ⟨shifts.closed.2 (Or.inl closed), shifts.drained closed empty⟩
      · obtain rfl := List.mem_singleton.1 last
        exact shifts.ended ends

/-! ### Any order of steps -/

/-- Every party stands where a party can stand, and the channel is and always was what it has to be
    after the moves so far. -/
structure Orderly (c capacity : Nat) (x : Exchange) : Prop where
  standing : ∀ party ∈ x.parties, Standing c party.request party.progress
  now : ∃ channel, x.state.channels[c]? = some channel ∧ Accounts capacity x.trace channel
  past : ∀ earlier m, earlier ++ [m] <+: x.trace →
    Accounts capacity earlier m.found ∧ ∃ next, Moves c m next

/-- A party that goes on is at its first turn or at the wait of its request. -/
theorem asks_of_waits {request : Request} {wait : Wait}
    (waits : wait = .turn ∨ wait = request.wait c) : wait.asks = true := by
  rcases waits with rfl | rfl
  · rfl
  · cases request <;> rfl

/-- A channel that has not accepted too many values can count one more. -/
theorem Accounts.canCount {channel : Channel} (accounts : Accounts capacity trace channel)
    (few : (accepted trace).length + 1 < 2 ^ 64) : CanCount channel := by
  have size : UInt64.size = 2 ^ 64 := rfl
  have lengths := congrArg List.length accounts.delivered
  rw [List.length_append] at lengths
  constructor
  · rw [accounts.sent, size]
    exact few
  · rw [accounts.received, size]
    omega

/-- A party that goes on does so as a move. -/
theorem Standing.moves {request : Request} {wait : Wait} {resume : State → Run (Option Value)}
    {s : State} {found : Channel} (standing : Standing c request (.waiting wait resume))
    (isOver : wait.isOver s = true) (there : s.channels[c]? = some found)
    (counts : CanCount found) :
    ∃ next, Moves c ⟨request, wait, found, resultOf (resume s)⟩ next ∧
      Standing c request (progressOf (resume s)) ∧
        (stateOf (resume s)).channels[c]? = some next := by
  cases standing with
  | asks waits resumes =>
      obtain ⟨next, served⟩ := request.served there counts
      rw [resumes s isOver]
      exact ⟨next, .served (asks_of_waits waits) served.serves, served.standing, served.there⟩
  | handsOver resumes =>
      rw [resumes s]
      exact ⟨found, .handedOver ⟨_, rfl⟩ rfl rfl rfl, .done, there⟩

variable {x y : Exchange}

/-- Every step keeps the accounts of the channel. -/
theorem Orderly.step (orderly : Orderly c capacity x) (step : Step c x y) :
    Orderly c capacity y := by
  obtain ⟨standing, now, past⟩ := orderly
  cases step with
  | ask request =>
      refine ⟨fun party member => ?_, now, past⟩
      rcases List.mem_append.1 member with before | new
      · exact standing party before
      · obtain rfl := List.mem_singleton.1 new
        exact .asks (Or.inl rfl) fun _ _ => rfl
  | elsewhere s same => exact ⟨standing, by rwa [same], past⟩
  | @proceed i request wait resume found party isOver there few =>
      have member : (⟨request, .waiting wait resume⟩ : Party) ∈ x.parties :=
        List.mem_of_getElem? party
      obtain ⟨channel, sameChannel, accounts⟩ := now
      obtain rfl : channel = found := Option.some.inj (sameChannel.symm.trans there)
      obtain ⟨next, moves, standing', there'⟩ :=
        (standing _ member).moves isOver there (accounts.canCount few)
      refine ⟨fun party member => ?_, ⟨next, there', accounts.move moves.shifts⟩, ?_⟩
      · rcases List.mem_or_eq_of_mem_set member with before | rfl
        · exact standing party before
        · exact standing'
      · intro earlier m inside
        rcases List.prefix_concat_iff.1 inside with same | before
        · obtain ⟨rfl, last⟩ := List.append_inj' same rfl
          obtain rfl := List.singleton_inj.1 last
          exact ⟨accounts, next, moves⟩
        · exact past earlier m before

/-- Whatever the order of the steps, the accounts of the channel are kept. -/
theorem Reachable.orderly (reachable : Reachable c capacity x) : Orderly c capacity x := by
  induction reachable with
  | start s new =>
      refine ⟨by simp, ⟨_, new, ?_⟩, by simp⟩
      constructor <;> simp [accepted, taken]
  | step _ step ih => exact ih.step step

/-! ### Delivery -/

/-- Somebody has closed the channel. -/
def Closed (trace : List Move) : Prop := ∃ m ∈ trace, m.request = .close

/-- Some receiver has been told that there will be no value any more. -/
def Drained (trace : List Move) : Prop := ∃ m ∈ trace, m.Ends

/-- Values go through channel `c` as they should. -/
structure Delivers (c capacity : Nat) (x : Exchange) : Prop where
  /-- The values taken and then those in the channel are the values accepted, in order. The counters
      count both, and there are never more values in the channel than it has room for. -/
  flow : ∃ channel, x.state.channels[c]? = some channel ∧
    taken x.trace ++ channel.queue = accepted x.trace ∧
    channel.sent.toNat = (accepted x.trace).length ∧
    channel.received.toNat = (taken x.trace).length ∧
    channel.sent.toNat - channel.received.toNat = channel.queue.length ∧
    channel.queue.length ≤ max capacity 1
  /-- After the channel was closed no value was accepted, and senders failed. -/
  closed : ∀ earlier m, earlier ++ [m] <+: x.trace → Closed earlier →
    m.accepted? = none ∧ (m.Offers → m.result = .done (.error .channelClosed))
  /-- Whoever still offers a value to a closed channel need not wait, and fails. -/
  refuses : Closed x.trace → ∀ v wait resume, ⟨.send v, .waiting wait resume⟩ ∈ x.parties →
    wait.asks = true →
      wait.isOver x.state = true ∧ resultOf (resume x.state) = .done (.error .channelClosed)
  /-- A receiver was told that there will be no value any more only when the channel was closed and
      all values that were ever accepted had been taken. -/
  ended : ∀ earlier m, earlier ++ [m] <+: x.trace → m.Ends →
    Closed earlier ∧ taken earlier = accepted earlier
  /-- After that, every receiver was told so. -/
  drained : ∀ earlier m, earlier ++ [m] <+: x.trace → Drained earlier → m.Receives → m.Ends
  /-- Whoever still waits for a value then need not wait, and is told so. -/
  answers : Drained x.trace → ∀ deadline wait resume,
    ⟨.receive deadline, .waiting wait resume⟩ ∈ x.parties →
      wait.isOver x.state = true ∧ resultOf (resume x.state) = .done (.ok (some .nil))

variable {found : Channel}

/-- A closed channel refuses every value. -/
theorem Serves.of_closed {v : Value} {result : Result}
    (serves : Serves c found (.send v) result next) (closed : found.closed = true) :
    result = .done (.error .channelClosed) := by
  cases serves with
  | refused => rfl
  | full opened | sent opened | offered opened => exact absurd closed (by simp [opened])

/-- A closed channel without values ends every receiver. -/
theorem Serves.of_drained {deadline : Option Nat} {result : Result}
    (serves : Serves c found (.receive deadline) result next) (closed : found.closed = true)
    (empty : found.queue = []) : result = .done (.ok (some .nil)) := by
  cases serves with
  | received first => exact absurd empty (by simp [first])
  | ended => rfl
  | expired opened | waited opened => exact absurd closed (by simp [opened])

/-- After the channel is closed, no move accepts a value. -/
theorem Moves.of_closed (moves : Moves c m next) (closed : m.found.closed = true) :
    m.accepted? = none ∧ (m.Offers → m.result = .done (.error .channelClosed)) := by
  obtain ⟨request, wait, found, result⟩ := m
  cases moves with
  | handedOver sender accepted =>
      refine ⟨by simp [Move.accepted?, accepted], fun offers => ?_⟩
      exact absurd offers.2 (by simp [accepted])
  | served asks serves =>
      cases request with
      | send v =>
          obtain rfl := serves.of_closed closed
          exact ⟨by simp [Move.accepted?], fun _ => rfl⟩
      | receive | tryReceive | close => simp [Move.accepted?, Move.Offers]

/-- Once the channel is closed and empty, every receiver is told so. -/
theorem Moves.of_drained (moves : Moves c m next) (closed : m.found.closed = true)
    (empty : m.found.queue = []) (receives : m.Receives) : m.Ends := by
  obtain ⟨request, wait, found, result⟩ := m
  obtain ⟨deadline, rfl⟩ := receives
  cases moves with
  | handedOver sender => simp at sender
  | served asks serves => exact ⟨⟨deadline, rfl⟩, empty, serves.of_drained closed empty⟩

/-- A party whose request can be served at once is served when it goes on. -/
theorem Standing.served {request : Request} {wait : Wait} {resume : State → Run (Option Value)}
    {s : State} (standing : Standing c request (.waiting wait resume)) (asks : wait.asks = true)
    (ready : (request.wait c).isOver s = true)
    (served : ∃ next, Served c found request (request.run c s) next) :
    wait.isOver s = true ∧ ∃ next, Serves c found request (resultOf (resume s)) next := by
  cases standing with
  | handsOver => simp [Wait.asks] at asks
  | asks waits resumes =>
      have isOver : wait.isOver s = true := by
        rcases waits with rfl | rfl
        · rfl
        · exact ready
      obtain ⟨next, served⟩ := served
      rw [resumes s isOver]
      exact ⟨isOver, next, served.serves⟩

/-- However the parties go on, values go through a channel as they should. -/
theorem Reachable.delivers (reachable : Reachable c capacity x) : x.Delivers c capacity := by
  obtain ⟨standing, ⟨channel, there, accounts⟩, past⟩ := reachable.orderly
  constructor
  case flow =>
      refine ⟨channel, there, accounts.delivered, accounts.sent, accounts.received, ?_,
        accounts.bounded⟩
      have lengths := congrArg List.length accounts.delivered
      rw [List.length_append, ← accounts.sent, ← accounts.received] at lengths
      omega
  case closed =>
      intro earlier m inside closed
      obtain ⟨before, next, moves⟩ := past earlier m inside
      exact moves.of_closed (before.closed.2 closed)
  case refuses =>
      intro closed v wait resume member asks
      have closed := accounts.closed.2 closed
      have ready : (Wait.room c).isOver x.state = true := by
        simp [Wait.isOver, Wait.isMet, there, Channel.canSend, closed]
      have served := send_served there (fun opened => by simp [closed] at opened) v
      obtain ⟨isOver, next, serves⟩ := (standing _ member).served asks ready served
      exact ⟨isOver, serves.of_closed closed⟩
  case ended =>
      intro earlier m inside ends
      obtain ⟨before, next, moves⟩ := past earlier m inside
      obtain ⟨closed, -⟩ := moves.shifts.ended ends
      obtain ⟨⟨deadline, receives⟩, empty, -⟩ := ends
      have delivered := before.delivered
      rw [empty, List.append_nil] at delivered
      refine ⟨before.closed.1 ?_, delivered⟩
      exact (moves.shifts.closed.1 closed).resolve_right (by simp [receives])
  case drained =>
      intro earlier m inside drained receives
      obtain ⟨before, next, moves⟩ := past earlier m inside
      obtain ⟨closed, empty⟩ := before.ended drained
      exact moves.of_drained closed empty receives
  case answers =>
      intro drained deadline wait resume member
      obtain ⟨closed, empty⟩ := accounts.ended drained
      have ready : (Wait.arrival c deadline).isOver x.state = true := by
        simp [Wait.isOver, Wait.isMet, there, Channel.canReceive, closed]
      have stands := standing _ member
      have asks : wait.asks = true := by
        cases stands with
        | asks waits => exact asks_of_waits waits
      have served := receive_served there (fun some => absurd empty some) deadline
      obtain ⟨isOver, next, serves⟩ := stands.served asks ready served
      exact ⟨isOver, serves.of_drained closed empty⟩

/-- A sender waits for its value to be taken, a receiver takes it, and the channel is closed; another
    receiver is told so, and another sender fails. -/
theorem handover_delivers : ∃ x, Reachable 0 0 x ∧ taken x.trace = [.boolean true] ∧
    Drained x.trace ∧ x.trace.getLast?.map Move.result = some (.done (.error .channelClosed)) ∧
    x.Delivers 0 0 := by
  have start : Reachable 0 0 ⟨{ channels := #[{ capacity := 0 }] }, [], []⟩ := .start _ rfl
  have asked := ((((start.step (.ask (.send (.boolean true)))).step (.ask (.receive none))).step
    (.ask .close)).step (.ask (.receive (some 5)))).step (.ask (.send (.boolean false)))
  have offered := asked.step (.proceed (i := 0) rfl rfl rfl (by decide))
  have received := offered.step (.proceed (i := 1) rfl rfl rfl (by decide))
  have closed := received.step (.proceed (i := 2) rfl rfl rfl (by decide))
  have ended := closed.step (.proceed (i := 3) rfl rfl rfl (by decide))
  have refused := ended.step (.proceed (i := 4) rfl rfl rfl (by decide))
  refine ⟨_, refused, rfl, ?_, rfl, refused.delivers⟩
  exact ⟨_, List.mem_of_getElem? (i := 3) rfl, ⟨some 5, rfl⟩, rfl, rfl⟩

end

end Exchange

end PluginLisp
