import PluginLisp.Proofs.Sharing.Delivery

/-!
Meeting at a channel without a buffer. A sender goes on when its value has been taken. It does not
look for its value, but waits until as many values have been taken as had been accepted together with
its own. That its own one is among them follows from the order of delivery, and since the channel
never holds more than one value, nothing else is accepted or taken in between.

Main results: `Meets.proceed`, `PerformedBy.meets`, `Reachable.rendezvous`.
-/

namespace PluginLisp

open Machine

namespace Exchange

/-! ### Who made the moves -/

/-- What can come about around a new channel, with the places of the parties that made the moves. -/
inductive PerformedBy (c capacity : Nat) : Exchange → List Nat → Prop where
  | start (s : State) (new : s.channels[c]? = some { capacity }) :
      PerformedBy c capacity ⟨s, [], []⟩ []
  | ask {x : Exchange} {movers : List Nat} (before : PerformedBy c capacity x movers)
      (request : Request) : PerformedBy c capacity
        { x with parties := x.parties ++ [⟨request, .waiting .turn (request.run c)⟩] } movers
  | elsewhere {x : Exchange} {movers : List Nat} (before : PerformedBy c capacity x movers)
      (s : State) (same : s.channels[c]? = x.state.channels[c]?) :
      PerformedBy c capacity { x with state := s } movers
  | proceed {x : Exchange} {movers : List Nat} {i : Nat} {request : Request} {wait : Wait}
      {resume : State → Run (Option Value)} {found : Channel}
      (before : PerformedBy c capacity x movers)
      (party : x.parties[i]? = some ⟨request, .waiting wait resume⟩)
      (isOver : wait.isOver x.state = true) (there : x.state.channels[c]? = some found)
      (few : (accepted x.trace).length + 1 < 2 ^ 64) :
      PerformedBy c capacity (x.advance i request wait found (resume x.state)) (movers ++ [i])

section

variable {c capacity : Nat} {x : Exchange} {movers : List Nat} {i j : Nat} {ticket : UInt64} {v : Value}
  {m : Move} {trace : List Move}

/-- Forgetting who moved leaves an exchange. -/
theorem PerformedBy.reachable (performed : PerformedBy c capacity x movers) :
    Reachable c capacity x := by
  induction performed with
  | start s new => exact .start s new
  | ask _ request ih => exact ih.step (.ask request)
  | elsewhere _ s same ih => exact ih.step (.elsewhere s same)
  | proceed _ party isOver there few ih => exact ih.step (.proceed party isOver there few)

/-- In every exchange somebody made each of the moves. -/
theorem Reachable.exists_performedBy (reachable : Reachable c capacity x) :
    ∃ movers, PerformedBy c capacity x movers := by
  induction reachable with
  | start s new => exact ⟨[], .start s new⟩
  | step _ step ih =>
      obtain ⟨movers, performed⟩ := ih
      cases step with
      | ask request => exact ⟨movers, performed.ask request⟩
      | elsewhere s same => exact ⟨movers, performed.elsewhere s same⟩
      | @proceed i _ _ _ _ party isOver there few =>
          exact ⟨movers ++ [i], performed.proceed party isOver there few⟩

/-- Every move has one who made it. -/
theorem PerformedBy.length_eq (performed : PerformedBy c capacity x movers) :
    movers.length = x.trace.length := by
  induction performed with
  | start => rfl
  | ask _ _ ih => exact ih
  | elsewhere _ _ _ ih => exact ih
  | proceed _ _ _ _ _ ih => simp [advance, ih]

/-! ### A value on its way -/

/-- A party has had a value accepted, and this was the value with the number `ticket`. -/
inductive Deposited (movers : List Nat) (i : Nat) (v : Value) : UInt64 → List Move → Prop where
  | intro {before rest : List Move} {a : Move} (own : movers[before.length]? = some i)
      (sender : a.request = .send v) (accepts : a.accepted? = some v) {ticket : UInt64}
      (number : ticket.toNat = (accepted before).length + 1) :
      Deposited movers i v ticket (before ++ a :: rest)

/-- A party has had a value accepted when everything accepted before had been taken, and this very
    value was taken before anything else was accepted or taken. -/
inductive HandedOver (movers : List Nat) (i : Nat) (v : Value) : List Move → Prop where
  | intro {before between after : List Move} {a t : Move} (own : movers[before.length]? = some i)
      (sender : a.request = .send v) (accepts : a.accepted? = some v)
      (turn : taken before = accepted before)
      (quiet : ∀ b ∈ between, b.accepted? = none ∧ b.taken? = none) (takes : t.taken? = some v) :
      HandedOver movers i v (before ++ a :: (between ++ t :: after))

theorem getElem?_movers {k : Nat} (own : movers[k]? = some i) (j : Nat) :
    (movers ++ [j])[k]? = some i := by
  obtain ⟨inside, -⟩ := List.getElem?_eq_some_iff.1 own
  rw [List.getElem?_append_left inside, own]

/-- A value on its way stays so as others move. -/
theorem Deposited.append (deposited : Deposited movers i v ticket trace) (j : Nat) (m : Move) :
    Deposited (movers ++ [j]) i v ticket (trace ++ [m]) := by
  cases deposited with
  | intro own sender accepts number =>
      rw [List.append_assoc, List.cons_append]
      exact .intro (getElem?_movers own j) sender accepts number

/-- A value handed over stays so. -/
theorem HandedOver.append (handedOver : HandedOver movers i v trace) (j : Nat) :
    HandedOver (movers ++ [j]) i v trace := by
  cases handedOver with
  | intro own sender accepts turn quiet takes =>
      exact .intro (getElem?_movers own j) sender accepts turn quiet takes

/-- The accounts hold for the channel as it is. -/
theorem Orderly.accounts_now (orderly : Orderly c capacity x) {found : Channel}
    (there : x.state.channels[c]? = some found) : Accounts capacity x.trace found := by
  obtain ⟨channel, same, accounts⟩ := orderly.now
  obtain rfl : channel = found := Option.some.inj (same.symm.trans there)
  exact accounts

/-- The accounts held for the channel at every earlier time. -/
theorem Orderly.accounts (orderly : Orderly c capacity x) {earlier : List Move}
    (inside : earlier <+: x.trace) : ∃ channel, Accounts capacity earlier channel := by
  obtain ⟨later, whole⟩ := inside
  cases later with
  | nil =>
      obtain ⟨channel, -, accounts⟩ := orderly.now
      rw [← whole, List.append_nil] at accounts
      exact ⟨channel, accounts⟩
  | cons m later =>
      have here : earlier ++ [m] <+: x.trace := ⟨later, by rw [← whole, List.append_assoc]; rfl⟩
      exact ⟨m.found, (orderly.past earlier m here).1⟩

/-- There never was more than one value waiting to be taken. -/
def Narrow (trace : List Move) : Prop := ∀ earlier, earlier <+: trace →
  ∃ queue : List Value, taken earlier ++ queue = accepted earlier ∧ queue.length ≤ 1

/-- A channel without a buffer holds at most one value at any time. -/
theorem Orderly.narrow (orderly : Orderly c 0 x) : Narrow x.trace := by
  intro earlier inside
  obtain ⟨channel, accounts⟩ := orderly.accounts inside
  exact ⟨channel.queue, accounts.delivered, accounts.bounded⟩

section

variable {before rest : List Move} {a : Move}

theorem taken_of_sender (sender : a.request = .send v) :
    taken (before ++ a :: rest) = taken before ++ taken rest := by
  simp [taken, Move.taken?, sender]

theorem accepted_of_accepts (accepts : a.accepted? = some v) :
    accepted (before ++ a :: rest) = accepted before ++ v :: accepted rest := by
  simp [accepted, accepts]

/-- A value is only accepted when everything accepted before has been taken. -/
theorem Narrow.turn (narrow : Narrow (before ++ a :: rest)) (sender : a.request = .send v)
    (accepts : a.accepted? = some v) : taken before = accepted before := by
  obtain ⟨old, delivered, -⟩ := narrow before (List.prefix_append _ _)
  obtain ⟨now, deliveredNow, single⟩ := narrow (before ++ [a]) ⟨rest, by simp⟩
  rw [taken_of_sender sender, accepted_of_accepts accepts, ← delivered, List.append_assoc,
    List.append_assoc] at deliveredNow
  have lengths := congrArg List.length (List.append_cancel_left deliveredNow)
  simp only [taken, accepted, List.filterMap_nil, List.nil_append, List.length_append,
    List.length_singleton] at lengths
  have empty : old = [] := List.eq_nil_of_length_eq_zero (by omega)
  rw [← delivered, empty, List.append_nil]

end

/-- When as many values have been taken as had been accepted together with a value, that value has
    been taken. -/
theorem Deposited.handedOver (deposited : Deposited movers i v ticket trace) (narrow : Narrow trace)
    (enough : ticket.toNat ≤ (taken trace).length) : HandedOver movers i v trace := by
  cases deposited with
  | @intro before rest a own sender accepts _ number =>
      have turn := narrow.turn sender accepts
      have some : taken rest ≠ [] := by
        intro none
        rw [number, taken_of_sender sender, none, List.append_nil, turn] at enough
        omega
      obtain ⟨w, ws, first⟩ := List.exists_cons_of_ne_nil some
      obtain ⟨between, t, after, rfl, untaken, takes, -⟩ := List.filterMap_eq_cons_iff.1 first
      have takenBetween : taken between = [] := List.filterMap_eq_nil_iff.2 untaken
      -- There was no room for another value before this one was taken.
      have acceptedBetween : accepted between = [] := by
        obtain ⟨queue, delivered, single⟩ := narrow (before ++ a :: between) ⟨t :: after, by simp⟩
        rw [taken_of_sender sender, accepted_of_accepts accepts, takenBetween, List.append_nil, turn]
          at delivered
        rw [List.append_cancel_left delivered, List.length_cons] at single
        exact List.eq_nil_of_length_eq_zero (by omega)
      have same : w = v := by
        obtain ⟨queue, delivered, -⟩ := narrow (before ++ a :: (between ++ [t])) ⟨after, by simp⟩
        rw [taken_of_sender sender, accepted_of_accepts accepts, taken_append, takenBetween, takes,
          turn, List.append_assoc] at delivered
        exact (List.cons_eq_cons.1 (List.append_cancel_left delivered)).1
      subst same
      have unaccepted := List.filterMap_eq_nil_iff.1 acceptedBetween
      have quiet : ∀ b ∈ between, b.accepted? = none ∧ b.taken? = none :=
        fun b member => ⟨unaccepted b member, untaken b member⟩
      exact .intro own sender accepts turn quiet takes

/-! ### Going on -/

/-- A sender does not succeed at once at a channel without a buffer. -/
theorem send_waits {s : State} {found : Channel} (there : s.channels[c]? = some found)
    (unbuffered : found.capacity = 0) (opened : found.closed = false) (counts : CanCount found)
    (counted : found.received.toNat ≤ found.sent.toNat) (v : Value) :
    ∃ wait, resultOf ((Request.send v).run c s) = .waits wait := by
  rw [run_send]
  cases room : (Wait.room c).isOver s with
  | false =>
      rw [run_await_bind_blocked room]
      exact ⟨_, rfl⟩
  | true =>
      let next := { found with queue := found.queue ++ [v], sent := found.sent + 1 }
      have untaken : (Wait.handover c (found.sent + 1)).isOver (withChannel s c next) = false := by
        have notYet : next.isTaken (found.sent + 1) = false := by
          simp only [Channel.isTaken, next, opened, Bool.false_or, decide_eq_false_iff_not,
            UInt64.le_iff_toNat_le, Number.toNat_add_one counts.sent]
          omega
        simp [Wait.isOver, Wait.isMet, Wait.deadline?, withChannel_there there, notYet]
      have ran : (offer c v >>= fun _ => pure (none : Option Value)) s =
          (await (.handover c (found.sent + 1)) >>= fun _ => pure none) (withChannel s c next) := by
        rw [bind_eq, offer_opened there v opened counts.sent, if_pos unbuffered, bind_eq]
      rw [run_await_bind room, ran, run_await_bind_blocked untaken]
      exact ⟨_, rfl⟩

/-- Whoever waits for its value to be taken from now on has just had it accepted. -/
theorem Moves.deposits {next : Channel} (moves : Moves c m next) (sender : m.request = .send v)
    (waits : m.result = .waits (.handover c ticket)) :
    m.accepted? = some v ∧ ticket.toNat = m.found.sent.toNat + 1 := by
  obtain ⟨request, wait, found, result⟩ := m
  dsimp only at sender waits
  subst sender
  cases moves with
  | handedOver _ _ done => cases waits.symm.trans done
  | served asks serves =>
      dsimp only at serves
      cases serves with
      | refused | full | sent => cases waits
      | offered opened room counts =>
          cases waits
          exact ⟨by simp [Move.accepted?, asks], counts⟩

section

variable {request : Request} {wait : Wait} {resume : State → Run (Option Value)} {found : Channel}

theorem resultOf_of_waiting {run : Run (Option Value)}
    (waits : progressOf run = .waiting wait resume) : resultOf run = .waits wait := by
  cases run with
  | done => cases waits
  | blocked =>
      cases waits
      rfl

/-- A sender that goes on to wait has its value on the way. -/
theorem Orderly.deposits (orderly : Orderly c capacity x) (length : movers.length = x.trace.length)
    (party : x.parties[i]? = some ⟨.send v, .waiting wait resume⟩)
    (isOver : wait.isOver x.state = true) (there : x.state.channels[c]? = some found)
    (few : (accepted x.trace).length + 1 < 2 ^ 64)
    (waits : resultOf (resume x.state) = .waits (.handover c ticket)) :
    Deposited (movers ++ [i]) i v ticket
      (x.trace ++ [⟨.send v, wait, found, resultOf (resume x.state)⟩]) := by
  have accounts := orderly.accounts_now there
  have standing := orderly.standing _ (List.mem_of_getElem? party)
  obtain ⟨next, moves, -⟩ := standing.moves isOver there (accounts.canCount few)
  obtain ⟨accepts, number⟩ := moves.deposits rfl waits
  rw [accounts.sent] at number
  exact .intro (by simp [← length]) rfl accepts number

/-- Whoever succeeds before the channel is closed has handed its value over. -/
theorem Orderly.handsOver (orderly : Orderly c 0 x)
    (deposited : ∀ {ticket}, wait = .handover c ticket → Deposited movers i v ticket x.trace)
    (standing : Standing c (.send v) (.waiting wait resume)) (isOver : wait.isOver x.state = true)
    (there : x.state.channels[c]? = some found) (few : (accepted x.trace).length + 1 < 2 ^ 64)
    (opened : found.closed = false) {got : Option Value}
    (done : resultOf (resume x.state) = .done (.ok got)) : HandedOver movers i v x.trace := by
  have accounts := orderly.accounts_now there
  cases standing with
  | asks _ resumes =>
      have counted : found.received.toNat ≤ found.sent.toNat := by
        rw [accounts.received, accounts.sent, ← accounts.delivered, List.length_append]
        exact Nat.le_add_right _ _
      obtain ⟨wait', waits⟩ := send_waits there accounts.sized opened (accounts.canCount few) counted v
      rw [resumes x.state isOver, waits] at done
      cases done
  | @handsOver _ ticket _ _ =>
      have enough : ticket.toNat ≤ (taken x.trace).length := by
        rw [← accounts.received, ← UInt64.le_iff_toNat_le]
        simpa [Wait.isOver, Wait.isMet, Wait.deadline?, there, Channel.isTaken, opened] using isOver
      exact (deposited rfl).handedOver orderly.narrow enough

/-- Whoever waits for a value to be taken has had it accepted, and whoever has succeeded before the
    channel was closed has handed its value over. -/
structure Meets (c : Nat) (x : Exchange) (movers : List Nat) : Prop where
  deposited : ∀ {i v ticket resume},
    x.parties[i]? = some ⟨.send v, .waiting (.handover c ticket) resume⟩ →
      Deposited movers i v ticket x.trace
  handedOver : ∀ {earlier m later i v got}, x.trace = earlier ++ m :: later →
    movers[earlier.length]? = some i → m.request = .send v → m.result = .done (.ok got) →
      m.found.closed = false → HandedOver movers i v earlier

/-- A new request changes nothing for the senders. -/
theorem Meets.ask (meets : Meets c x movers) (request : Request) : Meets c
    { x with parties := x.parties ++ [⟨request, .waiting .turn (request.run c)⟩] } movers := by
  refine ⟨fun {i v ticket resume} party => ?_, meets.handedOver⟩
  rcases Nat.lt_or_ge i x.parties.length with old | new
  · rw [List.getElem?_append_left old] at party
    exact meets.deposited party
  · rw [List.getElem?_append_right new] at party
    have asks := List.mem_singleton.1 (List.mem_of_getElem? party)
    cases asks

/-- A party that goes on keeps the senders' values on the way or handed over. -/
theorem Meets.proceed (meets : Meets c x movers) (orderly : Orderly c 0 x)
    (length : movers.length = x.trace.length)
    (party : x.parties[i]? = some ⟨request, .waiting wait resume⟩)
    (isOver : wait.isOver x.state = true) (there : x.state.channels[c]? = some found)
    (few : (accepted x.trace).length + 1 < 2 ^ 64) :
    Meets c (x.advance i request wait found (resume x.state)) (movers ++ [i]) := by
  constructor
  case deposited =>
      intro j v ticket resume' party'
      rw [advance, List.getElem?_set] at party'
      split at party'
      next same =>
        subst same
        split at party'
        next =>
          obtain ⟨sender, waits⟩ := Party.mk.inj (Option.some.inj party')
          subst sender
          exact orderly.deposits length party isOver there few (resultOf_of_waiting waits)
        next => cases party'
      next => exact (meets.deposited party').append i _
  case handedOver =>
      intro earlier m later j v got whole own sender done opened
      rcases List.eq_nil_or_concat later with rfl | ⟨before, last, rfl⟩
      · obtain ⟨rfl, same⟩ := List.append_inj' whole rfl
        obtain rfl := List.singleton_inj.1 same
        obtain rfl : i = j := by simpa [← length] using own
        dsimp only at sender
        subst sender
        have standing := orderly.standing _ (List.mem_of_getElem? party)
        have handed : HandedOver movers i v x.trace := by
          refine orderly.handsOver (fun same => ?_) standing isOver there few opened done
          subst same
          exact meets.deposited party
        exact handed.append i
      · have split : earlier ++ m :: before.concat last = (earlier ++ m :: before) ++ [last] := by
          simp
        obtain ⟨trace, -⟩ := List.append_inj' (whole.trans split) rfl
        have inside : earlier.length < movers.length := by
          rw [length, trace]
          simp
        rw [List.getElem?_append_left inside] at own
        exact (meets.handedOver trace own sender done opened).append i

end

/-- Whatever the order of the moves, every sender that is done has handed its value over. -/
theorem PerformedBy.meets (performed : PerformedBy c 0 x movers) : Meets c x movers := by
  induction performed with
  | start s new => constructor <;> simp
  | ask _ request ih => exact ih.ask request
  | elsewhere _ s same ih => exact ⟨ih.deposited, ih.handedOver⟩
  | proceed before party isOver there few ih =>
      exact ih.proceed before.reachable.orderly before.length_eq party isOver there few

/-- At a channel without a buffer there is never more than one value waiting to be taken, and whoever
    has sent a value with success before the channel was closed has had this very value taken before.
    The parties that made the moves are known by their places. -/
theorem Reachable.rendezvous (reachable : Reachable c 0 x) :
    (∃ channel, x.state.channels[c]? = some channel ∧ channel.queue.length ≤ 1 ∧
      taken x.trace ++ channel.queue = accepted x.trace) ∧
    (∃ movers, PerformedBy c 0 x movers) ∧
    ∀ movers, PerformedBy c 0 x movers → ∀ earlier m later i v got,
      x.trace = earlier ++ m :: later → movers[earlier.length]? = some i → m.request = .send v →
        m.result = .done (.ok got) → m.found.closed = false → HandedOver movers i v earlier := by
  obtain ⟨channel, there, accounts⟩ := reachable.orderly.now
  refine ⟨⟨channel, there, accounts.bounded, accounts.delivered⟩, reachable.exists_performedBy, ?_⟩
  intro movers performed earlier m later i v got whole own sender done opened
  exact performed.meets.handedOver whole own sender done opened

/-- Two senders offer the same value. The first one has its value accepted, the second one has to wait
    for room; a receiver takes the value, and the first sender succeeds. -/
theorem meeting_rendezvous : ∃ x movers, Reachable 0 0 x ∧ PerformedBy 0 0 x movers ∧
    movers = [0, 1, 2, 0] ∧
    x.trace.getLast?.map Move.result = some (.done (.ok none)) ∧
    HandedOver movers 0 (.boolean true) x.trace.dropLast := by
  have start : PerformedBy 0 0 ⟨{ channels := #[{ capacity := 0 }] }, [], []⟩ [] := .start _ rfl
  have asked := ((start.ask (.send (.boolean true))).ask (.send (.boolean true))).ask (.receive none)
  have offered := asked.proceed (i := 0) rfl rfl rfl (by decide)
  have full := offered.proceed (i := 1) rfl rfl rfl (by decide)
  have received := full.proceed (i := 2) rfl rfl rfl (by decide)
  have succeeded := received.proceed (i := 0) rfl rfl rfl (by decide)
  obtain ⟨-, -, handsOver⟩ := succeeded.reachable.rendezvous
  exact ⟨_, _, succeeded.reachable, succeeded, rfl, rfl,
    handsOver _ succeeded _ _ [] 0 _ none rfl rfl rfl rfl rfl⟩

end

end Exchange

end PluginLisp
