import PluginLisp.Number.Checked
import PluginLisp.Value.Basic

/-!
What threads share: atoms, channels, wait groups and futures. Each operation here is one indivisible
step; waiting is left to the caller, who asks first whether the step is possible.
-/

namespace PluginLisp

/-- A variable that threads share. The version grows with every write, modulo two to the
    sixty-fourth. -/
structure Atom where
  version : UInt64 := 0
  value : Value
deriving Inhabited

namespace Atom

/-- Replaces the value. -/
def set (a : Atom) (v : Value) : Atom := ⟨a.version + 1, v⟩

/-- Replaces the value unless the atom was written since it had the given version; tells whether it
    did. -/
def compareAndSet (a : Atom) (version : UInt64) (v : Value) : Bool × Atom :=
  if a.version = version then (true, a.set v) else (false, a)

end Atom

/-- A queue between threads. With capacity zero, a sender waits until its value has been taken. -/
structure Channel where
  capacity : Nat
  queue : List Value := []
  closed : Bool := false
  /-- How many values were ever sent. -/
  sent : UInt64 := 0
  /-- How many values were ever received. -/
  received : UInt64 := 0
deriving Inhabited

namespace Channel

/-- The number of values that may wait to be taken. -/
def slots (c : Channel) : Nat := max c.capacity 1

/-- Whether a sender need not wait: there is room, or sending will fail. -/
def canSend (c : Channel) : Bool := c.closed || c.queue.length < c.slots

/-- Accepts a value, which a closed channel does not. -/
def accept (c : Channel) (v : Value) : Except Error Channel :=
  if c.closed then .error .channelClosed else .ok { c with queue := c.queue ++ [v] }

/-- Counts a value that was accepted. -/
def countSent (c : Channel) : Except Error Channel := do
  return { c with sent := ← Number.addUInt64 c.sent 1 }

/-- Whether the sender of the value with the given number may go on: it has been taken, or the
    channel is closed. -/
def isTaken (c : Channel) (ticket : UInt64) : Bool := c.closed || ticket ≤ c.received

/-- Whether a receiver need not wait: there is a value, or there will be none any more. -/
def canReceive (c : Channel) : Bool := c.closed || !c.queue.isEmpty

/-- Takes the value that has waited longest. -/
def take? (c : Channel) : Option (Value × Channel) :=
  match c.queue with
  | [] => none
  | v :: rest => some (v, { c with queue := rest })

/-- Counts a value that was taken. -/
def countReceived (c : Channel) : Except Error Channel := do
  return { c with received := ← Number.addUInt64 c.received 1 }

/-- Closes the channel. -/
def close (c : Channel) : Channel := { c with closed := true }

/-- A one-line summary. -/
def summary (c : Channel) : String :=
  "Channel \x7b capacity: " ++ toString c.capacity ++ ", queued: " ++ toString c.queue.length
    ++ ", closed: " ++ (if c.closed then "true" else "false") ++ " \x7d"

end Channel

/-- A counter of sixty-four bits that threads wait for. -/
structure WaitGroup where
  count : Int64 := 0
deriving Inhabited

namespace WaitGroup

/-- Adds to the counter, which must not become negative. -/
def add (g : WaitGroup) (delta : Int64) : Except Error WaitGroup := do
  let next ← Number.addInt64 g.count delta
  if next < 0 then .error (.runtime "wait group counter went negative") else .ok ⟨next⟩

/-- Whether nobody has to wait. -/
def isZero (g : WaitGroup) : Bool := g.count ≤ 0

/-- A one-line summary. -/
def summary (g : WaitGroup) : String := "WaitGroup \x7b count: " ++ toString g.count.toInt ++ " \x7d"

end WaitGroup

/-- The result of a thread, once it has one. -/
structure Future where
  identifier : String
  outcome : Option (Except Error Value) := none
deriving Inhabited

/-- Whether the thread has finished. -/
def Future.isDone (f : Future) : Bool := f.outcome.isSome

end PluginLisp
