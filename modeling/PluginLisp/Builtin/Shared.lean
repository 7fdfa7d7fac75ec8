import PluginLisp.Builtin.ArgCount

/-!
The builtins of the plugins `atom` and `concurrency` that are plain functions of their arguments:
everything that threads share lives in the store, and these look at it, change it or wait for it.
-/

namespace PluginLisp

/-- The builtins of the plugin `atom`. -/
inductive AtomOp where
  | make
  | deref
  | reset
  | swap
  | isAtom
deriving DecidableEq, Repr, Inhabited

namespace AtomOp

/-- All of them, in the order of registration. -/
def all : List AtomOp := [make, deref, reset, swap, isAtom]

/-- The name a program calls it by. -/
def name : AtomOp → String
  | make => "atom"
  | deref => "deref"
  | reset => "reset!"
  | swap => "swap!"
  | isAtom => "atom?"

/-- The numbers of arguments. -/
def count : AtomOp → ArgCount
  | make | deref | isAtom => .exactly 1
  | reset => .exactly 2
  | swap => .atLeast 2

/-- The help line. -/
def help : AtomOp → String
  | make => "New atom holding the value"
  | deref => "Current value of an atom"
  | reset => "Set the atom's value; returns it"
  | swap => "(swap! atom f args...) - set to (f current args...); returns the new value"
  | isAtom => "True for atoms"

end AtomOp

/-- The builtins of the plugin `concurrency` other than `go`. -/
inductive ThreadOp where
  | await
  | isDone
  | makeChannel
  | send
  | receive
  | tryReceive
  | close
  | isClosed
  | makeWaitGroup
  | add
  | done
  | waitZero
  | sleep
deriving DecidableEq, Repr, Inhabited

namespace ThreadOp

/-- All of them, in the order of registration. -/
def all : List ThreadOp :=
  [await, isDone, makeChannel, send, receive, tryReceive, close, isClosed, makeWaitGroup, add, done,
    waitZero, sleep]

/-- The name a program calls it by. -/
def name : ThreadOp → String
  | await => "go-wait"
  | isDone => "go-done?"
  | makeChannel => "chan"
  | send => "chan-send!"
  | receive => "chan-recv!"
  | tryReceive => "chan-try-recv!"
  | close => "chan-close!"
  | isClosed => "chan-closed?"
  | makeWaitGroup => "wait-group"
  | add => "wg-add!"
  | done => "wg-done!"
  | waitZero => "wg-wait!"
  | sleep => "sleep"

/-- The numbers of arguments. -/
def count : ThreadOp → ArgCount
  | await | receive | add => .between 1 2
  | makeChannel => .between 0 1
  | send => .exactly 2
  | makeWaitGroup => .exactly 0
  | isDone | tryReceive | close | isClosed | done | waitZero | sleep => .exactly 1

/-- The help line. -/
def help : ThreadOp → String
  | await => "(go-wait future timeout-ms?) - result of the go block; nil on timeout"
  | isDone => "True once the go block has finished"
  | makeChannel => "(chan capacity?) - new channel; capacity 0 (the default) is a rendezvous"
  | send => "Send a value, blocking while the channel is full"
  | receive =>
      "(chan-recv! ch timeout-ms?) - next value; nil once closed and drained, or on timeout"
  | tryReceive => "Next value if one is ready, otherwise nil"
  | close => "Close the channel"
  | isClosed => "True once the channel is closed"
  | makeWaitGroup => "New wait group"
  | add => "(wg-add! wg n?) - add n (default 1) to the counter"
  | done => "Decrement the counter"
  | waitZero => "Block until the counter is zero"
  | sleep => "Pause the current thread for ms milliseconds"

end ThreadOp

end PluginLisp
