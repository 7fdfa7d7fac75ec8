import PluginLisp.Machine.Files
import PluginLisp.Machine.Scope
import PluginLisp.Machine.Shared
import PluginLisp.Libraries
import PluginLisp.Plugin.Manager
import PluginLisp.Value.Text

/-!
The state of a machine: everything that evaluation can change or look at besides the code. Scopes,
atoms, channels, futures, wait groups and managers of plugins are known by their number.
-/

namespace PluginLisp

/-- What an evaluation is given besides code and scope: which manager's registry holds the builtins,
    whether errors are to be decorated with the calls they pass through, which counter names generated
    symbols, and the libraries. -/
structure Settings where
  manager : Nat := 0
  traced : Bool := false
  counter : Nat := 0
  libraries : Libraries := .standard
deriving Inhabited

/-- A thread that is still to be started: code to be evaluated in a scope, for a future. -/
structure Job where
  future : Nat
  body : List Form
  scope : Nat
  settings : Settings
deriving Inhabited

/-- The state of a machine. -/
structure State where
  managers : Array Manager := #[]
  scopes : Scopes := #[]
  atoms : Array Atom := #[]
  channels : Array Channel := #[]
  waitGroups : Array WaitGroup := #[]
  futures : Array Future := #[]
  /-- How many closures were made. -/
  closures : Nat := 0
  /-- How many symbols each counter has named. -/
  counters : Array UInt64 := #[]
  /-- How many identifiers were made. -/
  identifiers : Nat := 0
  output : String := ""
  log : Array LogEntry := #[]
  files : Files := {}
  /-- The environment variables. -/
  environment : Assoc String := []
  /-- Microseconds since the start of 1970. -/
  clock : Nat := 0
  /-- The threads still to be started, last first. -/
  jobs : List Job := []
  /-- Whether there are other threads to take turns with. -/
  crowded : Bool := false
  /-- How many calls and rounds of loops there were since the last change of threads. -/
  turnCalls : Nat := 0
deriving Inhabited

namespace State

/-- What the printer shows of the store. The content of an atom may hold further atoms; `depth` is
    how far they are followed. -/
def cellsTo (s : State) : (depth : Nat) → Cells
  | 0 => ⟨fun _ => "", channelCapacity, futureIdentifier⟩
  | depth + 1 => ⟨fun i => atomText (cellsTo s depth) i, channelCapacity, futureIdentifier⟩
where
  /-- The text of an atom's content. -/
  atomText (cells : Cells) (i : Nat) : String :=
    match s.atoms[i]? with
    | some a => a.value.show cells
    | none => ""
  /-- The capacity of a channel. -/
  channelCapacity (i : Nat) : Nat := ((s.channels[i]?).map Channel.capacity).getD 0
  /-- The identifier of a future. -/
  futureIdentifier (i : Nat) : String := ((s.futures[i]?).map Future.identifier).getD ""

/-- How far the printer follows atoms: further than any chain of atoms goes in which none comes twice,
    and further than a printer gets that goes round in a circle. -/
def printDepth (s : State) : Nat := Number.twoPow 60 + s.atoms.size

/-- What the printer shows of the store. There is no end to the text of an atom that holds itself. -/
def cells (s : State) : Cells := s.cellsTo s.printDepth

/-- The text of an identifier: thirty-two hexadecimal digits in five groups, of the version and
    variant that mark random identifiers. -/
def identifierText (seed : Nat) : String :=
  let digest := Encoding.Hex.encode (Encoding.Sha256.digest (Encoding.bytesOf (toString seed)))
  let part (start count : Nat) : String := String.ofList ((digest.toList.drop start).take count)
  part 0 8 ++ "-" ++ part 8 4 ++ "-4" ++ part 13 3 ++ "-a" ++ part 17 3 ++ "-" ++ part 20 12

/-- A new identifier. -/
def nextIdentifier (s : State) : String × State :=
  (identifierText s.identifiers, { s with identifiers := s.identifiers + 1 })

/-- A new manager. -/
def addManager (s : State) (m : Manager) : Nat × State :=
  (s.managers.size, { s with managers := s.managers.push m })

/-- The manager with a number. -/
def manager (s : State) (i : Nat) : Manager := s.managers.getD i {}

/-- The builtins on hand, by the number of their manager. They are looked up whenever one is called, so
    that all threads see what is loaded and unloaded. -/
def registry (s : State) (i : Nat) : Registry := (s.manager i).registry

/-- A new scope. -/
def addScope (s : State) (parent : Option Nat) : Nat × State :=
  (s.scopes.size, { s with scopes := s.scopes.add parent })

/-- A new counter for generated symbols. -/
def addCounter (s : State) : Nat × State :=
  (s.counters.size, { s with counters := s.counters.push 0 })

/-- The next number of a counter, which has sixty-four bits. -/
def count (s : State) (counter : Nat) : UInt64 × State :=
  (s.counters.getD counter 0, { s with counters := s.counters.modify counter (· + 1) })

/-- A new atom. -/
def addAtom (s : State) (v : Value) : Nat × State :=
  (s.atoms.size, { s with atoms := s.atoms.push { value := v } })

/-- A new channel. -/
def addChannel (s : State) (capacity : Nat) : Nat × State :=
  (s.channels.size, { s with channels := s.channels.push { capacity } })

/-- A new wait group. -/
def addWaitGroup (s : State) : Nat × State :=
  (s.waitGroups.size, { s with waitGroups := s.waitGroups.push {} })

/-- A new future without an outcome. -/
def addFuture (s : State) : Nat × State :=
  let (identifier, s) := s.nextIdentifier
  (s.futures.size, { s with futures := s.futures.push { identifier } })

/-- Gives a future its outcome. -/
def complete (s : State) (future : Nat) (outcome : Except Error Value) : State :=
  { s with futures := s.futures.modify future fun f => { f with outcome := some outcome } }

/-- Starts a thread for a new future. -/
def spawn (s : State) (body : List Form) (scope : Nat) (settings : Settings) : Nat × State :=
  let (future, s) := s.addFuture
  (future, { s with jobs := ⟨future, body, scope, settings⟩ :: s.jobs, crowded := true })

/-- Writes to the console. -/
def print (s : State) (text : String) : State := { s with output := s.output ++ text }

/-- Adds an entry to the log. -/
def addLog (s : State) (entry : LogEntry) : State := { s with log := s.log.push entry }

/-- Has a manager do something. Its warnings go to the log. -/
def manage {α : Type} (s : State) (i : Nat) (f : Manager → α × Manager) : α × State :=
  let (a, m) := f (s.manager i)
  let s := m.warnings.foldl (fun s message => s.addLog ⟨.warn, message⟩) s
  (a, { s with managers := s.managers.setIfInBounds i { m with warnings := #[] } })

end State

end PluginLisp
