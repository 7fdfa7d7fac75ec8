import PluginLisp.Evaluator.Call
import PluginLisp.Syntax.Read

/-!
What the builtins that are functions do to the values of their arguments. Most of them need neither
the state nor the evaluator; the others call functions, print, use files, or look at what threads
share.
-/

namespace PluginLisp.Evaluator

open Machine

variable (ev : Evaluator)

/-- The error for a number of arguments that was let through by mistake. -/
def wrongCount (p : Primitive) (args : List Value) : Machine Value :=
  fail (.arity p.name p.count.describe args.length)

/-! ### General functions -/

/-- The plain functions of the plugins `core` and `logical`. -/
def runGeneral (op : GeneralOp) (args : List Value) : Machine Value := do
  match op, args with
  | .identity, [v] => return v
  | .typeOf, [v] => return .text v.typeName
  | .freshSymbol, _ =>
      let stem ← match args with
        | v :: _ => look fun s => v.display s.cells
        | [] => pure "G"
      let n ← update fun s => s.count ev.settings.counter
      return .symbol (stem ++ "__" ++ toString n.toNat)
  | .throw, [v] => fail (.user (← look fun s => v.display s.cells))
  | .not, [v] => return .boolean !v.isTruthy
  | op, args => wrongCount (.general op) args

/-! ### Functions that call functions -/

/-- Whether a comparator puts one value before another. An answer that is no boolean is a number, and
    a negative one does; after a false answer the comparator is asked the other way round as well. -/
def comparatorBefore (f : Value) (scope : Nat) (a b : Value) : Machine Bool := do
  match ← ev.applyValues f [a, b] scope with
  | .boolean true => return true
  | .boolean false | .nil => do
      discard (ev.applyValues f [b, a] scope)
      return false
  | v => do return (compareFloats (← v.asNumber) 0.0) == some .lt

/-- Sequences in step: the first elements, the second ones, and so on, as far as all of them reach;
    `count` bounds their number. -/
def inStep : (count : Nat) → List (List Value) → List (List Value)
  | 0, _ => []
  | count + 1, seqs =>
      match seqs.mapM List.head? with
      | some heads => heads :: inStep count (seqs.map (List.drop 1))
      | none => []

/-- Values that can be called, for the function `form` to hold on to. -/
def asCallables (form : String) (fs : List Value) : Except Error (List Value) :=
  fs.mapM (Value.asCallable form)

/-- Combines a value with the elements of a sequence from left to right. -/
def combine (f first : Value) (items : List Value) (scope : Nat) : Machine Value :=
  fold (fun acc item => do
    return .again (← ev.applyValues f [acc, item] scope)) id first items

/-- The functions over sequences and the combinators. -/
def runFunctional (op : FunctionalOp) (args : List Value) (scope : Nat) : Machine Value := do
  match op, args with
  | .map, f :: colls =>
      let seqs ← (colls.mapM Value.asSeq : Except Error _)
      let calls := inStep ((seqs.map List.length).headD 0) seqs
      return .list (← collect (fun values => ev.applyValues f values scope) calls)
  | .filter, [f, coll] =>
      let items ← coll.asSeq
      let kept ← fold (fun kept item => do
        if (← ev.applyValues f [item] scope).isTruthy then return .again (item :: kept)
        else return .again kept) List.reverse [] items
      return .list kept
  | .reduce, f :: rest =>
      match rest.getLast?, rest.dropLast with
      | some coll, start => do
          let items ← coll.asSeq
          match start, items with
          | first :: _, items => ev.combine f first items scope
          | [], first :: items => ev.combine f first items scope
          | [], [] => ev.applyValues f [] scope
      | none, _ => wrongCount (.functional op) args
  | .every, [f, coll] =>
      fold (fun _ item => do
        if (← ev.applyValues f [item] scope).isTruthy then return .again ()
        else return .stop (.boolean false)) (fun _ => .boolean true) () (← coll.asSeq)
  | .some, [f, coll] =>
      fold (fun _ item => do
        let v ← ev.applyValues f [item] scope
        if v.isTruthy then return .stop v else return .again ()) (fun _ => .nil) () (← coll.asSeq)
  | .partialCall, f :: bound => return .partialCall (← f.asCallable "partial") bound
  | .comp, fs => return .comp (← asCallables "comp" fs)
  | .juxt, fs => return .juxt (← asCallables "juxt" fs)
  | .complement, [f] => return .complement (← f.asCallable "complement")
  | .constantly, [v] => do
      let params : Form := .vector [.symbol "&", .symbol "_"]
      return .function (← makeClosure "constantly" (some "constantly") params [.literal v] scope)
  | op, args => wrongCount (.functional op) args

/-! ### Console and files -/

/-- The content of a file. -/
def readFile (path : String) : Machine String := do
  match ← look (·.files.read path) with
  | .ok content => return content
  | .error fault => fail fault.error

/-- Evaluates all forms of a text in a scope; the answer is the last value. -/
def evalSource (source : String) (scope : Nat) : Machine Value := do
  fold (fun _ form => do return .again (← ev.eval form scope)) id .nil (← parse source)

/-- Evaluates all forms of a file in a scope; errors tell the file. -/
def loadFile (path : String) (scope : Nat) : Machine Value :=
  decorate (fun _ => .inFile path) do ev.evalSource (← readFile path) scope

/-- The level and the values of a log entry: a keyword before other values is the level. -/
def splitLevel : List Value → String × List Value
  | .keyword level :: v :: rest => (level, v :: rest)
  | values => ("info", values)

/-- The builtins of the plugin `io`. -/
def runConsole (op : ConsoleOp) (args : List Value) (scope : Nat) : Machine Value := do
  match op, args with
  | .print, _ =>
      let line ← displayJoined args
      change (·.print line)
      return .nil
  | .println, _ =>
      let line ← displayJoined args
      change (·.print (line ++ "\n"))
      return .nil
  | .readable, _ =>
      return .text (← look fun s => " ".intercalate (args.map (Value.show s.cells)))
  | .readFile, [path] => return .text (← readFile (← path.asText))
  | .writeFile, [path, content] =>
      let name ← path.asText
      match ← look fun s => s.files.write name (content.display s.cells) with
      | .ok files =>
          change fun s => { s with files }
          return .nil
      | .error fault => fail fault.error
  | .fileExists, [path] =>
      let name ← path.asText
      return .boolean (← look (·.files.present name))
  | .loadFile, [path] => ev.loadFile (← path.asText) scope
  | .log, _ =>
      let (levelName, values) := splitLevel args
      let message ← displayJoined values
      match LogLevel.ofName? levelName with
      | some level =>
          change (·.addLog ⟨level, message⟩)
          return .nil
      | none => fail (.invalidArguments "log" ("unknown level :" ++ levelName))
  | op, args => wrongCount (.console op) args

/-! ### What threads share -/

/-- The number of an atom. -/
def asAtom : Value → Except Error Nat
  | .atom i => .ok i
  | v => .error (.type "atom" v.typeName)

/-- The number of a channel. -/
def asChannel : Value → Except Error Nat
  | .channel i => .ok i
  | v => .error (.type "channel" v.typeName)

/-- The number of a future. -/
def asFuture : Value → Except Error Nat
  | .future i => .ok i
  | v => .error (.type "future" v.typeName)

/-- The number of a wait group. -/
def asWaitGroup : Value → Except Error Nat
  | .waitGroup i => .ok i
  | v => .error (.type "wait group" v.typeName)

/-- The content of an atom with its version. -/
def readAtom (i : Nat) : Machine Atom := look fun s => (s.atoms[i]?).getD ⟨0, .nil⟩

/-- Writes an atom. -/
def writeAtom (i : Nat) (v : Value) : Machine Unit :=
  change fun s => { s with atoms := s.atoms.modify i (·.set v) }

/-- Writes an atom unless it was written since it had the given version. -/
def compareAndSet (i : Nat) (version : UInt64) (v : Value) : Machine Bool := do
  match ← look fun s => (s.atoms[i]?).map (·.compareAndSet version v) with
  | some (written, a) =>
      change fun s => { s with atoms := s.atoms.modify i fun _ => a }
      return written
  | none => return false

/-- Replaces the content of an atom by what a function makes of it, again if the atom was written in
    the meantime. -/
def swapAtom (i : Nat) (f : Value) (extra : List Value) (scope : Nat) : Machine Value :=
  iterate (fun _ => do
    let a ← readAtom i
    let next ← ev.applyValues f (a.value :: extra) scope
    if ← compareAndSet i a.version next then return .stop next else return .again ()) ev.steps ()

/-- The builtins of the plugin `atom`. -/
def runAtom (op : AtomOp) (args : List Value) (scope : Nat) : Machine Value := do
  match op, args with
  | .make, [v] => return .atom (← update fun s => s.addAtom v)
  | .deref, [v] => return (← readAtom (← asAtom v)).value
  | .reset, [target, v] =>
      writeAtom (← asAtom target) v
      return v
  | .swap, target :: f :: extra => do ev.swapAtom (← asAtom target) f extra scope
  | .isAtom, [v] => return .boolean (match v with
      | .atom _ => true
      | _ => false)
  | op, args => wrongCount (.atom op) args

/-- A count for the function `form`. -/
def asCount (form : String) (v : Value) : Except Error Nat := do
  let n ← v.asInt
  if n < 0 then .error (.invalidArguments form "expected a non-negative integer")
  else return n.toNat

/-- The length of a millisecond in the units of the clock. -/
def millisecond : Nat := 1000

/-- The deadline that a limit in milliseconds sets, if there is a limit. -/
def deadlineOf (limit : List Value) : Machine (Option Nat) := do
  match limit with
  | [] | .nil :: _ => return none
  | v :: _ =>
      let ms ← asCount "timeout" v
      return some ((← look (·.clock)) + ms * millisecond)

/-- Replaces a channel. -/
def setChannel (c : Nat) (channel : Channel) : Machine Unit :=
  change fun s => { s with channels := s.channels.modify c fun _ => channel }

/-- Takes a value of a channel without waiting. -/
def takeFrom? (c : Nat) : Machine (Option Value) := do
  match ← look fun s => (s.channels[c]?).bind Channel.take? with
  | some (v, rest) =>
      setChannel c rest
      setChannel c (← rest.countReceived)
      return some v
  | none => return none

/-- Waits for a value of a channel and takes it. Once the channel is closed and empty, the value is
    `nil`; there is none when the deadline has passed. -/
def receive? (c : Nat) (deadline : Option Nat) : Machine (Option Value) := do
  await (.arrival c deadline)
  match ← takeFrom? c with
  | some v => return some v
  | none => do
      if ← look fun s => (s.channels[c]?).any Channel.closed then return some .nil else return none

/-- Sends a value to a channel: waits for room, and with capacity zero until the value was taken. -/
def send (c : Nat) (v : Value) : Machine Unit := do
  await (.room c)
  match ← look fun s => s.channels[c]? with
  | none => pure ()
  | some channel =>
      let accepted ← channel.accept v
      setChannel c accepted
      let counted ← accepted.countSent
      setChannel c counted
      if counted.capacity = 0 then await (.handover c counted.sent) else pure ()

/-- Closes a channel. -/
def closeChannel (c : Nat) : Machine Unit :=
  change fun s => { s with channels := s.channels.modify c Channel.close }

/-- Adds to a wait group. -/
def addToGroup (g : Nat) (delta : Int) : Machine Unit := do
  match ← look fun s => s.waitGroups[g]? with
  | none => pure ()
  | some group =>
      let next ← group.add (Int64.ofInt delta)
      change fun s => { s with waitGroups := s.waitGroups.modify g fun _ => next }

/-- Waits for the outcome of a future; there is none when the deadline has passed. -/
def awaitFuture? (f : Nat) (deadline : Option Nat) : Machine (Option (Except Error Value)) := do
  await (.finish f deadline)
  look fun s => (s.futures[f]?).bind Future.outcome

/-- Lets time pass. -/
def sleep (ms : Nat) : Machine Unit := do
  await (.time ((← look (·.clock)) + ms * millisecond))

/-- The builtins of the plugin `concurrency` other than `go`. -/
def runThread (op : ThreadOp) (args : List Value) : Machine Value := do
  match op, args with
  | .await, future :: limit =>
      let f ← asFuture future
      match ← awaitFuture? f (← deadlineOf limit) with
      | some outcome => outcome
      | none => return .nil
  | .isDone, [future] =>
      let f ← asFuture future
      return .boolean (← look fun s => (s.futures[f]?).any Future.isDone)
  | .makeChannel, capacity =>
      let n ← match capacity with
        | v :: _ => (asCount "chan" v : Machine Nat)
        | [] => pure 0
      return .channel (← update fun s => s.addChannel n)
  | .send, [channel, v] =>
      send (← asChannel channel) v
      return .boolean true
  | .receive, channel :: limit =>
      let deadline ← deadlineOf limit
      return (← receive? (← asChannel channel) deadline).getD .nil
  | .tryReceive, [channel] => return (← takeFrom? (← asChannel channel)).getD .nil
  | .close, [channel] =>
      closeChannel (← asChannel channel)
      return .nil
  | .isClosed, [channel] =>
      let c ← asChannel channel
      return .boolean (← look fun s => (s.channels[c]?).any Channel.closed)
  | .makeWaitGroup, [] => return .waitGroup (← update State.addWaitGroup)
  | .add, group :: delta =>
      let n ← match delta with
        | v :: _ => (v.asInt : Machine Int)
        | [] => pure 1
      addToGroup (← asWaitGroup group) n
      return .nil
  | .done, [group] =>
      addToGroup (← asWaitGroup group) (-1)
      return .nil
  | .waitZero, [group] =>
      await (.zero (← asWaitGroup group))
      return .nil
  | .sleep, [limit] =>
      sleep (← asCount "sleep" limit)
      return .nil
  | op, args => wrongCount (.thread op) args

/-! ### System -/

/-- How much time passes between two looks at the clock, so that waiting for it comes to an end. -/
def clockTick : Nat := 50

/-- The time in milliseconds. -/
def readClock : Machine Nat :=
  update fun s => (s.clock / millisecond, { s with clock := s.clock + clockTick })

/-- The help line of a name, if there is one. -/
def helpFor (name : String) : Machine Value := do
  match (← ev.registry).help? name with
  | some line => return .text line
  | none => return .nil

/-- The builtins of the plugin `system`. -/
def runSystem (op : SystemOp) (args : List Value) : Machine Value := do
  match op, args with
  | .now, [] => return .number (Number.ofNat (← readClock))
  | .now, v :: _ =>
      match v with
      | .keyword "iso" => return .text (ev.settings.libraries.timestamp (← readClock))
      | other =>
          fail (.invalidArguments "now" ("unknown format " ++ (← look fun s => other.show s.cells)))
  | .uuid, [] => return .text (← update State.nextIdentifier)
  | .setting, name :: fallback =>
      let key ← name.asText
      match ← look fun s => Assoc.get? key s.environment with
      | some value => return .text value
      | none => return fallback.headD .nil
  | .help, [v] =>
      match v with
      | .builtin name | .text name | .symbol name | .keyword name => ev.helpFor name
      | .function c | .transformer c =>
          return .text (c.displayName ++ " (" ++ c.arityText ++ ") - user defined")
      | other => fail (.type "function or name" other.typeName)
  | .functions, category =>
      let names ← match category with
        | v :: _ => do
            let key ← v.asKey
            pure ((← ev.registry).namesIn key)
        | [] => do pure (← ev.registry).names
      return .vector (names.map .text)
  | op, args => wrongCount (.system op) args

/-- What a builtin does to the values of its arguments. -/
def runPrimitive (p : Primitive) (args : List Value) (scope : Nat) : Machine Value :=
  match p with
  | .general op => ev.runGeneral op args
  | .math op => op.apply args
  | .comparison op => op.apply args
  | .sequence op =>
      match op, args with
      | .sort, [f, coll] => do
          return .list (← mergeSortBy (ev.comparatorBefore f scope) (← coll.asSeq))
      | op, args => op.apply args
  | .functional op => ev.runFunctional op args scope
  | .text op => do
      let cells ← look State.cells
      op.apply ev.settings.libraries cells args
  | .table op => op.apply args
  | .json op => op.apply ev.settings.libraries args
  | .console op => ev.runConsole op args scope
  | .atom op => ev.runAtom op args scope
  | .thread op => runThread op args
  | .encoding op => op.apply ev.settings.libraries args
  | .system op => ev.runSystem op args

end PluginLisp.Evaluator
