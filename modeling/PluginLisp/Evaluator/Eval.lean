import PluginLisp.Evaluator.Forms
import PluginLisp.Evaluator.Primitives

/-!
Evaluation as a whole. `performWith` does any work with a given number of steps: each level of nesting
takes one, and a loop may take as many rounds as there are steps left. With enough steps the outcome
does not depend on their number.
-/

namespace PluginLisp

open Machine

namespace Evaluator

variable (ev : Evaluator)

/-- The value of a map literal, whose items are keys and values in turn. -/
def evalPairs (entries : Assoc Value) (items : List Form) (scope : Nat) : Machine Value :=
  match items with
  | [] => pure (.map entries)
  | [_] => fail (.malformed "Map literal must contain an even number of forms")
  | key :: value :: rest => do
      let k ← (← ev.eval key scope).asKey
      let v ← ev.eval value scope
      evalPairs (entries.put k v) rest scope

/-- The builtin that the head of a list calls by name. -/
def headBuiltin? (head : Form) : Machine (Option Descriptor) :=
  match head with
  | .symbol name => do return (← ev.registry).get? name
  | _ => pure none

/-- The value of a list: a call. Where errors are decorated, a builtin called by name is a frame of
    the errors from it. -/
def evalList (head : Form) (args : List Form) (scope : Nat) : Machine Value := do
  match ← ev.headBuiltin? head with
  | some d =>
      ev.inFrame (fun s => ⟨d.name, (Form.list (head :: args)).show s.cells⟩)
        (ev.perform (.builtin d.builtin args scope))
  | none =>
      let f ← ev.eval head scope
      ev.callTail f args scope

/-- Evaluates a form in tail position. -/
def evalForm (form : Form) (scope : Nat) : Machine Value :=
  match form with
  | .number x => pure (.number x)
  | .big digits => do return .decimal (← readDecimal digits)
  | .text s => pure (.text s)
  | .boolean b => pure (.boolean b)
  | .keyword name => pure (.keyword name)
  | .literal v => pure v
  | .symbol name => ev.resolve name scope
  | .list [] => fail .emptyList
  | .list (head :: args) => ev.evalList head args scope
  | .vector items => do return .vector (← ev.evalAll items scope)
  | .table items => ev.evalPairs [] items scope

/-- Runs a builtin on code. -/
def runBuiltin (b : Builtin) (args : List Form) (scope : Nat) : Machine Value :=
  match b with
  | .form f => ev.runForm f args scope
  | .primitive p => do
      p.count.check p.name args.length
      let values ← ev.evalAll args scope
      ev.runPrimitive p values scope
  | .constant text => pure (.text text)

/-- Performs work, given how smaller work is performed. -/
def step (w : Work) : Machine Value :=
  match w with
  | .eval form scope => ev.evalForm form scope
  | .builtin b args scope => ev.runBuiltin b args scope
  | .enter c args => ev.enter c args

end Evaluator

/-- How many levels of nesting share a stack. -/
def levelsPerStack : Nat := 1024

/-- Runs a computation, on a stack of its own if asked to. -/
def runOnStack {α : Type} (own : Bool) (m : Machine α) : Machine α := fun s =>
  if own then (Task.spawn (fun _ => m s) Task.Priority.dedicated).get else m s

/-- Performs work with a number of steps. -/
def performWith (settings : Settings) (calls : CallPolicy) : (steps : Nat) → Work → Machine Value
  | 0, _ => exhausted
  | steps + 1, w =>
      let ev : Evaluator := ⟨settings, calls, steps, performWith settings calls steps⟩
      runOnStack (steps % levelsPerStack = 0) (ev.step w)

/-- The evaluator with a number of steps. -/
def Evaluator.ofSteps (settings : Settings) (calls : CallPolicy) (steps : Nat) : Evaluator :=
  ⟨settings, calls, steps, performWith settings calls steps⟩

/-- As many steps as a program is ever given: more than it could take in a lifetime. -/
def allSteps : Nat := Number.twoPow 60 - 1

/-- The evaluator that runs programs. -/
def Evaluator.standard (settings : Settings) : Evaluator := .ofSteps settings .deferred allSteps

end PluginLisp
