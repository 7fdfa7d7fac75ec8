import PluginLisp.Evaluator.Basic

/-!
Calling values. Arguments come as code: closures, operators and combinators have them evaluated, from
left to right and once each, while builtins and macros get them as they are. Values that are already
known are passed as literals, which evaluate to themselves.
-/

namespace PluginLisp.Evaluator

open Machine

variable (ev : Evaluator)

/-- Runs a macro on code: its parameters stand for the arguments as data, and its answer is the code
    to be evaluated in place of the call. -/
def expandMacro (c : Closure) (args : List Form) : Machine Value := do
  let quoted ← Form.quoteAll args
  let frame ← newScope c.scope
  bindParams c quoted frame
  ev.runBody c.body frame

/-- A literal for each value. -/
def literals (values : List Value) : List Form := values.map .literal

mutual

/-- Calls a value with arguments as code, in tail position. -/
def callTail (f : Value) (args : List Form) (scope : Nat) : Machine Value :=
  match f with
  | .function c => do ev.callClosure c (← ev.evalAll args scope)
  | .builtin name => do
      match (← ev.registry).get? name with
      | some d => ev.perform (.builtin d.builtin args scope)
      | none => fail (.unknownFunction name)
  | .operator symbol => do
      applyOperator symbol (← ev.evalAll args scope)
  | .partialCall g bound => do
      let values ← ev.evalAll args scope
      callTail g (literals bound ++ literals values) scope
  | .complement g => do
      let v ← ev.force (← callTail g args scope)
      return .boolean !v.isTruthy
  | .juxt fs => do
      let values ← ev.evalAll args scope
      return .vector (← callEach fs (literals values) scope)
  | .comp [] => do
      match ← ev.evalAll args scope with
      | [v] => return v
      | values => fail (.arity "comp" "1" values.length)
  | .comp [g] => do ev.force (← callTail g args scope)
  | .comp (g :: rest) => do
      let v ← callChain rest args scope
      callTail g [.literal v] scope
  | .transformer c => do
      let expansion ← ev.expandMacro c args
      ev.evalTail expansion.toCode scope
  | other => fail (.notCallable other.typeName)

/-- Calls each of the values with the same arguments. -/
def callEach (fs : List Value) (args : List Form) (scope : Nat) : Machine (List Value) :=
  match fs with
  | [] => pure []
  | f :: rest => do
      let v ← ev.force (← callTail f args scope)
      let vs ← callEach rest args scope
      return v :: vs

/-- Calls the last of the values with the arguments, and each one before it with the result of the one
    after it. -/
def callChain (fs : List Value) (args : List Form) (scope : Nat) : Machine Value :=
  match fs with
  | [] => pure .nil
  | [f] => do ev.force (← callTail f args scope)
  | f :: rest => do
      let v ← callChain rest args scope
      ev.force (← callTail f [.literal v] scope)

end

/-- Calls a value with arguments as code. -/
def call (f : Value) (args : List Form) (scope : Nat) : Machine Value := do
  ev.force (← ev.callTail f args scope)

/-- Calls a value with arguments that are known. -/
def applyValues (f : Value) (args : List Value) (scope : Nat) : Machine Value :=
  ev.call f (literals args) scope

end PluginLisp.Evaluator
