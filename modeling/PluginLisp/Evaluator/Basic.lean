import PluginLisp.Arithmetic
import PluginLisp.Machine.Run
import PluginLisp.Text.Pieces
import PluginLisp.Value.Code

/-!
The parts of evaluation that all constructs share. Evaluation in tail position may come to a call that
is still to be made; `Evaluator.force` makes such calls one after the other, so that a chain of them
needs no nesting. An evaluator knows how to perform smaller work; tying that knot is
left to the module that defines evaluation as a whole.
-/

namespace PluginLisp

/-- What an evaluator can be asked to do. -/
inductive Work where
  | eval (form : Form) (scope : Nat)
  | builtin (b : Builtin) (args : List Form) (scope : Nat)
  /-- Runs the body of a closure. -/
  | enter (closure : Closure) (args : List Value)
deriving Inhabited

/-- Whether a call of a closure in tail position is left to be made or made at once. -/
inductive CallPolicy where
  | deferred
  | immediate
deriving DecidableEq, Repr, Inhabited

/-- An evaluator: the settings, what it does with calls in tail position, how many rounds a loop may
    take, and how it performs smaller work. -/
structure Evaluator where
  settings : Settings
  calls : CallPolicy
  steps : Nat
  perform : Work → Machine Value

/-- A call as a trace shows it. -/
def callText (cells : Cells) (name : String) (args : List Value) : String :=
  enclose "(" (name :: args.map (Value.show cells)) ")"

/-- The error for a closure that cannot take a number of arguments. -/
def Closure.arityError (c : Closure) (got : Nat) : Error := .arity c.displayName c.arityText got

/-- Binds parameters to arguments in a scope, from left to right, and then the rest parameter to the
    list of the arguments that are left. -/
def Scopes.bindParams (scopes : Scopes) (frame : Nat) (params : List String) (rest : Option String)
    (args : List Value) : Scopes :=
  match params, args with
  | p :: params, v :: args => (scopes.set frame p v).bindParams frame params rest args
  | _, args => match rest with
      | some name => scopes.set frame name (.list args)
      | none => scopes

namespace Machine

/-- Makes a scope inside another one. -/
def newScope (parent : Nat) : Machine Nat := update fun s => s.addScope (some parent)

/-- Binds a variable. -/
def setVariable (scope : Nat) (name : String) (v : Value) : Machine Unit :=
  change fun s => { s with scopes := s.scopes.set scope name v }

/-- Binds the parameters of a closure in a scope. -/
def bindParams (c : Closure) (args : List Value) (frame : Nat) : Machine Unit :=
  if c.accepts args.length then
    change fun s => { s with scopes := s.scopes.bindParams frame c.params c.rest args }
  else fail (c.arityError args.length)

/-- The text of a form. -/
def formText (f : Form) : Machine String := look fun s => f.show s.cells

/-- The texts of values for people, with spaces between them. -/
def displayJoined (values : List Value) : Machine String :=
  look fun s => " ".intercalate (values.map (Value.display s.cells))

end Machine

namespace Evaluator

open Machine

variable (ev : Evaluator)

/-- The builtins on hand. -/
def registry : Machine Registry := look (·.registry ev.settings.manager)

/-- Evaluates a form in tail position. -/
def evalTail (form : Form) (scope : Nat) : Machine Value := ev.perform (.eval form scope)

/-- Makes a call that is left, which counts towards the turn of the thread. -/
def forceRound : Value → Machine (Round Value Value)
  | .pending c args => do
      yieldTurn
      return .again (← ev.perform (.enter c args))
  | v => pure (.stop v)

/-- Makes the calls that are left until there is a value. -/
def force (v : Value) : Machine Value := iterate ev.forceRound ev.steps v

/-- Evaluates a form to its value. -/
def eval (form : Form) (scope : Nat) : Machine Value := do ev.force (← ev.evalTail form scope)

/-- Evaluates the forms of a body in order; the last one is in tail position. -/
def evalBody (body : List Form) (scope : Nat) : Machine Value :=
  match body with
  | [] => pure .nil
  | [last] => ev.evalTail last scope
  | form :: rest => do
      discard (ev.eval form scope)
      evalBody rest scope

/-- Evaluates the forms of a body to the value of the last one. -/
def runBody (body : List Form) (scope : Nat) : Machine Value := do
  ev.force (← ev.evalBody body scope)

/-- Evaluates forms from left to right. -/
def evalAll (forms : List Form) (scope : Nat) : Machine (List Value) :=
  collect (fun form => ev.eval form scope) forms

/-- Where errors are decorated, the call under way becomes a frame of the errors from it. -/
def inFrame (frame : State → CallFrame) (m : Machine Value) : Machine Value :=
  if ev.settings.traced then m.decorate fun s e => e.withFrame (frame s) else m

/-- The text of a call of a closure, which only traces need. -/
def entryText (c : Closure) (args : List Value) : Machine String :=
  if ev.settings.traced then look fun s => callText s.cells c.displayName args else pure ""

/-- Runs the body of a closure, with its parameters bound in a new scope. -/
def enter (c : Closure) (args : List Value) : Machine Value := do
  let frame ← newScope c.scope
  let form ← ev.entryText c args
  ev.inFrame (fun _ => ⟨c.displayName, form⟩) do
    bindParams c args frame
    ev.evalBody c.body frame

/-- A call of a closure in tail position: left to be made, or made at once, which counts towards the
    turn of the thread. -/
def callClosure (c : Closure) (args : List Value) : Machine Value :=
  if c.accepts args.length then
    match ev.calls with
    | .deferred => pure (.pending c args)
    | .immediate => do
        yieldTurn
        ev.perform (.enter c args)
  else fail (c.arityError args.length)

/-! ### Symbols -/

/-- The member of a module that a name with a point in it stands for. -/
def resolveMember (name : String) (scope : Nat) : Machine Value := do
  match Text.split name "." with
  | [moduleName, member] =>
      if moduleName.isEmpty || member.isEmpty then fail (.invalidModuleAccess name)
      else
        match ← look (·.scopes.module? scope moduleName) with
        | none => fail (.undefinedModule moduleName)
        | some m => match Assoc.get? member m.members with
            | some v => return v
            | none => fail (.undefinedMember moduleName member)
  | _ => fail (.invalidModuleAccess name)

/-- What a symbol stands for: a member of a module, a builtin, an operator or a variable, looked for
    in this order. -/
def resolve (name : String) (scope : Nat) : Machine Value := do
  if name.contains '.' then resolveMember name scope
  else if (← ev.registry).has name then return .builtin name
  else if (Operator.ofSymbol? name).isSome then return .operator name
  else
    match ← look (·.scopes.find? scope name) with
    | some v => return v
    | none => fail (.undefinedSymbol name)

/-! ### Closures -/

/-- The names of parameters. -/
def paramNames (form : String) : List Form → Machine (List String)
  | [] => pure []
  | item :: rest => do
      match item.symbol? with
      | some name => return name :: (← paramNames form rest)
      | none =>
          fail (.invalidArguments form ("parameter must be a symbol, got " ++ (← formText item)))

/-- The parameters before an ampersand and the one after it, of which there has to be exactly one. -/
def splitRest? (names : List String) : Option (List String × Option String) :=
  let params := names.takeWhile (· != "&")
  match names.drop params.length with
  | [] => some (params, none)
  | [_, rest] => if rest = "&" then none else some (params, some rest)
  | _ => none

/-- The parameters of a closure that the construct `form` makes. -/
def readParams (form : String) (params : Form) : Machine (List String × Option String) :=
  match params with
  | .list items | .vector items => do
      match splitRest? (← paramNames form items) with
      | some split => return split
      | none => fail (.invalidArguments form "`&` must be followed by exactly one parameter")
  | other =>
      fail (.invalidArguments form ("parameters must be a vector, got " ++ other.kindName))

/-- Makes a closure for the construct `form`. -/
def makeClosure (form : String) (name : Option String) (params : Form) (body : List Form)
    (scope : Nat) : Machine Closure := do
  let (names, rest) ← readParams form params
  update fun s => (⟨s.closures, name, names, rest, body, scope⟩, { s with closures := s.closures + 1 })

end Evaluator

end PluginLisp
