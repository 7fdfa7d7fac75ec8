import PluginLisp.Evaluator.Call

/-!
What the special forms do. Conditionals, bodies, `let`, `eval` and `apply` end in tail position; loops
and `try` run everything inside them to its end.
-/

namespace PluginLisp.Evaluator

open Machine

variable (ev : Evaluator)

/-! ### Quoting -/

/-- The form after a marking symbol, if the items are just these two. -/
def marked? (mark : String) : List Form → Option Form
  | [.symbol name, inner] => if name = mark then some inner else none
  | _ => none

mutual

/-- Fills a template: code as data, except that unquoted forms are evaluated. -/
def quasiquote (template : Form) (scope : Nat) : Machine Value :=
  match template with
  | .list items =>
      match marked? "unquote" items with
      | some inner => ev.eval inner scope
      | none => do return .list (← quasiquoteItems items scope)
  | .vector items => do return .vector (← quasiquoteItems items scope)
  | other => other.quote

/-- Fills the items of a template; the elements of a spliced sequence come in its place. -/
def quasiquoteItems (items : List Form) (scope : Nat) : Machine (List Value) :=
  match items with
  | [] => pure []
  | .list inner :: rest =>
      match marked? "unquote-splicing" inner with
      | some spliced => do
          let values ← (← ev.eval spliced scope).asSeq
          return values ++ (← quasiquoteItems rest scope)
      | none => do
          let v ← quasiquote (.list inner) scope
          return v :: (← quasiquoteItems rest scope)
  | item :: rest => do
      let v ← quasiquote item scope
      return v :: (← quasiquoteItems rest scope)

end

/-! ### Definitions -/

/-- The symbol that the construct `form` needs. -/
def symbolArg (form : String) (f : Form) : Machine String := do
  match f.symbol? with
  | some name => return name
  | none => fail (.invalidArguments form ("expected a symbol name, got " ++ (← formText f)))

/-- Binds a name to a value. -/
def define (name value : Form) (scope : Nat) : Machine Value := do
  let symbol ← symbolArg "def" name
  let v ← ev.eval value scope
  setVariable scope symbol v
  return v

/-- Makes a function, with a name if a symbol comes before the parameters. -/
def makeFunction (first : Form) (rest : List Form) (scope : Nat) : Machine Value := do
  match first, rest with
  | .symbol name, params :: body =>
      return .function (← makeClosure "fn" (some name) params body scope)
  | params, body => return .function (← makeClosure "fn" none params body scope)

/-- The parameters and body of a definition, after a text that explains it, if there is one. -/
def skipExplanation : List Form → List Form
  | .text s :: params :: body =>
      match params with
      | .list _ | .vector _ => params :: body
      | _ => .text s :: params :: body
  | parts => parts

/-- Defines a function or a macro for the construct `form`. -/
def defineNamed (form : String) (make : Closure → Value) (name : Form) (parts : List Form)
    (scope : Nat) : Machine Value := do
  let symbol ← symbolArg form name
  match skipExplanation parts with
  | [] => return .nil
  | params :: body =>
      let v := make (← makeClosure form (some symbol) params body scope)
      setVariable scope symbol v
      return v

/-! ### Evaluation -/

/-- Calls a function with arguments, the last of which is a sequence of further ones. -/
def applyForm (f : Form) (args : List Form) (scope : Nat) : Machine Value := do
  let g ← ev.eval f scope
  let values ← ev.evalAll args scope
  let more ← (values.getLast?.getD .nil).asSeq
  ev.callTail g (literals (values.dropLast ++ more)) scope

/-- Expands a call of a macro once. Anything else stays as it is. -/
def expandForm (v : Value) (scope : Nat) : Machine Value := do
  match v with
  | .list (.symbol head :: args) =>
      match ← look (·.scopes.find? scope head) with
      | some (.transformer c) => ev.expandMacro c (Value.toCodeAll args)
      | _ => return v
  | _ => return v

/-! ### Errors -/

/-- The parts of a `try`: body, handler with its variable, and cleanup. -/
structure Attempt where
  body : List Form
  handler : Option (String × List Form)
  cleanup : Option (List Form)

/-- Splits off the last form if it is a list that starts with the given symbol. -/
def splitClause (symbol : String) (forms : List Form) : List Form × Option (List Form) :=
  match forms.getLast? with
  | some (.list (.symbol name :: items)) =>
      if name = symbol then (forms.dropLast, some items) else (forms, none)
  | _ => (forms, none)

/-- The parts of a `try`. -/
def readAttempt (args : List Form) : Machine Attempt := do
  let (args, cleanup) := splitClause "finally" args
  match splitClause "catch" args with
  | (body, none) => return ⟨body, none, cleanup⟩
  | (_, some []) => fail (.invalidArguments "try" "catch requires an error variable")
  | (body, some (target :: handler)) =>
      return ⟨body, some (← symbolArg "catch" target, handler), cleanup⟩

/-- What the handler makes of an error. Anything else stays as it is. -/
def recover (parts : Attempt) (result : Except Error Value) (scope : Nat) :
    Machine (Except Error Value) :=
  match result, parts.handler with
  | .error e, some (name, handler) => do
      let inner ← newScope scope
      setVariable inner name (.text e.caughtText)
      (ev.runBody handler inner).reify
  | result, _ => pure result

/-- Evaluates the cleanup, if there is one. -/
def cleanUp (parts : Attempt) (scope : Nat) : Machine Unit :=
  match parts.cleanup with
  | some cleanup => discard (ev.runBody cleanup scope)
  | none => pure ()

/-- Evaluates a body, the handler if the body fails, and the cleanup in any case. -/
def runAttempt (parts : Attempt) (scope : Nat) : Machine Value := do
  let result ← (ev.runBody parts.body scope).reify
  let result ← ev.recover parts result scope
  ev.cleanUp parts scope
  result

/-! ### Conditions and loops -/

/-- Evaluates forms until one decides by its truth; the last one is in tail position. -/
def shortCircuit (decisive : Bool) (empty : Value) (args : List Form) (scope : Nat) : Machine Value :=
  match args with
  | [] => pure empty
  | [last] => ev.evalTail last scope
  | form :: rest => do
      let v ← ev.eval form scope
      if v.isTruthy = decisive then return v else shortCircuit decisive empty rest scope

/-- The test of a last branch, which is always taken. -/
def isElse : Form → Bool
  | .keyword name => name = "else"
  | _ => false

/-- Evaluates the first branch whose test holds. -/
def branches (args : List Form) (scope : Nat) : Machine Value :=
  match args with
  | test :: branch :: rest => do
      if isElse test then ev.evalTail branch scope
      else if (← ev.eval test scope).isTruthy then ev.evalTail branch scope
      else branches rest scope
  | _ => pure .nil

/-- Evaluates forms and forgets their values. -/
def runAll (forms : List Form) (scope : Nat) : Machine Unit :=
  fold (fun _ form => do
    discard (ev.eval form scope)
    return .again ()) id () forms

/-- Evaluates forms as long as a test holds; each round counts towards the turn of the thread. -/
def whileLoop (test : Form) (body : List Form) (scope : Nat) : Machine Value :=
  iterate (fun _ => do
    yieldTurn
    if (← ev.eval test scope).isTruthy then
      ev.runAll body scope
      return .again ()
    else return .stop .nil) ev.steps ()

/-- The variable and the count of a counting loop. -/
def readCounter : Form → Machine (String × Form)
  | .vector [.symbol name, count] => pure (name, count)
  | .vector _ => fail (.invalidArguments "dotimes" "binding must be [name count]")
  | other =>
      fail (.invalidArguments "dotimes" ("binding must be a vector, got " ++ other.kindName))

/-- Evaluates forms with a variable that counts from zero, in a new scope each time. -/
def countingLoop (binding : Form) (body : List Form) (scope : Nat) : Machine Value := do
  let (name, count) ← readCounter binding
  let n ← (← ev.eval count scope).asInt
  iterate (fun (i : Nat) => do
    if n ≤ i then return .stop .nil
    else
      let inner ← newScope scope
      setVariable inner name (.number (Number.ofNat i))
      ev.runAll body inner
      return .again (i + 1)) ev.steps 0

/-! ### Scopes and threads -/

/-- Binds names to values in a scope, each value with the bindings before it in place. -/
def bindPairs (pairs : List Form) (scope : Nat) : Machine Unit :=
  match pairs with
  | name :: value :: rest => do
      match name.symbol? with
      | none =>
          fail (.invalidArguments "let" ("binding name must be a symbol, got " ++ (← formText name)))
      | some symbol =>
          setVariable scope symbol (← ev.eval value scope)
          bindPairs rest scope
  | _ => pure ()

/-- The names and values of local bindings. -/
def readBindings : Form → Machine (List Form)
  | .list items | .vector items =>
      if items.length % 2 = 0 then pure items
      else fail (.invalidArguments "let" "bindings must contain an even number of forms")
  | other => fail (.invalidArguments "let" ("bindings must be a vector, got " ++ other.kindName))

/-- Evaluates a body with local bindings. -/
def letForm (bindings : Form) (body : List Form) (scope : Nat) : Machine Value := do
  let pairs ← readBindings bindings
  let inner ← newScope scope
  ev.bindPairs pairs inner
  ev.evalBody body inner

/-- The symbol that a form about modules needs. -/
def moduleSymbol (form : String) (f : Form) : Machine String :=
  match f.symbol? with
  | some name => pure name
  | none => fail (.invalidArguments form ("expected a symbol, got " ++ f.kindName))

/-- The members of a module: the given names with their values in a scope. -/
def moduleMembers (moduleName : String) (scopes : Scopes) (scope : Nat) :
    List String → Except Error (Assoc Value)
  | [] => .ok []
  | name :: rest => do
      match scopes.find? scope name with
      | none => .error (.undefinedMember moduleName name)
      | some v => return (← moduleMembers moduleName scopes scope rest).put name v

/-- Evaluates forms in a scope of their own and makes a module of what they export, or of all they
    bind if they export nothing. -/
def moduleForm (name : Form) (body : List Form) (scope : Nat) : Machine Value := do
  let symbol ← moduleSymbol "module" name
  if symbol.contains '.' then
    fail (.invalidArguments "module" "module names cannot contain '.'")
  else
    let inner ← newScope scope
    ev.runAll body inner
    let members ← look fun s =>
      let exported := s.scopes.exportsOf inner
      let names := if exported.isEmpty then s.scopes.localNames inner else exported
      moduleMembers symbol s.scopes inner names
    let m : NamedModule := ⟨symbol, ← members⟩
    change fun s => { s with scopes := s.scopes.defineModule scope m }
    return .nil

/-- Marks names as exported, up to the first form that is no symbol. -/
def exportForm (scope : Nat) : List Form → Machine Value
  | [] => pure .nil
  | f :: rest => do
      let name ← moduleSymbol "export" f
      change fun s => { s with scopes := s.scopes.markExported scope name }
      exportForm scope rest

/-- Runs a special form. -/
def runForm (f : SpecialForm) (args : List Form) (scope : Nat) : Machine Value := do
  ArgCount.check f.name f.count args.length
  match f, args with
  | .quote, [x] => x.quote
  | .quasiquote, [x] => ev.quasiquote x scope
  | .define, [name, value] => ev.define name value scope
  | .lambda, first :: rest => makeFunction first rest scope
  | .defineFunction, name :: parts => defineNamed "defn" .function name parts scope
  | .defineTransformer, name :: parts => defineNamed "defmacro" .transformer name parts scope
  | .sequence, body => ev.evalBody body scope
  | .evaluate, [x] => do ev.evalTail (← ev.eval x scope).toCode scope
  | .apply, g :: rest => ev.applyForm g rest scope
  | .expand, [x] => do ev.expandForm (← ev.eval x scope) scope
  | .attempt, parts => do ev.runAttempt (← readAttempt parts) scope
  | .and, forms => ev.shortCircuit false (.boolean true) forms scope
  | .or, forms => ev.shortCircuit true .nil forms scope
  | .choose, test :: branch :: rest => do
      if (← ev.eval test scope).isTruthy then ev.evalTail branch scope
      else match rest with
        | otherwise :: _ => ev.evalTail otherwise scope
        | [] => return .nil
  | .when, test :: body => do
      if (← ev.eval test scope).isTruthy then ev.evalBody body scope else return .nil
  | .whenNot, test :: body => do
      if (← ev.eval test scope).isTruthy then return .nil else ev.evalBody body scope
  | .cond, pairs =>
      if pairs.length % 2 = 0 then ev.branches pairs scope
      else fail (.invalidArguments "cond" "expected test/expression pairs")
  | .loop, test :: body => ev.whileLoop test body scope
  | .dotimes, binding :: body => ev.countingLoop binding body scope
  | .bind, bindings :: body => ev.letForm bindings body scope
  | .defineModule, name :: body => ev.moduleForm name body scope
  | .publish, names => exportForm scope names
  | .go, body => do
      return .future (← update fun s => s.spawn body scope ev.settings)
  | f, args => fail (.arity f.name f.count.describe args.length)

end PluginLisp.Evaluator
