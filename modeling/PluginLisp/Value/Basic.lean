import PluginLisp.Decimal.Basic

/-!
The data of the language: forms, which are code as it was read, and values, which are what code
evaluates to. A form may embed a value, and a closure holds the forms of its body, so the three types
are defined together. Collections are immutable; atoms, channels, futures and wait groups are named
by their number in the store that holds their state.
-/

namespace PluginLisp

mutual

/-- Code as read. -/
inductive Form where
  | number (x : Float)
  /-- A decimal literal, kept as the text before its `N` until it is evaluated. -/
  | big (digits : String)
  | text (s : String)
  | boolean (b : Bool)
  /-- A keyword, without its colon. -/
  | keyword (name : String)
  | symbol (name : String)
  | list (items : List Form)
  | vector (items : List Form)
  /-- A map literal: keys and values in turn. -/
  | table (items : List Form)
  /-- A value that stands for itself. -/
  | literal (value : Value)

/-- A function or macro of the program: parameters and body, with the scope it was made in. The
    identity tells closures of equal text apart. -/
structure Closure where
  identity : Nat
  name : Option String
  params : List String
  rest : Option String
  body : List Form
  scope : Nat

/-- What code evaluates to. -/
inductive Value where
  | nil
  | boolean (b : Bool)
  | number (x : Float)
  | decimal (d : Decimal)
  | text (s : String)
  | keyword (name : String)
  | symbol (name : String)
  | list (items : List Value)
  | vector (items : List Value)
  /-- A map from texts to values, sorted by key. -/
  | map (entries : List (String × Value))
  | function (closure : Closure)
  /-- A macro: a closure that gets its arguments as code and answers with code. -/
  | transformer (closure : Closure)
  /-- A function of the registry, by name. -/
  | builtin (name : String)
  /-- One of the arithmetic operators, by name. -/
  | operator (name : String)
  /-- A function with its first arguments already given. -/
  | partialCall (f : Value) (bound : List Value)
  /-- The negation of a predicate. -/
  | complement (f : Value)
  /-- All of the functions on the same arguments. -/
  | juxt (fs : List Value)
  /-- The composition of the functions, the last one applied first. -/
  | comp (fs : List Value)
  | atom (index : Nat)
  | channel (index : Nat)
  | future (index : Nat)
  | waitGroup (index : Nat)
  /-- A call of a closure in tail position that is still to be made, with arguments that fit it. Only
      evaluation in tail position comes to one; it is never data. -/
  | pending (closure : Closure) (args : List Value)

end

deriving instance Inhabited for Form, Closure, Value

namespace Closure

/-- The name in traces and errors. -/
def displayName (c : Closure) : String := c.name.getD "<anonymous>"

/-- The number of arguments in words. -/
def arityText (c : Closure) : String :=
  match c.rest with
  | some _ => "at least " ++ toString c.params.length
  | none => toString c.params.length

/-- Whether the parameters can take `count` arguments. -/
def accepts (c : Closure) (count : Nat) : Bool :=
  match c.rest with
  | some _ => c.params.length ≤ count
  | none => count == c.params.length

end Closure

namespace Value

/-- The name of a value's type. -/
def typeName : Value → String
  | nil => "nil"
  | boolean _ => "boolean"
  | number _ => "number"
  | decimal _ => "bignumber"
  | text _ => "string"
  | keyword _ => "keyword"
  | symbol _ => "symbol"
  | list _ => "list"
  | vector _ => "vector"
  | map _ => "hashmap"
  | function _ => "function"
  | transformer _ => "macro"
  | builtin _ => "builtin"
  | operator _ => "arithmetic"
  | partialCall _ _ => "partial"
  | complement _ => "complement"
  | juxt _ => "juxt"
  | comp _ => "comp"
  | atom _ => "atom"
  | channel _ => "channel"
  | future _ => "future"
  | waitGroup _ => "waitgroup"
  | pending _ _ => "tail-call"

/-- Everything but `nil` and `false` counts as true. -/
def isTruthy : Value → Bool
  | nil | boolean false => false
  | _ => true

/-- Whether a value can be called. -/
def isCallable : Value → Bool
  | function _ | transformer _ | builtin _ | operator _ | partialCall _ _ | complement _ | juxt _
  | comp _ => true
  | _ => false

end Value

namespace Form

/-- The name of a form's kind. -/
def kindName : Form → String
  | number _ => "number"
  | big _ => "bignumber"
  | text _ => "string"
  | boolean _ => "boolean"
  | keyword _ => "keyword"
  | symbol _ => "symbol"
  | list _ => "list"
  | vector _ => "vector"
  | table _ => "hashmap"
  | literal v => v.typeName

/-- The name of a symbol. -/
def symbol? : Form → Option String
  | symbol name => some name
  | _ => none

end Form

end PluginLisp
