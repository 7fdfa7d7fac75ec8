import PluginLisp.Assoc
import PluginLisp.Builtin.Basic

/-!
The registry: the builtins that a program can call by name, each with a category, a declared number of
arguments and a help line. Names are unique.
-/

namespace PluginLisp

/-- The declared number of arguments. It informs only: builtins count their arguments themselves. -/
inductive Arity where
  | fixed (count : Nat)
  | variadic
deriving DecidableEq, Repr, Inhabited

namespace Arity

/-- The number in words. -/
def text : Arity → String
  | fixed n => toString n
  | variadic => "variadic"

/-- The number as the summary of a descriptor shows it. -/
def summary : Arity → String
  | fixed n => "Fixed(" ++ toString n ++ ")"
  | variadic => "Variadic"

/-- The declaration for a builtin: fixed if only one number is allowed. -/
def ofCount : ArgCount → Arity
  | .exactly n => fixed n
  | _ => variadic

end Arity

/-- A registered builtin. -/
structure Descriptor where
  name : String
  category : String
  arity : Arity
  help : String
  builtin : Builtin
deriving DecidableEq, Repr, Inhabited

namespace Descriptor

/-- The descriptor of a builtin under its own name. -/
def ofBuiltin (category : String) (b : Builtin) : Descriptor :=
  ⟨b.name, category, .ofCount b.count, b.help, b⟩

/-- The help line with name and number of arguments. -/
def helpLine (d : Descriptor) : String := d.name ++ " (" ++ d.arity.text ++ ") - " ++ d.help

/-- A one-line summary. -/
def summary (d : Descriptor) : String :=
  "FunctionDescriptor \x7b name: " ++ Text.quote d.name ++ ", category: " ++ Text.quote d.category
    ++ ", arity: " ++ d.arity.summary ++ ", .. \x7d"

end Descriptor

/-- The registered builtins by name. -/
structure Registry where
  functions : Assoc Descriptor := []
deriving Inhabited

namespace Registry

/-- Nothing registered. -/
def empty : Registry := {}

/-- The builtin registered under a name. -/
def get? (r : Registry) (name : String) : Option Descriptor := Assoc.get? name r.functions

/-- Whether a name is registered. -/
def has (r : Registry) (name : String) : Bool := (r.get? name).isSome

/-- All names, sorted. -/
def names (r : Registry) : List String := r.functions.names

/-- The number of names. -/
def size (r : Registry) : Nat := r.functions.length

/-- Registers a builtin under a name that is free. -/
def register (r : Registry) (d : Descriptor) : Except Error Registry :=
  if r.has d.name then .error (.duplicateFunction d.name)
  else .ok ⟨r.functions.put d.name d⟩

/-- Registers a second name for a builtin. -/
def registerAlias (r : Registry) (second target : String) : Except Error Registry :=
  match r.get? target with
  | none => .error (.unknownFunction target)
  | some d =>
      r.register { d with name := second, help := "Alias for " ++ target ++ ". " ++ d.help }

/-- Removes a name. -/
def unregister (r : Registry) (name : String) : Except Error Registry :=
  if r.has name then .ok ⟨r.functions.remove name⟩ else .error (.unknownFunction name)

/-- The names of one category, sorted. -/
def namesIn (r : Registry) (category : String) : List String :=
  (r.functions.items.filter (·.category == category)).map (·.name)

/-- The categories in use, sorted. -/
def categories (r : Registry) : List String :=
  (r.functions.items.foldl (fun cs d => Assoc.put d.category () cs) ([] : Assoc Unit)).names

/-- The help line of a name. -/
def help? (r : Registry) (name : String) : Option String := (r.get? name).map Descriptor.helpLine

/-- A one-line summary. -/
def summary (r : Registry) : String :=
  "FunctionRegistry \x7b functions: " ++ toString r.size ++ " \x7d"

/-- A one-line summary of what is registered under a name. -/
def summaryOf (r : Registry) (name : String) : String :=
  match r.get? name with
  | some d => "Some(" ++ d.summary ++ ")"
  | none => "None"

end Registry

end PluginLisp
