import PluginLisp.Assoc
import PluginLisp.Text.Quoted
import PluginLisp.Value.Basic

/-!
Scopes: variables, modules and exported names, each scope inside another one. Scopes are numbered by
the order of their making, so the scope around another one always has the smaller number, and looking
outward comes to an end.
-/

namespace PluginLisp

/-- A module: members that are reached by its name. -/
structure NamedModule where
  name : String
  members : Assoc Value
deriving Inhabited

/-- One scope. -/
structure Scope where
  bindings : Assoc Value := []
  modules : Assoc NamedModule := []
  /-- The exported names in the order of export. -/
  exports : List String := []
  /-- The number of the scope around it. -/
  parent : Option Nat := none
deriving Inhabited

/-- All scopes by number. -/
abbrev Scopes := Array Scope

namespace Scopes

/-- Makes a scope inside another one, or on its own; its number is the number of scopes before. -/
def add (scopes : Scopes) (parent : Option Nat) : Scopes := scopes.push { parent }

/-- The scope of a number. -/
def at? (scopes : Scopes) (i : Nat) : Option Scope := scopes[i]?

/-- The answer of the nearest scope that has one, from scope `i` outward. `steps` bounds the number
    of scopes looked at. -/
def searchFrom {α : Type} (look : Scope → Option α) (scopes : Scopes) :
    (steps : Nat) → (i : Nat) → Option α
  | 0, _ => none
  | steps + 1, i =>
      match scopes.at? i with
      | none => none
      | some scope =>
          match look scope, scope.parent with
          | some a, _ => some a
          | none, some p => searchFrom look scopes steps p
          | none, none => none

/-- The answer of the nearest scope that has one. -/
def search {α : Type} (scopes : Scopes) (i : Nat) (look : Scope → Option α) : Option α :=
  searchFrom look scopes (i + 1) i

/-- The value of a variable. -/
def find? (scopes : Scopes) (i : Nat) (name : String) : Option Value :=
  scopes.search i fun scope => Assoc.get? name scope.bindings

/-- The module of a name. -/
def module? (scopes : Scopes) (i : Nat) (name : String) : Option NamedModule :=
  scopes.search i fun scope => Assoc.get? name scope.modules

/-- The number of scopes around scope `i`; `steps` bounds it. -/
def depthFrom (scopes : Scopes) : (steps : Nat) → (i : Nat) → Nat
  | 0, _ => 0
  | steps + 1, i =>
      match (scopes.at? i).bind Scope.parent with
      | some p => depthFrom scopes steps p + 1
      | none => 0

/-- The number of scopes around a scope. -/
def depth (scopes : Scopes) (i : Nat) : Nat := scopes.depthFrom (i + 1) i

/-- Binds a variable in a scope, whatever the scopes around it bind. -/
def set (scopes : Scopes) (i : Nat) (name : String) (v : Value) : Scopes :=
  scopes.modify i fun scope => { scope with bindings := scope.bindings.put name v }

/-- Defines a module in a scope. -/
def defineModule (scopes : Scopes) (i : Nat) (m : NamedModule) : Scopes :=
  scopes.modify i fun scope => { scope with modules := scope.modules.put m.name m }

/-- Notes a name as exported from a scope. -/
def markExported (scopes : Scopes) (i : Nat) (name : String) : Scopes :=
  scopes.modify i fun scope =>
    if scope.exports.contains name then scope
    else { scope with exports := scope.exports ++ [name] }

/-- The names bound in a scope itself, sorted. -/
def localNames (scopes : Scopes) (i : Nat) : List String :=
  match scopes.at? i with
  | some scope => scope.bindings.names
  | none => []

/-- The names exported from a scope. -/
def exportsOf (scopes : Scopes) (i : Nat) : List String :=
  match scopes.at? i with
  | some scope => scope.exports
  | none => []

/-- A one-line summary of a scope. -/
def summary (scopes : Scopes) (i : Nat) : String :=
  "Environment \x7b depth: " ++ toString (scopes.depth i) ++ ", locals: ["
    ++ ", ".intercalate ((scopes.localNames i).map Text.quote) ++ "] \x7d"

end Scopes

end PluginLisp
