/-!
Association lists sorted by a text key: the maps of the language, the variables of a scope, the
members of a module, the functions of a registry and the table of loaded plugins. Texts are ordered
by code point.
-/

namespace PluginLisp

/-- Entries sorted by strictly increasing key. -/
abbrev Assoc (α : Type) := List (String × α)

namespace Assoc

variable {α : Type}

/-- The value of a key. -/
def get? (key : String) : Assoc α → Option α
  | [] => none
  | (k, v) :: rest => if k == key then some v else get? key rest

/-- Whether a key has a value. -/
def has (key : String) (entries : Assoc α) : Bool := (get? key entries).isSome

/-- Sets the value of a key. -/
def put (key : String) (value : α) : Assoc α → Assoc α
  | [] => [(key, value)]
  | (k, v) :: rest =>
      if k == key then (key, value) :: rest
      else if key < k then (key, value) :: (k, v) :: rest
      else (k, v) :: put key value rest

/-- Removes a key. -/
def remove (key : String) : Assoc α → Assoc α
  | [] => []
  | (k, v) :: rest => if k == key then rest else (k, v) :: remove key rest

/-- Sets the entries of `second` on top of `first`. -/
def overlay (first second : Assoc α) : Assoc α :=
  second.foldl (fun entries (k, v) => put k v entries) first

/-- The keys in order. -/
def names (entries : Assoc α) : List String := entries.map (·.1)

/-- The values in the order of their keys. -/
def items (entries : Assoc α) : List α := entries.map (·.2)

end Assoc

end PluginLisp
