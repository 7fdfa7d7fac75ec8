import PluginLisp.Value.Basic
import PluginLisp.Assoc
import PluginLisp.Decimal.Text
import PluginLisp.Error

/-!
Reading a value as something more definite: a number, an integer, a text, a key, a sequence or a map.
Each view fails with a type error that names what was wanted and what was there.
-/

namespace PluginLisp.Value

/-- The value as a float. -/
def asNumber : Value → Except Error Float
  | number x => .ok x
  | decimal d => .ok d.toFloat
  | v => .error (.type "number" v.typeName)

/-- The value as an integer of sixty-four bits: a float has to be integral, and is clamped; a decimal
    has to be an integer in range. -/
def asInt : Value → Except Error Int
  | number x =>
      if Number.isIntegral x then .ok (Number.toWord x)
      else .error (.type "integer" "fractional number")
  | decimal d =>
      if d.isInteger then
        match d.toWord? with
        | some n => .ok n
        | none => .error (.type "integer" "bignumber out of range")
      else .error (.type "integer" "fractional number")
  | v => .error (.type "integer" v.typeName)

/-- The value as a text. -/
def asText : Value → Except Error String
  | text s => .ok s
  | v => .error (.type "string" v.typeName)

/-- The elements of a list or vector; `nil` has none. -/
def asSeq : Value → Except Error (List Value)
  | list items | vector items => .ok items
  | nil => .ok []
  | v => .error (.type "list or vector" v.typeName)

/-- The entries of a map. -/
def asMap : Value → Except Error (Assoc Value)
  | map entries => .ok entries
  | v => .error (.type "hashmap" v.typeName)

/-- The value as a key of a map: texts and keywords are the same kind of key. -/
def asKey : Value → Except Error String
  | text s | keyword s => .ok s
  | v => .error (.type "string or keyword key" v.typeName)

/-- A value that can be called, for the function `form` to hold on to. -/
def asCallable (form : String) (v : Value) : Except Error Value :=
  if v.isCallable then .ok v
  else .error (.invalidArguments form ("expected a function, got " ++ v.typeName))

end PluginLisp.Value
