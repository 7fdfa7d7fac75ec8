import PluginLisp.Builtin.ArgCount
import PluginLisp.Libraries
import PluginLisp.Value.View

/-!
The builtins of the plugin `json`, and the two directions between values and JSON documents.
-/

namespace PluginLisp

/-- The builtins of the plugin `json`. -/
inductive JsonOp where
  | encode
  | decode
deriving DecidableEq, Repr, Inhabited

/-- Integral floats below this magnitude are written as integers. -/
def Json.integerLimit : Float := 9007199254740992.0

mutual

/-- The JSON document of a value: decimals become texts, keywords and symbols their names. -/
def Value.toJson : Value → Except Error Json
  | .nil => .ok .null
  | .boolean b => .ok (.boolean b)
  | .number x =>
      if Number.isIntegral x && x.abs < Json.integerLimit then .ok (.integer (Number.toWord x))
      else if Number.isFinite x then .ok (.float x)
      else .error (.json ("cannot encode " ++ Number.display x ++ " as JSON"))
  | .decimal d => .ok (.text d.text)
  | .text s => .ok (.text s)
  | .keyword s => .ok (.text s)
  | .symbol s => .ok (.text s)
  | .list items => (Value.toJsonAll items).map .array
  | .vector items => (Value.toJsonAll items).map .array
  | .map entries => (Value.toJsonMembers entries).map .object
  | v => .error (.json ("cannot encode " ++ v.typeName ++ " as JSON"))

/-- The JSON documents of several values. -/
def Value.toJsonAll : List Value → Except Error (List Json)
  | [] => .ok []
  | v :: rest => do
      let j ← v.toJson
      let js ← Value.toJsonAll rest
      return j :: js

/-- The members of the JSON object of a map. -/
def Value.toJsonMembers : List (String × Value) → Except Error (List (String × Json))
  | [] => .ok []
  | (key, v) :: rest => do
      let j ← v.toJson
      let js ← Value.toJsonMembers rest
      return (key, j) :: js

end

mutual

/-- The value of a JSON document: arrays become vectors and objects maps. -/
def Value.ofJson : Json → Value
  | .null => .nil
  | .boolean b => .boolean b
  | .integer n => .number (Number.ofInt n)
  | .float x => .number x
  | .text s => .text s
  | .array items => .vector (Value.ofJsonAll items)
  | .object members => .map (Value.ofJsonMembers members)

/-- The values of several JSON documents. -/
def Value.ofJsonAll : List Json → List Value
  | [] => []
  | j :: rest => Value.ofJson j :: Value.ofJsonAll rest

/-- The entries of the map of a JSON object. -/
def Value.ofJsonMembers : List (String × Json) → List (String × Value)
  | [] => []
  | (key, j) :: rest => (key, Value.ofJson j) :: Value.ofJsonMembers rest

end

namespace JsonOp

/-- All of them, in the order of registration. -/
def all : List JsonOp := [encode, decode]

/-- The name a program calls it by. -/
def name : JsonOp → String
  | encode => "json-encode"
  | decode => "json-decode"

/-- The numbers of arguments. -/
def count : JsonOp → ArgCount
  | encode => .between 1 2
  | decode => .exactly 1

/-- The help line. -/
def help : JsonOp → String
  | encode => "(json-encode value pretty?) - JSON text"
  | decode => "Parse JSON text; objects become maps, arrays become vectors"

/-- What it does to the values of its arguments. -/
def apply (libraries : Libraries) (op : JsonOp) (args : List Value) : Except Error Value :=
  match op, args with
  | encode, v :: options => do
      return .text (libraries.writeJson (options.headD .nil).isTruthy (← v.toJson))
  | decode, [v] => do
      match libraries.readJson (← v.asText) with
      | .ok j => return Value.ofJson j
      | .error reason => .error (.json reason)
  | _, _ => .error (.arity op.name op.count.describe args.length)

end JsonOp

end PluginLisp
