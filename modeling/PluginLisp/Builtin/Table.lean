import PluginLisp.Builtin.Sequence
import PluginLisp.Text.Blank

/-!
The builtins of the plugin `hashmap`: maps from texts to values. A text and a keyword of the same
name are the same key. Some of the look-ups also work on vectors and lists, by index.
-/

namespace PluginLisp

/-- The builtins of the plugin `hashmap`. -/
inductive TableOp where
  | make
  | merge
  | get
  | getIn
  | contains
  | keys
  | vals
  | assoc
  | dissoc
  | isMap
  | keyword
  | name
deriving DecidableEq, Repr, Inhabited

namespace TableOp

/-- All of them, in the order of registration. -/
def all : List TableOp :=
  [make, merge, get, getIn, contains, keys, vals, assoc, dissoc, isMap, keyword, name]

/-- The name a program calls it by. -/
def symbol : TableOp → String
  | make => "hash-map"
  | merge => "merge"
  | get => "get"
  | getIn => "get-in"
  | contains => "contains?"
  | keys => "keys"
  | vals => "vals"
  | assoc => "assoc"
  | dissoc => "dissoc"
  | isMap => "map?"
  | keyword => "keyword"
  | name => "name"

/-- The numbers of arguments. -/
def count : TableOp → ArgCount
  | make | merge => .any
  | get | getIn => .between 2 3
  | contains => .exactly 2
  | assoc => .atLeast 3
  | dissoc => .atLeast 1
  | _ => .exactly 1

/-- The help line. -/
def help : TableOp → String
  | make => "Map from alternating keys and values"
  | merge => "Maps merged left to right; nil is skipped"
  | get => "(get coll key default?) - maps by key, vectors by index"
  | getIn => "(get-in coll [keys...] default?) - nested lookup"
  | contains => "True if the key (or index) is present"
  | keys => "Keys as keywords, sorted"
  | vals => "Values in key order"
  | assoc => "(assoc coll key value ...) - new map (or vector) with the entries set"
  | dissoc => "New map without the given keys"
  | isMap => "True for hash maps"
  | keyword => "Keyword from a string"
  | name => "Name of a keyword, symbol or string"

/-- Sets keys to values, given in turn, from left to right. -/
def putPairs (entries : Assoc Value) : List Value → Except Error (Assoc Value)
  | key :: value :: rest => do putPairs (entries.put (← key.asKey) value) rest
  | _ => .ok entries

/-- Sets keys to values for the function `form`; every key needs a value. -/
def putAll (form : String) (entries : Assoc Value) (pairs : List Value) :
    Except Error (Assoc Value) :=
  if pairs.length % 2 = 0 then putPairs entries pairs
  else .error (.invalidArguments form "expected key/value pairs")

/-- Sets indices of a vector to values, given in turn, from left to right; the index just past the
    end adds an element. -/
def setPairs (items : List Value) : List Value → Except Error (List Value)
  | index :: value :: rest => do
      let i ← index.asInt
      if 0 ≤ i ∧ i < items.length then setPairs (items.set i.toNat value) rest
      else if i = items.length then setPairs (items ++ [value]) rest
      else .error (.indexOutOfBounds i items.length)
  | _ => .ok items

/-- The value at a key of a map or an index of a sequence; `nil` holds nothing. -/
def lookup (coll key : Value) : Except Error (Option Value) :=
  match coll with
  | .map entries => .ok (match key with
      | .text k | .keyword k => Assoc.get? k entries
      | _ => none)
  | .vector items | .list items => .ok (match key.asInt with
      | .ok i => SequenceOp.elementAt? items i
      | .error _ => none)
  | .nil => .ok none
  | v => .error (.type "hashmap or vector" v.typeName)

/-- Looks up one key after the other, each in what the one before it led to. -/
def lookupPath (coll : Value) : List Value → Except Error (Option Value)
  | [] => .ok (some coll)
  | key :: rest => do
      match ← lookup coll key with
      | some next => lookupPath next rest
      | none => return none

/-- Maps merged from left to right. -/
def mergeAll (entries : Assoc Value) : List Value → Except Error (Assoc Value)
  | [] => .ok entries
  | .nil :: rest => mergeAll entries rest
  | v :: rest => do mergeAll (entries.overlay (← v.asMap)) rest

/-- Removes keys from left to right. -/
def dropKeys (entries : Assoc Value) : List Value → Except Error (Assoc Value)
  | [] => .ok entries
  | key :: rest => do dropKeys (entries.remove (← key.asKey)) rest

/-- What it does to the values of its arguments. -/
def apply (op : TableOp) (args : List Value) : Except Error Value :=
  match op, args with
  | make, _ => (putAll "hash-map" [] args).map .map
  | merge, _ => (mergeAll [] args).map .map
  | get, coll :: key :: default => return (← lookup coll key).getD (default.headD .nil)
  | getIn, coll :: path :: default => do
      return (← lookupPath coll (← path.asSeq)).getD (default.headD .nil)
  | contains, [coll, key] => return .boolean (← lookup coll key).isSome
  | keys, [m] => return .list ((← m.asMap).names.map .keyword)
  | vals, [m] => return .list (← m.asMap).items
  | assoc, coll :: pairs => match coll with
      | .vector items =>
          if pairs.length % 2 = 0 then (setPairs items pairs).map .vector
          else .error (.invalidArguments "assoc" "expected index/value pairs")
      | .nil => (putAll "assoc" [] pairs).map .map
      | m => do return .map (← putAll "assoc" (← m.asMap) pairs)
  | dissoc, m :: ks => do return .map (← dropKeys (← m.asMap) ks)
  | isMap, [v] => .ok (.boolean (match v with
      | .map _ => true
      | _ => false))
  | keyword, [v] => match v with
      | .keyword _ => .ok v
      | other => return .keyword (Text.trimLeading ':' (← other.asText))
  | name, [v] => match v with
      | .keyword s | .symbol s | .text s => .ok (.text s)
      | other => .error (.type "keyword, symbol or string" other.typeName)
  | _, _ => .error (.arity op.symbol op.count.describe args.length)

end TableOp

end PluginLisp
