import PluginLisp.Builtin.ArgCount
import PluginLisp.Builtin.Sorting
import PluginLisp.Value.Order

/-!
The builtins of the plugin `list`: making, taking apart and rearranging lists and vectors. Everything
that yields a new sequence yields a list, except that `conj` keeps the kind of its collection.
-/

namespace PluginLisp

/-- The builtins of the plugin `list`. -/
inductive SequenceOp where
  | list
  | vector
  | cons
  | conj
  | range
  | first
  | rest
  | next
  | last
  | nth
  | count
  | isEmpty
  | concat
  | reverse
  | take
  | drop
  | sort
  | seq
  | isList
  | isVector
deriving DecidableEq, Repr, Inhabited

namespace SequenceOp

/-- All of them, in the order of registration. -/
def all : List SequenceOp :=
  [list, vector, cons, conj, range, first, rest, next, last, nth, count, isEmpty, concat, reverse,
    take, drop, sort, seq, isList, isVector]

/-- The name a program calls it by. -/
def name : SequenceOp → String
  | list => "list"
  | vector => "vector"
  | cons => "cons"
  | conj => "conj"
  | range => "range"
  | first => "first"
  | rest => "rest"
  | next => "next"
  | last => "last"
  | nth => "nth"
  | count => "count"
  | isEmpty => "empty?"
  | concat => "concat"
  | reverse => "reverse"
  | take => "take"
  | drop => "drop"
  | sort => "sort"
  | seq => "seq"
  | isList => "list?"
  | isVector => "vector?"

/-- The numbers of arguments. -/
def argCount : SequenceOp → ArgCount
  | list | vector | concat => .any
  | conj => .atLeast 1
  | range => .between 1 3
  | nth => .between 2 3
  | sort => .between 1 2
  | cons | take | drop => .exactly 2
  | _ => .exactly 1

/-- The help line. -/
def help : SequenceOp → String
  | list => "List of the arguments"
  | vector => "Vector of the arguments"
  | cons => "List with x in front of coll"
  | conj => "Add items: to the front of a list, the end of a vector"
  | range => "(range end), (range start end) or (range start end step)"
  | first => "First element, or nil"
  | rest => "All but the first element; () when empty"
  | next => "All but the first element; nil when empty"
  | last => "Last element, or nil"
  | nth => "(nth coll index default?) - out of range without a default is an error"
  | count => "Number of elements"
  | isEmpty => "True if there are no elements"
  | concat => "Elements of every collection in order"
  | reverse => "Elements in reverse order"
  | take => "First n elements"
  | drop => "All but the first n elements"
  | sort => "(sort coll) or (sort comparator coll); stable"
  | seq => "Elements as a list, or nil when empty"
  | isList => "True for lists"
  | isVector => "True for vectors"

/-- Adds items to a collection: to the front of a list one after the other, to the end of a vector. -/
def addTo (coll : Value) (items : List Value) : Except Error Value :=
  match coll with
  | .vector existing => .ok (.vector (existing ++ items))
  | .list existing => .ok (.list (items.reverse ++ existing))
  | .nil => .ok (.list items.reverse)
  | v => .error (.type "list or vector" v.typeName)

/-- The longest range that is built. -/
def maxRange : Nat := 10000000

/-- The numbers from `start` in steps of `step`. -/
def progression (start step : Float) (count : Nat) : List Value :=
  (List.range count).map fun i => .number (start + Number.ofNat i * step)

/-- How many steps lead from `start` to `stop`: rounded up, and none in the wrong direction. -/
def rangeLength (start stop step : Float) : Except Error Nat :=
  let tooLong : Error :=
    .invalidArguments "range" ("more than " ++ toString maxRange ++ " elements")
  let quotient := (stop - start) / step
  match Number.Kind.ofFloat (Number.ceil quotient) with
  | .nan | .infinite true => .ok 0
  | .infinite false => .error tooLong
  | .finite b =>
      if b.truncated ≤ maxRange then .ok b.truncated.toNat else .error tooLong

/-- A range of numbers. -/
def rangeOf (args : List Value) : Except Error Value := do
  let (start, stop, step) ← match ← args.mapM Value.asNumber with
    | [stop] => pure (0.0, stop, 1.0)
    | [start, stop] => pure (start, stop, 1.0)
    | [start, stop, step] => pure (start, stop, step)
    | _ => .error (.arity "range" "1 to 3" args.length)
  if step == 0.0 || !Number.isFinite step then
    .error (.invalidArguments "range" "step must be a non-zero number")
  else return .list (progression start step (← rangeLength start stop step))

/-- The number of elements of a collection, or of characters of a text. -/
def size : Value → Except Error Nat
  | .text s => .ok s.length
  | .map entries => .ok entries.length
  | v => return (← v.asSeq).length

/-- The elements of a collection: characters as texts, entries as vectors of key and value. -/
def elements : Value → Except Error (List Value)
  | .text s => .ok (s.toList.map fun c => .text c.toString)
  | .map entries => .ok (entries.map fun (k, v) => .vector [.keyword k, v])
  | v => v.asSeq

/-- The element at an index, if there is one. -/
def elementAt? (items : List Value) (index : Int) : Option Value :=
  if 0 ≤ index then items[index.toNat]? else none

/-- The natural order: whether the first value has to come before the second. -/
def naturallyBefore (a b : Value) : Except Error Bool :=
  return (← a.compare b) == some .lt

/-- What it does to the values of its arguments; `sort` here is the one without a comparator. -/
def apply (op : SequenceOp) (args : List Value) : Except Error Value :=
  match op, args with
  | list, _ => .ok (.list args)
  | vector, _ => .ok (.vector args)
  | cons, [x, coll] => return .list (x :: (← coll.asSeq))
  | conj, coll :: items => addTo coll items
  | range, _ => rangeOf args
  | first, [coll] => return (← coll.asSeq).head?.getD .nil
  | rest, [coll] => return .list ((← coll.asSeq).drop 1)
  | next, [coll] => do
      match ← coll.asSeq with
      | _ :: item :: items => return .list (item :: items)
      | _ => return .nil
  | last, [coll] => return (← coll.asSeq).getLast?.getD .nil
  | nth, coll :: index :: default => do
      let i ← index.asInt
      let items ← coll.asSeq
      match elementAt? items i, default with
      | some v, _ => return v
      | none, v :: _ => return v
      | none, [] => .error (.indexOutOfBounds i items.length)
  | count, [coll] => return .number (Number.ofNat (← size coll))
  | isEmpty, [coll] => return .boolean ((← size coll) == 0)
  | concat, _ => return .list (← args.mapM Value.asSeq).flatten
  | reverse, [coll] => return .list (← coll.asSeq).reverse
  | take, [n, coll] => do
      let k ← n.asInt
      return .list ((← coll.asSeq).take k.toNat)
  | drop, [n, coll] => do
      let k ← n.asInt
      return .list ((← coll.asSeq).drop k.toNat)
  | sort, [coll] => do
      return .list (← mergeSortBy naturallyBefore (← coll.asSeq))
  | seq, [coll] => do
      match ← elements coll with
      | [] => return .nil
      | items => return .list items
  | isList, [v] => .ok (.boolean (match v with
      | .list _ => true
      | _ => false))
  | isVector, [v] => .ok (.boolean (match v with
      | .vector _ => true
      | _ => false))
  | _, _ => .error (.arity op.name op.argCount.describe args.length)

end SequenceOp

end PluginLisp
