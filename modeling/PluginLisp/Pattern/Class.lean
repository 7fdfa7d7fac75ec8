import PluginLisp.Pattern.Escape

/-!
Classes: sets of characters between square brackets, with ranges, operations and further classes
inside. They are read with a stack of what is open, and how deep they are nested is counted on the way:
a bracket, an operation, and several members side by side are one level each.
-/

namespace PluginLisp.Pattern

/-- The operations between the parts of a class. -/
inductive ClassOp where
  | intersection
  | difference
  | symmetricDifference

/-- The result of an operation. -/
def ClassOp.apply : ClassOp → CharSet → CharSet → CharSet
  | intersection => .intersection
  | difference => .difference
  | symmetricDifference => .symmetricDifference

/-- A set with the depth of what was written for it. -/
structure Operand where
  set : CharSet
  depth : Nat

/-- The result of an operation, one level deeper. Both sides are completed first where case does not
    count. -/
def ClassOp.join (op : ClassOp) (f : Flags) (left right : Operand) : Operand :=
  ⟨op.apply (f.fold left.set) (f.fold right.set), max left.depth right.depth + 1⟩

/-- The members of a class so far: their set, how many were written, and the depth of the deepest. -/
structure Members where
  set : CharSet := .empty
  count : Nat := 0
  depth : Nat := 0

namespace Members

/-- One more member. -/
def add (m : Members) (x : Operand) : Members :=
  ⟨m.set.union x.set, m.count + 1, max m.depth x.depth⟩

/-- All members together; several of them are one level deeper than one. -/
def operand (m : Members) : Operand := ⟨m.set, if m.count ≤ 1 then m.depth else m.depth + 1⟩

end Members

/-- What is open inside a class. -/
inductive ClassFrame where
  /-- A bracket, with the members collected outside it. -/
  | bracket (outer : Members) (negated : Bool)
  /-- An operation, with its left side. -/
  | operation (op : ClassOp) (left : Operand)

/-- One member of a class: a character or an escape. -/
def readMember? (f : Flags) : List Char → Option (Element × List Char)
  | '\x5c' :: rest => readEscape? f rest
  | c :: rest => some (.literal c, rest)
  | [] => none

/-- A character may stand in a class; without Unicode only one of ASCII may. -/
def memberChar? (f : Flags) : Element → Option Char
  | .literal c => if f.unicode || c.toNat < 128 then some c else none
  | _ => none

/-- A member on its own. -/
def memberSet? (f : Flags) : Element → Option CharSet
  | .set s => some s
  | .anchor _ => none
  | p => (memberChar? f p).map .single

/-- A member or a range of characters. -/
def readRange? (f : Flags) (cs : List Char) : Option (CharSet × List Char) := do
  let (first, rest) ← readMember? f cs
  match skip f rest with
  | [] => none
  | '-' :: more =>
      match skip f more with
      | [] => none
      | ']' :: _ => return (← memberSet? f first, skip f rest)
      | '-' :: _ => return (← memberSet? f first, skip f rest)
      | more =>
          let (last, rest) ← readMember? f more
          let low ← memberChar? f first
          let high ← memberChar? f last
          if low ≤ high then return (.span low.toNat high.toNat, rest) else none
  | rest => return (← memberSet? f first, rest)

/-- The hyphens at the start of a class, which stand for themselves. -/
def readHyphens (f : Flags) (members : Members) : (steps : Nat) → List Char → Members × List Char
  | 0, cs => (members, cs)
  | steps + 1, cs =>
      match cs with
      | '-' :: rest => readHyphens f (members.add ⟨.single '-', 0⟩) steps (skip f rest)
      | _ => (members, cs)

/-- The start of a class after its bracket: whether it is negated, its first members, the rest. -/
def openClass (f : Flags) (cs : List Char) : Bool × Members × List Char :=
  let (negated, cs) := match skip f cs with
    | '^' :: rest => (true, skip f rest)
    | cs => (false, cs)
  match cs with
  | ']' :: rest => (negated, ({} : Members).add ⟨.single ']', 0⟩, skip f rest)
  | cs => (negated, readHyphens f {} (cs.length + 1) cs)

/-- A class of ASCII by its name, after the bracket that opens it: whether it is negated, its set, the
    rest. -/
def readPosix? : List Char → Option (Bool × CharSet × List Char)
  | ':' :: cs => do
      let (negated, cs) := match cs with
        | '^' :: rest => (true, rest)
        | _ => (false, cs)
      let name := cs.takeWhile (· != ':')
      match cs.drop name.length with
      | ':' :: ']' :: rest => return (negated, ← CharSet.posix? (String.ofList name), rest)
      | _ => none
  | _ => none

/-- Finishes the operation that is open, if one is. -/
def closeOperation (f : Flags) (right : Operand) : List ClassFrame → Operand × List ClassFrame
  | .operation op left :: stack => (op.join f left right, stack)
  | stack => (right, stack)

/-- Reads a class: `stack` holds what is open, innermost first, and `members` what has been
    collected since. `steps` bounds the number of parts. -/
def readClassFrom? (f : Flags) :
    (steps : Nat) → List ClassFrame → Members → List Char → Option (Operand × List Char)
  | 0, _, _, _ => none
  | steps + 1, stack, members, cs =>
      let operate (op : ClassOp) (rest : List Char) :=
        let (left, stack) := closeOperation f members.operand stack
        readClassFrom? f steps (.operation op left :: stack) {} rest
      match skip f cs with
      | [] => none
      | '[' :: rest =>
          match readPosix? rest with
          | some (negated, s, rest) => do
              let s ← f.foldAndNegate? negated s
              readClassFrom? f steps stack (members.add ⟨s, 0⟩) rest
          | none =>
              let (negated, inner, rest) := openClass f rest
              readClassFrom? f steps (.bracket members negated :: stack) inner rest
      | ']' :: rest =>
          match closeOperation f members.operand stack with
          | (x, .bracket outer negated :: stack) => do
              let x : Operand := ⟨← f.foldAndNegate? negated x.set, x.depth + 1⟩
              if stack.isEmpty then some (x, rest)
              else readClassFrom? f steps stack (outer.add x) rest
          | _ => none
      | '&' :: '&' :: rest => operate .intersection rest
      | '-' :: '-' :: rest => operate .difference rest
      | '~' :: '~' :: rest => operate .symmetricDifference rest
      | rest => do
          let (s, rest) ← readRange? f rest
          readClassFrom? f steps stack (members.add ⟨s, 0⟩) rest

/-- Reads a class, after its first bracket. -/
def readClass? (f : Flags) (cs : List Char) : Option (Operand × List Char) :=
  let (negated, members, rest) := openClass f cs
  readClassFrom? f (rest.length + 1) [.bracket {} negated] members rest

end PluginLisp.Pattern
