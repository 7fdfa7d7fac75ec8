import PluginLisp.Pattern.Parse

/-!
Searching a text for a pattern. A pattern is laid out as a list of instructions, and the text is read
once, one character after the other, while the ways through the instructions are followed side by
side in the order of preference. An instruction is entered at most once at each place, by the
preferred way, so the work is bounded by the size of the program times the length of the text.
-/

namespace PluginLisp.Pattern

/-- An instruction; targets are given by their distance. -/
inductive Instruction where
  /-- Takes a character of the set. -/
  | take (s : CharSet)
  /-- Goes on only where the anchor holds. -/
  | check (a : Anchor)
  /-- Notes the place in a slot. -/
  | note (slot : Nat)
  /-- Two ways, the first one preferred. -/
  | fork (first second : Int)
  | jump (distance : Int)
  | accept

/-- A fork between going on and skipping, in the order that a repetition prefers. -/
def forkTo (greedy : Bool) (inside outside : Int) : Instruction :=
  if greedy then .fork inside outside else .fork outside inside

/-- The body at most `count` times. -/
def atMost (greedy : Bool) (body : List Instruction) : (count : Nat) → List Instruction
  | 0 => []
  | count + 1 =>
      let rest := body ++ atMost greedy body count
      forkTo greedy 1 (rest.length + 1) :: rest

/-- The body once or more. -/
def onceOrMore (greedy : Bool) (body : List Instruction) : List Instruction :=
  body ++ [forkTo greedy (-body.length) 1]

/-- The body any number of times. A body that may be empty is tried once before the loop, so that the
    loop cannot be left before its content was noted. -/
def anyTimes (greedy consumes : Bool) (body : List Instruction) : List Instruction :=
  if consumes then forkTo greedy 1 (body.length + 2) :: (body ++ [.jump (-(body.length + 1))])
  else forkTo greedy 1 (body.length + 2) :: onceOrMore greedy body

mutual

/-- The instructions of a pattern. -/
def layout : Pattern → List Instruction
  | .empty => []
  | .literal cs => cs.map fun c => .take (.single c)
  | .set s => [.take s]
  | .anchor a => [.check a]
  | .capture i p => .note (2 * i) :: (layout p ++ [.note (2 * i + 1)])
  | .repetition low high greedy p =>
      let body := layout p
      match low, high with
      | 0, none => anyTimes greedy p.alwaysConsumes body
      | low + 1, none => (List.replicate low body).flatten ++ onceOrMore greedy body
      | low, some high => (List.replicate low body).flatten ++ atMost greedy body (high - low)
  | .sequence ps => layoutAll ps
  | .choice ps => layoutChoice ps

/-- The instructions of patterns one after the other. -/
def layoutAll : List Pattern → List Instruction
  | [] => []
  | p :: rest => layout p ++ layoutAll rest

/-- The instructions of alternatives. -/
def layoutChoice : List Pattern → List Instruction
  | [] => []
  | [p] => layout p
  | p :: rest =>
      let first := layout p
      let others := layoutChoice rest
      .fork 1 (first.length + 2) :: (first ++ .jump (others.length + 1) :: others)

end

/-- A pattern ready for searching. -/
structure Program where
  code : Array Instruction
  groups : Nat

/-- The program of a pattern; the slots 0 and 1 are for the whole match. -/
def Program.ofPattern (p : Pattern) : Program :=
  ⟨(.note 0 :: (layout p ++ [.note 1, .accept])).toArray, p.groups⟩

/-- The places noted on a way. -/
abbrev Slots := Array (Option Nat)

/-- A way that waits for a character at an instruction. -/
structure Thread where
  counter : Nat
  slots : Slots

/-- A place in the text. -/
structure Place where
  index : Nat
  before : Option Char
  after : Option Char

/-- The ways at one place: the instructions entered, the threads in order of preference (last first),
    and the slots of a match that is preferred to all ways that come after it. -/
structure Front where
  entered : Array Bool
  threads : List Thread := []
  accepted : Option Slots := none

namespace Program

/-- Follows ways until they wait for a character; `pending` holds those still to be followed. Nothing
    is followed after a match, because the match is preferred. `steps` bounds the number of
    instructions looked at. -/
def follow (prog : Program) (place : Place) : (steps : Nat) → List Thread → Front → Front
  | 0, _, front => front
  | _ + 1, [], front => front
  | steps + 1, ⟨counter, slots⟩ :: pending, front =>
      if front.accepted.isSome || front.entered.getD counter true then
        follow prog place steps pending front
      else
        let front := { front with entered := front.entered.setIfInBounds counter true }
        let target (distance : Int) : Nat := (counter + distance).toNat
        match prog.code[counter]? with
        | none => follow prog place steps pending front
        | some (.take _) =>
            follow prog place steps pending
              { front with threads := ⟨counter, slots⟩ :: front.threads }
        | some (.check a) =>
            if a.holds place.before place.after then
              follow prog place steps (⟨counter + 1, slots⟩ :: pending) front
            else follow prog place steps pending front
        | some (.note slot) =>
            let slots := slots.setIfInBounds slot (some place.index)
            follow prog place steps (⟨counter + 1, slots⟩ :: pending) front
        | some (.fork first second) =>
            follow prog place steps
              (⟨target first, slots⟩ :: ⟨target second, slots⟩ :: pending) front
        | some (.jump distance) =>
            follow prog place steps (⟨target distance, slots⟩ :: pending) front
        | some .accept => follow prog place steps pending { front with accepted := some slots }

/-- Follows all of the given ways from a place where none has been followed yet. -/
def followAll (prog : Program) (place : Place) (starts : List Thread) : Front :=
  prog.follow place (2 * prog.code.size + starts.length + 2) starts
    { entered := Array.replicate prog.code.size false }

/-- Moves the waiting ways over a character. -/
def advance (prog : Program) (c : Char) (threads : List Thread) : List Thread :=
  threads.filter (takes c) |>.map fun t => ⟨t.counter + 1, t.slots⟩
where
  /-- Whether the instruction of a way takes the character. -/
  takes (c : Char) (t : Thread) : Bool :=
    match prog.code[t.counter]? with
    | some (.take s) => s.contains c
    | _ => false

/-- Searches from a place on: `waiting` holds the ways on hand, preferred first, and `found` the
    best match so far. As long as there is none, a new way starts at every place. -/
def searchFrom (prog : Program) (index : Nat) (before : Option Char) (waiting : List Thread)
    (found : Option Slots) : List Char → Option Slots
  | [] => (front index before waiting found none).accepted <|> found
  | c :: rest =>
      let reached := front index before waiting found (some c)
      let found := reached.accepted <|> found
      let waiting := prog.advance c reached.threads.reverse
      if waiting.isEmpty && found.isSome then found
      else searchFrom prog (index + 1) (some c) waiting found rest
where
  /-- The ways at one place. -/
  front (index : Nat) (before : Option Char) (waiting : List Thread) (found : Option Slots)
      (after : Option Char) : Front :=
    let fresh : List Thread :=
      if found.isSome then [] else [⟨0, Array.replicate (2 * prog.groups) none⟩]
    prog.followAll ⟨index, before, after⟩ (waiting ++ fresh)

end Program

/-- The first match of a pattern in a text: the text of the whole match and of each group that took
    part in it. -/
def find? (p : Pattern) (s : String) : Option (List (Option String)) :=
  let prog := Program.ofPattern p
  let cs := s.toList
  (prog.searchFrom 0 none [] none cs).map fun slots =>
    (List.range prog.groups).map fun i =>
      match slots.getD (2 * i) none, slots.getD (2 * i + 1) none with
      | some start, some stop => some (String.ofList ((cs.drop start).take (stop - start)))
      | _, _ => none

end PluginLisp.Pattern
