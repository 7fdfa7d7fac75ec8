import PluginLisp.Pattern.Basic
import PluginLisp.Pattern.Bytes
import Std.Data.HashMap

/-!
The size of a pattern: how many bytes an automaton would take that reads a text byte by byte, forwards
or backwards. A pattern is accepted only if both automata fit into ten mebibytes. The size is counted
in the order in which the states would come about, because the states of a set are shared where they
are found again, and the numbers of the states decide what is found.
-/

namespace PluginLisp.Pattern

/-- The greatest size of an automaton in bytes. -/
def maxSize : Nat := 10 * 1048576

/-- How far an automaton has grown: the number of its states, and the bytes taken by lists of
    transitions. -/
structure Tally where
  states : Nat := 0
  lists : Nat := 0
deriving Repr, Inhabited

namespace Tally

/-- The size in bytes; a state takes thirty-two. -/
def bytes (t : Tally) : Nat := 32 * t.states + t.lists

/-- Whether the size is within bounds. -/
def fits (t : Tally) : Bool := t.bytes ≤ maxSize

/-- One more state, with the bytes of its list. -/
def addState (t : Tally) (list : Nat) : Tally := ⟨t.states + 1, t.lists + list⟩

end Tally

/-- What a part of a pattern adds to an automaton. -/
structure Growth where
  apply : Tally → Tally

namespace Growth

/-- So many states without lists. -/
def states (count : Nat) : Growth := ⟨fun t => ⟨t.states + count, t.lists⟩⟩

/-- One state with a list of so many bytes. -/
def state (list : Nat) : Growth := ⟨(·.addState list)⟩

/-- One after the other. -/
def inOrder (parts : List Growth) : Growth := ⟨fun t => parts.foldl (fun t g => g.apply t) t⟩

/-- The same so many times, or until the automaton is too large. -/
def timesFrom (g : Growth) : (count : Nat) → Tally → Tally
  | 0, t => t
  | count + 1, t => if t.fits then timesFrom g count (g.apply t) else t

/-- The same so many times. -/
def times (count : Nat) (g : Growth) : Growth := ⟨timesFrom g count⟩

end Growth

/-! ### Sets -/

/-- A hash of numbers, with sixty-four bits. -/
def hashOf (ns : List Nat) : UInt64 :=
  ns.foldl (fun h n => (h ^^^ n.toUInt64) * 1099511628211) 14695981039346656037

/-- An automaton that remembers states by what they are for. There is a limited number of slots, and
    a slot remembers only the last state that came to it. -/
structure Sharing where
  tally : Tally
  slotCount : Nat
  slots : Std.HashMap Nat (List Nat × Nat) := ∅

namespace Sharing

/-- The slot of a key. -/
def slotOf (a : Sharing) (key : List Nat) : Nat := (hashOf key % a.slotCount.toUInt64).toNat

/-- The state with the given key, if its slot remembers it. -/
def find? (a : Sharing) (slot : Nat) (key : List Nat) : Option Nat :=
  match a.slots[slot]? with
  | some (known, number) => if known == key then some number else none
  | none => none

/-- The number of the state with the given key: of one that is remembered, or of a new one. -/
def stateFor (a : Sharing) (key : List Nat) (list : Nat) : Nat × Sharing :=
  let slot := a.slotOf key
  match a.find? slot key with
  | some number => (number, a)
  | none =>
      let number := a.tally.states
      (number, ⟨a.tally.addState list, a.slotCount, a.slots.insert slot (key, number)⟩)

mutual

/-- Adds the states of a tree, leaves leading to `target`; gives the number of its root. -/
def addTree (target : Nat) (a : Sharing) : ByteTree → Nat × Sharing
  | .leaf => (target, a)
  | .node branches =>
      let (key, a) := addBranches target a branches
      a.stateFor key (8 * branches.length)

/-- Adds the states of the branches of a node; gives the spans with the numbers they lead to. -/
def addBranches (target : Nat) (a : Sharing) : List (ByteSpan × ByteTree) → List Nat × Sharing
  | [] => ([], a)
  | ((low, high), tree) :: rest =>
      let (next, a) := addTree target a tree
      let (key, a) := addBranches target a rest
      (low :: high :: next :: key, a)

end

/-- Adds the states of a sequence that is read backwards; `next` is where it leads to. -/
def addSequence (a : Sharing) (next : Nat) : List ByteSpan → Sharing
  | [] => { a with tally := { a.tally with lists := a.tally.lists + 4 } }
  | (low, high) :: rest =>
      let (number, a) := a.stateFor [next, low, high] 0
      addSequence a number rest

end Sharing

namespace Growth

/-- A set without characters beyond ASCII. -/
def asciiSet (s : CharSet) : Growth := inOrder [states 1, state (8 * s.spans.size)]

/-- A set read forwards: the encodings share their ends. -/
def forwardSet (tree : ByteTree) : Growth :=
  ⟨fun t => (Sharing.addTree t.states ⟨t.addState 0, 10000, ∅⟩ tree).2.tally⟩

/-- A set read backwards: the encodings share their beginnings. -/
def backwardSet (sequences : List (List ByteSpan)) : Growth :=
  ⟨fun t =>
    let a : Sharing := ⟨(t.addState 0).addState 0, 1000, ∅⟩
    (sequences.foldl (fun a q => a.addSequence (t.states + 1) q) a).tally⟩

/-- A set. -/
def ofSet (backward : Bool) (s : CharSet) : Growth :=
  if s.isAscii then asciiSet s
  else if backward then backwardSet s.byteSequences
  else forwardSet s.byteTree

end Growth

/-! ### Choices between literals -/

/-- Splits words at the empty ones. An empty word that comes before all others counts once. -/
def splitAtEmpty (words : List (List UInt8)) : List (List (List UInt8)) :=
  let blanks := words.takeWhile List.isEmpty
  let rest := (words.drop blanks.length).foldr
    (fun word chunks =>
      match word, chunks with
      | [], chunks => [] :: chunks
      | word, chunk :: chunks => (word :: chunk) :: chunks
      | word, [] => [[word]])
    [[]]
  if blanks.isEmpty then rest else [] :: rest

/-- The bytes that words start with, each once, with what is left of their words. -/
def byFirstByte (words : List (List UInt8)) : List (List (List UInt8)) :=
  let firsts := (words.filterMap List.head?).eraseDups
  firsts.map fun b => (words.filter (·.head? == some b)).map List.tail

/-- The states of a tree of words, its last state apart; `length` bounds the length of a word. Where
    words end in the middle of a tree, what comes before and after them in order of preference is kept
    apart. -/
def wordStates : (length : Nat) → List (List UInt8) → Tally
  | 0, _ => {}
  | length + 1, words =>
      if words.all List.isEmpty then {}
      else
        let chunks := splitAtEmpty words
        let sizes := chunks.map fun chunk =>
          let tails := byFirstByte chunk
          let own : Tally :=
            if tails.isEmpty then {}
            else ⟨1, if tails.length = 1 then 4 else 8 * tails.length + 4⟩
          tails.foldl (fun t words =>
            let inner := wordStates length words
            ⟨t.states + inner.states, t.lists + inner.lists⟩) own
        sizes.foldl (fun t size => ⟨t.states + size.states, t.lists + size.lists⟩)
          ⟨1, 4 * (chunks.length - 1)⟩

namespace Growth

/-- A choice between literals, which share their beginnings. -/
def words (words : List (List UInt8)) : Growth :=
  let length := words.foldl (fun n word => max n word.length) 0
  let inner := wordStates length words
  ⟨fun t => ⟨t.states + 1 + inner.states, t.lists + inner.lists⟩⟩

/-- A choice between any patterns. -/
def choice : List Growth → Growth
  | first :: second :: rest =>
      inOrder (first :: second :: state (4 * (rest.length + 2)) :: states 1 :: rest)
  | alternatives => inOrder alternatives

/-- Something repeated; `consumes` tells whether each time takes a character. -/
def repeated (consumes : Bool) (low : Nat) (high : Option Nat) (g : Growth) : Growth :=
  match high with
  | none =>
      match low with
      | 0 => if consumes then inOrder [state 8, g] else inOrder [g, state 8, state 8, states 1]
      | low + 1 => inOrder [times (low + 1) g, state 8]
  | some high =>
      if low = high then times low g
      else if low = 0 ∧ high = 1 then inOrder [state 8, g, states 1]
      else
        let least := if low = 0 then states 1 else times low g
        inOrder [least, states 1, times (high - low) (inOrder [state 8, g])]

end Growth

/-! ### Patterns -/

/-- The characters of a literal. -/
def literalChars? : Pattern → Option (List Char)
  | literal cs => some cs
  | _ => none

/-- The bytes of a literal in the order in which they are read. -/
def bytesInOrder (backward : Bool) (cs : List Char) : List UInt8 :=
  let bytes := cs.flatMap String.utf8EncodeChar
  if backward then bytes.reverse else bytes

mutual

/-- What a pattern adds to the automaton. -/
def growth (backward : Bool) : Pattern → Growth
  | empty | anchor _ => .states 1
  | literal cs => .states (bytesInOrder backward cs).length
  | set s => .ofSet backward s
  | capture _ p =>
      let inner := growth backward p
      if backward then inner else .inOrder [.states 1, inner, .states 1]
  | repetition low high _ p => .repeated p.alwaysConsumes low high (growth backward p)
  | sequence ps =>
      let parts := growthOfAll backward ps
      .inOrder (if backward then parts.reverse else parts)
  | choice ps =>
      match ps.mapM literalChars? with
      | some literals => .words (literals.map (bytesInOrder backward))
      | none => .choice (growthOfAll backward ps)

/-- What each of several patterns adds to the automaton. -/
def growthOfAll (backward : Bool) : List Pattern → List Growth
  | [] => []
  | p :: rest => growth backward p :: growthOfAll backward rest

end

/-- The start of an automaton: unless the pattern fixes the place where it matches, a loop leads over
    the text before it. -/
def growthOfStart (fixed : Bool) : Growth :=
  if fixed then .states 1 else .inOrder [.state 8, .state 8, .states 1]

/-- The size of the automaton that reads the text forwards and notes the places of the groups. -/
def forwardSize (p : Pattern) : Tally :=
  (Growth.inOrder
    [growthOfStart p.startsText, .states 1, growth false p, .states 2]).apply {}

/-- The size of the automaton that reads the text backwards. -/
def backwardSize (p : Pattern) : Tally :=
  (Growth.inOrder [growthOfStart p.endsText, growth true p, .states 1]).apply {}

/-- Whether a pattern is small enough to be searched for. -/
def fits (p : Pattern) : Bool := p.forwardSize.fits && p.backwardSize.fits

end PluginLisp.Pattern
