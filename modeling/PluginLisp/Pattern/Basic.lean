import PluginLisp.Pattern.Property

/-!
Patterns: regular expressions with preferences and capture groups, as a tree. Trees are put together
by `ofSet`, `sequenceOf`, `choiceOf` and `repeatOf`, which keep them small: a sequence holds no
sequence, no empty pattern and no two literals side by side, and alternatives that are all sets, or
that start alike, are taken together.
-/

namespace PluginLisp

/-- Conditions on a place in the text. Where word characters matter, they are those of ASCII or, if
    `wide`, all. -/
inductive Anchor where
  | textStart
  | textEnd
  | lineStart
  | lineEnd
  /-- Line starts where a carriage return may also end a line. -/
  | crlfStart
  | crlfEnd
  /-- A word character on exactly one side. -/
  | wordEdge (wide : Bool)
  | noWordEdge (wide : Bool)
  | wordStart (wide : Bool)
  | wordEnd (wide : Bool)
  /-- No word character before. -/
  | halfStart (wide : Bool)
  /-- No word character after. -/
  | halfEnd (wide : Bool)
deriving DecidableEq, Repr, Inhabited

namespace Anchor

/-- Whether the neighbour of a place is a word character. -/
def isWord (wide : Bool) (neighbour : Option Char) : Bool :=
  neighbour.any (if wide then CharSet.word else CharSet.asciiWord).contains

/-- Whether the condition holds between two characters; there is none before the start of the text
    and none after its end. -/
def holds (anchor : Anchor) (before after : Option Char) : Bool :=
  match anchor with
  | textStart => before.isNone
  | textEnd => after.isNone
  | lineStart => before.isNone || before == some '\n'
  | lineEnd => after.isNone || after == some '\n'
  | crlfStart =>
      before.isNone || before == some '\n' || (before == some '\r' && after != some '\n')
  | crlfEnd =>
      after.isNone || after == some '\r' || (after == some '\n' && before != some '\r')
  | wordEdge w => isWord w before != isWord w after
  | noWordEdge w => isWord w before == isWord w after
  | wordStart w => !isWord w before && isWord w after
  | wordEnd w => isWord w before && !isWord w after
  | halfStart w => !isWord w before
  | halfEnd w => !isWord w after

end Anchor

/-- A pattern. -/
inductive Pattern where
  | empty
  /-- The characters one after the other; there is at least one. -/
  | literal (cs : List Char)
  | set (s : CharSet)
  | anchor (a : Anchor)
  /-- A group that captures, with its number. -/
  | capture (index : Nat) (p : Pattern)
  /-- At least `low` and at most `high` times, as often as possible if greedy, as seldom as possible
      otherwise. -/
  | repetition (low : Nat) (high : Option Nat) (greedy : Bool) (p : Pattern)
  | sequence (ps : List Pattern)
  /-- The alternatives in order of preference. -/
  | choice (ps : List Pattern)
deriving Inhabited

namespace Pattern

/-! ### What can be said of a pattern without searching -/

mutual

/-- Whether two patterns are the same tree. -/
def same : Pattern → Pattern → Bool
  | empty, empty => true
  | literal cs, literal ds => cs == ds
  | set s, set t => s == t
  | anchor a, anchor b => a == b
  | capture i p, capture j q => i == j && p.same q
  | repetition low high greedy p, repetition low' high' greedy' q =>
      low == low' && high == high' && greedy == greedy' && p.same q
  | sequence ps, sequence qs => sameAll ps qs
  | choice ps, choice qs => sameAll ps qs
  | _, _ => false

/-- Whether two lists of patterns are the same. -/
def sameAll : List Pattern → List Pattern → Bool
  | [], [] => true
  | p :: ps, q :: qs => p.same q && sameAll ps qs
  | _, _ => false

end

mutual

/-- How many characters a match has at least; none if a part of the pattern cannot match at all. -/
def leastLength? : Pattern → Option Nat
  | empty | anchor _ => some 0
  | literal cs => some cs.length
  | set s => if s.isEmpty then none else some 1
  | capture _ p => p.leastLength?
  | repetition low _ _ p => p.leastLength?.map (low * ·)
  | sequence ps => leastLengthAll? ps
  | choice ps => leastLengthAny? ps

/-- How many characters a match of all the patterns, one after the other, has at least. -/
def leastLengthAll? : List Pattern → Option Nat
  | [] => some 0
  | p :: rest => do return (← p.leastLength?) + (← leastLengthAll? rest)

/-- How many characters a match of one of the patterns has at least. -/
def leastLengthAny? : List Pattern → Option Nat
  | [] => none
  | [p] => p.leastLength?
  | p :: rest => do return min (← p.leastLength?) (← leastLengthAny? rest)

end

/-- Whether every match has a character. -/
def alwaysConsumes (p : Pattern) : Bool := p.leastLength?.any (0 < ·)

mutual

/-- Whether a match has no characters. -/
def neverConsumes : Pattern → Bool
  | empty | anchor _ => true
  | literal _ | set _ => false
  | capture _ p => p.neverConsumes
  | repetition _ high _ p => high.isSome && p.neverConsumes
  | sequence ps => allNeverConsume ps
  | choice ps => allNeverConsume ps

/-- Whether matches of all the patterns have no characters. -/
def allNeverConsume : List Pattern → Bool
  | [] => true
  | p :: rest => p.neverConsumes && allNeverConsume rest

end

mutual

/-- Whether every match has to start at the start of the text. -/
def startsText : Pattern → Bool
  | anchor a => a == .textStart
  | empty | literal _ | set _ => false
  | capture _ p => p.startsText
  | repetition low _ _ p => 0 < low && p.startsText
  | sequence ps => firstStartsText ps
  | choice ps => allStartText ps

/-- Whether a match of all the patterns, one after the other, has to start the text. -/
def firstStartsText : List Pattern → Bool
  | [] => false
  | p :: rest => p.startsText || (p.neverConsumes && firstStartsText rest)

/-- Whether every match of each pattern has to start the text. -/
def allStartText : List Pattern → Bool
  | [] => true
  | p :: rest => p.startsText && allStartText rest

end

mutual

/-- Whether every match has to end at the end of the text. -/
def endsText : Pattern → Bool
  | anchor a => a == .textEnd
  | empty | literal _ | set _ => false
  | capture _ p => p.endsText
  | repetition low _ _ p => 0 < low && p.endsText
  | sequence ps => lastEndsText ps
  | choice ps => allEndText ps

/-- Whether a match of all the patterns, one after the other, has to end the text. -/
def lastEndsText : List Pattern → Bool
  | [] => false
  | p :: rest => lastEndsText rest || (allNeverConsume rest && p.endsText)

/-- Whether every match of each pattern has to end the text. -/
def allEndText : List Pattern → Bool
  | [] => true
  | p :: rest => p.endsText && allEndText rest

end

mutual

/-- One more than the largest number of a group that can take part in a match. What is repeated no
    times takes no part. -/
def groups : Pattern → Nat
  | empty | literal _ | set _ | anchor _ => 1
  | capture i p => max (i + 1) p.groups
  | repetition _ _ _ p => p.groups
  | sequence ps => groupsAll ps
  | choice ps => groupsAll ps

/-- One more than the largest number of a group in several patterns. -/
def groupsAll : List Pattern → Nat
  | [] => 1
  | p :: rest => max p.groups (groupsAll rest)

end

/-! ### Putting patterns together -/

/-- One character of a set. -/
def ofSet (s : CharSet) : Pattern :=
  match s.only? with
  | some c => literal [c]
  | none => set s

/-- The parts of a sequence. -/
def parts : Pattern → List Pattern
  | sequence ps => ps
  | p => [p]

/-- Puts a part in front of others. -/
def prepend : Pattern → List Pattern → List Pattern
  | empty, rest => rest
  | literal cs, literal ds :: rest => literal (cs ++ ds) :: rest
  | p, rest => p :: rest

/-- The patterns one after the other. -/
def sequenceOf (ps : List Pattern) : Pattern :=
  match (ps.flatMap parts).foldr prepend [] with
  | [] => empty
  | [p] => p
  | ps => sequence ps

/-- The alternatives of a choice. -/
def alternatives : Pattern → List Pattern
  | choice ps => ps
  | p => [p]

/-- The character of a literal that has just one. -/
def singleChar? : Pattern → Option Char
  | literal [c] => some c
  | _ => none

/-- The set of a pattern that is one. -/
def charSet? : Pattern → Option CharSet
  | set s => some s
  | _ => none

/-- The alternatives, taken together if they are all single characters or all sets. -/
def joinAlternatives (ps : List Pattern) : Pattern :=
  match ps with
  | [p] => p
  | ps =>
      match ps.mapM singleChar?, ps.mapM charSet? with
      | some cs, _ => ofSet (.ofSpans (cs.map fun c => (c.toNat, c.toNat)))
      | none, some sets => ofSet (.unions sets)
      | none, none => choice ps

/-- What two lists of patterns have in common at their start. -/
def commonStart : List Pattern → List Pattern → List Pattern
  | p :: ps, q :: qs => if p.same q then p :: commonStart ps qs else []
  | _, _ => []

/-- The parts of a sequence; none of any other pattern. -/
def sequenceParts : Pattern → List Pattern
  | sequence ps => ps
  | _ => []

/-- The start that all alternatives have in common, which have to be sequences. -/
def sharedStart : List Pattern → List Pattern
  | p :: q :: rest =>
      (q :: rest).foldl (fun start r => commonStart start r.sequenceParts) p.sequenceParts
  | _ => []

/-- The first of the patterns that matches. -/
def choiceOf (ps : List Pattern) : Pattern :=
  let ps := ps.flatMap alternatives
  match sharedStart ps with
  | [] => joinAlternatives ps
  | start =>
      let rests := ps.map fun p => sequenceOf (p.sequenceParts.drop start.length)
      sequenceOf (start ++ [joinAlternatives (rests.flatMap alternatives)])

/-- A pattern repeated. What matches no characters is repeated at most once. -/
def repeatOf (low : Nat) (high : Option Nat) (greedy : Bool) (p : Pattern) : Pattern :=
  let (low, high) :=
    if p.neverConsumes then (min low 1, some (min (high.getD 1) 1)) else (low, high)
  if low = 0 ∧ high = some 0 then empty
  else if low = 1 ∧ high = some 1 then p
  else repetition low high greedy p

end Pattern

end PluginLisp
