/-!
Sets of characters as spans of code points: closed, in ascending order, with a gap between any two of
them. Every operation gives spans of that shape again, so a set has one written form, and membership
is a binary search.
-/

namespace PluginLisp

/-- A set of characters. -/
structure CharSet where
  spans : Array (Nat × Nat)
deriving BEq, Repr, Inhabited

namespace CharSet

/-- The code point after `n`; there are no characters from U+D800 to U+DFFF. -/
def nextCode (n : Nat) : Nat := if n = 0xd7ff then 0xe000 else n + 1

/-- The code point before `n`. -/
def lastCode (n : Nat) : Nat := if n = 0xe000 then 0xd7ff else n - 1

/-- The greatest code point. -/
def maxCode : Nat := 0x10ffff

/-- Joins spans in ascending order that overlap or touch; `low` and `high` bound the span that is
    still growing. -/
def joinFrom (low high : Nat) : List (Nat × Nat) → List (Nat × Nat)
  | [] => [(low, high)]
  | (a, b) :: rest =>
      if a ≤ high + 1 then joinFrom low (max high b) rest else (low, high) :: joinFrom a b rest

/-- Joins spans in ascending order that overlap or touch. -/
def join : List (Nat × Nat) → List (Nat × Nat)
  | [] => []
  | (a, b) :: rest => joinFrom a b rest

/-- The set of the characters in spans of any order. -/
def ofSpans (spans : List (Nat × Nat)) : CharSet :=
  ⟨(join (spans.mergeSort fun s t => s.1 ≤ t.1)).toArray⟩

/-- No characters. -/
def empty : CharSet := ⟨#[]⟩

/-- The characters of one span. -/
def span (low high : Nat) : CharSet := ⟨#[(low, high)]⟩

/-- One character. -/
def single (c : Char) : CharSet := span c.toNat c.toNat

/-- All characters. -/
def all : CharSet := span 0 maxCode

/-! ### Membership -/

/-- Whether the span with the given number holds `code`. -/
def holdsAt (s : CharSet) (index code : Nat) : Bool :=
  match s.spans[index]? with
  | some (low, high) => low ≤ code && code ≤ high
  | none => false

/-- The last span from `first` on that starts at or before `code`, where the one with the number
    `first` does if any does; `steps` bounds the halvings of the `count` spans in question. -/
def locate (s : CharSet) (code : Nat) : (steps first count : Nat) → Nat
  | 0, first, _ => first
  | steps + 1, first, count =>
      if count ≤ 1 then first
      else
        let half := count / 2
        match s.spans[first + half]? with
        | some (low, _) =>
            if low ≤ code then locate s code steps (first + half) (count - half)
            else locate s code steps first half
        | none => first

/-- Whether a code point belongs to the set. -/
def containsCode (s : CharSet) (code : Nat) : Bool :=
  s.holdsAt (s.locate code 32 0 s.spans.size) code

/-- Membership. -/
def contains (s : CharSet) (c : Char) : Bool := s.containsCode c.toNat

/-- Whether the set has no members. -/
def isEmpty (s : CharSet) : Bool := s.spans.isEmpty

/-- Whether all members are characters of ASCII. -/
def isAscii (s : CharSet) : Bool := s.spans.all fun t => t.2 < 128

/-- The only member of a set that has just one. -/
def only? (s : CharSet) : Option Char :=
  match s.spans.toList with
  | [(low, high)] => if low = high then some (Char.ofNat low) else none
  | _ => none

/-! ### Operations -/

/-- The characters of either set. -/
def union (s t : CharSet) : CharSet :=
  if t.isEmpty then s
  else ⟨(join (s.spans.toList.merge t.spans.toList fun a b => a.1 ≤ b.1)).toArray⟩

/-- The spans between the given ones, from `start` on. -/
def gapsFrom (start : Nat) : List (Nat × Nat) → List (Nat × Nat)
  | [] => if start ≤ maxCode then [(start, maxCode)] else []
  | (a, b) :: rest =>
      if start < a then (start, lastCode a) :: gapsFrom (nextCode b) rest
      else gapsFrom (nextCode b) rest

/-- The characters that are not in the set. -/
def negation (s : CharSet) : CharSet := ⟨(gapsFrom 0 s.spans.toList).toArray⟩

/-- What two lists of spans have in common. -/
def meet : List (Nat × Nat) → List (Nat × Nat) → List (Nat × Nat)
  | [], _ => []
  | _, [] => []
  | (a, b) :: s, (c, d) :: t =>
      let rest := if b ≤ d then meet s ((c, d) :: t) else meet ((a, b) :: s) t
      if max a c ≤ min b d then (max a c, min b d) :: rest else rest
termination_by s t => s.length + t.length

/-- The characters of both sets. -/
def intersection (s t : CharSet) : CharSet := ⟨(meet s.spans.toList t.spans.toList).toArray⟩

/-- The characters of the first set that are not in the second. -/
def difference (s t : CharSet) : CharSet := s.intersection t.negation

/-- The characters of exactly one of the sets. -/
def symmetricDifference (s t : CharSet) : CharSet := (s.union t).difference (s.intersection t)

/-- The characters of any of the sets. -/
def unions (sets : List CharSet) : CharSet := ofSpans (sets.flatMap fun s => s.spans.toList)

/-! ### Reading -/

/-- What has been read of a text of spans: the spans, last first, the start of the one that is being
    read with whether it takes every second code point only, and the number so far. -/
structure SpanReader where
  spans : List (Nat × Nat) := []
  start : Option (Nat × Bool) := none
  number : Option Nat := none

/-- Ends the span that is being read, if there is one. -/
def SpanReader.close (r : SpanReader) : SpanReader :=
  match r.number, r.start with
  | none, _ => r
  | some n, none => { spans := (n, n) :: r.spans }
  | some n, some (a, false) => { spans := (a, n) :: r.spans }
  | some n, some (a, true) =>
      let points := (List.range ((n - a) / 2 + 1)).map fun i => (a + 2 * i, a + 2 * i)
      { spans := points.reverse ++ r.spans }

/-- Reads one more character. -/
def SpanReader.read (r : SpanReader) (c : Char) : SpanReader :=
  let n := c.toNat
  if n ≤ 32 then r.close
  else if c = '-' then { r with start := r.number.map (·, false), number := none }
  else if c = ':' then { r with start := r.number.map (·, true), number := none }
  else { r with number := some (16 * r.number.getD 0 + (if n < 58 then n - 48 else n - 87)) }

/-- The set of a text of spans, which stand in any order with blanks and line ends between them. Code
    points are in hexadecimal: `41` is one character, `41-5a` all from the first to the last, and
    `100:12e` every second one. -/
def ofText (text : String) : CharSet := ofSpans (text.toList.foldl SpanReader.read {}).close.spans

end CharSet

end PluginLisp
