import PluginLisp.Text.CharSet

/-!
Characters as bytes. The UTF-8 encodings of a span of characters are those of a few sequences of byte
spans: the span is cut until, in each part, every byte runs through its own span whatever the bytes
before it are. A set is then a tree whose edges are byte spans.
-/

namespace PluginLisp

/-- Consecutive bytes: the first and the last. -/
abbrev ByteSpan := Nat × Nat

namespace ByteSpan

/-- The last code points that are encoded by one, two and three bytes. -/
def encodingLimits : List Nat := [0x7f, 0x7ff, 0xffff]

/-- Where a span has to be cut because a block of `size` code points is not covered whole: the last
    code point of the first part. -/
def cutAtBlock? (low high size : Nat) : Option Nat :=
  if low / size = high / size then none
  else if low % size ≠ 0 then some (low / size * size + (size - 1))
  else if high % size ≠ size - 1 then some (high / size * size - 1)
  else none

/-- Where a span of characters has to be cut: at the gap in the code points, where the number of bytes
    changes, and at the blocks that one, two or three bytes at the end run through. -/
def cut? (low high : Nat) : Option Nat :=
  if low ≤ 0xd7ff ∧ 0xe000 ≤ high then some 0xd7ff
  else
    match encodingLimits.find? fun limit => low ≤ limit && limit < high with
    | some limit => some limit
    | none => if high ≤ 0x7f then none else [64, 4096, 262144].findSome? (cutAtBlock? low high)

/-- The bytes of a code point. -/
def bytesOf (code : Nat) : List Nat := (String.utf8EncodeChar (Char.ofNat code)).map UInt8.toNat

/-- The sequences of byte spans that encode a span of characters, in ascending order. -/
def sequences (low high : Nat) : List (List ByteSpan) :=
  match cut? low high with
  | some last =>
      if _h : low ≤ last ∧ last < high then
        sequences low last ++ sequences (CharSet.nextCode last) high
      else [(bytesOf low).zip (bytesOf high)]
  | none => [(bytesOf low).zip (bytesOf high)]
termination_by high - low
decreasing_by
  · omega
  · have : last < CharSet.nextCode last := by
      unfold CharSet.nextCode
      split <;> omega
    omega

end ByteSpan

/-- The sequences of byte spans that encode the characters of a set, in ascending order. -/
def CharSet.byteSequences (s : CharSet) : List (List ByteSpan) :=
  s.spans.toList.flatMap fun (low, high) => ByteSpan.sequences low high

/-- Sequences of byte spans that share their beginnings. -/
inductive ByteTree where
  | leaf
  | node (branches : List (ByteSpan × ByteTree))
deriving Inhabited

namespace ByteTree

/-- The tree of sequences of at most `length` byte spans. Neighbours that begin alike are taken
    together. -/
def ofSequences : (length : Nat) → List (List ByteSpan) → ByteTree
  | 0, _ => leaf
  | length + 1, sequences =>
      match sequences.filter (!·.isEmpty) with
      | [] => leaf
      | sequences =>
          let groups := sequences.splitBy fun s t => s.head? == t.head?
          node (groups.filterMap fun group =>
            match group with
            | (span :: _) :: _ => some (span, ofSequences length (group.map List.tail))
            | _ => none)

end ByteTree

/-- The tree of the encodings of a set; a character has at most four bytes. -/
def CharSet.byteTree (s : CharSet) : ByteTree := .ofSequences 4 s.byteSequences

end PluginLisp
