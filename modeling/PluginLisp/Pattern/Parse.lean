import PluginLisp.Number.Reading
import PluginLisp.Pattern.Class
import PluginLisp.Pattern.Name
import PluginLisp.Pattern.Size

/-!
Reading the text of a pattern. A text that is no pattern is refused; there are no back references and
no conditions on what lies beyond the neighbours of a place. Groups are read with a stack of what is
open, one item after the other. A pattern must neither be nested too deeply nor be too large.
-/

namespace PluginLisp.Pattern

open Text (isBlank)

/-- How deeply a pattern may be nested. A group, a repetition, several items side by side, several
    alternatives and each level of a class count one. -/
def maxDepth : Nat := 250

/-! ### Groups and repetitions -/

/-- A pattern with the depth of what was written for it. A change of options is an item as well, which
    matches nothing and cannot be repeated. -/
structure Piece where
  pattern : Pattern
  depth : Nat := 0
  repeatable : Bool := true

namespace Piece

/-- The depth of several pieces that stand together. -/
def depthOf (pieces : List Piece) : Nat :=
  let deepest := pieces.foldl (fun n p => max n p.depth) 0
  if pieces.length ≤ 1 then deepest else deepest + 1

/-- The pieces one after the other. -/
def inSequence (pieces : List Piece) : Piece :=
  ⟨sequenceOf (pieces.map (·.pattern)), depthOf pieces, true⟩

/-- The pieces as alternatives. -/
def inChoice (pieces : List Piece) : Piece :=
  ⟨choiceOf (pieces.map (·.pattern)), depthOf pieces, true⟩

/-- The piece as a group, which captures if it has a number. -/
def inGroup (p : Piece) (index : Option Nat) : Piece :=
  match index with
  | some i => ⟨.capture i p.pattern, p.depth + 1, true⟩
  | none => ⟨p.pattern, p.depth + 1, true⟩

/-- The piece repeated. -/
def repeated (p : Piece) (low : Nat) (high : Option Nat) (greedy : Bool) : Piece :=
  ⟨repeatOf low high greedy p.pattern, p.depth + 1, true⟩

end Piece

/-- A group that is open: its number, and what stood before it in the enclosing group. -/
structure OpenGroup where
  index : Option Nat
  flags : Flags
  branches : List Piece
  items : List Piece

/-- The state of the reader. Items and branches are last first. -/
structure Reader where
  flags : Flags := {}
  groups : List OpenGroup := []
  branches : List Piece := []
  items : List Piece := []
  nextIndex : Nat := 1
  names : List String := []

namespace Reader

/-- Adds an item. -/
def push (r : Reader) (p : Pattern) (depth : Nat := 0) : Reader :=
  { r with items := ⟨p, depth, true⟩ :: r.items }

/-- The items since the last bar as one piece. -/
def branch (r : Reader) : Piece := .inSequence r.items.reverse

/-- All that the innermost group holds as one piece. -/
def body (r : Reader) : Piece :=
  match r.branches with
  | [] => r.branch
  | branches => .inChoice (branches.reverse ++ [r.branch])

/-- Opens a group whose content has the given options. -/
def openGroup (r : Reader) (index : Option Nat) (flags : Flags) : Reader :=
  { r with
    flags := flags
    groups := ⟨index, r.flags, r.branches, r.items⟩ :: r.groups
    branches := []
    items := [] }

/-- Opens a group that captures. -/
def openCapture (r : Reader) : Reader :=
  { r.openGroup (some r.nextIndex) r.flags with nextIndex := r.nextIndex + 1 }

/-- Closes the innermost group. -/
def closeGroup? (r : Reader) : Option Reader :=
  match r.groups with
  | [] => none
  | g :: groups => some { r with
      flags := g.flags
      groups := groups
      branches := g.branches
      items := r.body.inGroup g.index :: g.items }

/-- Changes the options for what follows in the group. -/
def setFlags (r : Reader) (f : Flags) : Reader :=
  { r with flags := f, items := ⟨.empty, 0, false⟩ :: r.items }

/-- Takes the last item for a repetition. -/
def pop? (r : Reader) : Option (Piece × Reader) :=
  match r.items with
  | p :: items => if p.repeatable then some (p, { r with items := items }) else none
  | [] => none

/-- The whole, once nothing is open any more. -/
def finish? (r : Reader) : Option Piece := if r.groups.isEmpty then some r.body else none

end Reader

/-- Reads the options between `(?` and `:` or `)`. `seen` holds the letters so far and `on` whether
    no minus has come yet; a letter may come once, a minus too, and not last. -/
def readFlags? (seen : List Char) (on : Bool) (f : Flags) : List Char → Option (Flags × List Char)
  | [] => none
  | c :: rest =>
      if c = ':' ∨ c = ')' then
        if seen.head? = some '-' then none else some (f, c :: rest)
      else if seen.contains c then none
      else if c = '-' then readFlags? (c :: seen) false f rest
      else do readFlags? (c :: seen) on (← f.switch? on c) rest

/-- Opens a group with a name. -/
def readNamedGroup? (r : Reader) (cs : List Char) : Option (Reader × List Char) := do
  let (name, rest) ← readName? cs
  if r.names.contains name then none
  else return ({ r.openCapture with names := name :: r.names }, rest)

/-- The start of a group or a change of options, after the opening parenthesis. -/
def readGroup? (r : Reader) (cs : List Char) : Option (Reader × List Char) :=
  match skip r.flags cs with
  | '?' :: '=' :: _ => none
  | '?' :: '!' :: _ => none
  | '?' :: '<' :: '=' :: _ => none
  | '?' :: '<' :: '!' :: _ => none
  | '?' :: 'P' :: '<' :: rest => readNamedGroup? r rest
  | '?' :: '<' :: rest => readNamedGroup? r rest
  | '?' :: ')' :: _ => none
  | '?' :: rest => do
      match ← readFlags? [] true r.flags rest with
      | (f, ')' :: rest) => return (r.setFlags f, rest)
      | (f, _ :: rest) => return (r.openGroup none f, rest)
      | (_, []) => none
  | rest => some (r.openCapture, rest)

/-- The digits at the start; `steps` bounds their number. -/
def readDigits (f : Flags) : (steps : Nat) → List Char → List Char × List Char
  | 0, cs => ([], cs)
  | steps + 1, cs =>
      match cs with
      | c :: rest =>
          if Number.isDigit c then
            let (digits, rest) := readDigits f steps (skip f rest)
            (c :: digits, rest)
          else ([], cs)
      | [] => ([], cs)

/-- A number in the bounds of a repetition, with white space around it; numbers have thirty-two
    bits. -/
def readCount? (f : Flags) (cs : List Char) : Option (Nat × List Char) :=
  let (digits, rest) := readDigits f (cs.length + 1) (cs.dropWhile isBlank)
  let n := Number.digitsValue digits
  if digits.isEmpty || 4294967296 ≤ n then none
  else some (n, skip f (rest.dropWhile isBlank))

/-- The bounds of a repetition, after the opening brace. -/
def readBounds? (f : Flags) (cs : List Char) : Option (Nat × Option Nat × List Char) := do
  let (low, rest) ← readCount? f (skip f cs)
  match rest with
  | '\x7d' :: rest => return (low, some low, rest)
  | ',' :: rest =>
      match skip f rest with
      | '\x7d' :: rest => return (low, none, rest)
      | rest =>
          match ← readCount? f rest with
          | (high, '\x7d' :: rest) => if low ≤ high then return (low, some high, rest) else none
          | _ => none
  | _ => none

/-- Repeats the last item; a question mark after the operator turns its preference round. -/
def repeatLast? (r : Reader) (low : Nat) (high : Option Nat) (cs : List Char) :
    Option (Reader × List Char) := do
  let (p, r) ← r.pop?
  let (lazy, rest) := match cs with
    | '?' :: rest => (true, rest)
    | _ => (false, cs)
  let p := p.repeated low high (lazy == r.flags.swapGreed)
  return ({ r with items := p :: r.items }, rest)

/-- A character on its own. -/
def ofChar (f : Flags) (c : Char) : Pattern := ofSet (f.fold (.single c))

/-- The anchor of a line or of the text. -/
def lineAnchor (f : Flags) (text line crlf : Anchor) : Pattern :=
  .anchor (if !f.multiLine then text else if f.crlf then crlf else line)

/-- The set of the dot. -/
def dotSet? (f : Flags) : Option CharSet :=
  f.negateIf? true
    (if f.dotAll then .empty
     else if f.crlf then .ofSpans [(10, 10), (13, 13)]
     else .single '\n')

/-- What a character or escape adds. -/
def ofElement (f : Flags) : Element → Pattern
  | .literal c => ofChar f c
  | .set s => ofSet s
  | .anchor a => .anchor a

/-- Reads one item. -/
def readItem? (r : Reader) (c : Char) (rest : List Char) : Option (Reader × List Char) :=
  let f := r.flags
  match c with
  | '(' => readGroup? r rest
  | ')' => r.closeGroup?.map (·, rest)
  | '|' => some ({ r with branches := r.branch :: r.branches, items := [] }, rest)
  | '[' => do
      let (x, rest) ← readClass? f rest
      return (r.push (ofSet x.set) x.depth, rest)
  | '?' => repeatLast? r 0 (some 1) rest
  | '*' => repeatLast? r 0 none rest
  | '+' => repeatLast? r 1 none rest
  | '\x7b' => do
      let (low, high, rest) ← readBounds? f rest
      repeatLast? r low high (skip f rest)
  | '\x5c' => do
      let (p, rest) ← readEscape? f rest
      return (r.push (ofElement f p), rest)
  | '.' => do return (r.push (ofSet (← dotSet? f)), rest)
  | '^' => some (r.push (lineAnchor f .textStart .lineStart .crlfStart), rest)
  | '$' => some (r.push (lineAnchor f .textEnd .lineEnd .crlfEnd), rest)
  | c => some (r.push (ofChar f c), rest)

/-- Reads items to the end; `steps` bounds their number. -/
def readItems? : (steps : Nat) → Reader → List Char → Option Piece
  | 0, _, _ => none
  | steps + 1, r, cs =>
      match skip r.flags cs with
      | [] => r.finish?
      | c :: rest => do
          let (r, rest) ← readItem? r c rest
          readItems? steps r rest

/-- Reads the text of a pattern. -/
def parse? (source : String) : Option Pattern := do
  let cs := source.toList
  let p ← readItems? (cs.length + 1) {} cs
  if p.depth ≤ maxDepth && p.pattern.fits then some p.pattern else none

end PluginLisp.Pattern
