import PluginLisp.Text.CharSet
import PluginLisp.Pattern.FoldData

/-!
Sets where case does not count: a set is completed by the case variants of its members. Two
characters are variants of each other if they have the same representative.
-/

namespace PluginLisp.CharSet

/-- The characters that are not their own representative, each with its representative. -/
def foldPairs : List (Nat × Nat) :=
  Pattern.foldShifts.flatMap fun s =>
    (List.range ((s.last - s.first) / s.step + 1)).map fun i =>
      (s.first + s.step * i, s.apply (s.first + s.step * i))

/-- The set with all case variants of its members: first the representatives are added, then all
    characters that have one of these as theirs. -/
def fold (s : CharSet) : CharSet :=
  let representatives := foldPairs.filterMap fun (c, r) =>
    if s.containsCode c then some (r, r) else none
  let s := s.union (.ofSpans representatives)
  let others := foldPairs.filterMap fun (c, r) =>
    if s.containsCode r then some (c, c) else none
  s.union (.ofSpans others)

/-- The set with its spans moved up by `distance`. -/
def raise (s : CharSet) (distance : Nat) : CharSet :=
  ⟨s.spans.map fun (a, b) => (a + distance, b + distance)⟩

/-- The set with its spans moved down by `distance`. -/
def lower (s : CharSet) (distance : Nat) : CharSet :=
  ⟨s.spans.map fun (a, b) => (a - distance, b - distance)⟩

/-- The set with the case variants of its members in ASCII only. -/
def foldAscii (s : CharSet) : CharSet :=
  (s.union ((s.intersection (span 65 90)).raise 32)).union
    ((s.intersection (span 97 122)).lower 32)

end PluginLisp.CharSet
