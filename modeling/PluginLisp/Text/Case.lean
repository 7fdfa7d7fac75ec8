import PluginLisp.Text.CaseData

/-!
Changing the case of a text. Each character is mapped on its own, except that a capital sigma that
ends a word becomes the final form of the small sigma.
-/

namespace PluginLisp.Text

/-- Maps a character by the listed special images, or else by the runs. -/
def mapCase (special : List (Nat × List Nat)) (shifts : List Shift) (c : Char) : List Char :=
  match special.lookup c.toNat with
  | some codes => codes.map Char.ofNat
  | none => [Char.ofNat (shiftCode shifts c.toNat)]

/-- The uppercase form of a character, which may be several characters. -/
def upperChar (c : Char) : List Char :=
  if c.toNat < 0x80 then [c.toUpper] else mapCase upperSpecial upperShifts c

/-- The lowercase form of a character on its own. -/
def lowerChar (c : Char) : List Char :=
  if c.toNat < 0x80 then [c.toLower] else mapCase lowerSpecial lowerShifts c

/-- Whether the first character that is not passed over has a case. -/
def leadsToCased (cs : List Char) : Bool :=
  match cs.dropWhile caseIgnorable.contains with
  | [] => false
  | c :: _ => cased.contains c

/-- A sigma ends a word if a cased character comes before it and none after it. -/
def isFinalSigma (before after : List Char) : Bool :=
  leadsToCased before && !leadsToCased after

/-- Lowers a text from left to right; `before` holds the characters already passed, nearest first. -/
def lowerFrom (before : List Char) : List Char → List Char
  | [] => []
  | c :: rest =>
      let image :=
        if c = 'Σ' then [if isFinalSigma before rest then 'ς' else 'σ'] else lowerChar c
      image ++ lowerFrom (c :: before) rest

/-- The text in uppercase. -/
def upper (s : String) : String := String.ofList (s.toList.flatMap upperChar)

/-- The text in lowercase. -/
def lower (s : String) : String := String.ofList (lowerFrom [] s.toList)

end PluginLisp.Text
