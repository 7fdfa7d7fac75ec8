/-!
Cutting a text at a separator, searching and replacing. Occurrences are found from the left and do
not overlap.
-/

namespace PluginLisp.Text

/-- The pieces between the occurrences of a separator; `piece` holds the characters of the current
    one, last first. The separator is meant to be non-empty. -/
def splitFrom (separator piece : List Char) : List Char → List (List Char)
  | [] => [piece.reverse]
  | c :: rest =>
      if separator.isPrefixOf (c :: rest) then
        piece.reverse :: splitFrom separator [] (rest.drop (separator.length - 1))
      else splitFrom separator (c :: piece) rest
termination_by cs => cs.length

/-- The pieces of a text between separators; the empty separator cuts it into its characters. -/
def split (s separator : String) : List String :=
  if separator.isEmpty then s.toList.map Char.toString
  else (splitFrom separator.toList [] s.toList).map String.ofList

/-- Whether one list of characters occurs in another. -/
def occursIn (needle : List Char) : List Char → Bool
  | [] => needle.isEmpty
  | c :: rest => needle.isPrefixOf (c :: rest) || occursIn needle rest

/-- Whether a text occurs in another. -/
def contains (s needle : String) : Bool := occursIn needle.toList s.toList

/-- Replaces every occurrence of a text; the empty text occurs before every character and at the
    end. -/
def replace (s old new : String) : String :=
  if old.isEmpty then new ++ String.join (s.toList.map fun c => c.toString ++ new)
  else new.intercalate (split s old)

end PluginLisp.Text
