import PluginLisp.Pattern.Age
import PluginLisp.Pattern.Break
import PluginLisp.Pattern.Script

/-!
The sets of characters that a pattern may name: by a property of the Unicode standard, or by one of
the classes of ASCII.
-/

namespace PluginLisp.CharSet

/-- A name as it is looked up. Case, spaces, underscores, hyphens and whatever lies beyond ASCII do
    not count, and neither does `is` at the very start, unless only a `c` would be left. -/
def normalName (name : String) : String :=
  let (shortened, cs) := match name.toList with
    | i :: s :: rest =>
        if i.toLower = 'i' ∧ s.toLower = 's' then (true, rest) else (false, i :: s :: rest)
    | cs => (false, cs)
  let counts (c : Char) : Bool := c.toNat < 128 && c != ' ' && c != '_' && c != '-'
  let letters := (cs.filter counts).map Char.toLower
  if shortened && letters == ['c'] then "isc" else String.ofList letters

/-- The set of a property given by its name alone. -/
def property? (name : String) : Option CharSet :=
  let key := normalName name
  binary? key <|> category? key <|> (Script.find? key).map Script.characters

/-- The set of a property given by name and value. -/
def propertyValue? (name value : String) : Option CharSet :=
  let key := normalName value
  match normalName name with
  | "gc" | "generalcategory" => category? key
  | "sc" | "script" => (Script.find? key).map Script.characters
  | "scx" | "scriptextensions" => (Script.find? key).map Script.extended
  | "age" => age? key
  | "gcb" | "graphemeclusterbreak" => clusterBreak? key
  | "wb" | "wordbreak" => wordBreak? key
  | "sb" | "sentencebreak" => sentenceBreak? key
  | _ => none

/-! ### Classes of ASCII -/

/-- The digits of ASCII. -/
def asciiDigit : CharSet := .ofText "30-39"

/-- The white space of ASCII. -/
def asciiBlank : CharSet := .ofText "9-d 20"

/-- The word characters of ASCII. -/
def asciiWord : CharSet := .ofText "30-39 41-5a 5f 61-7a"

/-- The sets that may be named between `[:` and `:]`. -/
def posix? : String → Option CharSet
  | "alnum" => some (.ofText "30-39 41-5a 61-7a")
  | "alpha" => some (.ofText "41-5a 61-7a")
  | "ascii" => some ascii
  | "blank" => some (.ofText "9 20")
  | "cntrl" => some (.ofText "0-1f 7f")
  | "digit" => some asciiDigit
  | "graph" => some (.ofText "21-7e")
  | "lower" => some (.ofText "61-7a")
  | "print" => some (.ofText "20-7e")
  | "punct" => some (.ofText "21-2f 3a-40 5b-60 7b-7e")
  | "space" => some asciiBlank
  | "upper" => some (.ofText "41-5a")
  | "word" => some asciiWord
  | "xdigit" => some (.ofText "30-39 41-46 61-66")
  | _ => none

end PluginLisp.CharSet
