import PluginLisp.Pattern.Binary

/-!
Names of groups. They go by a later version of the Unicode standard than the properties do.
-/

namespace PluginLisp.Pattern

/-- Alphabetic characters, the latest included. -/
def alphabetic : CharSet :=
  CharSet.alphabetic.union (.ofText
    "88f c5c cdc a7ce-a7cf a7d2 a7d4 a7f1 10940-10959 10ec5-10ec7 10efa-10efb 11b60-11b67 11db0-11ddb
     16ea0-16eb8 16ebb-16ed3 16ff2-16ff6 187f8-187ff 18d09-18d1e 18d80-18df2 1e6c0-1e6de 1e6e0-1e6f5
     1e6fe-1e6ff 2b73a-2b73f 2cea2-2cead 323b0-33479")

/-- Numbers, the latest included. -/
def numeric : CharSet := CharSet.number.union (.ofText "11de0-11de9 16ff4-16ff6")

/-- Whether a character may stand in the name of a group. -/
def isNameChar (isFirst : Bool) (c : Char) : Bool :=
  c == '_' || alphabetic.contains c
    || (!isFirst && (c == '.' || c == '[' || c == ']' || numeric.contains c))

/-- The name of a group up to its closing angle bracket. -/
def readName? (cs : List Char) : Option (String × List Char) :=
  let name := cs.takeWhile (· != '>')
  match cs.drop name.length, name with
  | _ :: rest, c :: more =>
      if isNameChar true c && more.all (isNameChar false) then some (String.ofList name, rest)
      else none
  | _, _ => none

end PluginLisp.Pattern
