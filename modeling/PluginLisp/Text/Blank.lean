/-!
White space as the Unicode standard draws it, and the trimming that goes by it.
-/

namespace PluginLisp.Text

/-- The characters with the property White_Space: the controls from tab to carriage return, the
    space, the next-line control, and the separators of every width. -/
def isBlank (c : Char) : Bool :=
  let n := c.toNat
  n == 0x20 || (0x9 ≤ n && n ≤ 0xd) || n == 0x85 || n == 0xa0 || n == 0x1680
    || (0x2000 ≤ n && n ≤ 0x200a) || n == 0x2028 || n == 0x2029 || n == 0x202f || n == 0x205f
    || n == 0x3000

/-- Drops what satisfies `p` from both ends of a list. -/
def stripBoth (p : Char → Bool) (cs : List Char) : List Char :=
  ((cs.dropWhile p).reverse.dropWhile p).reverse

/-- A text without the white space around it. -/
def trim (s : String) : String := String.ofList (stripBoth isBlank s.toList)

/-- A text without the copies of `c` at its start. -/
def trimLeading (c : Char) (s : String) : String :=
  String.ofList (s.toList.dropWhile (· == c))

end PluginLisp.Text
