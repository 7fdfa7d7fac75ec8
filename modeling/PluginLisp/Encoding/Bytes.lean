/-!
Texts as bytes and bytes as texts, in the UTF-8 encoding.
-/

namespace PluginLisp.Encoding

/-- The bytes of a text. -/
def bytesOf (s : String) : List UInt8 := s.toUTF8.toList

/-- The text that bytes encode, if they encode one. -/
def textOf? (bytes : List UInt8) : Option String := String.fromUTF8? ⟨bytes.toArray⟩

end PluginLisp.Encoding
