import PluginLisp.Encoding.Base64
import PluginLisp.Encoding.Hex
import PluginLisp.Encoding.Sha256
import PluginLisp.Json.Read
import PluginLisp.Json.Write
import PluginLisp.Machine.Calendar
import PluginLisp.Pattern.Program

/-!
What the language leaves to libraries: JSON as text, regular expressions, encodings and digests of
bytes, and dates. An interpreter works with any functions for these; `Libraries.standard` are the ones
that it runs with.
-/

namespace PluginLisp

/-- The functions that come from libraries. Reading tells why a text cannot be read. -/
structure Libraries where
  /-- The text of a JSON document, on one line or set out over several. -/
  writeJson : (pretty : Bool) → Json → String
  readJson : String → Except String Json
  /-- Reads a regular expression. It finds the first match in a text: the text of the whole match and
      of each group that took part in it. -/
  readPattern : String → Except String (String → Option (List (Option String)))
  writeBase64 : List UInt8 → String
  readBase64 : String → Except String (List UInt8)
  writeHex : List UInt8 → String
  readHex : String → Except String (List UInt8)
  /-- The SHA-256 digest of a message. -/
  digest : List UInt8 → List UInt8
  /-- The timestamp of a time, which is given in milliseconds since the start of 1970. -/
  timestamp : Nat → String

namespace Libraries

/-- The libraries that interpreters run with. -/
def standard : Libraries where
  writeJson pretty := Json.write (if pretty then Json.prettyStyle else Json.compactStyle) 0
  readJson s := match Json.read? s with
    | some j => .ok j
    | none => .error "the text is not a JSON document"
  readPattern s := match Pattern.parse? s with
    | some p => .ok p.find?
    | none => .error s
  writeBase64 := Encoding.Base64.encode
  readBase64 s := match Encoding.Base64.decode? s.toList with
    | some bytes => .ok bytes
    | none => .error "not a padded sequence of groups of four letters"
  writeHex := Encoding.Hex.encode
  readHex s := (Encoding.Hex.decode (Encoding.bytesOf s)).mapError Encoding.Hex.Fault.message
  digest := Encoding.Sha256.digest
  timestamp := Calendar.timestamp

instance : Inhabited Libraries := ⟨standard⟩

end Libraries

end PluginLisp
