import PluginLisp.Builtin.ArgCount
import PluginLisp.Libraries
import PluginLisp.Value.View

/-!
The builtins of the plugin `encoding`: the bytes of a text as Base64 or hexadecimal digits and back,
and the SHA-256 digest.
-/

namespace PluginLisp

/-- The builtins of the plugin `encoding`. -/
inductive EncodingOp where
  | base64Encode
  | base64Decode
  | hexEncode
  | hexDecode
  | sha256
deriving DecidableEq, Repr, Inhabited

namespace EncodingOp

/-- All of them, in the order of registration. -/
def all : List EncodingOp := [base64Encode, base64Decode, hexEncode, hexDecode, sha256]

/-- The name a program calls it by. -/
def name : EncodingOp → String
  | base64Encode => "base64-encode"
  | base64Decode => "base64-decode"
  | hexEncode => "hex-encode"
  | hexDecode => "hex-decode"
  | sha256 => "sha256"

/-- The numbers of arguments. -/
def count (_ : EncodingOp) : ArgCount := .exactly 1

/-- The help line. -/
def help : EncodingOp → String
  | base64Encode => "Standard base64 of a string"
  | base64Decode => "Decode base64 back to a string"
  | hexEncode => "Lowercase hex of a string's bytes"
  | hexDecode => "Decode hex back to a string"
  | sha256 => "SHA-256 digest of a string, as hex"

/-- Decoded bytes as a text, for the function `form`. -/
def textOfBytes (form : String) (bytes : List UInt8) : Except Error String :=
  match Encoding.textOf? bytes with
  | some s => .ok s
  | none => .error (.invalidArguments form "decoded bytes are not valid UTF-8")

/-- What it does to a text. -/
def convert (libraries : Libraries) (op : EncodingOp) (s : String) : Except Error String :=
  match op with
  | base64Encode => .ok (libraries.writeBase64 (Encoding.bytesOf s))
  | base64Decode => match libraries.readBase64 s with
      | .ok bytes => textOfBytes op.name bytes
      | .error reason => .error (.malformed ("Invalid base64: " ++ reason))
  | hexEncode => .ok (libraries.writeHex (Encoding.bytesOf s))
  | hexDecode => match libraries.readHex s with
      | .ok bytes => textOfBytes op.name bytes
      | .error reason => .error (.malformed ("Invalid hex: " ++ reason))
  | sha256 => .ok (libraries.writeHex (libraries.digest (Encoding.bytesOf s)))

/-- What it does to the values of its arguments. -/
def apply (libraries : Libraries) (op : EncodingOp) (args : List Value) : Except Error Value :=
  match args with
  | [v] => do return .text (← op.convert libraries (← v.asText))
  | _ => .error (.arity op.name op.count.describe args.length)

end EncodingOp

end PluginLisp
