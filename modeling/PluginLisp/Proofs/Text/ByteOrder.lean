import Mathlib.Data.String.Basic
import Mathlib.Tactic.Positivity
import PluginLisp.Encoding.Bytes

/-!
The order of texts and the order of their bytes are the same. A character is encoded as a leading
byte, which grows with the number of bytes behind it, and bytes that hold the rest of the code, six
bits each, the most significant first. So the encodings of two characters differ first at a byte that
is smaller for the smaller character, whatever follows.

Main result: `bytesOf_lt_iff`.
-/

namespace PluginLisp.Encoding

/-! ### Characters -/

/-- The number of bytes behind the leading one. -/
def bytesBehind (code : Nat) : Nat :=
  if code ≤ 127 then 0 else if code ≤ 2047 then 1 else if code ≤ 65535 then 2 else 3

/-- What the leading byte says about the number of bytes behind it. -/
def leadMark : Nat → Nat
  | 0 => 0
  | 1 => 192
  | 2 => 224
  | _ => 240

/-- The last bytes of a character, with six bits of its code each. -/
def lastBytes (code : Nat) : (count : Nat) → List UInt8
  | 0 => []
  | count + 1 => UInt8.ofNat (code / 64 ^ count % 64 + 128) :: lastBytes code count

variable {m n count : Nat} {c d : Char} {cs ds : List Char} {s t : String} {rest rest' : List UInt8}

theorem toNat_lt_limit (c : Char) : c.toNat < 1114112 := by
  have valid : c.toNat < 0xd800 ∨ 0xdfff < c.toNat ∧ c.toNat < 0x110000 := c.valid
  omega

theorem utf8EncodeChar_eq (c : Char) :
    String.utf8EncodeChar c =
      UInt8.ofNat (c.toNat / 64 ^ bytesBehind c.toNat + leadMark (bytesBehind c.toNat)) ::
        lastBytes c.toNat (bytesBehind c.toNat) := by
  have limit := toNat_lt_limit c
  have code : c.val.toNat = c.toNat := rfl
  rw [String.utf8EncodeChar]
  simp only [code, bytesBehind]
  split_ifs with one two three
  · simp [leadMark, lastBytes]
  · have whole : c.toNat / 64 % 32 = c.toNat / 64 := Nat.mod_eq_of_lt (by omega)
    simp [leadMark, lastBytes, whole]
  · have whole : c.toNat / 4096 % 16 = c.toNat / 4096 := Nat.mod_eq_of_lt (by omega)
    simp [leadMark, lastBytes, whole]
  · have whole : c.toNat / 262144 % 8 = c.toNat / 262144 := Nat.mod_eq_of_lt (by omega)
    simp [leadMark, lastBytes, whole]

theorem ofNat_cons_lt (less : m < n) (small : n < 256) :
    UInt8.ofNat m :: rest < UInt8.ofNat n :: rest' := by
  refine List.cons_lt_cons_iff.2 (.inl ((UInt8.ofNat_lt_iff_lt ?_ small).2 less))
  exact less.trans small

/-- Of two codes, the one with the smaller rest has the smaller last bytes. -/
theorem lastBytes_append_lt (less : m % 64 ^ count < n % 64 ^ count) :
    lastBytes m count ++ rest < lastBytes n count ++ rest' := by
  induction count with
  | zero => simp [Nat.mod_one] at less
  | succ count ih =>
      rw [Nat.mod_pow_succ, Nat.mod_pow_succ] at less
      have small : m % 64 ^ count < 64 ^ count := Nat.mod_lt _ (by positivity)
      have small' : n % 64 ^ count < 64 ^ count := Nat.mod_lt _ (by positivity)
      have digit : n / 64 ^ count % 64 < 64 := Nat.mod_lt _ (by decide)
      rcases Nat.lt_trichotomy (m / 64 ^ count % 64) (n / 64 ^ count % 64) with below | same | above
      · exact ofNat_cons_lt (by omega) (by omega)
      · rw [same] at less
        rw [lastBytes, lastBytes, same]
        exact List.cons_lt_cons_iff.2 (.inr ⟨rfl, ih (by omega)⟩)
      · have := Nat.mul_le_mul_left (64 ^ count) above
        rw [Nat.mul_succ] at this
        omega

/-- The leading byte grows with the number of bytes behind it. -/
theorem leadByte_lt (limit : n < 1114112) (longer : bytesBehind m < bytesBehind n) :
    m / 64 ^ bytesBehind m + leadMark (bytesBehind m) <
      n / 64 ^ bytesBehind n + leadMark (bytesBehind n) := by
  unfold bytesBehind at longer ⊢
  split_ifs at longer ⊢ <;> simp only [leadMark] <;> omega

theorem leadByte_lt_limit (limit : n < 1114112) :
    n / 64 ^ bytesBehind n + leadMark (bytesBehind n) < 256 := by
  unfold bytesBehind
  split_ifs <;> simp only [leadMark] <;> omega

theorem bytesBehind_mono (codes : m < n) : bytesBehind m ≤ bytesBehind n := by
  unfold bytesBehind
  split_ifs <;> omega

/-- The bytes of the smaller of two characters are smaller, whatever follows. -/
theorem utf8EncodeChar_append_lt (less : c < d) :
    String.utf8EncodeChar c ++ rest < String.utf8EncodeChar d ++ rest' := by
  have codes : c.toNat < d.toNat := less
  have limit := toNat_lt_limit d
  rw [utf8EncodeChar_eq, utf8EncodeChar_eq, List.cons_append, List.cons_append]
  rcases Nat.lt_or_eq_of_le (bytesBehind_mono codes) with longer | same
  · exact ofNat_cons_lt (leadByte_lt limit longer) (leadByte_lt_limit limit)
  · rw [same]
    have quotients := Nat.div_le_div_right (c := 64 ^ bytesBehind d.toNat) codes.le
    rcases Nat.lt_or_eq_of_le quotients with lead | lead
    · exact ofNat_cons_lt (Nat.add_lt_add_right lead _) (leadByte_lt_limit limit)
    · have first := Nat.div_add_mod c.toNat (64 ^ bytesBehind d.toNat)
      have second := Nat.div_add_mod d.toNat (64 ^ bytesBehind d.toNat)
      rw [lead] at first ⊢
      exact List.cons_lt_cons_iff.2 (.inr ⟨rfl, lastBytes_append_lt (by omega)⟩)

/-! ### Texts -/

/-- The loop that lists an array of bytes lists those from a position on, behind what it has listed. -/
theorem toList_loop_eq (bytes : ByteArray) (i : Nat) (listed : List UInt8) :
    ByteArray.toList.loop bytes i listed = listed.reverse ++ bytes.data.toList.drop i := by
  fun_induction ByteArray.toList.loop bytes i listed with
  | case1 i listed inside ih =>
      have inside' : i < bytes.data.toList.length := inside
      rw [ih, List.drop_eq_getElem_cons inside', List.reverse_cons, List.append_assoc]
      simp [ByteArray.get!, inside]
  | case2 i listed outside =>
      rw [List.drop_eq_nil_of_le (Nat.le_of_not_lt outside), List.append_nil]

theorem bytesOf_eq (s : String) : bytesOf s = s.toList.flatMap String.utf8EncodeChar := by
  have encoded : s.toUTF8 = (s.toList.flatMap String.utf8EncodeChar).toByteArray := by
    rw [String.toUTF8_eq_toByteArray, ← String.ofList_toList (s := s), String.toByteArray_ofList,
      String.toList_ofList, List.utf8Encode]
  rw [bytesOf, encoded, ByteArray.toList, toList_loop_eq, List.toList_data_toByteArray]
  rfl

theorem flatMap_utf8EncodeChar_lt (less : cs < ds) :
    cs.flatMap String.utf8EncodeChar < ds.flatMap String.utf8EncodeChar := by
  induction less with
  | nil =>
    rw [List.flatMap_cons, utf8EncodeChar_eq]
    exact List.nil_lt_cons _ _
  | rel less => exact utf8EncodeChar_append_lt less
  | cons _ ih => exact List.append_left_lt ih

/-- Texts are in the order of their bytes. -/
theorem bytesOf_lt_iff : bytesOf s < bytesOf t ↔ s < t := by
  have less {s t : String} (less : s < t) : bytesOf s < bytesOf t := by
    rw [bytesOf_eq, bytesOf_eq]
    exact flatMap_utf8EncodeChar_lt (String.lt_iff_toList_lt.1 less)
  refine ⟨fun bytes => ?_, less⟩
  rcases lt_trichotomy s t with before | same | after
  · exact before
  · exact absurd bytes (same ▸ List.lt_irrefl _)
  · exact absurd bytes (List.lt_asymm (less after))

end PluginLisp.Encoding
