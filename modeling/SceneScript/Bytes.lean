import SceneScript.Text.Number
import SceneScript.Text.Utf8
/-!
# Bytes

Little-endian words and hexadecimal dumps of bytes.
-/
namespace SceneScript.Bytes

/-- A word of two bytes, low byte first. -/
def word16 (n : Nat) : Bytes := [UInt8.ofNat n, UInt8.ofNat (n / 256)]

/-- A word of four bytes, low byte first. -/
def word32 (n : Nat) : Bytes := word16 n ++ word16 (n / 65536)

/-- The value of bytes as one word, low byte first. -/
def value : Bytes → Nat
  | [] => 0
  | b :: rest => b.toNat + 256 * value rest

/-- The two upper-case hexadecimal digits of a byte. -/
def hexPair (b : UInt8) : Text :=
  [Text.hexDigit (b.toNat / 16), Text.hexDigit (b.toNat % 16)]

/-- Hexadecimal pairs with a dash between each two. -/
def hex (bytes : Bytes) : Text := ['-'].intercalate (bytes.map hexPair)

theorem value_word16 {n : Nat} (h : n < 65536) : value (word16 n) = n := by
  simp only [value, word16, UInt8.toNat_ofNat']
  omega

theorem value_word32 {n : Nat} (h : n < 4294967296) : value (word32 n) = n := by
  simp only [value, word32, word16, List.cons_append, List.nil_append, UInt8.toNat_ofNat']
  omega

end SceneScript.Bytes
