import SceneScript.Text.Basic
/-!
# UTF-8

Bytes to text in two ways: strictly, or with `�` for every part that is no character. Such a part is the longest
beginning of a well-formed sequence, or one byte where no sequence can begin.
-/
namespace SceneScript

abbrev Bytes := List UInt8

namespace Utf8

def encode (t : Text) : Bytes := t.flatMap String.utf8EncodeChar

/-- How a sequence goes on after its first byte: the bounds of the second byte, the number of bytes after that, and
the bits the first byte contributes. -/
structure Opening where
  low : UInt8
  high : UInt8
  more : Nat
  bits : Nat

/-- The opening of a sequence of several bytes, by its first byte. -/
def opening? (b : UInt8) : Option Opening :=
  let n := b.toNat
  if 0xC2 ≤ n ∧ n ≤ 0xDF then some ⟨0x80, 0xBF, 0, n - 0xC0⟩
  else if n = 0xE0 then some ⟨0xA0, 0xBF, 1, 0⟩
  else if n = 0xED then some ⟨0x80, 0x9F, 1, 0xD⟩
  else if 0xE1 ≤ n ∧ n ≤ 0xEF then some ⟨0x80, 0xBF, 1, n - 0xE0⟩
  else if n = 0xF0 then some ⟨0x90, 0xBF, 2, 0⟩
  else if 0xF1 ≤ n ∧ n ≤ 0xF3 then some ⟨0x80, 0xBF, 2, n - 0xF0⟩
  else if n = 0xF4 then some ⟨0x80, 0x8F, 2, 4⟩
  else none

/-- The bits of a byte that continues a sequence. -/
def continuation? (b : UInt8) : Option Nat :=
  if 0x80 ≤ b ∧ b ≤ 0xBF then some (b.toNat - 0x80) else none

/-- Takes `more` continuation bytes off the front: the code point if all are there, and how many were. -/
def continued (bits taken : Nat) : Nat → Bytes → Option Nat × Nat
  | 0, _ => (some bits, taken)
  | _ + 1, [] => (none, taken)
  | more + 1, b :: rest =>
    match continuation? b with
    | some low => continued (64 * bits + low) (taken + 1) more rest
    | none => (none, taken)

/-- The character at the front, if there is one, and how many further bytes it or the broken part takes. -/
def front (b : UInt8) (rest : Bytes) : Option Char × Nat :=
  if b < 0x80 then (some (Char.ofNat b.toNat), 0)
  else match opening? b, rest with
    | some o, second :: tail =>
      if o.low ≤ second ∧ second ≤ o.high then
        let (code, taken) := continued (64 * o.bits + (second.toNat - 0x80)) 1 o.more tail
        (code.map Char.ofNat, taken)
      else (none, 0)
    | _, _ => (none, 0)

/-- Reads a text; a broken part makes the whole reading fail. -/
def decode? (bytes : Bytes) : Option Text :=
  go [] 0 bytes
where
  /-- `skip` counts the bytes ahead that belong to the character read last. -/
  go (done : Text) : Nat → Bytes → Option Text
    | _, [] => some done.reverse
    | skip + 1, _ :: rest => go done skip rest
    | 0, b :: rest =>
      match front b rest with
      | (some c, taken) => go (c :: done) taken rest
      | (none, _) => none

/-- Reads a text with `�` for each broken part. -/
def decodeLossy (bytes : Bytes) : Text :=
  go [] 0 bytes
where
  go (done : Text) : Nat → Bytes → Text
    | _, [] => done.reverse
    | skip + 1, _ :: rest => go done skip rest
    | 0, b :: rest =>
      match front b rest with
      | (some c, taken) => go (c :: done) taken rest
      | (none, taken) => go ('\uFFFD' :: done) taken rest

end Utf8
end SceneScript
