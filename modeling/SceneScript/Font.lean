import SceneScript.Charset
/-!
# The font

Which glyph draws a character, and how much room a glyph takes.
-/
namespace SceneScript

/-- A run of characters with consecutive glyphs. -/
structure GlyphRange where
  first : Char
  last : Char
  base : Nat
deriving DecidableEq, Repr

/-- How characters map to glyphs: single characters first, then ranges, then rows of the Big5 code. -/
structure GlyphMap where
  fixed : List (Char × Nat)
  ranges : List GlyphRange
  /-- Characters drawn as another character. -/
  substitutes : List (Char × Char)
  leadMin : UInt8
  trailMin : UInt8
  rowStride : Nat
deriving DecidableEq, Repr

inductive Glyph where
  | index (n : Nat)
  /-- A single-byte character that is never drawn. -/
  | undrawn
  /-- A character without a Big5 code. -/
  | unmapped
deriving DecidableEq, Repr

namespace GlyphMap

def glyph (map : GlyphMap) (c : Char) : Glyph :=
  match map.fixed.lookup c with
  | some n => .index n
  | none =>
    match map.ranges.find? fun r => r.first ≤ c && c ≤ r.last with
    | some r => .index (r.base + (c.toNat - r.first.toNat))
    | none =>
      match Charset.big5.encodeChar? ((map.substitutes.lookup c).getD c) with
      | none => .unmapped
      | some (lead :: trail :: _) =>
        if lead < map.leadMin then .undrawn
        else .index ((lead - map.leadMin).toNat * map.rowStride + (trail - map.trailMin).toNat)
      | some _ => .undrawn

/-- The glyphs of the shipped Big5 font. -/
def shipped : GlyphMap where
  fixed := [
    (' ', 0x0), (',', 0x1), ('.', 0x4), (';', 0x6), (':', 0x7), ('?', 0x8), ('!', 0x9), ('(', 0x1D), (')', 0x1E),
    ('#', 0x6D), ('&', 0x6E), ('+', 0x8F), ('-', 0x90), ('/', 0xBE), ('"', 0x1DA8), ('\x1e', 24), ('\x1f', 11)]
  ranges := [
    ⟨'0', '9', 0x12D⟩, ⟨'A', 'Z', 0x14E⟩, ⟨'a', 'z', 0x168⟩, ⟨'\x01', '\x08', 0x1D2E⟩, ⟨'\x0b', '\x19', 0x1D36⟩,
    ⟨'\x1a', '\x1d', 101⟩]
  substitutes := [('@', '＠')]
  leadMin := 0xA1
  trailMin := 0x40
  rowStride := 191

end GlyphMap

/-- The room glyphs take: four bytes a glyph, of which the second is the width and the third the padding after it. -/
structure FontMetrics where
  data : Array UInt8

namespace FontMetrics

/-- The highest index of a Big5 glyph. -/
def lastGlyph : Nat := 0xFEFE

/-- The width that marks a glyph without metrics. -/
def noWidth : UInt8 := 0xFF

/-- Width and padding of a glyph. Glyphs past the end of the table that a Big5 code can reach take no room. -/
def room? (metrics : FontMetrics) (index : Nat) : Option (UInt8 × UInt8) :=
  match metrics.data[4 * index + 1]?, metrics.data[4 * index + 2]? with
  | some width, some padding => if width = noWidth then none else some (width, padding)
  | _, _ => if index ≤ lastGlyph then some (0, 0) else none

end FontMetrics
end SceneScript
