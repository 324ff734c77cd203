import SceneScript.Files.Path
import SceneScript.Prose.Typesetter
import SceneScript.Json.Decode
/-!
# Settings

What a settings file can say, and its form in JSON. A field that is not given has its default.
-/
namespace SceneScript

structure Settings where
  /-- The game's directory, the one that holds `FILE`. -/
  gamePath : Path
  target : Charset
  english : Bool
  wraps : Bool
  wrap : WrapConfig
  /-- The entry of the font archive that holds the metrics. -/
  fontEntry : String
  /-- The file with the table of speaker names. -/
  speakers? : Option Path
deriving DecidableEq, Repr

def Settings.default : Settings where
  gamePath := "."
  target := .big5
  english := true
  wraps := true
  wrap := WrapConfig.shipped
  fontEntry := "DFKYK424.FNI"
  speakers? := none

/-- Words of the font and of glyph numbers have 32 bits. -/
def wordBound : Nat := 0x100000000

/-- A character set is given by name, or as an object whose only member has that name and no value. -/
def Charset.ofJson? : Json → Option Charset
  | .string q => do Charset.ofName? (String.ofList (← q.text?))
  | .object [(key, .null)] => do Charset.ofName? (String.ofList (← key.text?))
  | _ => none

def Charset.toJson (cs : Charset) : Json := .str cs.name

def charToJson (c : Char) : Json := .text [c]

def GlyphRange.ofJson? (value : Json) : Option GlyphRange :=
  match value.asRecord? ["first", "last", "base"] with
  | some [some first, some last, some base] => do
    some ⟨← first.asChar?, ← last.asChar?, ← base.asNatBelow? wordBound⟩
  | _ => none

def GlyphRange.toJson (r : GlyphRange) : Json :=
  .fields [("first", charToJson r.first), ("last", charToJson r.last), ("base", .natural r.base)]

def asByte? (value : Json) : Option UInt8 := (value.asNatBelow? 256).map UInt8.ofNat

def GlyphMap.ofJson? (value : Json) : Option GlyphMap :=
  let d := GlyphMap.shipped
  match value.asRecord? ["fixed", "ranges", "substitutes", "lead_min", "trail_min", "row_stride"] with
  | some [fixed, ranges, substitutes, leadMin, trailMin, rowStride] => do
    some {
      fixed := ← Json.fieldOr d.fixed (Json.asList? (Json.asPair? Json.asChar? (Json.asNatBelow? wordBound))) fixed
      ranges := ← Json.fieldOr d.ranges (Json.asList? GlyphRange.ofJson?) ranges
      substitutes := ← Json.fieldOr d.substitutes (Json.asList? (Json.asPair? Json.asChar? Json.asChar?)) substitutes
      leadMin := ← Json.fieldOr d.leadMin asByte? leadMin
      trailMin := ← Json.fieldOr d.trailMin asByte? trailMin
      rowStride := ← Json.fieldOr d.rowStride (Json.asNatBelow? wordBound) rowStride }
  | _ => none

def GlyphMap.toJson (map : GlyphMap) : Json :=
  .fields [
    ("fixed", .list (fun (c, n) => .array [charToJson c, .natural n]) map.fixed),
    ("ranges", .list GlyphRange.toJson map.ranges),
    ("substitutes", .list (fun (c, d) => .array [charToJson c, charToJson d]) map.substitutes),
    ("lead_min", .natural map.leadMin.toNat),
    ("trail_min", .natural map.trailMin.toNat),
    ("row_stride", .natural map.rowStride)]

def WrapConfig.ofJson? (value : Json) : Option WrapConfig :=
  match value.asRecord? ["max_line_width", "glyphs"] with
  | some [width, glyphs] => do
    some ⟨← Json.fieldOr WrapConfig.shipped.maxLineWidth (Json.asNatBelow? wordBound) width,
      ← Json.fieldOr WrapConfig.shipped.glyphs GlyphMap.ofJson? glyphs⟩
  | _ => none

def WrapConfig.toJson (config : WrapConfig) : Json :=
  .fields [("max_line_width", .natural config.maxLineWidth), ("glyphs", config.glyphs.toJson)]

/-- A table of speaker names is an array of pairs. -/
def Speakers.ofJson? (value : Json) : Option Speakers :=
  (value.asList? (Json.asPair? Json.asText? Json.asText?)).map Speakers.mk

def Speakers.toJson (table : Speakers) : Json :=
  .list (fun (japanese, localised) => .array [.text japanese, .text localised]) table.pairs

namespace Settings

/-- A path that may be left out by `null`. -/
def asPath? : Json → Option (Option String)
  | .null => some none
  | value => value.asString?.map some

def ofJson? (value : Json) : Option Settings :=
  let d := Settings.default
  match value.asRecord?
    ["game_path", "target_encoding", "en_tweaks", "line_wrap", "wrap", "font_entry", "name_table"] with
  | some [gamePath, target, english, wraps, wrap, fontEntry, speakers] => do
    some {
      gamePath := ← Json.fieldOr d.gamePath Json.asString? gamePath
      target := ← Json.fieldOr d.target Charset.ofJson? target
      english := ← Json.fieldOr d.english Json.asBool? english
      wraps := ← Json.fieldOr d.wraps Json.asBool? wraps
      wrap := ← Json.fieldOr d.wrap WrapConfig.ofJson? wrap
      fontEntry := ← Json.fieldOr d.fontEntry Json.asString? fontEntry
      speakers? := ← Json.fieldOr d.speakers? asPath? speakers }
  | _ => none

def toJson (s : Settings) : Json :=
  .fields [
    ("game_path", .str s.gamePath),
    ("target_encoding", s.target.toJson),
    ("en_tweaks", .bool s.english),
    ("line_wrap", .bool s.wraps),
    ("wrap", s.wrap.toJson),
    ("font_entry", .str s.fontEntry),
    ("name_table", .option .str s.speakers?)]

end Settings
end SceneScript
