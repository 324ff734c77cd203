import SceneScript.Prose.English
import SceneScript.Prose.Wrap
import SceneScript.Prose.Speakers
/-!
# The typesetter

Everything that happens to a string on its way from a dump to the bytes of the string pool: guillemets, English
typography, line wrap, speaker names, and at last the character set.
-/
namespace SceneScript

structure Typesetter where
  target : Charset
  english : Bool
  wraps : Bool
  wrap : WrapConfig
  /-- Without metrics no line is wrapped. -/
  metrics? : Option FontMetrics
  speakers : Speakers

namespace Typesetter

/-- Only swaps guillemets and encodes. -/
def plain (target : Charset) : Typesetter where
  target := target
  english := false
  wraps := false
  wrap := WrapConfig.shipped
  metrics? := none
  speakers := Speakers.empty

/-- The text as it will be encoded. Lines are wrapped only in Big5 and after the English typography, whose curly quotes
show where speech begins. -/
def set (ts : Typesetter) (t : Text) : Text × Log :=
  let t := Prose.replaceGuillemets t
  let (t, log) :=
    if ts.english then
      let t := Prose.applyEnglish t
      match ts.metrics? with
      | some metrics =>
        if ts.wraps && ts.target == .big5 then Prose.wrapLines metrics ts.wrap t else (t, [])
      | none => (t, [])
    else (t, [])
  (ts.speakers.substitute ts.target t, log)

/-- The bytes of a text, or the first character of the text as set that has no code. -/
def encode (ts : Typesetter) (t : Text) : Except Char Bytes × Log :=
  let (t, log) := ts.set t
  (ts.target.encode t, log)

@[simp] theorem set_plain (target : Charset) (t : Text) :
    (plain target).set t = (Prose.replaceGuillemets t, []) := by
  simp [set, plain, Speakers.substitute_empty]

end Typesetter
end SceneScript
