import SceneScript.Font
import SceneScript.Log
import SceneScript.Text.Number
/-!
# Line wrap

Turns spaces of a line of dialogue into `%N` breaks so that no line grows wider than the text box. Two-character
codes `%X` take no room, and a `%N` or `%P` starts a new line. Words wider than a whole line are left to overflow.
-/
namespace SceneScript

/-- The width of the text box and the glyphs to measure with. -/
structure WrapConfig where
  maxLineWidth : Nat
  glyphs : GlyphMap
deriving DecidableEq, Repr

/-- The text box of the shipped game. -/
def WrapConfig.shipped : WrapConfig := ⟨560, GlyphMap.shipped⟩

namespace Prose

/-- The code that goes on after a percent sign: how many characters it takes and whether a new line starts after it.
The digits after `%O` belong to it, and `%%` is no code. -/
def codeAfter? (t : Text) : Option (Nat × Bool) :=
  match t with
  | [] => none
  | c :: rest =>
    if c = 'N' ∨ c = 'P' then some (1, true)
    else if c = '%' then none
    else if c = 'O' then some (1 + (rest.takeWhile Char.isDigit).length, false)
    else some (1, false)

/-- Width and padding of a character, or none if it is not drawn. A character without a glyph takes no room and is
reported. -/
def roomOf (metrics : FontMetrics) (config : WrapConfig) (c : Char) : Option (Nat × Nat) × Log :=
  match config.glyphs.glyph c with
  | .undrawn => (none, [])
  | .unmapped => (some (0, 0), [Log.warn ("No glyph for char '" ++ c.toString ++ "'")])
  | .index n =>
    match metrics.room? n with
    | some (width, padding) => (some (width.toNat, padding.toNat), [])
    | none =>
      (some (0, 0),
        [Log.warn ("Invalid glyph index " ++ Text.showNumber n ++ " for char '" ++ c.toString ++ "'")])

/-- The nearest space before a character that does not lead into a dash, searched in the reversed text before it: what
comes before the space, reversed, and what comes after. The search ends at a code, and the scan's first character is
no break. -/
def breakBefore? (next : Char) (scanned after : Text) : Option (Text × Text) :=
  match scanned with
  | [] | [_] => none
  | c :: earlier@(_ :: _) =>
    if c = ' ' ∧ next ≠ '—' then some (earlier, after)
    else if c = '%' ∧ next ≠ '%' then none
    else breakBefore? c earlier (c :: after)

/-- Characters that take no room in a line. -/
def isWeightless (c : Char) : Bool := c == '⑩' || c == '\u3000'

/-- Where a spoken text begins: up to its opening quote, and from it on. -/
def splitSpoken? (t : Text) : Option (Text × Text) :=
  (Text.cutAtWord ['】', '“'] t).map fun (before, after) => (before ++ ['】'], '“' :: after)

theorem count_breakBefore? {next : Char} {scanned after earlier between : Text}
    (h : breakBefore? next scanned after = some (earlier, between)) :
    earlier.count ' ' + between.count ' ' < scanned.count ' ' + after.count ' ' := by
  induction scanned generalizing next after with
  | nil => simp [breakBefore?] at h
  | cons c rest ih =>
    cases rest with
    | nil => simp [breakBefore?] at h
    | cons d tail =>
      simp only [breakBefore?] at h
      split at h
      · rename_i hc
        simp only [Option.some.injEq, Prod.mk.injEq] at h
        obtain ⟨rfl, rfl⟩ := h
        simp [hc.1]
      · split at h
        · cases h
        · have := ih h
          simp only [List.count_cons] at this ⊢
          omega

/-- Scans `rest`, with what was scanned before it in `done`, reversed, and the width of the line so far. Each break
uses up a space, so the scan ends although it goes back after a break. -/
def wrapFrom (metrics : FontMetrics) (config : WrapConfig) (spoken : Bool) (width : Nat) (done : Text) (log : Log)
    (rest : Text) : Text × Log :=
  match rest with
  | [] => (done.reverse, log.reverse)
  | c :: tail =>
    if spoken ∧ c = '%' ∧ done.head? = some '”' then (done.reverse ++ rest, log.reverse)
    else
      match if c = '%' then codeAfter? tail else none with
      | some (len, resets) =>
        wrapFrom metrics config spoken (if resets then 0 else width) ((tail.take len).reverse ++ c :: done) log
          (tail.drop len)
      | none =>
        if isWeightless c then wrapFrom metrics config spoken width (c :: done) log tail
        else
          let (room, warnings) := roomOf metrics config c
          match room with
          | none => wrapFrom metrics config spoken width (c :: done) log tail
          | some (glyphWidth, padding) =>
            let log := warnings ++ log
            let width := width + glyphWidth
            if config.maxLineWidth < width ∧ c ≠ ' ' then
              match _found : breakBefore? c done [] with
              | some (earlier, between) =>
                wrapFrom metrics config spoken 0 ('N' :: '%' :: earlier) log (between ++ c :: tail)
              | none => wrapFrom metrics config spoken (width + padding) (c :: done) log tail
            else wrapFrom metrics config spoken (width + padding) (c :: done) log tail
termination_by (done.count ' ' + rest.count ' ', rest.length)
decreasing_by
  all_goals simp only [Prod.lex_def, List.count_append, List.count_reverse, List.count_cons, List.length_cons,
    List.length_drop, Nat.lt_add_one, and_true]
  · have := congrArg (List.count ' ') (List.take_append_drop len tail)
    simp only [List.count_append] at this
    omega
  · omega
  · omega
  · have := count_breakBefore? ‹_›
    simp at this ⊢
    omega
  · omega
  · omega

/-- Wraps a text. A spoken text is wrapped from its opening quote to its closing one. -/
def wrapLines (metrics : FontMetrics) (config : WrapConfig) (t : Text) : Text × Log :=
  match splitSpoken? t with
  | some (speaker, speech) =>
    let (wrapped, log) := wrapFrom metrics config true 0 [] [] speech
    (speaker ++ wrapped, log)
  | none => wrapFrom metrics config false 0 [] [] t

end Prose
end SceneScript
