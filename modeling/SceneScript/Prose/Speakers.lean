import SceneScript.Charset
/-!
# Speaker names

A line of dialogue begins with its speaker's name in lenticular brackets. A table pairs the Japanese names with their
localised forms: text bound for Big5 gets the localised name, text bound for Shift-JIS the Japanese one.
-/
namespace SceneScript

/-- Pairs of a Japanese and a localised name, brackets included. Where a name appears twice, the last pair counts. -/
structure Speakers where
  pairs : List (Text × Text)
deriving DecidableEq, Repr, Inhabited

namespace Speakers

def empty : Speakers := ⟨[]⟩

/-- The form of a bracketed name in the other language. -/
def counterpart? (table : Speakers) (target : Charset) (name : Text) : Option Text :=
  match target with
  | .big5 => (table.pairs.reverse.find? fun (japanese, _) => japanese = name).map Prod.snd
  | .shiftJis => (table.pairs.reverse.find? fun (_, localised) => localised = name).map Prod.fst

/-- The bracketed name at the front of a text, and the rest. -/
def splitName? (t : Text) : Option (Text × Text) :=
  match t with
  | '【' :: _ => (Text.cutAt '】' t).map fun (name, rest) => (name ++ ['】'], rest)
  | _ => none

def substitute (table : Speakers) (target : Charset) (t : Text) : Text :=
  match splitName? t with
  | none => t
  | some (name, rest) =>
    match table.counterpart? target name with
    | some other => other ++ rest
    | none => t

theorem substitute_empty (target : Charset) (t : Text) : empty.substitute target t = t := by
  unfold substitute
  split
  · rfl
  · cases target <;> rfl

end Speakers
end SceneScript
