import SceneScript.Text.Blank
/-!
# The name of a line

What a line of a dump is about, found without assembling it.
-/
namespace SceneScript

/-- The name in front of the first full stop, after any label definitions. Blank lines, comments and lines without a
full stop have none. -/
def lineName? (line : Text) : Option Text :=
  match _ : Text.trimStart line with
  | '&' :: rest =>
    match _ : Text.cutAt ':' rest with
    | none => none
    | some (_, tail) => lineName? tail
  | '#' :: _ => none
  | rest => (Text.cutAt '.' rest).map Prod.fst
termination_by line.length
decreasing_by
  have hrest := congrArg List.length (Text.cutAt_eq_some ‹Text.cutAt ':' rest = _›).1
  have hdrop := (List.dropWhile_sublist isBlank (l := line)).length_le
  rw [← Text.trimStart, ‹Text.trimStart line = _›] at hdrop
  simp only [List.length_append, List.length_cons] at hrest hdrop
  omega

end SceneScript
