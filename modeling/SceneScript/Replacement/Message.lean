import SceneScript.Text.Basic
/-!
# Messages

A new message keeps the speaker in front of the old one and the codes at its end, unless it brings its own ending after
`%R`.
-/
namespace SceneScript.Replacement

/-- The run of two-character codes `%X` that a text ends with, never the whole text. -/
def trailingCodes (t : Text) : Text :=
  go [] t.reverse
where
  go (codes : Text) : Text → Text
    | code :: '%' :: c :: earlier => if code = '%' then codes else go ('%' :: code :: codes) (c :: earlier)
    | _ => codes

/-- The message that takes the place of an old one. A spoken message keeps its speaker and opening bracket; one that has
a speaker but no opening bracket is not replaced. -/
def mergeMessage? (old replacement : Text) : Option Text :=
  let (replacement, ending?) := match Text.cutAtWord ['%', 'R'] replacement with
    | some (before, after) => (before, some after)
    | none => (replacement, none)
  if old.head? ≠ some '【' then some (replacement ++ ending?.getD (trailingCodes old))
  else
    match Text.cutAt '「' old with
    | none => none
    | some (speaker, spoken) =>
      let front := speaker ++ '「' :: replacement
      match Text.cutAtLast '」' spoken with
      | some (_, after) => some (front ++ ending?.getD ('」' :: after))
      | none => some (front ++ '」' :: ending?.getD (trailingCodes spoken))

end SceneScript.Replacement
