import SceneScript.Patch.Apply
import SceneScript.Replacement.Message
import SceneScript.Replacement.Set
import SceneScript.Replacement.Strings
/-!
# Merging a replacement set

The strings of a set go to the lines of a dump in order, bucket by bucket; then its patches are applied.
-/
namespace SceneScript.Replacement

/-- What is left of the buckets. -/
structure Cursor where
  names : List Text
  routes : List Text
  strings : List Text
  titles : List Text
  postTitleStrings : List Text
  choices : List (List Text)
  /-- Whether a title has come yet. -/
  titleSeen : Bool := false
  /-- The number of messages so far. -/
  messages : Nat := 0
deriving DecidableEq, Repr

def Cursor.ofSet (set : ReplacementSet) : Cursor where
  names := set.names
  routes := set.routes
  strings := set.strings
  titles := set.titles
  postTitleStrings := set.postTitleStrings
  choices := set.choices

/-- Replaces the first and the last string of a route. -/
def replaceRoute? (line route : Text) : Option Text :=
  match Text.cutAtWord ['/', '/'] route with
  | none => none
  | some (japanese, localised) =>
    match (splitStrings line).2.length with
    | 0 => none
    | count + 1 => replaceStrings? line [(0, Text.trim japanese), (count, Text.trim localised)]

/-- Replaces the options of a choice. A single option is ignored. -/
def replaceOptions? (line : Text) (options : List Text) : Option Text :=
  if 1 < options.length then replaceStrings? line (options.zipIdx.map fun (t, k) => (k, Text.trim t)) else none

def replaceMessage? (line replacement : Text) : Option Text :=
  match Text.cutAt '@' line with
  | none => none
  | some (head, old) => (mergeMessage? old replacement).map (head ++ '@' :: ·)

/-- Merges a line by its name: the new line, if it changes, and what is left of the buckets. -/
def mergeLine (lines : List (Nat × Text)) (cursor : Cursor) (line : Text) : Option Text × Cursor :=
  match lineName? line with
  | none => (none, cursor)
  | some name =>
    if name = "name".toList then
      (cursor.names.head?.bind (replaceLast? line), { cursor with names := cursor.names.tail })
    else if name = "route".toList ∨ name = "route2".toList then
      (cursor.routes.head?.bind (replaceRoute? line), { cursor with routes := cursor.routes.tail })
    else if name = "string".toList then
      if cursor.titleSeen then
        (cursor.postTitleStrings.head?.bind (replaceLast? line),
          { cursor with postTitleStrings := cursor.postTitleStrings.tail })
      else (cursor.strings.head?.bind (replaceLast? line), { cursor with strings := cursor.strings.tail })
    else if name = "title".toList then
      (cursor.titles.head?.bind (replaceLast? line), { cursor with titles := cursor.titles.tail, titleSeen := true })
    else if name = "select".toList then
      (cursor.choices.head?.bind (replaceOptions? line), { cursor with choices := cursor.choices.tail })
    else if name = "message".toList then
      let number := cursor.messages + 1
      ((lines.lookup number).bind (replaceMessage? line), { cursor with messages := number })
    else (none, cursor)

/-- Merges lines in order: the lines, last first, and whether any changed. -/
def mergeLines (numbered : List (Nat × Text)) (cursor : Cursor) (done : List Text) (changed : Bool) :
    List Text → List Text × Bool
  | [] => (done.reverse, changed)
  | line :: more =>
    match mergeLine numbered cursor line with
    | (some merged, cursor) => mergeLines numbered cursor (merged :: done) true more
    | (none, cursor) => mergeLines numbered cursor (line :: done) changed more

/-- Merges a set into the dump of an entry; none if it changes nothing. -/
def merge (entry : String) (dump : Text) (set : ReplacementSet) : Except PatchError (Option Text) × Log :=
  let (lines, changed) := mergeLines set.lines (Cursor.ofSet set) [] false (dump.splitOn '\n')
  if !changed && set.patches.isEmpty then (.ok none, [])
  else
    let (result, log) := applyPatches entry (Text.joinLines lines) set.patches
    (result.map some, log)

end SceneScript.Replacement
