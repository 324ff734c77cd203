import SceneScript.Json.Decode
import SceneScript.Patch.Plan
/-!
# Replacement sets

The new strings of an entry, in buckets by the kind of line they go to, and the patches that come with them. An empty
string keeps the old one.
-/
namespace SceneScript

structure ReplacementSet where
  names : List Text
  /-- Pairs of a Japanese and a localised route, with `//` between them. -/
  routes : List Text
  /-- Strings before the first title. -/
  strings : List Text
  titles : List Text
  /-- Strings after the first title. -/
  postTitleStrings : List Text
  /-- Messages by number, counted from one. -/
  lines : List (Nat × Text)
  /-- The options of each choice. -/
  choices : List (List Text)
  patches : List Patch
deriving DecidableEq, Repr

namespace ReplacementSet

def empty : ReplacementSet := ⟨[], [], [], [], [], [], [], []⟩

/-- Numbered texts in order of their numbers; of texts with the same number the last is kept. -/
def sortLines (lines : List (Nat × Text)) : List (Nat × Text) :=
  lines.foldl (fun sorted (n, t) => insert n t sorted) []
where
  insert (n : Nat) (t : Text) : List (Nat × Text) → List (Nat × Text)
    | [] => [(n, t)]
    | (m, u) :: more =>
      if n < m then (n, t) :: (m, u) :: more
      else if n = m then (n, t) :: more
      else (m, u) :: insert n t more

def patchOfJson? (value : Json) : Option Patch := do (Patch.parse (← value.asText?)).toOption

def ofJson? (value : Json) : Option ReplacementSet :=
  match value.asRecord?
    ["names", "routes", "strings", "titles", "post_title_strings", "lines", "choices", "patches"] with
  | some [names, routes, strings, titles, postTitleStrings, lines, choices, patches] => do
    let texts := Json.fieldOr [] (Json.asList? Json.asText?)
    some {
      names := ← texts names
      routes := ← texts routes
      strings := ← texts strings
      titles := ← texts titles
      postTitleStrings := ← texts postTitleStrings
      lines := sortLines (← Json.fieldOr [] (Json.asNumbered? Text.numberBound Json.asText?) lines)
      choices := ← Json.fieldOr [] (Json.asList? (Json.asList? Json.asText?)) choices
      patches := ← Json.fieldOr [] (Json.asList? patchOfJson?) patches }
  | _ => none

def toJson (set : ReplacementSet) : Json :=
  let texts := Json.list Json.text
  .fields [
    ("names", texts set.names),
    ("routes", texts set.routes),
    ("strings", texts set.strings),
    ("titles", texts set.titles),
    ("post_title_strings", texts set.postTitleStrings),
    ("lines", .object (set.lines.map fun (n, t) => (⟨some (Text.decimal n), true⟩, .text t))),
    ("choices", .list texts set.choices),
    ("patches", .list (fun p => .text p.render) set.patches)]

end ReplacementSet
end SceneScript
