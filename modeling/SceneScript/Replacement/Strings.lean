import SceneScript.Dump.Row
import SceneScript.Text.Blank
/-!
# The strings of a line

A line of a dump is taken apart into what comes before its strings and the strings, and put together again.
-/
namespace SceneScript.Replacement

/-- Reads the strings at the front of a text: those between `§` signs, then the one after `@`. A string whose second
`§` is missing runs up to the end. -/
def readStrings (done : List Text) (t : Text) : List Text :=
  match t with
  | '§' :: quoted =>
    match _ : Text.cutAt '§' quoted with
    | some (s, rest) => readStrings (s :: done) (Text.trimStart rest)
    | none => (quoted :: done).reverse
  | '@' :: last => (last :: done).reverse
  | _ => done.reverse
termination_by t.length
decreasing_by
  have hquoted := congrArg List.length (Text.cutAt_eq_some ‹Text.cutAt '§' quoted = _›).1
  have hrest := (List.dropWhile_sublist isBlank (l := rest)).length_le
  simp only [List.length_append, List.length_cons, Text.trimStart] at hquoted hrest ⊢
  omega

def opensString (c : Char) : Bool := c == '§' || c == '@'

def splitStrings (line : Text) : Text × List Text :=
  match line.dropWhile fun c => !opensString c with
  | [] => (line, [])
  | rest => (Text.trimEnd (line.takeWhile fun c => !opensString c), readStrings [] rest)

def joinStrings (head : Text) (strings : List Text) : Text := head ++ showStrings strings

/-- Replaces strings by number. An empty text or a number past the last string changes nothing; none if nothing
changes. -/
def replaceStrings? (line : Text) (replacements : List (Nat × Text)) : Option Text :=
  let (head, strings) := splitStrings line
  let effective := replacements.filter fun (k, t) => !t.isEmpty && k < strings.length
  if effective.isEmpty then none
  else some (joinStrings head (effective.foldl (fun strings (k, t) => strings.set k t) strings))

def replaceLast? (line t : Text) : Option Text :=
  match (splitStrings line).2.length with
  | 0 => none
  | count + 1 => replaceStrings? line [(count, t)]

end SceneScript.Replacement
