import SceneScript.Text.Number
/-!
# JSON values

Values as they are written: the members of an object keep their order and their repetitions, and a number is told
apart only if it is a natural number written as plain digits, the only kind this library reads.
-/
namespace SceneScript

/-- A string literal: its text, unless it names half of a surrogate pair, and whether it is written without escapes. -/
structure Quoted where
  text? : Option Text
  plain : Bool
deriving DecidableEq, Repr, Inhabited

inductive Json where
  | null
  | bool (b : Bool)
  | natural (n : Nat)
  /-- A number that is negative or has a fraction or an exponent. -/
  | otherNumber
  | string (q : Quoted)
  | array (items : List Json)
  | object (members : List (Quoted × Json))
deriving Repr, Inhabited

namespace Json

/-- The string value of a text. -/
def text (t : Text) : Json := .string ⟨some t, true⟩

def str (s : String) : Json := text s.toList

/-- An object with the given names and values. -/
def fields (members : List (String × Json)) : Json :=
  .object (members.map fun (name, value) => (⟨some name.toList, true⟩, value))

def list {α : Type} (f : α → Json) (items : List α) : Json := .array (items.map f)

def option {α : Type} (f : α → Json) : Option α → Json
  | none => .null
  | some a => f a

end Json
end SceneScript
