import SceneScript.Json.Basic
/-!
# Values of a given shape

Readers that take a JSON value apart or refuse it. A record may be an object, whose unknown members are ignored and
whose known members stand once, or an array of its fields in order.
-/
namespace SceneScript.Json

def asText? : Json → Option Text
  | .string q => q.text?
  | _ => none

def asString? (value : Json) : Option String := value.asText?.map String.ofList

def asBool? : Json → Option Bool
  | .bool b => some b
  | _ => none

def asNatBelow? (bound : Nat) : Json → Option Nat
  | .natural n => if n < bound then some n else none
  | _ => none

def asChar? (value : Json) : Option Char :=
  match value.asText? with
  | some [c] => some c
  | _ => none

def asList? {α : Type} (f : Json → Option α) : Json → Option (List α)
  | .array items => items.mapM f
  | _ => none

def asPair? {α β : Type} (f : Json → Option α) (g : Json → Option β) : Json → Option (α × β)
  | .array [a, b] => do some (← f a, ← g b)
  | _ => none

/-- The values of a record's fields, in the order of their names; none for a field that is not given. -/
def asRecord? (names : List String) : Json → Option (List (Option Json))
  | .array items =>
    if items.length ≤ names.length then
      some (items.map some ++ List.replicate (names.length - items.length) none)
    else none
  | .object members =>
    if members.any fun (key, _) => key.text?.isNone then none
    else
      names.mapM fun name =>
        match members.filter fun (key, _) => key.text? == some name.toList with
        | [] => some none
        | [(_, value)] => some (some value)
        | _ => none
  | _ => none

/-- The value of a field, or its default if the field is not given. -/
def fieldOr {α : Type} (default : α) (f : Json → Option α) : Option Json → Option α
  | none => some default
  | some value => f value

/-- An object whose keys are natural numbers below a bound, written as plain digits. Of members with the same key the
last counts. -/
def asNumbered? {α : Type} (bound : Nat) (f : Json → Option α) : Json → Option (List (Nat × α))
  | .object members =>
    members.mapM fun (key, value) => do
      let digits ← key.text?
      if !key.plain || digits.isEmpty || !digits.all Char.isDigit then none
      if digits.head? == some '0' && digits.length != 1 then none
      if Text.decimalValue digits ≥ bound then none
      some (Text.decimalValue digits, ← f value)
  | _ => none

end SceneScript.Json
