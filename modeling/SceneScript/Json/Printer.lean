import SceneScript.Json.Basic
/-!
# Writing JSON

Values in compact form, with every character outside printable ASCII escaped.
-/
namespace SceneScript.Json

/-- A 16-bit unit as an escape. -/
def unitEscape (n : Nat) : Text := '\\' :: 'u' :: Text.hexadecimal 4 n

def escape (c : Char) : Text :=
  let n := c.toNat
  if c = '"' ∨ c = '\\' then ['\\', c]
  else if 0x20 ≤ n ∧ n < 0x7F then [c]
  else if n < 0x10000 then unitEscape n
  else unitEscape (0xD800 + (n - 0x10000) / 0x400) ++ unitEscape (0xDC00 + (n - 0x10000) % 0x400)

def writeQuoted (out : String) (t : Text) : String :=
  ((t.foldl (fun out c => (escape c).foldl String.push out) (out.push '"'))).push '"'

mutual

/-- Writes a value after `out`. -/
def write (out : String) : Json → String
  | .null => out ++ "null"
  | .bool b => out ++ if b then "true" else "false"
  | .natural n => (Text.decimal n).foldl String.push out
  | .otherNumber => out ++ "0.0"
  | .string q => writeQuoted out (q.text?.getD [])
  | .array items => (writeItems (out.push '[') items).push ']'
  | .object members => (writeMembers (out.push '\x7b') members).push '\x7d'

def writeItems (out : String) : List Json → String
  | [] => out
  | [item] => write out item
  | item :: items => writeItems ((write out item).push ',') items

def writeMembers (out : String) : List (Quoted × Json) → String
  | [] => out
  | [(key, value)] => write ((writeQuoted out (key.text?.getD [])).push ':') value
  | (key, value) :: members =>
    writeMembers ((write ((writeQuoted out (key.text?.getD [])).push ':') value).push ',') members

end

def render (value : Json) : String := write "" value

end SceneScript.Json
