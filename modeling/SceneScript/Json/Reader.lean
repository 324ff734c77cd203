import SceneScript.Json.Basic
/-!
# Reading JSON

A strict reader: one value and nothing after it, no trailing comma, no comment, no control character in a string.
-/
namespace SceneScript.Json

/-- Drops the white space that may stand between tokens. -/
def skipSpace (t : Text) : Text :=
  t.dropWhile fun c => c = ' ' || c = '\n' || c = '\t' || c = '\r'

/-- The part of a string literal read so far. -/
structure Unquoted where
  /-- The characters, last first. -/
  done : Text := []
  /-- An upper surrogate that waits for its partner. -/
  upper? : Option Nat := none
  sound : Bool := true
  plain : Bool := true

namespace Unquoted

/-- Gives up on an upper surrogate that did not find its partner. -/
def settle (u : Unquoted) : Unquoted :=
  if u.upper?.isSome then { u with upper? := none, sound := false } else u

def push (u : Unquoted) (c : Char) : Unquoted :=
  let u := u.settle
  { u with done := c :: u.done }

def pushEscaped (u : Unquoted) (c : Char) : Unquoted := { u.push c with plain := false }

/-- Adds a 16-bit unit given by number. -/
def pushUnit (u : Unquoted) (unit : Nat) : Unquoted :=
  if 0xDC00 ≤ unit ∧ unit ≤ 0xDFFF then
    match u.upper? with
    | some upper =>
      { u with
        done := Char.ofNat (0x10000 + 0x400 * (upper - 0xD800) + (unit - 0xDC00)) :: u.done
        upper? := none
        plain := false }
    | none => { u with sound := false, plain := false }
  else if 0xD800 ≤ unit ∧ unit ≤ 0xDBFF then { u.settle with upper? := some unit, plain := false }
  else u.pushEscaped (Char.ofNat unit)

def finish (u : Unquoted) : Quoted :=
  let u := u.settle
  ⟨if u.sound then some u.done.reverse else none, u.plain⟩

end Unquoted

/-- Reads a string literal after its opening quote. -/
def readString (u : Unquoted) : Text → Option (Quoted × Text)
  | [] => none
  | '"' :: rest => some (u.finish, rest)
  | '\\' :: 'u' :: a :: b :: c :: d :: rest =>
    if [a, b, c, d].all Text.isHexDigit then
      readString (u.pushUnit ([a, b, c, d].foldl (fun n x => 16 * n + Text.hexValue x) 0)) rest
    else none
  | '\\' :: e :: rest =>
    match e with
    | '"' | '\\' | '/' => readString (u.pushEscaped e) rest
    | 'b' => readString (u.pushEscaped '\x08') rest
    | 'f' => readString (u.pushEscaped '\x0c') rest
    | 'n' => readString (u.pushEscaped '\n') rest
    | 'r' => readString (u.pushEscaped '\r') rest
    | 't' => readString (u.pushEscaped '\t') rest
    | _ => none
  | c :: rest => if c.toNat < 0x20 ∨ c = '\\' then none else readString (u.push c) rest

def dropDigits? (t : Text) : Option Text :=
  if (t.takeWhile Char.isDigit).isEmpty then none else some (t.dropWhile Char.isDigit)

/-- Drops a fraction if there is one; whether there was one. -/
def readFraction (t : Text) : Option (Bool × Text) :=
  match t with
  | '.' :: rest => (dropDigits? rest).map (true, ·)
  | _ => some (false, t)

/-- Drops an exponent if there is one; whether there was one. -/
def readExponent (t : Text) : Option (Bool × Text) :=
  match t with
  | e :: rest =>
    if e = 'e' ∨ e = 'E' then
      match rest with
      | '+' :: digits | '-' :: digits => (dropDigits? digits).map (true, ·)
      | digits => (dropDigits? digits).map (true, ·)
    else some (false, t)
  | [] => some (false, t)

def readUnsigned (t : Text) : Option (Json × Text) := do
  let digits := t.takeWhile Char.isDigit
  let rest := t.dropWhile Char.isDigit
  if digits.isEmpty || (digits.head? == some '0' && digits.length != 1) then none
  let (fraction, rest) ← readFraction rest
  let (exponent, rest) ← readExponent rest
  some (if fraction || exponent then .otherNumber else .natural (Text.decimalValue digits), rest)

mutual

def readValue : Nat → Text → Option (Json × Text)
  | 0, _ => none
  | fuel + 1, t =>
    match skipSpace t with
    | '"' :: rest => (readString {} rest).map fun (q, rest) => (.string q, rest)
    | '[' :: rest =>
      match skipSpace rest with
      | ']' :: rest => some (.array [], rest)
      | rest => readItems fuel [] rest
    | '{' :: rest =>
      match skipSpace rest with
      | '}' :: rest => some (.object [], rest)
      | rest => readMembers fuel [] rest
    | 'n' :: 'u' :: 'l' :: 'l' :: rest => some (.null, rest)
    | 't' :: 'r' :: 'u' :: 'e' :: rest => some (.bool true, rest)
    | 'f' :: 'a' :: 'l' :: 's' :: 'e' :: rest => some (.bool false, rest)
    | '-' :: rest => (readUnsigned rest).map fun (_, rest) => (.otherNumber, rest)
    | rest => readUnsigned rest

def readItems : Nat → List Json → Text → Option (Json × Text)
  | 0, _, _ => none
  | fuel + 1, done, t =>
    match readValue fuel t with
    | none => none
    | some (item, rest) =>
      match skipSpace rest with
      | ',' :: rest => readItems fuel (item :: done) rest
      | ']' :: rest => some (.array (item :: done).reverse, rest)
      | _ => none

def readMembers : Nat → List (Quoted × Json) → Text → Option (Json × Text)
  | 0, _, _ => none
  | fuel + 1, done, t =>
    match skipSpace t with
    | '"' :: rest =>
      match readString {} rest with
      | none => none
      | some (key, rest) =>
        match skipSpace rest with
        | ':' :: rest =>
          match readValue fuel rest with
          | none => none
          | some (value, rest) =>
            match skipSpace rest with
            | ',' :: rest => readMembers fuel ((key, value) :: done) rest
            | '}' :: rest => some (.object ((key, value) :: done).reverse, rest)
            | _ => none
        | _ => none
    | _ => none

end

def parse? (t : Text) : Option Json :=
  match readValue (2 * t.length + 2) t with
  | some (value, rest) => if (skipSpace rest).isEmpty then some value else none
  | none => none

end SceneScript.Json
