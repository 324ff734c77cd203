import SceneScript.Charset
import SceneScript.Opcode
import SceneScript.Text.Number
import SceneScript.Text.Blank
/-!
# Reading the lines of a dump

A line begins with label definitions `&name:`, then has a name, a full stop and a length, then its operands and
strings. Blank lines and lines without a full stop say nothing, and so does anything from `#` on in front of a name.
-/
namespace SceneScript

inductive LineFault where
  | unknownOpcode (name : Text)
  | missingLength
  | badLength (digits : Text)
  | lengthMismatch (expected actual : Nat)
  | trailerLength (expected actual : Nat)
  | unterminatedString
  | unexpectedChar (found : Char)
  | unterminatedLabel
  | badLabelRef
  | undefinedLabel (label : Text)
  /-- The label lies past the last offset that a word can hold. -/
  | labelOverflow (label : Text)
  | stringWithoutCell
  | headerNotFirst
  /-- The string would start past the last offset that a word can hold. -/
  | pointerOverflow
  | unencodable (found : Char) (charset : Charset)
deriving DecidableEq, Repr

def LineFault.message : LineFault → String
  | unknownOpcode name => "could not parse '" ++ String.ofList name ++ "' into opcode"
  | missingLength => "expected instruction length after '.'"
  | badLength digits => "could not parse '" ++ String.ofList digits ++ "' into instruction length"
  | lengthMismatch expected actual =>
    "instruction has length " ++ Text.showNumber actual ++ " instead of the expected " ++ Text.showNumber expected
  | trailerLength expected actual =>
    "trailer has length " ++ Text.showNumber actual ++ " instead of the expected " ++ Text.showNumber expected
  | unterminatedString => "§-string must be terminated with another §"
  | unexpectedChar found => "unexpected character '" ++ found.toString ++ "'"
  | unterminatedLabel => "label definition is missing its ':'"
  | badLabelRef => "could not parse label reference"
  | undefinedLabel label => "label '" ++ String.ofList label ++ "' is never defined"
  | labelOverflow label => "label '" ++ String.ofList label ++ "' lies past the 64kb mark"
  | stringWithoutCell => "string has no S cell to bind to"
  | headerNotFirst => "header must be the first instruction"
  | pointerOverflow => "string passes the 64kb mark"
  | unencodable found charset => "'" ++ found.toString ++ "' cannot be encoded as " ++ charset.name

/-- A fault and the column it is found in, counted from one. -/
structure Fault where
  column : Nat
  cause : LineFault
deriving DecidableEq, Repr

/-- A label definition and the column it begins in. -/
structure LabelDef where
  name : Text
  column : Nat
deriving DecidableEq, Repr

/-- What a line holds after its label definitions. -/
inductive LineBody where
  | nothing
  /-- A further label definition that lacks its colon. -/
  | openLabel (column : Nat)
  /-- A name that begins in a column, and the text after the full stop. -/
  | named (column : Nat) (name rest : Text)
deriving DecidableEq, Repr

/-- Reads the label definitions of a line and finds the name after them. -/
def readLine (column : Nat) (done : List LabelDef) (t : Text) : List LabelDef × LineBody :=
  match _ : t.dropWhile isBlank with
  | [] => (done.reverse, .nothing)
  | c :: rest =>
    let column := column + (t.takeWhile isBlank).length
    if c = '#' then (done.reverse, .nothing)
    else if c = '&' then
      match _ : Text.cutAt ':' rest with
      | none => (done.reverse, .openLabel column)
      | some (name, after) => readLine (column + name.length + 2) (⟨name, column⟩ :: done) after
    else
      match Text.cutAt '.' (c :: rest) with
      | none => (done.reverse, .nothing)
      | some (name, rest) => (done.reverse, .named column name rest)
termination_by t.length
decreasing_by
  have hrest := congrArg List.length (Text.cutAt_eq_some ‹Text.cutAt ':' rest = _›).1
  have hdrop := (List.dropWhile_sublist isBlank (l := t)).length_le
  simp only [‹t.dropWhile isBlank = _›, List.length_append, List.length_cons] at hrest hdrop
  omega

/-- What a line writes. -/
inductive LineKind where
  /-- Its length and its bytes, at the very front. -/
  | header
  /-- Bytes that are kept for the very end. -/
  | trailer
  /-- Its bytes only. -/
  | raw
  /-- An opcode, its length and its bytes. -/
  | instruction (opcode : UInt8)
deriving DecidableEq, Repr

/-- The kind of a line by its name. In a record file every other name is that of a table. -/
def LineKind.ofName? (records : Bool) (name : Text) : Option LineKind :=
  if name = "header".toList then some .header
  else if name = "trailer".toList then some .trailer
  else if name = "data".toList then some .raw
  else if records then some .raw
  else (Opcode.ofName? name).map .instruction

/-- The length declared right after the full stop. -/
def readLength (column : Nat) (t : Text) : Except Fault Nat :=
  let digits := t.takeWhile Char.isDigit
  if digits.isEmpty then .error ⟨column, .missingLength⟩
  else
    match Text.readDigits? digits with
    | none => .error ⟨column, .badLength digits⟩
    | some length => .ok length

/-- An operand or a string as it is written in a line. -/
inductive Token where
  | byte (b : UInt8)
  /-- A place for a pointer to one of the line's strings. -/
  | cell
  | target (label : Text)
  /-- A string; `final` if it ran up to the end of the line. -/
  | string (content : Text) (final : Bool)
deriving DecidableEq, Repr

/-- A token and the column it begins in. -/
structure Placed where
  column : Nat
  token : Token
deriving DecidableEq, Repr

def isLabelChar (c : Char) : Bool := c.isAlphanum || c == '_'

/-- Reads the operands and strings of a line. `free` counts the cells that have no string yet. A trailer has neither
cells nor labels. -/
def readTokens (inTrailer : Bool) (column free : Nat) (done : List Placed) (t : Text) :
    Except Fault (List Placed) :=
  match t with
  | [] => .ok done.reverse
  | c :: rest =>
    if c = '-' ∨ isBlank c then readTokens inTrailer (column + 1) free done rest
    else if c = 'S' ∧ !inTrailer then readTokens inTrailer (column + 1) (free + 1) (⟨column, .cell⟩ :: done) rest
    else if c = '§' then
      match _ : Text.cutAt '§' rest with
      | none => .error ⟨column, .unterminatedString⟩
      | some (content, after) =>
        if free = 0 then .error ⟨column, .stringWithoutCell⟩
        else
          readTokens inTrailer (column + content.length + 2) (free - 1) (⟨column, .string content false⟩ :: done) after
    else if c = '@' then
      if free = 0 then .error ⟨column, .stringWithoutCell⟩
      else .ok (⟨column, .string rest true⟩ :: done).reverse
    else if c = '&' ∧ !inTrailer then
      let label := rest.takeWhile isLabelChar
      if label.isEmpty then .error ⟨column, .badLabelRef⟩
      else
        readTokens inTrailer (column + 1 + label.length) free (⟨column, .target label⟩ :: done)
          (rest.dropWhile isLabelChar)
    else
      match rest with
      | d :: more =>
        if Text.isHexDigit c ∧ Text.isHexDigit d then
          readTokens inTrailer (column + 2) free
            (⟨column, .byte (UInt8.ofNat (16 * Text.hexValue c + Text.hexValue d))⟩ :: done) more
        else .error ⟨column, .unexpectedChar c⟩
      | [] => .error ⟨column, .unexpectedChar c⟩
termination_by t.length
decreasing_by
  · simp
  · simp
  · have := congrArg List.length (Text.cutAt_eq_some ‹Text.cutAt '§' rest = _›).1
    simp only [List.length_append, List.length_cons] at this ⊢
    omega
  · have := (List.dropWhile_sublist isLabelChar (l := rest)).length_le
    simp only [List.length_cons]
    omega
  · simp only [List.length_cons]
    omega

end SceneScript
