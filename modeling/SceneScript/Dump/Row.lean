import SceneScript.Bytes
/-!
# Rows of a dump

A dump is a text with a row for each stretch of a script: a name and a length, then its bytes in hexadecimal with `S`
for a pointer to a string and `&L…` for a jump to a labelled row, then the strings. Of several strings each is put
between `§` signs but the last, which follows `@` up to the end of the line.
-/
namespace SceneScript

/-- A part of a row that is shown on its own. -/
inductive Operand where
  | byte (b : UInt8)
  /-- A pointer to a string. -/
  | pointer (target : Nat)
  /-- The offset a jump leads to. -/
  | jump (target : Nat)
deriving DecidableEq, Repr

structure Row where
  /-- The offset of an instruction, which a jump may lead to. -/
  start? : Option Nat
  name : Text
  length : Nat
  operands : List Operand
  strings : List Text
deriving DecidableEq, Repr

def Row.raw (name : Text) (length : Nat) (bytes : Bytes) : Row :=
  ⟨none, name, length, bytes.map Operand.byte, []⟩

/-- The strings at the end of a line. -/
def showStrings : List Text → Text
  | [] => []
  | [s] => ' ' :: '@' :: s
  | s :: more => ' ' :: '§' :: (s ++ '§' :: showStrings more)

/-- The name of the label at an offset. -/
def labelName (offset : Nat) : Text := 'L' :: Text.hexadecimal 4 offset

/-- Shows an operand; `labelled` tells the offsets that have a label. -/
def Operand.render (labelled : Nat → Bool) : Operand → Text
  | .byte b => Bytes.hexPair b
  | .pointer _ => ['S']
  | .jump target => if labelled target then '&' :: labelName target else Bytes.hex (Bytes.word16 target)

/-- The label definition in front of a row. -/
def Row.showLabel (labelled : Nat → Bool) (row : Row) : Text :=
  match row.start? with
  | some start => if labelled start then '&' :: (labelName start ++ [':', ' ']) else []
  | none => []

/-- The operands of a row, with a blank before the first and a dash before each other. -/
def showOperands (labelled : Nat → Bool) : List Operand → Text
  | [] => []
  | operands => ' ' :: ['-'].intercalate (operands.map (Operand.render labelled))

def Row.render (labelled : Nat → Bool) (row : Row) : Text :=
  row.showLabel labelled ++ (row.name ++ '.' :: (Text.decimal row.length ++
    (showOperands labelled row.operands ++ showStrings row.strings)))

/-- The offsets that jumps of the rows lead to and at which an instruction starts. -/
def labelledOffsets (rows : List Row) : List Nat :=
  let starts := rows.filterMap Row.start?
  (rows.flatMap fun row => row.operands.filterMap fun
    | .jump target => some target
    | _ => none).filter starts.contains

def showRows (rows : List Row) : Text :=
  let labels := labelledOffsets rows
  Text.joinLines (rows.map (Row.render labels.contains))

end SceneScript
