import SceneScript.Bytes
import SceneScript.Dump.Line
/-!
# Layout of an assembled script

The lines of a dump, laid out one after the other: the pieces of the instruction stream, where its labels stand, the
strings still to be put behind it and the trailer.
-/
namespace SceneScript

inductive Piece where
  | byte (b : UInt8)
  /-- The offset of a label defined before the reference. -/
  | word (n : Nat)
  /-- A reference to a label not yet defined, with its line and column. -/
  | forward (label : Text) (line column : Nat)
  /-- A pointer to a string by number, or an empty cell. -/
  | pointer (string? : Option Nat)
deriving DecidableEq, Repr

def Piece.size : Piece → Nat
  | byte _ => 1
  | word _ | forward .. | pointer _ => 2

/-- A string to be put into the pool, with the bytes that go between it and its closing zero. -/
structure Pooled where
  content : Text
  suffix : Bytes
  line : Nat
  column : Nat
deriving DecidableEq, Repr

/-- Why a dump cannot be assembled. -/
inductive CompileError where
  | inLine (line column : Nat) (cause : LineFault)
  | missingTrailer
deriving DecidableEq, Repr

namespace CompileError

/-- The line of an error, counted from one. -/
def line? : CompileError → Option Nat
  | inLine line _ _ => some line
  | missingTrailer => none

def message : CompileError → String
  | inLine line column cause =>
    Text.showNumber line ++ ":" ++ Text.showNumber column ++ ": " ++ cause.message
  | missingTrailer => "script has no trailer"

end CompileError

def Fault.at (fault : Fault) (line : Nat) : CompileError := .inLine line fault.column fault.cause

/-- The part of a dump laid out so far. -/
structure Layout where
  /-- The pieces of the stream, last first. -/
  pieces : List Piece := []
  /-- The length of the stream. -/
  size : Nat := 0
  /-- The labels with their offsets, last definition first. -/
  labels : List (Text × Nat) := []
  /-- The strings, last first. -/
  strings : List Pooled := []
  stringCount : Nat := 0
  trailer? : Option Bytes := none
deriving DecidableEq, Repr

/-- The last offset a word can hold. -/
def lastOffset : Nat := 0xFFFF

/-- Closes the second string of a route together with its zero. -/
def routeSuffix : Bytes := [0, 0x25, 0x54, 0x32]

namespace Layout

def push (l : Layout) (piece : Piece) : Layout :=
  { l with pieces := piece :: l.pieces, size := l.size + piece.size }

/-- Defines the labels of a line at the end of the stream. -/
def define (l : Layout) (line : Nat) : List LabelDef → Except CompileError Layout
  | [] => .ok l
  | label :: more =>
    if lastOffset < l.size then .error (.inLine line label.column (.labelOverflow label.name))
    else define { l with labels := (label.name, l.size) :: l.labels } line more

def countStrings (tokens : List Placed) : Nat :=
  tokens.countP fun p => match p.token with | .string .. => true | _ => false

/-- Adds the tokens of a line. Its first cells point to its strings in order: `next` is the number of the string the
next cell points to, and `stop` that of the string after the line's last. -/
def addTokens (l : Layout) (line : Nat) (name : Text) (next stop : Nat) : List Placed → Layout
  | [] => l
  | ⟨column, token⟩ :: more =>
    match token with
    | .byte b => addTokens (l.push (.byte b)) line name next stop more
    | .cell =>
      if next < stop then addTokens (l.push (.pointer (some next))) line name (next + 1) stop more
      else addTokens (l.push (.pointer none)) line name next stop more
    | .target label =>
      match l.labels.lookup label with
      | some offset => addTokens (l.push (.word offset)) line name next stop more
      | none => addTokens (l.push (.forward label line column)) line name next stop more
    | .string content final =>
      let suffix := if final ∧ name = "route".toList then routeSuffix else []
      addTokens
        { l with strings := ⟨content, suffix, line, column⟩ :: l.strings, stringCount := l.stringCount + 1 }
        line name next stop more

/-- Writes what a line of some kind begins with. -/
def openLine (l : Layout) (kind : LineKind) (length : Nat) (tooLong : LineFault) (line column : Nat) :
    Except CompileError Layout :=
  match kind with
  | .header =>
    if l.size ≠ 0 then .error (.inLine line 1 .headerNotFirst)
    else if 255 < length then .error (.inLine line column tooLong)
    else .ok (l.push (.byte (UInt8.ofNat length)))
  | .instruction opcode =>
    if 255 < length then .error (.inLine line column tooLong)
    else .ok ((l.push (.byte opcode)).push (.byte (UInt8.ofNat length)))
  | .raw | .trailer => .ok l

def bytesOf (tokens : List Placed) : Bytes :=
  tokens.filterMap fun p => match p.token with | .byte b => some b | _ => none

def addLine (l : Layout) (inRecords : Bool) (line : Nat) (t : Text) : Except CompileError Layout := do
  let (labels, body) := readLine 1 [] t
  let l ← l.define line labels
  match body with
  | .nothing => .ok l
  | .openLabel column => .error (.inLine line column .unterminatedLabel)
  | .named column name rest =>
    match LineKind.ofName? inRecords name with
    | none => .error (.inLine line column (.unknownOpcode name))
    | some kind =>
      let column := column + name.length + 1
      let digits := rest.takeWhile Char.isDigit
      let length ← (readLength column rest).mapError (·.at line)
      let opened ← l.openLine kind length (.badLength digits) line column
      let tokens ← (readTokens (kind == .trailer) (column + digits.length) 0 []
        (rest.dropWhile Char.isDigit)).mapError (·.at line)
      if kind == .trailer then
        let bytes := bytesOf tokens
        if bytes.length ≠ length then .error (.inLine line 1 (.trailerLength length bytes.length))
        else .ok { opened with trailer? := some bytes }
      else
        let laid := opened.addTokens line name opened.stringCount (opened.stringCount + countStrings tokens) tokens
        if laid.size - l.size ≠ length then
          .error (.inLine line 1 (.lengthMismatch length (laid.size - l.size)))
        else .ok laid

def addLines (l : Layout) (inRecords : Bool) (line : Nat) : List Text → Except CompileError Layout
  | [] => .ok l
  | t :: more =>
    match l.addLine inRecords line t with
    | .error e => .error e
    | .ok l => addLines l inRecords (line + 1) more

/-- The first reference to a label that is never defined. -/
def undefined? (l : Layout) : Option CompileError :=
  l.pieces.reverse.findSome? fun
    | .forward label line column =>
      match l.labels.lookup label with
      | some _ => none
      | none => some (.inLine line column (.undefinedLabel label))
    | _ => none

/-- The bytes of a piece, given the offsets of the strings. -/
def pieceBytes (l : Layout) (offsets : Array Nat) : Piece → Bytes
  | .byte b => [b]
  | .word n => Bytes.word16 n
  | .forward label .. => Bytes.word16 ((l.labels.lookup label).getD 0)
  | .pointer none => Bytes.word16 0
  | .pointer (some k) => Bytes.word16 (offsets.getD k 0)

/-- The bytes of the stream, given the offsets of the strings. -/
def stream (l : Layout) (offsets : Array Nat) : Bytes :=
  l.pieces.reverse.flatMap (l.pieceBytes offsets)

end Layout
end SceneScript
