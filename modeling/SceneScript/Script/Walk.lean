import SceneScript.Charset
import SceneScript.Dump.Row
import SceneScript.Opcode
import SceneScript.Script.Section
/-!
# Walking a script

A script is a header, then instructions up to the one that ends it or up to the first of its strings, then the pool
of strings. A walk reads the instructions, or the records of a record file, in order, following each pointer to its
string.
-/
namespace SceneScript

/-- Why a script cannot be read. -/
inductive ScriptError where
  /-- The strings decode in neither character set. -/
  | undecodable (name : String)
  | unknownOpcode (name : String) (opcode : UInt8) (offset : Nat)
  | outOfBounds (name : String) (what : Text) (start stop size : Nat)
  /-- A length that does not cover the opcode and the length itself. -/
  | badLength (name : String) (offset length : Nat)
  | badHeader (name : String) (length size : Nat)
deriving DecidableEq, Repr

def ScriptError.message : ScriptError → String
  | undecodable name => name ++ ": strings decode as neither big5 nor sjis"
  | unknownOpcode name opcode offset =>
    name ++ ": unknown opcode 0x" ++ String.ofList (Bytes.hexPair opcode) ++ " at " ++ Text.showOffset offset
  | outOfBounds name what start stop size =>
    name ++ ": " ++ String.ofList what ++ " at " ++ Text.showOffset start ++ ".." ++ Text.showOffset stop
      ++ " runs past the end of " ++ Text.showNumber size ++ " bytes"
  | badLength name offset length =>
    name ++ ": declared length " ++ Text.showNumber length ++ " at " ++ Text.showOffset offset
      ++ " is shorter than its own opcode"
  | badHeader name length size =>
    name ++ ": header length " ++ Text.showNumber length ++ " does not fit a " ++ Text.showNumber size ++ "-byte script"

/-- Why a walk in one character set stops. -/
inductive WalkFailure where
  /-- A string does not decode; another character set may do. -/
  | undecodable
  | fatal (e : ScriptError)
deriving DecidableEq, Repr

/-- A script to be walked and the character set to read its strings in. -/
structure Reading where
  name : String
  bytes : Bytes
  charset : Charset

/-- The stretch of bytes that the strings met so far take up. -/
structure PoolExtent where
  /-- The lowest start of a string. -/
  lowest? : Option Nat := none
  /-- The highest end of a string, its closing zero included. -/
  stop : Nat := 0
deriving DecidableEq, Repr

namespace PoolExtent

/-- Whether a position is at or past the first string. -/
def reached (pool : PoolExtent) (position : Nat) : Bool :=
  match pool.lowest? with
  | some lowest => lowest ≤ position
  | none => false

def add (pool : PoolExtent) (start stop : Nat) : PoolExtent :=
  ⟨some (match pool.lowest? with | some lowest => min lowest start | none => start), max pool.stop stop⟩

end PoolExtent

namespace Reading

def outOfBounds (r : Reading) (what : Text) (start stop : Nat) : WalkFailure :=
  .fatal (.outOfBounds r.name what start stop r.bytes.length)

/-- The string a pointer leads to, up to its closing zero. -/
def stringAt (r : Reading) (start : Nat) (pool : PoolExtent) : Except WalkFailure (Text × PoolExtent) :=
  let tail := r.bytes.drop start
  if tail.isEmpty then .error (r.outOfBounds "string".toList start (start + 1))
  else if !tail.contains 0 then .error (r.outOfBounds "string".toList start (r.bytes.length + 1))
  else
    let content := tail.takeWhile (· != 0)
    match r.charset.decode? content with
    | some t => .ok (t, pool.add start (start + content.length + 1))
    | none => .error .undecodable

/-- Takes a payload apart, following the pointers in its cells. `jump?` is where a jump target stands. -/
def operands (r : Reading) (cells : List Nat) (jump? : Option Nat) (pool : PoolExtent) (payload : Bytes) :
    Except WalkFailure (List Operand × List Text × PoolExtent) :=
  go 0 [] [] pool payload
where
  go (at' : Nat) (done : List Operand) (strings : List Text) (pool : PoolExtent) :
      Bytes → Except WalkFailure (List Operand × List Text × PoolExtent)
    | [] => .ok (done.reverse, strings.reverse, pool)
    | [b] => .ok ((.byte b :: done).reverse, strings.reverse, pool)
    | low :: high :: rest =>
      let word := Bytes.value [low, high]
      if cells.contains at' then
        match r.stringAt word pool with
        | .error e => .error e
        | .ok (s, pool) => go (at' + 2) (.pointer word :: done) (s :: strings) pool rest
      else if jump? = some at' then go (at' + 2) (.jump word :: done) strings pool rest
      else go (at' + 1) (.byte low :: done) strings pool (high :: rest)

/-- Where in its payload an instruction holds pointers to strings. -/
def cellsOf (opcode : UInt8) (length : Nat) : List Nat :=
  if opcode = Opcode.message ∨ opcode = Opcode.select2 then [4]
  else if opcode = Opcode.select then (List.range (length / 8 - 1)).map fun k => 8 * k + 6
  else []

/-- Where in its payload an instruction holds a jump target. -/
def jumpOf (opcode : UInt8) : Option Nat := if opcode = Opcode.loopCond then some 0 else none

/-- What a walk has read: the rows, where it ended and the extent of the strings. -/
structure Walked where
  rows : List Row
  stop : Nat
  pool : PoolExtent
deriving DecidableEq, Repr

/-- Walks over instructions from a position on; `done` holds the rows before it, last first. -/
def walkInstructions (r : Reading) (position : Nat) (done : List Row) (pool : PoolExtent) (rest : Bytes) :
    Except WalkFailure Walked :=
  match rest with
  | opcode :: size :: tail =>
    if pool.reached position || size == 0 then .ok ⟨done.reverse, position, pool⟩
    else if size.toNat < 2 then .error (.fatal (.badLength r.name position size.toNat))
    else
      match Opcode.name? opcode with
      | none => .error (.fatal (.unknownOpcode r.name opcode position))
      | some name =>
        let payload := tail.take (size.toNat - 2)
        let next := position + size.toNat
        if payload.length < size.toNat - 2 then .error (r.outOfBounds "instruction".toList (position + 2) next)
        else
          match r.operands (cellsOf opcode size.toNat) (jumpOf opcode) pool payload with
          | .error e => .error e
          | .ok (operands, strings, pool) =>
            let done := ⟨some position, name, size.toNat, operands, strings⟩ :: done
            if opcode = Opcode.ret2 then .ok ⟨done.reverse, next, pool⟩
            else walkInstructions r next done pool (tail.drop (size.toNat - 2))
  | _ => .ok ⟨done.reverse, position, pool⟩
termination_by rest.length
decreasing_by
  simp only [List.length_cons, List.length_drop]
  omega

def walkRecords (r : Reading) (position : Nat) (done : List Row) (pool : PoolExtent) (rest : Bytes) :
    List Section → Except WalkFailure Walked
  | [] => .ok ⟨done.reverse, position, pool⟩
  | s :: more =>
    let record := rest.take s.recordLength
    let next := position + s.recordLength
    if record.length < s.recordLength then .error (r.outOfBounds s.name position next)
    else
      match r.operands s.cells none pool record with
      | .error e => .error e
      | .ok (operands, strings, pool) =>
        walkRecords r next (⟨none, s.name, s.recordLength, operands, strings⟩ :: done) pool
          (rest.drop s.recordLength) more

/-- The row of the header, whose first byte is its length, and that length. -/
def header (r : Reading) : Except WalkFailure (Row × Nat) :=
  let length := (r.bytes.headD 0).toNat
  if length = 0 ∨ r.bytes.length < length then .error (.fatal (.badHeader r.name length r.bytes.length))
  else .ok (Row.raw "header".toList length ((r.bytes.take length).drop 1), length)

/-- Walks over the part of the script after the header. -/
def walkBody (r : Reading) (start : Nat) : Except WalkFailure Walked :=
  if isRecordFile r.name then r.walkRecords start [] {} (r.bytes.drop start) records
  else r.walkInstructions start [] {} (r.bytes.drop start)

/-- The row of the bytes between the end of the walk and the first string. -/
def padding (r : Reading) (w : Walked) : List Row :=
  match w.pool.lowest? with
  | some lowest =>
    if w.stop < lowest then
      [Row.raw "data".toList (lowest - w.stop) ((r.bytes.take lowest).drop w.stop)]
    else []
  | none => []

/-- The row of the bytes after the walk and after the last string. -/
def trailer (r : Reading) (w : Walked) : Row :=
  let bytes := r.bytes.drop (max w.stop w.pool.stop)
  Row.raw "trailer".toList bytes.length bytes

def rows (r : Reading) : Except WalkFailure (List Row) := do
  let (header, start) ← r.header
  let walked ← r.walkBody start
  .ok (header :: (walked.rows ++ (r.padding walked ++ [r.trailer walked])))

end Reading
end SceneScript
