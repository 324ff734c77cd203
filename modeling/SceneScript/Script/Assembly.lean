import SceneScript.Prose.Typesetter
import SceneScript.Script.Layout
import SceneScript.Script.Section
/-!
# Assembly

A dump becomes a script: the instruction stream first, then the pool with the strings in the order of the lines, then
the trailer.
-/
namespace SceneScript

/-- The strings of a script as bytes, one after the other, with the offset of each. -/
structure Pool where
  offsets : Array Nat := #[]
  /-- The bytes of the strings, last string first. -/
  parts : List Bytes := []
deriving DecidableEq, Repr

def Pool.bytes (pool : Pool) : Bytes := pool.parts.reverse.flatten

/-- Puts strings into a pool from an offset on. -/
def Pool.add (ts : Typesetter) (offset : Nat) (pool : Pool) (log : Log) :
    List Pooled → Except CompileError Pool × Log
  | [] => (.ok pool, log)
  | s :: more =>
    if lastOffset < offset then (.error (.inLine s.line s.column .pointerOverflow), log)
    else
      let (encoded, warnings) := ts.encode s.content
      let log := log ++ warnings
      match encoded with
      | .error c => (.error (.inLine s.line s.column (.unencodable c ts.target)), log)
      | .ok bytes =>
        let part := bytes ++ (s.suffix ++ [0])
        Pool.add ts (offset + part.length) ⟨pool.offsets.push offset, part :: pool.parts⟩ log more

def Layout.finish (l : Layout) (ts : Typesetter) : Except CompileError Bytes × Log :=
  match l.undefined? with
  | some e => (.error e, [])
  | none =>
    match Pool.add ts l.size {} [] l.strings.reverse with
    | (.error e, log) => (.error e, log)
    | (.ok pool, log) =>
      match l.trailer? with
      | none => (.error .missingTrailer, log)
      | some trailer => (.ok (l.stream pool.offsets ++ (pool.bytes ++ trailer)), log)

def assemble (name : String) (source : Text) (ts : Typesetter) : Except CompileError Bytes × Log :=
  match Layout.addLines {} (isRecordFile name) 1 (Text.lines source) with
  | .error e => (.error e, [])
  | .ok l => l.finish ts

end SceneScript
