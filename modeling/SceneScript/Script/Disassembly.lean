import SceneScript.Log
import SceneScript.Script.Walk
/-!
# Disassembly

The dump of a script. Its strings are read in the preferred character set, or in the other one if they do not decode
in that.
-/
namespace SceneScript

/-- A dump and the character set its strings were read in. -/
structure Disassembly where
  text : Text
  charset : Charset
deriving DecidableEq, Repr

def dumpIn (name : String) (bytes : Bytes) (cs : Charset) : Except WalkFailure Disassembly :=
  (Reading.rows ⟨name, bytes, cs⟩).map fun rows => ⟨showRows rows, cs⟩

def disassemble (name : String) (bytes : Bytes) (preferred : Charset) : Except ScriptError Disassembly × Log :=
  match dumpIn name bytes preferred with
  | .ok dump => (.ok dump, [])
  | .error (.fatal e) => (.error e, [])
  | .error .undecodable =>
    let log := [Log.debug (name ++ ": not " ++ preferred.name ++ ", retrying as " ++ preferred.flipped.name)]
    match dumpIn name bytes preferred.flipped with
    | .ok dump => (.ok dump, log)
    | .error (.fatal e) => (.error e, log)
    | .error .undecodable => (.error (.undecodable name), log)

end SceneScript
