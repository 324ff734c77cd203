import SceneScript.Archive.Basic
import SceneScript.Script.Disassembly
import SceneScript.Script.Layout
/-!
# Actions of a session

An action may fail, and changes files and log also when it does.
-/
namespace SceneScript

/-- Why an action of a session fails. -/
inductive SessionError where
  | file (e : FileError)
  /-- A file does not hold what it should in JSON. -/
  | json
  | archive (e : ArchiveError)
  | script (e : ScriptError)
  | compile (entry : String) (e : CompileError)
  | unknownEntry (name : String)
  | config (text : String)
deriving DecidableEq, Repr

def SessionError.message : SessionError → String
  | file e => ArchiveError.fileMessage e
  | json => "JSON error"
  | archive e => e.message
  | script e => e.message
  | compile entry e => entry ++ ":" ++ e.message
  | unknownEntry name => "no entry named '" ++ name ++ "' in the scene archive"
  | config text => "configuration error: " ++ text

/-- The files and the log, oldest line first. -/
structure Workplace where
  disk : Disk
  log : Log := []
deriving DecidableEq, Repr

/-- An action on a state. -/
abbrev Act (σ : Type) := ExceptT SessionError (StateM σ)

namespace Workplace

def report (lines : Log) : Act Workplace Unit := modify fun w => { w with log := w.log ++ lines }

def inspect {α : Type} (look : Disk → Except FileError α) : Act Workplace α := do
  match look (← get).disk with
  | .ok a => pure a
  | .error e => throw (.file e)

def change (f : Disk → Except FileError Disk) : Act Workplace Unit := do
  let disk ← inspect f
  modify fun w => { w with disk := disk }

def contains (p : Path) : Act Workplace Bool := do
  return (← get).disk.contains p

def openArchive (p : Path) : Act Workplace Archive := do
  match Archive.openFile (← get).disk p with
  | .ok a => pure a
  | .error e => throw (.archive e)

end Workplace
end SceneScript
