import SceneScript.Script.Assembly
import SceneScript.Session.Opening
import SceneScript.Replacement.Merge
/-!
# Working on the scripts

Scripts are dumped when they are first asked for, edited as dumps, and all assembled again when the session is saved.
-/
namespace SceneScript

structure Bench where
  session : Session
  workplace : Workplace

namespace Bench

/-- An action on the workplace alone. -/
def atWorkplace {α : Type} (act : Act Workplace α) : Act Bench α := fun b =>
  let (result, workplace) := act b.workplace
  (result, { b with workplace := workplace })

def report (lines : Log) : Act Bench Unit := atWorkplace (Workplace.report lines)

def update (f : Session → Session) : Act Bench Unit := modify fun b => { b with session := f b.session }

/-- Runs an action to its end, be it a failure. -/
def attempt {α : Type} (act : Act Bench α) : Act Bench (Except SessionError α) := fun b =>
  let (result, b) := act b
  (.ok result, b)

def entry (name : String) : Act Bench (Entry × Nat) := do
  match (← get).session.archive.find? name with
  | some found => pure found
  | none => throw (.unknownEntry name)

/-- The bytes of an entry, which is loaded if need be. -/
def loadEntry (e : Entry) (place : Nat) : Act Bench Bytes := do
  let b ← get
  match b.session.archive.loadAt b.workplace.disk e place with
  | .error e => throw (.archive e)
  | .ok (data, archive) =>
    update fun s => { s with archive := archive }
    return data

/-- The dump of an entry. Strings are first read in the character set of the entry dumped last. -/
def decompile (name : String) : Act Bench Text := do
  match (← get).session.dumps.get? name with
  | some dump => pure dump
  | none =>
    let (e, place) ← entry name
    let bytes ← loadEntry e place
    let (result, log) := disassemble name bytes (← get).session.preferred
    report log
    match result with
    | .error e => throw (.script e)
    | .ok dump =>
      let (dumps, kept) := (← get).session.dumps.insertFirst name dump.text
      update fun s => { s with preferred := dump.charset, dumps := dumps }
      return kept

def edit (name : String) (dump : Text) : Act Bench Unit := do
  let _ ← entry name
  update fun s => { s with dumps := s.dumps.edit name dump }

/-- Puts the backup in place of the scene archive and forgets every dump. -/
def revert : Act Bench Unit := do
  let root := (← get).session.root
  let backup := root.join backupPath
  if !(← atWorkplace (Workplace.contains backup)) then
    throw (.config ("No backup at " ++ backup ++ " to revert to"))
  let scene := root.join scenePath
  atWorkplace (Workplace.change (·.copy backup scene))
  let archive ← atWorkplace (Workplace.openArchive scene)
  update fun s => { s with archive := archive, dumps := DumpCache.empty }
  report [Log.info ("Reverted scripts from " ++ backup)]

/-- The entries in scope with their places. -/
def inScope (archive : Archive) : List (Entry × Nat) := archive.entries.zipIdx.filter fun (e, _) => isInScope e.name

/-- Writes the dump of an entry to a directory. -/
def exportEntry (directory : Path) (name : String) : Act Bench Unit := do
  let dump ← decompile name
  atWorkplace (Workplace.change (·.write (directory.join (name ++ ".txt")) (Utf8.encode dump)))

/-- Writes the dumps of the entries in scope to the dump directory. -/
def exportDumps : Act Bench Path := do
  let session := (← get).session
  let directory := session.root.join dumpsPath
  atWorkplace (Workplace.change (·.makeDirectory directory))
  let entries := inScope session.archive
  entries.forM fun (e, _) => exportEntry directory e.name
  report [Log.info ("Exported " ++ Text.showNumber entries.length ++ " scripts to " ++ directory)]
  return directory

/-- The entry a file is meant for, by the file's name. A file for no entry is skipped with a warning. -/
def entryOfFile? (file : Path) : Act Bench (Option String) := do
  match Path.stem? file with
  | none => return none
  | some name =>
    if ((← get).session.archive.find? name).isSome then return some name
    report [Log.warn ("Skipping " ++ file ++ ": no entry named " ++ name)]
    return none

/-- The files below a directory with an extension, in order. -/
def filesWith (directory : Path) (extension : Text) : Act Bench (List Path) := do
  return ((← get).workplace.disk.pathsBelow directory).filter (Path.hasExtension · extension)

/-- Goes through files and counts those that had an effect. -/
def countFiles (files : List Path) (act : Path → Act Bench Bool) : Act Bench Nat :=
  files.foldlM (fun count file => do return if ← act file then count + 1 else count) 0

/-- Takes the dump in a file. -/
def applyFile (file : Path) : Act Bench Bool := do
  match ← entryOfFile? file with
  | none => return false
  | some name =>
    let dump ← atWorkplace (Workplace.inspect (·.readText file))
    update fun s => { s with dumps := s.dumps.edit name dump }
    return true

/-- Takes the edited dumps below a directory; how many there were. -/
def applyDumps (directory : Path) : Act Bench Nat := do
  let count ← countFiles (← filesWith directory "txt".toList) applyFile
  report [Log.info ("Applied " ++ Text.showNumber count ++ " edited scripts from " ++ directory)]
  return count

def loadSet (file : Path) : Act Bench ReplacementSet := do
  let t ← atWorkplace (Workplace.inspect (·.readText file))
  match (Json.parse? t).bind ReplacementSet.ofJson? with
  | some set => pure set
  | none => throw .json

/-- Merges the replacement set in a file. An entry whose patches fail keeps its dump. -/
def importFile (file : Path) : Act Bench Bool := do
  match ← entryOfFile? file with
  | none => return false
  | some name =>
    let set ← loadSet file
    let dump ← decompile name
    let (merged, log) := Replacement.merge name dump set
    report log
    match merged with
    | .ok (some dump) =>
      update fun s => { s with dumps := s.dumps.edit name dump }
      if !set.patches.isEmpty then report [Log.info (name ++ ": success applying patches")]
      return true
    | .ok none =>
      report [Log.debug (name ++ ": nothing to import")]
      return false
    | .error e =>
      report [Log.error (name ++ ": error applying patch " ++ e.message)]
      return false

/-- Merges the replacement sets below a directory; how many changed a dump. -/
def importSets (directory : Path) : Act Bench Nat := do
  let count ← countFiles (← filesWith directory "json".toList) importFile
  report [Log.info ("Imported " ++ Text.showNumber count ++ " translation sets from " ++ directory)]
  return count

def assembleEntry (name : String) : Act Bench Bytes := do
  let dump ← decompile name
  let (result, log) := assemble name dump (← get).session.typesetter
  report log
  match result with
  | .ok bytes => pure bytes
  | .error e => throw (.compile name e)

/-- Assembles the dump of an entry and reports a failure. -/
def tryAssembleEntry (name : String) : Act Bench (Except SessionError Bytes) := do
  let result ← attempt (assembleEntry name)
  match result with
  | .ok _ => pure ()
  | .error e => report [Log.error e.message]
  return result

def saveArchive : Act Bench Unit := do
  let b ← get
  let (result, archive) := b.session.archive.save b.workplace.disk
  update fun s => { s with archive := archive }
  match result with
  | .error e => throw (.archive e)
  | .ok (disk, log) =>
    atWorkplace (modify fun w => { w with disk := disk })
    report log

/-- Assembles every entry in scope and saves the archive. If any fails nothing is written, and the first failure in the
order of the archive is given. -/
def save : Act Bench Unit := do
  let entries := inScope (← get).session.archive
  let results ← entries.mapM fun (e, place) => do return (place, ← tryAssembleEntry e.name)
  match results.mapM fun (place, result) => result.map (place, ·) with
  | .error e => throw e
  | .ok built =>
    update fun s =>
      { s with archive := built.foldl (fun archive (place, data) => archive.setDataAt place data) s.archive }
    saveArchive
    report [Log.info ("Saved " ++ Text.showNumber entries.length ++ " scripts")]

end Bench

/-- Runs an action on a session of its own. -/
def Session.run {α : Type} (session : Session) (act : Act Bench α) : Act Workplace α := fun w =>
  let (result, b) := act ⟨session, w⟩
  (result, b.workplace)

end SceneScript
