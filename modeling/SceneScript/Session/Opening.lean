import SceneScript.Json.Reader
import SceneScript.Session.DumpCache
import SceneScript.Session.Workplace
import SceneScript.Settings
/-!
# Opening a session

A session works on the scene archive of a game. Before the first change the archive is backed up.
-/
namespace SceneScript

def scenePath : Path := "FILE/SCENE00.afs"

def backupPath : Path := "FILE/SCENE00.afs.bak"

def fontsPath : Path := "FILE/FONTS_PC.AFS"

/-- The directory that dumps are exported to. -/
def dumpsPath : Path := "FILE/SCENE00TXT"

/-- How the names of system scripts begin, which hold no text of the story. -/
def systemNames : List Text :=
  ["DBG", "MAIN", "DMENU", "SHORTCUT", "INIT", "CLRFLG", "DICT"].map String.toList

/-- Whether an entry is dumped, exported and rebuilt. -/
def isInScope (name : String) : Bool :=
  isRecordFile name || !systemNames.any fun opening => opening.isPrefixOf name.toList

structure Session where
  /-- The game's directory. -/
  root : Path
  archive : Archive
  typesetter : Typesetter
  dumps : DumpCache
  /-- The character set the next script is first read in. -/
  preferred : Charset

def Settings.load (p : Path) : Act Workplace Settings := do
  match (← get).disk.readText p with
  | .error e => throw (.config ("Could not read settings file " ++ p ++ ": " ++ e.message))
  | .ok t =>
    match (Json.parse? t).bind Settings.ofJson? with
    | some settings => pure settings
    | none => throw .json

def Speakers.load (p : Path) : Act Workplace Speakers := do
  let t ← Workplace.inspect (·.readText p)
  match (Json.parse? t).bind Speakers.ofJson? with
  | some table => pure table
  | none => throw .json

def Settings.typesetter (settings : Settings) (metrics? : Option FontMetrics) : Act Workplace Typesetter := do
  let speakers ← match settings.speakers? with
    | some p => Speakers.load p
    | none => pure Speakers.empty
  return ⟨settings.target, settings.english, settings.wraps, settings.wrap, metrics?, speakers⟩

/-- The metrics of the game's font. Without them lines are not wrapped. -/
def loadMetrics (root : Path) (fontEntry : String) : Act Workplace (Option FontMetrics) := do
  let disk := (← get).disk
  let path := root.join fontsPath
  match Archive.openFile disk path with
  | .error e =>
    Workplace.report [Log.warn ("Could not open " ++ path ++ ": " ++ e.message ++ "; line wrapping is off")]
    return none
  | .ok fonts =>
    let (metrics?, _, log) := fonts.fontMetrics disk fontEntry
    Workplace.report log
    return metrics?

namespace Session

def openScene (settings : Settings) : Act Workplace Session := do
  let archive ← Workplace.openArchive (settings.gamePath.join scenePath)
  let metrics? ← if settings.wraps then loadMetrics settings.gamePath settings.fontEntry else pure none
  let typesetter ← settings.typesetter metrics?
  Workplace.report [Log.info ("Loaded " ++ Text.showNumber archive.entries.length ++ " scripts from "
    ++ archive.destination)]
  return ⟨settings.gamePath, archive, typesetter, DumpCache.empty, settings.target⟩

/-- Opens a session on a game that was prepared before. -/
def load (settings : Settings) : Act Workplace Session := do
  let scene := settings.gamePath.join scenePath
  if !(← Workplace.contains scene) then
    throw (.config (scene ++ " does not exist; prepare the scripts first"))
  openScene settings

/-- Opens a session after backing up the scene archive, or after restoring it from its backup if it is missing. -/
def prepare (settings : Settings) : Act Workplace Session := do
  let scene := settings.gamePath.join scenePath
  let backup := settings.gamePath.join backupPath
  if !(← Workplace.contains scene) && !(← Workplace.contains backup) then
    throw (.config ("Could not find " ++ scenePath ++ " under " ++ settings.gamePath))
  if !(← Workplace.contains backup) then
    Workplace.change (·.copy scene backup)
    Workplace.report [Log.info ("Backed up scripts to " ++ backup)]
  if !(← Workplace.contains scene) then
    Workplace.change (·.copy backup scene)
    Workplace.report [Log.info ("Restored " ++ scene ++ " from backup")]
  openScene settings

end Session
end SceneScript
