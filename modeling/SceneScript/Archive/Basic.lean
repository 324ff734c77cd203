import SceneScript.Archive.Image
import SceneScript.Files.Disk
import SceneScript.Font
import SceneScript.Log
/-!
# Archives

An archive keeps the list of its entries; the bytes of an entry are read from its file when they are first needed, and
stay. Saving lays all entries out anew.
-/
namespace SceneScript

/-- The bytes of an entry: still in the file, or loaded. -/
inductive Payload where
  | onDisk (offset size : Nat)
  | loaded (data : Bytes)
deriving DecidableEq, Repr

structure Entry where
  name : String
  timestamp : Timestamp
  payload : Payload
deriving DecidableEq, Repr

/-- Why an archive cannot be read or written. -/
inductive ArchiveError where
  | file (e : FileError)
  | image (path : Path) (fault : ImageFault)
  /-- The file ends before the bytes of an entry do. -/
  | truncatedEntry (path : Path)
  | noBackingFile (name : String)
  | tooLarge
deriving DecidableEq, Repr

namespace ArchiveError

def fileMessage (e : FileError) : String := "IO error: " ++ e.message

def truncatedMessage (path : Path) (what : String) : String :=
  path ++ ": archive is truncated while reading the " ++ what

def bracketed (bytes : Bytes) : String :=
  "[" ++ String.ofList (", ".toList.intercalate (bytes.map Bytes.hexPair)) ++ "]"

def message : ArchiveError → String
  | file e => fileMessage e
  | image path (.badMagic found) => path ++ " is not an AFS archive (magic " ++ bracketed found ++ ")"
  | image path (.tooManyEntries count) =>
    path ++ ": entry count " ++ Text.showNumber count ++ " exceeds the sanity limit"
  | image path (.truncated .header) => truncatedMessage path "header"
  | image path (.truncated .headerTable) => truncatedMessage path "header table"
  | image path (.truncated .footer) => truncatedMessage path "footer"
  | truncatedEntry path => truncatedMessage path "entry payload"
  | noBackingFile name => "entry '" ++ name ++ "' has no backing file to load from"
  | tooLarge => "archive image does not fit in 32-bit offsets"

end ArchiveError

namespace Entry

def size (e : Entry) : Nat :=
  match e.payload with
  | .onDisk _ size => size
  | .loaded data => data.length

def isLoaded (e : Entry) : Bool :=
  match e.payload with
  | .onDisk .. => false
  | .loaded _ => true

def setData (e : Entry) (data : Bytes) : Entry := { e with payload := .loaded data }

/-- The bytes of an entry, read from `source?` if they are still there. -/
def load (e : Entry) (disk : Disk) (source? : Option Path) : Except ArchiveError Bytes :=
  match e.payload with
  | .loaded data => .ok data
  | .onDisk offset size =>
    match source? with
    | none => .error (.noBackingFile e.name)
    | some path =>
      match disk.readPart path offset size with
      | .error e => .error (.file e)
      | .ok none => .error (.truncatedEntry path)
      | .ok (some data) => .ok data

end Entry

structure Archive where
  /-- The file the entries were listed from. -/
  source? : Option Path
  /-- The file the archive is saved to. -/
  destination : Path
  entries : List Entry
deriving DecidableEq, Repr

namespace Archive

/-- Opens an archive without loading any entry. -/
def openFile (disk : Disk) (path : Path) : Except ArchiveError Archive :=
  match disk.read path with
  | .error e => .error (.file e)
  | .ok bytes =>
    match Image.list bytes with
    | .error fault => .error (.image path fault)
    | .ok entries => .ok ⟨some path, path, entries.map fun e => ⟨e.name, e.timestamp, .onDisk e.offset e.size⟩⟩

/-- An archive of entries that are all in memory. -/
def ofEntries (destination : Path) (entries : List Entry) : Archive := ⟨none, destination, entries⟩

/-- The first entry of a name and its place. -/
def find? (a : Archive) (name : String) : Option (Entry × Nat) :=
  a.entries.zipIdx.find? fun (e, _) => e.name == name

/-- Changes the bytes of the entry at a place. -/
def setDataAt (a : Archive) (place : Nat) (data : Bytes) : Archive :=
  { a with entries := a.entries.modify place (·.setData data) }

/-- The bytes of an entry, and the archive with the entry at that place loaded. -/
def loadAt (a : Archive) (disk : Disk) (e : Entry) (place : Nat) : Except ArchiveError (Bytes × Archive) :=
  match e.load disk a.source? with
  | .error e => .error e
  | .ok data => .ok (data, a.setDataAt place data)

/-- Loads the entries in order up to the first that fails. -/
def loadEntries (disk : Disk) (source? : Option Path) (done : List Entry) :
    List Entry → Option ArchiveError × List Entry
  | [] => (none, done.reverse)
  | e :: more =>
    match e.load disk source? with
    | .error err => (some err, done.reverse ++ e :: more)
    | .ok data => loadEntries disk source? (e.setData data :: done) more

def contentOf (e : Entry) : Image.Content :=
  ⟨e.name, e.timestamp, match e.payload with | .loaded data => data | .onDisk .. => []⟩

/-- The image of an archive, and the archive with the entries loaded that it took. -/
def toBytes (a : Archive) (disk : Disk) : Except ArchiveError Bytes × Archive :=
  match loadEntries disk a.source? [] a.entries with
  | (some e, entries) => (.error e, { a with entries := entries })
  | (none, entries) =>
    match Image.build? (entries.map contentOf) with
    | none => (.error .tooLarge, { a with entries := entries })
    | some bytes => (.ok bytes, { a with entries := entries })

/-- Writes the image of an archive to its file. -/
def save (a : Archive) (disk : Disk) : Except ArchiveError (Disk × Log) × Archive :=
  match a.toBytes disk with
  | (.error e, a) => (.error e, a)
  | (.ok bytes, a) =>
    match disk.write a.destination bytes with
    | .error e => (.error (.file e), a)
    | .ok disk => (.ok (disk, [Log.info ("Saved to " ++ a.destination)]), a)

/-- The font metrics in an entry, and the archive with that entry loaded. Without metrics there is a warning. -/
def fontMetrics (a : Archive) (disk : Disk) (name : String) : Option FontMetrics × Archive × Log :=
  match a.find? name with
  | none => (none, a, [Log.warn ("Could not load font size data: no '" ++ name ++ "' entry")])
  | some (e, place) =>
    match a.loadAt disk e place with
    | .error e => (none, a, [Log.warn ("Could not load font size data: " ++ e.message)])
    | .ok (data, a) => (some ⟨data.toArray⟩, a, [])

end Archive
end SceneScript
