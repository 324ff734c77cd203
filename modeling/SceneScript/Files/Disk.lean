import SceneScript.Files.Path
import SceneScript.Text.Utf8
/-!
# Files

A tree of directories and files. A location is the list of names from the root; a path is followed from the root or
from the working directory.
-/
namespace SceneScript

/-- Why a file cannot be reached, read or written. -/
inductive FileError where
  | notFound
  | alreadyExists
  | notADirectory
  | isADirectory
  | nameTooLong
  | zeroInPath
  | notAFile
  | invalidUtf8
deriving DecidableEq, Repr

def FileError.message : FileError → String
  | notFound => "No such file or directory (os error 2)"
  | alreadyExists => "File exists (os error 17)"
  | notADirectory => "Not a directory (os error 20)"
  | isADirectory => "Is a directory (os error 21)"
  | nameTooLong => "File name too long (os error 36)"
  | zeroInPath => "file name contained an unexpected NUL byte"
  | notAFile => "the source path is neither a regular file nor a symlink to a regular file"
  | invalidUtf8 => "stream did not contain valid UTF-8"

inductive Node where
  | file (data : Bytes)
  | dir
deriving DecidableEq, Repr

/-- The names from the root down. -/
abbrev Location := List String

structure Disk where
  /-- Where relative paths begin. -/
  home : Location
  nodes : List (Location × Node)
deriving DecidableEq, Repr

namespace Disk

/-- Nothing but an empty directory where relative paths begin, and the directories above it. -/
def empty (home : Location) : Disk := ⟨home, (List.range home.length).map fun k => (home.take (k + 1), .dir)⟩

def node? (d : Disk) (at' : Location) : Option Node :=
  if at' = [] then some .dir else d.nodes.lookup at'

def put (d : Disk) (at' : Location) (node : Node) : Disk :=
  { d with nodes := (at', node) :: d.nodes.filter fun (l, _) => l ≠ at' }

def erase (d : Disk) (at' : Location) : Disk := { d with nodes := d.nodes.filter fun (l, _) => l ≠ at' }

/-- The longest name of a file, in bytes. -/
def longestName : Nat := 255

/-- The longest path, in bytes. -/
def longestPath : Nat := 4095

/-- Why a path is refused before it is followed. -/
def refusal? (p : Path) : Option FileError :=
  if p.toList.contains '\x00' then some .zeroInPath
  else if longestPath < p.utf8ByteSize then some .nameTooLong
  else none

/-- One step down, up or nowhere. -/
def step (at' : Location) (part : String) : Location :=
  if part = "" ∨ part = "." then at' else if part = ".." then at'.dropLast else at' ++ [part]

/-- Follows the parts of a path: the location reached and what is there. Only the last part may lead to nothing. -/
def follow (d : Disk) (at' : Location) : List String → Except FileError (Location × Option Node)
  | [] => .ok (at', d.node? at')
  | part :: more =>
    match d.node? at' with
    | some .dir =>
      if longestName < part.utf8ByteSize then .error .nameTooLong
      else
        let next := step at' part
        if (d.node? next).isNone then if more.isEmpty then .ok (next, none) else .error .notFound
        else follow d next more
    | some (.file _) => .error .notADirectory
    | none => .error .notFound

/-- The location a path leads to and what is there. -/
def resolve (d : Disk) (p : Path) : Except FileError (Location × Option Node) :=
  match refusal? p with
  | some e => .error e
  | none => if p.isEmpty then .error .notFound else d.follow (if p.isAbsolute then [] else d.home) p.parts

def contains (d : Disk) (p : Path) : Bool :=
  match d.resolve p with
  | .ok (_, some _) => true
  | _ => false

def read (d : Disk) (p : Path) : Except FileError Bytes :=
  match d.resolve p with
  | .error e => .error e
  | .ok (_, none) => .error .notFound
  | .ok (_, some .dir) => .error .isADirectory
  | .ok (_, some (.file data)) => .ok data

def readText (d : Disk) (p : Path) : Except FileError Text := do
  match Utf8.decode? (← d.read p) with
  | some t => .ok t
  | none => .error .invalidUtf8

/-- Reads a stretch of a file; none if the file ends before it does. An empty stretch is read of anything. -/
def readPart (d : Disk) (p : Path) (offset size : Nat) : Except FileError (Option Bytes) :=
  match d.resolve p with
  | .error e => .error e
  | .ok (_, none) => .error .notFound
  | .ok (_, some .dir) => if size = 0 then .ok (some []) else .error .isADirectory
  | .ok (_, some (.file data)) =>
    let part := (data.drop offset).take size
    .ok (if part.length = size then some part else none)

/-- Writes a file, new or in place of the old one. A path that ends with a slash is never that of a file. -/
def write (d : Disk) (p : Path) (data : Bytes) : Except FileError Disk :=
  match refusal? p, d.resolve p.dropEndSlashes with
  | some e, _ => .error e
  | none, .error e => .error e
  | none, .ok (_, some .dir) => .error .isADirectory
  | none, .ok (at', _) => if p.endsWithSlash then .error .isADirectory else .ok (d.put at' (.file data))

def copy (d : Disk) (source target : Path) : Except FileError Disk :=
  match d.resolve source with
  | .error e => .error e
  | .ok (_, none) => .error .notFound
  | .ok (_, some .dir) => .error .notAFile
  | .ok (_, some (.file data)) => d.write target data

/-- Removes a file; none if there is no file. -/
def remove? (d : Disk) (p : Path) : Option Disk :=
  match d.resolve p with
  | .ok (at', some (.file _)) => some (d.erase at')
  | _ => none

/-- Makes the directories along the parts of a path. -/
def makeAlong (d : Disk) (at' : Location) : List String → Except FileError Disk
  | [] => .ok d
  | part :: more =>
    if longestName < part.utf8ByteSize then .error .nameTooLong
    else
      let next := step at' part
      match d.node? next with
      | some .dir => makeAlong d next more
      | some (.file _) => .error (if more.isEmpty then .alreadyExists else .notADirectory)
      | none => makeAlong (d.put next .dir) next more

/-- Makes a directory and those above it that are missing. -/
def makeDirectory (d : Disk) (p : Path) : Except FileError Disk :=
  match refusal? p with
  | some e => .error e
  | none => if p.isEmpty then .ok d else d.makeAlong (if p.isAbsolute then [] else d.home) p.parts

/-- The names from a location to one below it. -/
def below? (top at' : Location) : Option (List String) :=
  if top.isPrefixOf at' ∧ top ≠ at' then some (at'.drop top.length) else none

/-- The order of names from a location down: name by name, a directory before what is in it. -/
def precedes : List String → List String → Bool
  | [], _ => true
  | _ :: _, [] => false
  | a :: as, b :: bs => a < b || (a == b && precedes as bs)

/-- The files below a location by the names that lead to them, in the order of their names, and their contents. -/
def filesBelow (d : Disk) (top : Location) : List (List String × Bytes) :=
  (d.nodes.filterMap fun (at', node) =>
    match node, below? top at' with
    | .file data, some names => some (names, data)
    | _, _ => none).mergeSort fun (a, _) (b, _) => precedes a b

/-- The paths of the files below a directory, or of a single file; none if there is nothing. A directory whose own path
is too long is passed over. -/
def pathsBelow (d : Disk) (p : Path) : List Path :=
  match d.resolve p with
  | .ok (_, some (.file _)) => [p]
  | .ok (top, some .dir) =>
    ((d.filesBelow top).filter fun (names, _) => (refusal? (names.dropLast.foldl Path.join p)).isNone).map
      fun (names, _) => names.foldl Path.join p
  | _ => []

/-- What a disk has that an older one has not. -/
def newerThan (d old : Disk) : List (Location × Node) := d.nodes.filter fun (at', node) => old.node? at' ≠ some node

end Disk
end SceneScript
