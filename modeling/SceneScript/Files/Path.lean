import SceneScript.Text.Blank
/-!
# Paths

A path is its text. Its parts stand between slashes; it is absolute if it begins with one.
-/
namespace SceneScript

abbrev Path := String

namespace Path

/-- The parts of a path between slashes. -/
def parts (p : Path) : List String := (p.toList.splitOn '/').map String.ofList

def isAbsolute (p : Path) : Bool := p.toList.head? == some '/'

/-- Whether a path ends with a slash, which asks for a directory. -/
def endsWithSlash (p : Path) : Bool := p.toList.getLast? == some '/'

/-- A path without the slashes it ends with, save for the root. -/
def dropEndSlashes (p : Path) : Path :=
  match Text.dropEndWhile (· == '/') p.toList with
  | [] => p
  | t => String.ofList t

/-- A path below another. An absolute path stands alone. -/
def join (base below : Path) : Path :=
  if below.isAbsolute then below
  else if base.isEmpty || base.endsWithSlash then base ++ below
  else base ++ "/" ++ below

/-- Everything before the last slash. -/
def directory (p : Path) : Path :=
  match Text.cutAtLast '/' p.toList with
  | some ([], _) => "/"
  | some (before, _) => String.ofList before
  | none => ""

def fileName? (p : Path) : Option Text :=
  match ((p.toList.splitOn '/').filter fun part => part ≠ [] ∧ part ≠ ['.']).getLast? with
  | some ['.', '.'] | none => none
  | some name => some name

/-- A file name without its extension, and the extension. A full stop at the front begins no extension. -/
def splitExtension (name : Text) : Text × Option Text :=
  match Text.cutAtLast '.' name with
  | none | some ([], _) => (name, none)
  | some (stem, extension) => (stem, some extension)

def stem? (p : Path) : Option String := (fileName? p).map fun name => String.ofList (splitExtension name).1

def extension? (p : Path) : Option Text := (fileName? p).bind fun name => (splitExtension name).2

/-- Whether a path has an extension, in whatever case its ASCII letters are. -/
def hasExtension (p : Path) (extension : Text) : Bool :=
  match extension? p with
  | some e => e.map Char.toLower == extension.map Char.toLower
  | none => false

end Path
end SceneScript
