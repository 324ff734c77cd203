import SceneScript.Text.Basic
/-!
# The cache of dumps

The first dump stored for an entry stays until it is edited.
-/
namespace SceneScript

structure DumpCache where
  /-- The dump of each name, one for a name. -/
  dumps : List (String × Text)
  /-- The names edited, in order and without repetition. -/
  edited : List String
deriving DecidableEq, Repr

namespace DumpCache

def empty : DumpCache := ⟨[], []⟩

def get? (cache : DumpCache) (name : String) : Option Text := cache.dumps.lookup name

/-- Stores a dump unless the name has one: the cache and the dump that is in it. -/
def insertFirst (cache : DumpCache) (name : String) (dump : Text) : DumpCache × Text :=
  match cache.get? name with
  | some kept => (cache, kept)
  | none => ({ cache with dumps := (name, dump) :: cache.dumps }, dump)

/-- Puts a name into its place among names in order. -/
def insertName (name : String) : List String → List String
  | [] => [name]
  | other :: more =>
    if name < other then name :: other :: more
    else if name = other then other :: more
    else other :: insertName name more

/-- Stores a dump in place of the one before and marks the name as edited. -/
def edit (cache : DumpCache) (name : String) (dump : Text) : DumpCache where
  dumps := (name, dump) :: cache.dumps.filter fun (other, _) => other ≠ name
  edited := insertName name cache.edited

def isEdited (cache : DumpCache) (name : String) : Bool := cache.edited.contains name

def size (cache : DumpCache) : Nat := cache.dumps.length

def isEmpty (cache : DumpCache) : Bool := cache.dumps.isEmpty

end DumpCache
end SceneScript
