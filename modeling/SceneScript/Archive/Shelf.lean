import SceneScript.Archive.Basic
/-!
# Archives that share their entries

An archive may be viewed a second time, to be saved to another file. The views share the entries: what is loaded or
set through one is seen through all.
-/
namespace SceneScript

/-- A view of a list of entries, by the number of the list. -/
structure View where
  group : Nat
  source? : Option Path
  destination : Path
deriving DecidableEq, Repr

/-- Views and the lists of entries they share. -/
structure Shelf where
  groups : List (List Entry)
  views : List View
deriving DecidableEq, Repr

namespace Shelf

def empty : Shelf := ⟨[], []⟩

def add (s : Shelf) (a : Archive) : Shelf where
  groups := s.groups ++ [a.entries]
  views := s.views ++ [⟨s.groups.length, a.source?, a.destination⟩]

/-- The archive that a view shows. -/
def archive? (s : Shelf) (view : Nat) : Option Archive := do
  let v ← s.views[view]?
  some ⟨v.source?, v.destination, ← s.groups[v.group]?⟩

/-- Adds a view of the same entries that is saved to another file. -/
def addView? (s : Shelf) (view : Nat) (destination : Path) : Option Shelf := do
  let v ← s.views[view]?
  some { s with views := s.views ++ [{ v with destination := destination }] }

/-- Stores the entries of an archive back through its view. -/
def update (s : Shelf) (view : Nat) (a : Archive) : Shelf :=
  match s.views[view]? with
  | none => s
  | some v => { s with groups := s.groups.set v.group a.entries }

end Shelf
end SceneScript
