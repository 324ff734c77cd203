import SceneScript.Patch.Plan
/-!
# Applying patches

Patches are applied in order to the lines of a dump. The overflow blocks are put in front of the last trailer line.
-/
namespace SceneScript

structure Patching where
  lines : List Text
  /-- The lines of the overflow blocks so far. -/
  overflow : List Text := []
  log : Log := []

namespace Patching

def carryOut (s : Patching) (entry : String) (index line : Nat) : Application → Patching
  | .alreadyApplied =>
    { s with log := s.log ++ [Log.warn ("Skipping patch " ++ Text.showNumber index ++ " in " ++ entry
        ++ " as it appears to be applied; if it was updated, revert and import again")] }
  | .erased slot => { s with lines := s.lines.set (line - 1) slot }
  | .branched slot label overflow =>
    { s with
      lines := (s.lines.set (line - 1) slot).modify line (defining label ++ ·)
      overflow := s.overflow ++ overflow }

def applyAll (s : Patching) (entry : String) (index : Nat) : List Patch → Except PatchError Patching × Log
  | [] => (.ok s, s.log)
  | p :: more =>
    match p.plan entry index s.lines with
    | .error e => (.error e, s.log)
    | .ok application => applyAll (s.carryOut entry index p.line application) entry (index + 1) more

/-- Puts the overflow in front of the last trailer line. -/
def insertOverflow? (s : Patching) : Option (List Text) :=
  match s.lines.reverse.span fun line => !isTrailer line with
  | (_, []) => none
  | (after, trailer :: before) => some (before.reverse ++ (s.overflow ++ trailer :: after.reverse))

end Patching

/-- Applies patches to the dump of an entry. A patch whose slot looks applied is skipped. -/
def applyPatches (entry : String) (dump : Text) (patches : List Patch) : Except PatchError Text × Log :=
  if patches.isEmpty then (.ok dump, [])
  else
    match Patching.applyAll ⟨dump.splitOn '\n', [], []⟩ entry 1 patches with
    | (.error e, log) => (.error e, log)
    | (.ok s, log) =>
      let lines? := if s.overflow.isEmpty then some s.lines else s.insertOverflow?
      match lines? with
      | none => (.error (.missingTrailer patches.length entry), log)
      | some lines =>
        (.ok (Text.joinLines lines),
          log ++ [Log.info (entry ++ ": applied " ++ Text.showNumber patches.length ++ " patches")])

end SceneScript
