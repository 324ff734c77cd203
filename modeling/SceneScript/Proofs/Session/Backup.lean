import Mathlib
import SceneScript.Proofs.Archive.Opening
import SceneScript.Proofs.Session.Opening
/-!
# Failing to prepare or to revert

The scene file and its backup are copied before it is known that the copy opens. What a failure leaves is told here: a
file that was there is as it was, unless a backup that is no archive was put in place of the scene file.
-/
namespace SceneScript

/-- Whether a file opens is told by its bytes. -/
theorem Archive.exists_openFile_of_read {disk disk' : Disk} {p q : Path} (h : disk'.read q = disk.read p) {a : Archive}
    (hopen : openFile disk p = .ok a) : ∃ a', openFile disk' q = .ok a' := by
  obtain ⟨image, listed, hread, hlist, -⟩ := openFile_eq_ok hopen
  exact ⟨_, openFile_of_list (h.trans hread) hlist⟩

namespace Session

/-- Whether the scene file and its backup are as they were. -/
structure FilesKept (root : Path) (disk disk' : Disk) : Prop where
  scene : disk'.read (root.join scenePath) = disk.read (root.join scenePath)
  backup : disk'.read (root.join backupPath) = disk.read (root.join backupPath)

/-- How the scene file and its backup are left when a session cannot be prepared: a file that was there is as it was,
and one that was missing may have become a copy of the other. -/
inductive Unprepared (root : Path) (disk disk' : Disk) : Prop where
  | kept (h : FilesKept root disk disk')
  | backedUp (hscene : disk.contains (root.join scenePath) = true) (hbackup : disk.contains (root.join backupPath) = false)
      (kept : disk'.read (root.join scenePath) = disk.read (root.join scenePath))
      (copied : disk'.read (root.join backupPath) = disk.read (root.join scenePath))
  | restored (hscene : disk.contains (root.join scenePath) = false) (hbackup : disk.contains (root.join backupPath) = true)
      (kept : disk'.read (root.join backupPath) = disk.read (root.join backupPath))
      (copied : disk'.read (root.join scenePath) = disk.read (root.join backupPath))

/-- Nothing is lost or added when both files are there or none. -/
theorem Unprepared.filesKept {root : Path} {disk disk' : Disk} (h : Unprepared root disk disk')
    (hboth : disk.contains (root.join scenePath) = disk.contains (root.join backupPath)) : FilesKept root disk disk' := by
  cases h with
  | kept h => exact h
  | backedUp hscene hbackup =>
    rw [hscene, hbackup] at hboth
    cases hboth
  | restored hscene hbackup =>
    rw [hscene, hbackup] at hboth
    cases hboth

theorem Readied.unprepared {root : Path} {disk disk' : Disk} (h : Readied root disk disk') : Unprepared root disk disk' := by
  cases h with
  | asIs => exact .kept ⟨rfl, rfl⟩
  | backedUp hmissing hcopy =>
    obtain ⟨loc, data, hfile, -⟩ := Disk.copy_eq_ok hcopy
    obtain ⟨hscene, hbackup⟩ := Disk.read_copy (getLast?_scenePath root) (by decide) (by decide)
      (getLast?_backupPath root) (by decide) (by decide) (by decide) hcopy
    exact .backedUp (Disk.contains_of_resolve hfile) hmissing hscene hbackup
  | restored hmissing hcopy =>
    obtain ⟨loc, data, hfile, -⟩ := Disk.copy_eq_ok hcopy
    obtain ⟨hbackup, hscene⟩ := Disk.read_copy (getLast?_backupPath root) (by decide) (by decide)
      (getLast?_scenePath root) (by decide) (by decide) (by decide) hcopy
    exact .restored hmissing (Disk.contains_of_resolve hfile) hbackup hscene

theorem unprepared_of_prepare {settings : Settings} {w w' : Workplace} {result : Except SessionError Session}
    (h : prepare settings w = (result, w')) : Unprepared settings.gamePath w.disk w'.disk := by
  obtain ⟨hdisk, -⟩ | ⟨w₁, hreadied, hopen⟩ := prepare_cases h
  · rw [hdisk]
    exact .kept ⟨rfl, rfl⟩
  · rw [(openScene_spec hopen).1]
    exact hreadied.unprepared

end Session

namespace Bench

open Act

/-- How the files are left when a session cannot be reverted: the scene file may have become a copy of the backup, but
only of one that is no archive. -/
inductive Unreverted (root : Path) (disk disk' : Disk) : Prop where
  | kept (h : Session.FilesKept root disk disk')
  | overwritten (hbackup : ∀ a, Archive.openFile disk (root.join backupPath) ≠ .ok a)
      (kept : disk'.read (root.join backupPath) = disk.read (root.join backupPath))
      (copied : disk'.read (root.join scenePath) = disk.read (root.join backupPath))

theorem unreverted_of_revert {b b' : Bench} {e : SessionError} (h : revert b = (.error e, b')) :
    b'.session = b.session ∧ Unreverted b.session.root b.workplace.disk b'.workplace.disk := by
  let scene := b.session.root.join scenePath
  let backup := b.session.root.join backupPath
  rw [revert, get_bind, bind_ok (atWorkplace_eq (Workplace.contains_eq backup b.workplace))] at h
  cases hbackup : b.workplace.disk.contains backup with
  | false =>
    rw [hbackup, if_pos (by decide)] at h
    obtain ⟨-, rfl⟩ := Prod.mk.inj h
    exact ⟨rfl, .kept ⟨rfl, rfl⟩⟩
  | true =>
    rw [hbackup, if_neg (by decide)] at h
    dsimp only at h
    cases hcopy : b.workplace.disk.copy backup scene with
    | error err =>
      have hchange : Workplace.change (·.copy backup scene) b.workplace = _ := Workplace.change_eq_error hcopy
      rw [bind_error (atWorkplace_eq hchange)] at h
      obtain ⟨-, rfl⟩ := Prod.mk.inj h
      exact ⟨rfl, .kept ⟨rfl, rfl⟩⟩
    | ok disk =>
      obtain ⟨hkept, hcopied⟩ := Disk.read_copy (Session.getLast?_backupPath _) (by decide) (by decide)
        (Session.getLast?_scenePath _) (by decide) (by decide) (by decide) hcopy
      have hchange : Workplace.change (·.copy backup scene) b.workplace = _ := Workplace.change_eq_ok hcopy
      rw [bind_ok (atWorkplace_eq hchange)] at h
      let w : Workplace := { b.workplace with disk := disk }
      cases hopen : Archive.openFile disk scene with
      | ok archive =>
        -- Nothing can fail any more.
        have hrun : Workplace.openArchive scene w = _ := Workplace.openArchive_eq_ok hopen
        rw [bind_ok (atWorkplace_eq hrun)] at h
        cases h
      | error err =>
        have hrun : Workplace.openArchive scene w = _ := Workplace.openArchive_eq_error hopen
        rw [bind_error (atWorkplace_eq hrun)] at h
        obtain ⟨-, rfl⟩ := Prod.mk.inj h
        refine ⟨rfl, .overwritten ?_ hkept hcopied⟩
        intro a ha
        obtain ⟨a', ha'⟩ := Archive.exists_openFile_of_read hcopied ha
        rw [hopen] at ha'
        cases ha'

/-- A session that cannot be prepared or reverted leaves the scene file and its backup as they were if, to prepare it,
both files were there or none, or if, to revert it, the backup opened. Without this a missing file may have become a
copy of the other one, and the scene file a copy of a backup that does not open. -/
theorem files_of_error (settings : Settings) (w : Workplace) (b : Bench) :
    (∀ e w', Session.prepare settings w = (.error e, w') → Session.Unprepared settings.gamePath w.disk w'.disk ∧
      (w.disk.contains (settings.gamePath.join scenePath) = w.disk.contains (settings.gamePath.join backupPath) →
        Session.FilesKept settings.gamePath w.disk w'.disk)) ∧
    ∀ e b', revert b = (.error e, b') →
      b'.session = b.session ∧ Unreverted b.session.root b.workplace.disk b'.workplace.disk ∧
      ((∃ a, Archive.openFile b.workplace.disk (b.session.root.join backupPath) = .ok a) →
        Session.FilesKept b.session.root b.workplace.disk b'.workplace.disk) := by
  constructor
  · intro e w' h
    have hunprepared := Session.unprepared_of_prepare h
    exact ⟨hunprepared, hunprepared.filesKept⟩
  · intro e b' h
    obtain ⟨hsession, hunreverted⟩ := unreverted_of_revert h
    refine ⟨hsession, hunreverted, ?_⟩
    rintro ⟨a, ha⟩
    cases hunreverted with
    | kept h => exact h
    | overwritten hbackup => exact absurd ha (hbackup a)

/-- A game with one script and a backup that is no archive, and one with a scene file that is none. -/
theorem files_of_error_broken :
    let image := (Image.build? [⟨"SC01", .zero, [0x0D, 2]⟩]).getD []
    let w₀ : Workplace := ⟨⟨[], [(["FILE"], .dir), (["FILE", "SCENE00.afs"], .file image),
      (["FILE", "SCENE00.afs.bak"], .file [0x62, 0x61, 0x64])]⟩, []⟩
    let w₁ : Workplace := ⟨⟨[], [(["FILE"], .dir), (["FILE", "SCENE00.afs"], .file [0x62, 0x61, 0x64])]⟩, []⟩
    let settings := { Settings.default with english := false, wraps := false }
    ∃ s w e w' e' b', Session.load settings w₀ = (.ok s, w) ∧ Session.prepare settings w₁ = (.error e, w') ∧
      Session.Unprepared settings.gamePath w₁.disk w'.disk ∧ revert ⟨s, w⟩ = (.error e', b') ∧ b'.session = s ∧
      Unreverted s.root w.disk b'.workplace.disk := by
  intro image w₀ w₁ settings
  have hrun : passes (Session.load settings w₀) (fun s w =>
      !(Session.prepare settings w₁).1.toBool && !(revert ⟨s, w⟩).1.toBool) = true := by decide +kernel
  obtain ⟨s, w, hload, hrun⟩ := exists_of_passes hrun
  rw [Bool.and_eq_true] at hrun
  obtain ⟨hunprepared, hunreverted⟩ := hrun
  rcases hprepare : Session.prepare settings w₁ with ⟨prepared, w'⟩
  rw [hprepare] at hunprepared
  cases prepared with
  | ok s' => cases hunprepared
  | error e =>
    rcases hrevert : revert ⟨s, w⟩ with ⟨result, b'⟩
    rw [hrevert] at hunreverted
    cases result with
    | ok _ => cases hunreverted
    | error e' =>
      obtain ⟨hprepared, hreverted⟩ := files_of_error settings w₁ ⟨s, w⟩
      obtain ⟨hsession, hunreverted, -⟩ := hreverted e' b' hrevert
      exact ⟨s, w, e, w', e', b', hload, rfl, (hprepared e w' hprepare).1, hrevert, hsession, hunreverted⟩

/-- Reverting to a backup that is no archive loses a scene file that is one. -/
theorem revert_loses_scene :
    let image := (Image.build? [⟨"SC01", .zero, [0x0D, 2]⟩]).getD []
    let w₀ : Workplace := ⟨⟨[], [(["FILE"], .dir), (["FILE", "SCENE00.afs"], .file image),
      (["FILE", "SCENE00.afs.bak"], .file [0x62, 0x61, 0x64])]⟩, []⟩
    let settings := { Settings.default with english := false, wraps := false }
    ∃ s w e b', Session.load settings w₀ = (.ok s, w) ∧ revert ⟨s, w⟩ = (.error e, b') ∧
      Archive.openFile w.disk s.scene = .ok s.archive ∧ b'.workplace.disk.read s.scene = .ok [0x62, 0x61, 0x64] ∧
      b'.workplace.disk.read s.scene ≠ w.disk.read s.scene := by
  intro image w₀ settings
  have hrun : passes (Session.load settings w₀) (fun s w => !(revert ⟨s, w⟩).1.toBool &&
      decide ((revert ⟨s, w⟩).2.workplace.disk.read s.scene = .ok [0x62, 0x61, 0x64])) = true := by decide +kernel
  obtain ⟨s, w, hload, hrun⟩ := exists_of_passes hrun
  obtain ⟨hdisk, hfresh⟩ := Session.load_spec hload
  rw [Bool.and_eq_true, decide_eq_true_eq] at hrun
  obtain ⟨herror, hafter⟩ := hrun
  have hopen : Archive.openFile w.disk s.scene = .ok s.archive := by
    rw [Session.scene, (hfresh s rfl).root_eq, hdisk]
    exact (hfresh s rfl).archive_eq
  rcases hrevert : revert ⟨s, w⟩ with ⟨reverted, b'⟩
  rw [hrevert] at herror hafter
  cases reverted with
  | ok _ => cases herror
  | error e =>
    refine ⟨s, w, e, b', hload, hrevert, hopen, hafter, ?_⟩
    intro heq
    obtain ⟨a, ha⟩ := Archive.exists_openFile_of_read heq hopen
    rw [Archive.openFile, hafter] at ha
    cases ha

end Bench
end SceneScript
