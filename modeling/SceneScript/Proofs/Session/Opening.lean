import Mathlib
import SceneScript.Proofs.Session.Upkeep
/-!
# What opening a session does

Opening reads the scene file and leaves all files as they are. Before it, a session that is prepared copies the scene
file to a backup that is missing, or the backup to a scene file that is missing.
-/
namespace SceneScript

open Act

namespace Workplace

theorem contains_eq (p : Path) (w : Workplace) : contains p w = (.ok (w.disk.contains p), w) := rfl

theorem report_eq (lines : Log) (w : Workplace) :
    report lines w = (.ok (), { w with log := w.log ++ lines }) := rfl

theorem change_eq_ok {f : Disk → Except FileError Disk} {w : Workplace} {disk : Disk} (h : f w.disk = .ok disk) :
    change f w = (.ok (), { w with disk := disk }) := by
  have hinspect : inspect f w = (.ok disk, w) := by
    rw [inspect, get_bind, h]
    rfl
  rw [change, bind_ok hinspect]
  rfl

theorem change_eq_error {f : Disk → Except FileError Disk} {w : Workplace} {e : FileError}
    (h : f w.disk = .error e) : change f w = (.error (.file e), w) := by
  have hinspect : inspect f w = (.error (.file e), w) := by
    rw [inspect, get_bind, h]
    rfl
  rw [change, bind_error hinspect]

theorem openArchive_eq_ok {p : Path} {w : Workplace} {a : Archive} (h : Archive.openFile w.disk p = .ok a) :
    openArchive p w = (.ok a, w) := by
  rw [openArchive, get_bind, h]
  rfl

theorem openArchive_eq_error {p : Path} {w : Workplace} {e : ArchiveError} (h : Archive.openFile w.disk p = .error e) :
    openArchive p w = (.error (.archive e), w) := by
  rw [openArchive, get_bind, h]
  rfl

end Workplace

namespace Session

open Workplace (contains_eq report_eq change_eq_ok change_eq_error)

/-- A session that was just opened. -/
structure Fresh (settings : Settings) (disk : Disk) (s : Session) : Prop where
  root_eq : s.root = settings.gamePath
  archive_eq : Archive.openFile disk (settings.gamePath.join scenePath) = .ok s.archive
  dumps_eq : s.dumps = DumpCache.empty

theorem leads_openScene_fresh (settings : Settings) (disk : Disk) :
    (openScene settings).Leads (fun w => w.disk = disk) (fun s w => w.disk = disk ∧ Fresh settings disk s)
      fun w => w.disk = disk := by
  let scene := settings.gamePath.join scenePath
  refine (Workplace.leads_openArchive (P := (· = disk)) scene).bind fun archive => ?_
  apply leads_of_forall
  rintro w ⟨rfl, hopen⟩
  have hrest : ∀ metrics?, Leads (fun w' => w'.disk = w.disk) (do
      let typesetter ← settings.typesetter metrics?
      Workplace.report [Log.info ("Loaded " ++ Text.showNumber archive.entries.length ++ " scripts from "
        ++ archive.destination)]
      return (⟨settings.gamePath, archive, typesetter, DumpCache.empty, settings.target⟩ : Session))
        (fun s w' => w'.disk = w.disk ∧ Fresh settings w.disk s) fun w' => w'.disk = w.disk := by
    intro metrics?
    refine (keeps_typesetter (P := (· = w.disk)) settings metrics?).bind fun typesetter => ?_
    refine (Workplace.keeps_report (P := (· = w.disk)) _).bind fun _ => leads_pure ?_
    exact fun w' hw' => ⟨hw', rfl, hopen, rfl⟩
  dsimp only
  split_ifs
  · refine Leads.bind (Q := fun _ w' => w'.disk = w.disk) ?_ hrest
    exact (keeps_loadMetrics (P := (· = w.disk)) _ _).start rfl
  · exact Leads.bind (Q := fun _ w' => w'.disk = w.disk) (leads_return rfl) hrest

theorem openScene_spec {settings : Settings} {w w' : Workplace} {result : Except SessionError Session}
    (h : openScene settings w = (result, w')) :
    w'.disk = w.disk ∧ ∀ s, result = .ok s → Fresh settings w.disk s := by
  have hleads := leads_openScene_fresh settings w.disk w rfl
  rw [h] at hleads
  cases result with
  | error e => exact ⟨hleads, fun _ h => nomatch h⟩
  | ok s =>
    refine ⟨hleads.1, ?_⟩
    rintro _ ⟨⟩
    exact hleads.2

theorem load_spec {settings : Settings} {w w' : Workplace} {result : Except SessionError Session}
    (h : load settings w = (result, w')) :
    w'.disk = w.disk ∧ ∀ s, result = .ok s → Fresh settings w.disk s := by
  rw [load, bind_ok (contains_eq _ _)] at h
  cases hfound : w.disk.contains (settings.gamePath.join scenePath) with
  | true =>
    rw [hfound] at h
    exact openScene_spec h
  | false =>
    rw [hfound] at h
    obtain ⟨rfl, rfl⟩ := Prod.mk.inj h
    exact ⟨rfl, fun _ h => nomatch h⟩

theorem getLast?_backupPath (root : Path) : (root.join backupPath).toList.getLast? = some 'k' :=
  (Path.getLast?_join root (by decide)).trans (by decide)

/-- The scene file is there after it was copied to its backup. -/
theorem resolve_scene_of_backup {root : Path} {disk disk' : Disk}
    (h : disk.copy (root.join scenePath) (root.join backupPath) = .ok disk') :
    ∃ loc data, disk.resolve (root.join scenePath) = .ok (loc, some (.file data)) ∧
      disk'.resolve (root.join scenePath) = .ok (loc, some (.file data)) := by
  obtain ⟨loc, data, hfile, hwrite⟩ := Disk.copy_eq_ok h
  exact ⟨loc, data, hfile, Disk.resolve_write_of_ne (getLast?_scenePath root) (by decide) (by decide)
    (getLast?_backupPath root) (by decide) (by decide) (by decide) hwrite hfile⟩

/-- How the files stand when a session is prepared and about to be opened. -/
inductive Readied (root : Path) (disk : Disk) : Disk → Prop where
  | asIs : Readied root disk disk
  | backedUp {disk' : Disk} (hmissing : disk.contains (root.join backupPath) = false)
      (hcopy : disk.copy (root.join scenePath) (root.join backupPath) = .ok disk') : Readied root disk disk'
  | restored {disk' : Disk} (hmissing : disk.contains (root.join scenePath) = false)
      (hcopy : disk.copy (root.join backupPath) (root.join scenePath) = .ok disk') : Readied root disk disk'

/-- Preparing a session either fails before any file is changed, or opens the scene file once one of the two files was
copied to the place of the other if that was missing. -/
theorem prepare_cases {settings : Settings} {w w' : Workplace} {result : Except SessionError Session}
    (h : prepare settings w = (result, w')) :
    (w'.disk = w.disk ∧ ∃ e, result = .error e) ∨
      ∃ w₁, Readied settings.gamePath w.disk w₁.disk ∧ openScene settings w₁ = (result, w') := by
  let scene := settings.gamePath.join scenePath
  let backup := settings.gamePath.join backupPath
  rw [prepare] at h
  dsimp only at h
  rw [bind_ok (contains_eq scene w), bind_ok (contains_eq backup w)] at h
  cases hscene : w.disk.contains scene with
  | false =>
    cases hbackup : w.disk.contains backup with
    | false =>
      rw [hscene, hbackup] at h
      obtain ⟨rfl, rfl⟩ := Prod.mk.inj h
      exact .inl ⟨rfl, _, rfl⟩
    | true =>
      rw [hscene, hbackup, if_neg (by decide), bind_ok (contains_eq backup w), hbackup, if_neg (by decide),
        bind_ok (contains_eq scene w), hscene, if_pos (by decide)] at h
      cases hcopy : w.disk.copy backup scene with
      | error e =>
        rw [bind_error (change_eq_error hcopy)] at h
        obtain ⟨rfl, rfl⟩ := Prod.mk.inj h
        exact .inl ⟨rfl, _, rfl⟩
      | ok disk =>
        rw [bind_ok (change_eq_ok hcopy), bind_ok (report_eq _ _)] at h
        exact .inr ⟨_, .restored hscene hcopy, h⟩
  | true =>
    cases hbackup : w.disk.contains backup with
    | false =>
      rw [hscene, hbackup, if_neg (by decide), bind_ok (contains_eq backup w), hbackup, if_pos (by decide)] at h
      cases hcopy : w.disk.copy scene backup with
      | error e =>
        rw [bind_error (change_eq_error hcopy)] at h
        obtain ⟨rfl, rfl⟩ := Prod.mk.inj h
        exact .inl ⟨rfl, _, rfl⟩
      | ok disk =>
        obtain ⟨loc, data, -, hfile⟩ := resolve_scene_of_backup hcopy
        rw [bind_ok (change_eq_ok hcopy)] at h
        rw [bind_ok (report_eq _ _), bind_ok (contains_eq scene _), Disk.contains_of_resolve hfile, if_neg (by decide)] at h
        exact .inr ⟨_, .backedUp hbackup hcopy, h⟩
    | true =>
      rw [hscene, hbackup, if_neg (by decide), bind_ok (contains_eq backup w), hbackup, if_neg (by decide),
        bind_ok (contains_eq scene w), hscene, if_neg (by decide)] at h
      exact .inr ⟨w, .asIs, h⟩

/-- A session that was loaded or prepared was opened on the scene file as it is then. -/
theorem fresh_of_opened {settings : Settings} {w₀ w : Workplace} {s : Session}
    (h : load settings w₀ = (.ok s, w) ∨ prepare settings w₀ = (.ok s, w)) : Fresh settings w.disk s := by
  rcases h with h | h
  · obtain ⟨hdisk, hfresh⟩ := load_spec h
    rw [hdisk]
    exact hfresh s rfl
  · obtain ⟨-, e, he⟩ | ⟨w₁, -, hopen⟩ := prepare_cases h
    · cases he
    · obtain ⟨hdisk, hfresh⟩ := openScene_spec hopen
      rw [hdisk]
      exact hfresh s rfl

end Session

theorem Bench.atWorkplace_eq {α : Type} {act : Act Workplace α} {b : Bench} {result : Except SessionError α}
    {w : Workplace} (h : act b.workplace = (result, w)) : Bench.atWorkplace act b = (result, { b with workplace := w }) := by
  rw [Bench.atWorkplace, h]

/-- Whether the archive of a session is that of its scene file. -/
def Bench.Opened (b : Bench) : Prop := Archive.openFile b.workplace.disk b.session.scene = .ok b.session.archive

theorem Session.Fresh.opened {settings : Settings} {w : Workplace} {s : Session} (h : Session.Fresh settings w.disk s) :
    Bench.Opened ⟨s, w⟩ := by
  have hscene : s.scene = settings.gamePath.join scenePath := congrArg (Path.join · scenePath) h.root_eq
  rw [Bench.Opened, hscene]
  exact h.archive_eq

end SceneScript
