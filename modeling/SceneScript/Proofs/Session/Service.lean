import Mathlib
import SceneScript.Proofs.Session.Exporting
import SceneScript.Proofs.Session.Outfit
import SceneScript.Proofs.Session.Steps
/-!
# A session in service

Between two openings of its scene file a session changes no file but that one, when it is saved, and the dumps that it
exports. What it is fitted out with stays as it was, save for a table of speakers that is the dump of a script.
-/
namespace SceneScript.Bench

open Act

/-! ## The files that calls change -/

/-- What is said of the files is kept by all but exports and saves. -/
theorem stable_disk (P : Disk → Prop) : Stable fun b => P b.workplace.disk :=
  ⟨fun hlooked hb => hlooked.disk_eq ▸ hb, fun _ _ hb => hb⟩

/-- Where dumps may be exported to. -/
def DumpLocation (l : Location) : Prop := ∃ name, l.getLast? = some name ∧ name.toList.getLast? = some 't'

/-- What a session may change: its scene file and dumps. -/
def Changed (d : Disk) (scene : Path) (l : Location) : Prop := l = d.locate scene ∨ DumpLocation l

theorem sameFiles_save {b : Bench} {changed : Location → Prop} {c : Char}
    (hend : b.session.archive.destination.toList.getLast? = some c) (hslash : c ≠ '/')
    (hchanged : changed (b.workplace.disk.locate b.session.archive.destination)) :
    SameFiles changed b (save b).2 := by
  obtain ⟨err, s, hrun, hdisk, -⟩ | ⟨a, -, hdestination, -, houtcome⟩ := save_cases b
  · rw [hrun, SameFiles, hdisk]
    exact .refl _
  · rw [SameFiles]
    rcases houtcome' : a.outcome b.workplace.disk with ⟨result, disk⟩
    rw [houtcome'] at houtcome
    obtain ⟨-, hdisk⟩ := Prod.mk.inj houtcome
    rw [hdisk]
    cases result with
    | error e =>
      rw [(Archive.outcome_eq_error houtcome').1]
      exact .refl _
    | ok _ =>
      obtain ⟨contents, image, -, -, hwrite⟩ := Archive.outcome_eq_ok houtcome'
      rw [hdestination] at hwrite
      exact Disk.sameFiles_write hend hslash hchanged hwrite

/-- A call changes no file but the one that the session is saved to and dumps. -/
theorem sameFiles_act {b : Bench} {scene : Path} (hdestination : b.session.archive.destination = scene)
    (hend : scene.toList.getLast? = some 's') (c : Call) :
    SameFiles (Changed b.workplace.disk scene) b (c.act b).2 := by
  have hstable : Stable (SameFiles (Changed b.workplace.disk scene) b) := stable_disk _
  refine hstable.after_act (Disk.SameFiles.refl _) ?_ ?_ c
  · refine (sameFiles_exportDumps b).mono ?_
    rintro _ ⟨name, -, rfl⟩
    exact .inr (Disk.getLast?_locate _ (b.getLast?_dumpPath name) (by decide) (by decide))
  · exact sameFiles_save (hdestination.symm ▸ hend) (by decide) (.inl (by rw [hdestination]))

/-! ## Fonts -/

/-- The file of the fonts. -/
def fontsFile (b : Bench) : Path := b.session.root.join fontsPath

theorem getLast?_fontsPath (root : Path) : (root.join fontsPath).toList.getLast? = some 'S' :=
  (Path.getLast?_join root (by decide)).trans (by decide)

/-- Nothing that a session changes are the fonts. -/
theorem not_changed_fonts (d : Disk) (root : Path) : ¬Changed d (root.join scenePath) (d.locate (root.join fontsPath)) := by
  rintro (h | ⟨name, hname, hend⟩)
  · exact d.locate_ne (getLast?_fontsPath root) (by decide) (by decide) (Session.getLast?_scenePath root) (by decide)
      (by decide) (by decide) h
  · obtain ⟨name', hname', hend'⟩ := d.getLast?_locate (getLast?_fontsPath root) (by decide) (by decide)
    rw [hname, Option.some.injEq] at hname'
    rw [hname', hend', Option.some.injEq] at hend
    exact absurd hend (by decide)

/-- The fonts stay the same while other files in their directory are changed. -/
theorem sameFile_fonts {d d' : Disk} {root : Path} {loc : Location} {n : Option Node}
    (hscene : d.resolve (root.join scenePath) = .ok (loc, n)) (h : Disk.SameFiles (Changed d (root.join scenePath)) d d') :
    Disk.SameFile (root.join fontsPath) d d' := by
  cases hrefusal : Disk.refusal? (root.join fontsPath) with
  | some e =>
    have hread : ∀ d : Disk, d.read (root.join fontsPath) = .error e := by
      intro d
      rw [Disk.read, Disk.resolve, hrefusal]
    intro data
    rw [hread, hread]
  | none =>
    have hempty : (root.join fontsPath).isEmpty = false := by
      rw [← Bool.not_eq_true, String.isEmpty_iff]
      intro hnil
      have hlast := getLast?_fontsPath root
      rw [hnil] at hlast
      cases hlast
    have hparts : Path.parts scenePath = ["FILE"] ++ ["SCENE00.afs"] := by decide
    have hparts' : Path.parts fontsPath = ["FILE"] ++ ["FONTS_PC.AFS"] := by decide
    have hfonts := Disk.resolve_sibling (by decide) hparts (by decide) hparts' (by decide) hscene hrefusal hempty
    exact h.sameFile hfonts (not_changed_fonts d root)

/-! ## From opening to opening -/

/-- A revert that succeeds has put the backup in place of the scene file and opened that. -/
theorem revert_eq_ok {b b' : Bench} (h : revert b = (.ok (), b')) :
    ∃ disk a log, b.workplace.disk.copy (b.session.root.join backupPath) b.session.scene = .ok disk ∧
      Archive.openFile disk b.session.scene = .ok a ∧
      b' = ⟨{ b.session with archive := a, dumps := DumpCache.empty }, ⟨disk, log⟩⟩ := by
  let scene := b.session.root.join scenePath
  let backup := b.session.root.join backupPath
  rw [revert, get_bind, bind_ok (atWorkplace_eq (Workplace.contains_eq backup b.workplace))] at h
  cases hbackup : b.workplace.disk.contains backup with
  | false =>
    rw [hbackup, if_pos (by decide)] at h
    cases h
  | true =>
    rw [hbackup, if_neg (by decide)] at h
    dsimp only at h
    cases hcopy : b.workplace.disk.copy backup scene with
    | error e =>
      have hchange : Workplace.change (·.copy backup scene) b.workplace = _ := Workplace.change_eq_error hcopy
      rw [bind_error (atWorkplace_eq hchange)] at h
      cases h
    | ok disk =>
      have hchange : Workplace.change (·.copy backup scene) b.workplace = _ := Workplace.change_eq_ok hcopy
      rw [bind_ok (atWorkplace_eq hchange)] at h
      let w : Workplace := { b.workplace with disk := disk }
      cases hopen : Archive.openFile disk scene with
      | error e =>
        have hrun : Workplace.openArchive scene w = _ := Workplace.openArchive_eq_error hopen
        rw [bind_error (atWorkplace_eq hrun)] at h
        cases h
      | ok a =>
        have hrun : Workplace.openArchive scene w = _ := Workplace.openArchive_eq_ok hopen
        rw [bind_ok (atWorkplace_eq hrun), bind_ok (update_eq _ _), report_eq] at h
        obtain ⟨-, rfl⟩ := Prod.mk.inj h
        exact ⟨disk, a, _, hcopy, hopen, rfl⟩

/-- The states of a session that was opened, each with the state in which its scene file was last opened: after any calls
and reverts, while nobody else touches the scene file and the fonts. -/
inductive Serves (opened : Bench) : Bench → Bench → Prop where
  | opened : Serves opened opened opened
  | call {base b : Bench} (c : Call) (h : Serves opened base b) : Serves opened base (c.act b).2
  | reverted {base b b' : Bench} (h : Serves opened base b) (hrevert : revert b = (.ok (), b')) : Serves opened b' b'
  | others {base b : Bench} {w : Workplace} (h : Serves opened base b)
      (hscene : w.disk.resolve opened.session.scene = b.workplace.disk.resolve opened.session.scene)
      (hfonts : Disk.SameFile opened.fontsFile b.workplace.disk w.disk) : Serves opened base { b with workplace := w }

/-- What is kept of a session that was opened, and of the state in which its scene file was last opened. -/
structure Served (opened base b : Bench) : Prop where
  base_opened : base.Opened
  root_eq : base.session.root = opened.session.root
  typesetter_eq : base.session.typesetter = opened.session.typesetter
  upkeep : Upkeep base unknown b
  fonts : Disk.SameFile opened.fontsFile opened.workplace.disk b.workplace.disk

section

variable {opened base b b' : Bench}

theorem Served.scene_eq (h : Served opened base b) : base.session.scene = opened.session.scene :=
  congrArg (Path.join · scenePath) h.root_eq

theorem Served.call (h : Served opened base b) (c : Call) : Served opened base (c.act b).2 where
  base_opened := h.base_opened
  root_eq := h.root_eq
  typesetter_eq := h.typesetter_eq
  upkeep := (keeps_act (source_of_opened h.base_opened).1 c).after (fun _ _ h => h) h.upkeep
  fonts := by
    obtain ⟨loc, data, hfile, -⟩ := h.upkeep.file
    have hsame := sameFiles_act h.upkeep.destination_eq base.session.getLast?_scene c
    have hfonts : Disk.SameFile (base.session.root.join fontsPath) _ _ := sameFile_fonts hfile hsame
    rw [h.root_eq] at hfonts
    exact h.fonts.trans hfonts

theorem Served.reverted (h : Served opened base b) (hrevert : revert b = (.ok (), b')) : Served opened b' b' := by
  obtain ⟨disk, a, log, hcopy, hopen, rfl⟩ := revert_eq_ok hrevert
  obtain ⟨_, _, -, hwrite⟩ := Disk.copy_eq_ok hcopy
  obtain ⟨loc, data, hfile, -⟩ := h.upkeep.file
  have hroot := h.upkeep.root_eq
  refine ⟨hopen, hroot.trans h.root_eq, h.upkeep.typesetter_eq.trans h.typesetter_eq, upkeep_opened hopen, h.fonts.trans ?_⟩
  have hsame : Disk.SameFiles (Changed b.workplace.disk b.session.scene) b.workplace.disk disk :=
    Disk.sameFiles_write b.session.getLast?_scene (by decide) (.inl rfl) hwrite
  rw [show base.session.scene = b.session.scene from congrArg (Path.join · scenePath) hroot.symm] at hfile
  rw [fontsFile, ← h.root_eq, ← hroot]
  exact sameFile_fonts hfile hsame

theorem Serves.served (hopened : opened.Opened) (h : Serves opened base b) : Served opened base b := by
  induction h with
  | opened => exact ⟨hopened, rfl, rfl, upkeep_opened hopened, .refl _ _⟩
  | call c _ ih => exact ih.call c
  | reverted _ hrevert ih => exact ih.reverted hrevert
  | others _ hscene hfonts ih =>
    rw [← ih.scene_eq] at hscene
    exact ⟨ih.base_opened, ih.root_eq, ih.typesetter_eq, ih.upkeep.with_disk _ fun _ _ h => hscene.trans h, ih.fonts.trans hfonts⟩

/-- A session that is opened anew with the same table of speakers gets the same typesetter. -/
theorem Served.typesetterOn {settings : Settings} {w₀ w : Workplace} {s : Session}
    (hopen : Session.load settings w₀ = (.ok s, w) ∨ Session.prepare settings w₀ = (.ok s, w)) (h : Served ⟨s, w⟩ base b)
    (hspeakers : ∀ p ∈ settings.speakers?, Disk.SameFile p w.disk b.workplace.disk) :
    b.session.root = settings.gamePath ∧ settings.typesetterOn b.workplace.disk = .ok b.session.typesetter := by
  obtain ⟨a, ts, -, hts, rfl⟩ := Session.eq_of_opened hopen
  refine ⟨h.upkeep.root_eq.trans h.root_eq, ?_⟩
  rw [h.upkeep.typesetter_eq.trans h.typesetter_eq]
  exact Settings.typesetterOn_congr ⟨h.fonts, hspeakers⟩ hts

end

end SceneScript.Bench
