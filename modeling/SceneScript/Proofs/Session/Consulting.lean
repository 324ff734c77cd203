import Mathlib
import SceneScript.Proofs.Archive.Rebuilding
import SceneScript.Proofs.Script.Preference
import SceneScript.Proofs.Session.FailedSave
import SceneScript.Proofs.Session.Steps
/-!
# Asking for dumps in any order

A session remembers the dumps it was asked for and the character set of the last one. If every script comes to one dump,
nothing of that is seen: whatever was asked for before, a dump is what it would have been at first.
-/
namespace SceneScript.Bench

open Act

/-! ## The same dumps with other files -/

section

variable {b s : Bench} {w : Workplace}

theorem dumpOf_with_workplace
    (h : ∀ e : Entry, e.load w.disk b.session.archive.source? = e.load b.workplace.disk b.session.archive.source?)
    (cs : Charset) (name : String) : dumpOf { b with workplace := w } cs name = b.dumpOf cs name := by
  rw [dumpOf, dumpOf]
  simp only [h]

/-- Dumps may be asked for with other files as long as every entry is loaded alike. -/
theorem Looked.with_workplace (h : Looked b s)
    (hload : ∀ e : Entry, e.load w.disk b.session.archive.source? = e.load b.workplace.disk b.session.archive.source?) :
    Looked { b with workplace := w } { s with workplace := w } where
  root_eq := h.root_eq
  typesetter_eq := h.typesetter_eq
  source_eq := h.source_eq
  destination_eq := h.destination_eq
  disk_eq := rfl
  entries := h.entries.imp fun e e' hsame =>
    ⟨hsame.name_eq, hsame.timestamp_eq, (hload e').trans (hsame.load_eq.trans (hload e).symm)⟩
  edited_eq := h.edited_eq
  kept := h.kept
  found := by
    intro name dump hnone hsome
    obtain ⟨cs, hcs⟩ := h.found name dump hnone hsome
    exact ⟨cs, (dumpOf_with_workplace hload cs name).trans hcs⟩

end

/-! ## Steps -/

/-- The states of a session while dumps are asked for and exported, be they failures, and nobody else touches the scene
file. An export is also seen between its entries. -/
inductive Consulted (opened : Bench) : Bench → Prop where
  | opened : Consulted opened opened
  | decompile {b : Bench} (name : String) (h : Consulted opened b) : Consulted opened (Bench.decompile name b).2
  | exportDumps {b : Bench} (h : Consulted opened b) : Consulted opened (Bench.exportDumps b).2
  | exportEntry {b : Bench} (directory : Path) (name : String) (h : Consulted opened b) :
      Consulted opened (Bench.exportEntry directory name b).2
  | others {b : Bench} {w : Workplace} (h : Consulted opened b)
      (hfile : w.disk.resolve opened.session.scene = b.workplace.disk.resolve opened.session.scene) :
      Consulted opened { b with workplace := w }

/-- Whether nothing but dumps were asked for and the scene file is as it was. -/
structure Consults (opened b : Bench) : Prop where
  looked : Looked opened { b with workplace := opened.workplace }
  file : ∃ loc loc' data, opened.workplace.disk.resolve opened.session.scene = .ok (loc, some (.file data)) ∧
    b.workplace.disk.resolve opened.session.scene = .ok (loc', some (.file data))

section

variable {opened b : Bench}

/-- Entries are loaded as they would have been at first. -/
theorem Consults.load_eq (h : Consults opened b) (hsource : opened.session.archive.source? = some opened.session.scene)
    (e : Entry) : e.load opened.workplace.disk b.session.archive.source? =
      e.load b.workplace.disk b.session.archive.source? := by
  obtain ⟨loc, loc', data, hfile, hfile'⟩ := h.file
  rw [show b.session.archive.source? = some opened.session.scene from h.looked.source_eq.trans hsource,
    Entry.load_congr e hfile hfile']

/-- Asking for dumps goes on as at first. -/
theorem Consults.looked_trans (h : Consults opened b) (hsource : opened.session.archive.source? = some opened.session.scene)
    {s : Bench} (hlooked : Looked b s) : Consults opened s :=
  ⟨h.looked.trans (hlooked.with_workplace (h.load_eq hsource)), hlooked.disk_eq ▸ h.file⟩

/-- The files may change as long as the scene file is the same. -/
theorem Consults.with_disk (h : Consults opened b) {disk : Disk} {log : Log}
    (hdisk : ∀ loc data, b.workplace.disk.resolve opened.session.scene = .ok (loc, some (.file data)) →
      disk.resolve opened.session.scene = .ok (loc, some (.file data))) :
    Consults opened { b with workplace := ⟨disk, log⟩ } := by
  obtain ⟨loc, loc', data, hfile, hfile'⟩ := h.file
  exact ⟨h.looked, loc, loc', data, hfile, hdisk loc' data hfile'⟩

theorem Consulted.consults (h : Consulted opened b) (hopened : opened.Opened) : Consults opened b := by
  obtain ⟨hsource, -, -, data, hread⟩ := source_of_opened hopened
  have hlooked : ∀ {b s : Bench}, Looked b s → Consults opened b → Consults opened s :=
    fun hlooked hb => hb.looked_trans hsource hlooked
  have hmoved : ∀ {b : Bench} {disk : Disk}, Consults opened b →
      (∀ loc data, b.workplace.disk.resolve b.session.scene = .ok (loc, some (.file data)) →
        disk.resolve b.session.scene = .ok (loc, some (.file data))) →
      Consults opened { b with workplace := { b.workplace with disk := disk } } := by
    intro b disk hb hdisk
    rw [show b.session.scene = opened.session.scene from congrArg (Path.join · scenePath) hb.looked.root_eq] at hdisk
    exact hb.with_disk hdisk
  induction h with
  | opened =>
    obtain ⟨loc, hfile⟩ := Disk.resolve_of_read hread
    exact ⟨.refl opened, loc, loc, data, hfile, hfile⟩
  | @decompile b name _ ih =>
    obtain ⟨s, hrun, hs, -⟩ := decompile_spec b name
    rw [hrun]
    exact hlooked hs ih
  | exportDumps _ ih => exact (keeps_exportDumps_of hlooked hmoved).after (fun _ _ h => h) ih
  | exportEntry directory name _ ih =>
    exact (keeps_exportEntry_of hlooked hmoved directory name).after (fun _ _ h => h) ih
  | others _ hfile ih => exact ih.with_disk fun _ _ h => hfile.trans h

/-- A dump that is asked for is what it would have been at first, for some order of the character sets. -/
theorem Consults.exists_decompile_eq (h : Consults opened b)
    (hsource : opened.session.archive.source? = some opened.session.scene) (name : String) :
    ∃ cs, (decompile name b).1 = opened.dumpOf cs name := by
  obtain ⟨s, hrun, -, -⟩ := decompile_spec b name
  obtain ⟨cs, hcs⟩ := h.looked.exists_dumpOf_eq b.session.preferred name
  refine ⟨cs, ?_⟩
  rw [hrun, ← hcs, dumpOf_with_workplace (h.load_eq hsource)]

end

/-! ## Two sessions -/

/-- Whether every script of a session comes to one dump. -/
def ReadOneWay (b : Bench) : Prop :=
  ∀ e ∈ b.session.archive.entries, ∀ bytes, e.load b.workplace.disk b.session.archive.source? = .ok bytes →
    ReadsOneWay e.name bytes

instance (b : Bench) : Decidable b.ReadOneWay :=
  inferInstanceAs (Decidable (∀ e ∈ b.session.archive.entries, ∀ bytes,
    e.load b.workplace.disk b.session.archive.source? = .ok bytes → ReadsOneWay e.name bytes))

/-- Dumps of two sessions that were just opened on the same scene archive. -/
theorem dumpOf_of_opened {b s : Bench} (hb : b.Opened) (hs : s.Opened)
    (hsame : s.workplace.disk.read s.session.scene = b.workplace.disk.read b.session.scene)
    (hdumps : b.session.dumps = DumpCache.empty) (hdumps' : s.session.dumps = DumpCache.empty) (honce : b.ReadOneWay)
    (cs cs' : Charset) (name : String) : s.dumpOf cs' name = b.dumpOf cs name := by
  obtain ⟨-, -, -, image, hread⟩ := source_of_opened hb
  have hread' := hsame.trans hread
  have hentries : s.session.archive.entries = b.session.archive.entries :=
    (Archive.entries_of_openFile hs hread').1.trans (Archive.entries_of_openFile hb hread).1.symm
  have hfind : s.session.archive.find? name = b.session.archive.find? name := by
    rw [Archive.find?, Archive.find?, hentries]
  have hnone : b.session.dumps.get? name = none := by
    rw [hdumps]
    rfl
  have hnone' : s.session.dumps.get? name = none := by
    rw [hdumps']
    rfl
  cases hfound : b.session.archive.find? name with
  | none =>
    rw [hfound] at hfind
    rw [dumpOf, dumpOf, hnone, hnone', hfind, hfound]
  | some found =>
    obtain ⟨e, place⟩ := found
    have he := Archive.getElem?_of_find? hfound
    have hload := (Archive.load_of_openFile hb hread hread he).2
    have hload' := (Archive.load_of_openFile hs hread' hread' (hentries ▸ he)).2
    have hone := honce e (List.mem_of_getElem? he) _ hload
    rw [Archive.name_of_find? hfound] at hone
    rw [dumpOf_of_load hnone hfound hload, dumpOf_of_load hnone' (hfind.trans hfound) hload', hone.disassemble_eq cs' cs]

/-- Two sessions that were opened on the same scene archive, whatever their settings, have the same dumps or failures for
the same entries, whatever dumps were asked for and exported in either before, if every script comes to one dump. -/
theorem decompile_of_consulted {settings settings' : Settings} {w₀ w w₀' w' : Workplace} {s s' : Session}
    (hopen : Session.load settings w₀ = (.ok s, w) ∨ Session.prepare settings w₀ = (.ok s, w))
    (hopen' : Session.load settings' w₀' = (.ok s', w') ∨ Session.prepare settings' w₀' = (.ok s', w'))
    (hsame : w'.disk.read s'.scene = w.disk.read s.scene) (honce : ReadOneWay ⟨s, w⟩) {b b' : Bench}
    (h : Consulted ⟨s, w⟩ b) (h' : Consulted ⟨s', w'⟩ b') (name : String) :
    (decompile name b').1 = (decompile name b).1 := by
  have hfresh := Session.fresh_of_opened hopen
  have hfresh' := Session.fresh_of_opened hopen'
  obtain ⟨cs, hcs⟩ := (h.consults hfresh.opened).exists_decompile_eq (source_of_opened hfresh.opened).1 name
  obtain ⟨cs', hcs'⟩ := (h'.consults hfresh'.opened).exists_decompile_eq (source_of_opened hfresh'.opened).1 name
  rw [hcs, hcs']
  exact dumpOf_of_opened hfresh.opened hfresh'.opened hsame hfresh.dumps_eq hfresh'.dumps_eq honce cs cs' name

/-- A message in Shift-JIS, one that reads the same in both character sets and one that decodes in none, for sessions that
begin with either. -/
theorem decompile_of_consulted_mixed :
    let message : Bytes → Bytes := fun text => [1, 0x18, 8, 0, 0, 0, 0, 0x0B, 0, 0x0D, 2] ++ text ++ [0]
    let image := (Image.build? [⟨"SC01", .zero, message [0xB1]⟩, ⟨"SC02", .zero, message [0x48, 0x69]⟩,
      ⟨"SC03", .zero, message [0xFF]⟩]).getD []
    let w₀ : Workplace := ⟨⟨[], [(["FILE"], .dir), (["FILE", "SCENE00.afs"], .file image)]⟩, []⟩
    let settings := { Settings.default with english := false, wraps := false }
    ∃ s w s' w', Session.load { settings with target := .big5 } w₀ = (.ok s, w) ∧
      Session.load { settings with target := .shiftJis } w₀ = (.ok s', w') ∧
      s.preferred = .big5 ∧ s'.preferred = .shiftJis ∧ ReadOneWay ⟨s, w⟩ ∧
      (exportDumps ⟨s, w⟩).1.toBool = false ∧
      ∀ name, (decompile name (decompile "SC02" (decompile "SC03" ⟨s', w'⟩).2).2).1 =
        (decompile name (exportDumps ⟨s, w⟩).2).1 := by
  intro message image w₀ settings
  have hrun : passes (Session.load { settings with target := .big5 } w₀) (fun s w =>
      passes (Session.load { settings with target := .shiftJis } w₀) fun s' w' =>
        decide (s.preferred = .big5 ∧ s'.preferred = .shiftJis ∧ ReadOneWay ⟨s, w⟩ ∧
          (exportDumps ⟨s, w⟩).1.toBool = false)) = true := by decide +kernel
  obtain ⟨s, w, hload, hrun⟩ := exists_of_passes hrun
  obtain ⟨s', w', hload', hrun⟩ := exists_of_passes hrun
  rw [decide_eq_true_eq] at hrun
  obtain ⟨hbig5, hsjis, honce, hfails⟩ := hrun
  have hsame : w'.disk.read s'.scene = w.disk.read s.scene := by
    obtain ⟨hdisk, hfresh⟩ := Session.load_spec hload
    obtain ⟨hdisk', hfresh'⟩ := Session.load_spec hload'
    rw [hdisk, hdisk', Session.scene, Session.scene, (hfresh s rfl).root_eq, (hfresh' s' rfl).root_eq]
  refine ⟨s, w, s', w', hload, hload', hbig5, hsjis, honce, hfails, fun name => ?_⟩
  exact decompile_of_consulted (.inl hload) (.inl hload') hsame honce (.exportDumps .opened)
    (.decompile "SC02" (.decompile "SC03" .opened)) name

end SceneScript.Bench
