import Mathlib
import SceneScript.Proofs.Session.Runs
import SceneScript.Proofs.Session.Writing
/-!
# The course of a session

Through all calls, whatever happens to the files meanwhile, a session keeps the names of its entries and the place it is
saved to, and a dump stays until its own name is edited.
-/
namespace SceneScript

namespace Archive

theorem map_name_foldl_setDataAt (built : List (Nat × Bytes)) (a : Archive) :
    (built.foldl (fun a (place, data) => a.setDataAt place data) a).entries.map Entry.name =
      a.entries.map Entry.name := by
  induction built generalizing a with
  | nil => rfl
  | cons p built ih => exact (ih _).trans (map_name_setDataAt a p.1 p.2)

end Archive

namespace Bench

open Act

/-- Whether a session may have come from an earlier one without an edit of the names that are spared. -/
structure Continues (spared : String → Prop) (b s : Bench) : Prop where
  root_eq : s.session.root = b.session.root
  typesetter_eq : s.session.typesetter = b.session.typesetter
  destination_eq : s.session.archive.destination = b.session.archive.destination
  names_eq : s.session.archive.entries.map Entry.name = b.session.archive.entries.map Entry.name
  kept : ∀ name, spared name → ∀ dump, b.session.dumps.get? name = some dump → s.session.dumps.get? name = some dump

variable {spared : String → Prop} {b₀ b s t : Bench}

theorem Continues.refl (b : Bench) : Continues spared b b := ⟨rfl, rfl, rfl, rfl, fun _ _ _ h => h⟩

theorem Continues.trans (h : Continues spared b s) (h' : Continues spared s t) : Continues spared b t where
  root_eq := h'.root_eq.trans h.root_eq
  typesetter_eq := h'.typesetter_eq.trans h.typesetter_eq
  destination_eq := h'.destination_eq.trans h.destination_eq
  names_eq := h'.names_eq.trans h.names_eq
  kept := fun name hname dump hdump => h'.kept name hname dump (h.kept name hname dump hdump)

theorem Looked.continues (h : Looked b s) : Continues spared b s where
  root_eq := h.root_eq
  typesetter_eq := h.typesetter_eq
  destination_eq := h.destination_eq
  names_eq := map_eq_of_forall₂ h.entries fun _ _ hsame => hsame.name_eq
  kept := fun name _ => h.kept name

/-- The files and the log may change in any way. -/
theorem Continues.with_workplace (h : Continues spared b s) (w : Workplace) :
    Continues spared b { s with workplace := w } := { h with }

theorem Continues.with_edit (h : Continues spared b s) {name : String} (hname : ¬spared name) (dump : Text) :
    Continues spared b { s with session := { s.session with dumps := s.session.dumps.edit name dump } } where
  root_eq := h.root_eq
  typesetter_eq := h.typesetter_eq
  destination_eq := h.destination_eq
  names_eq := h.names_eq
  kept := by
    intro other hother kept hkept
    dsimp only
    rw [DumpCache.get?_edit, if_neg]
    · exact h.kept other hother kept hkept
    · rintro rfl
      exact hname hother

theorem Continues.with_archive (h : Continues spared b s) {a : Archive}
    (hdestination : a.destination = s.session.archive.destination)
    (hnames : a.entries.map Entry.name = s.session.archive.entries.map Entry.name) :
    Continues spared b { s with session := { s.session with archive := a } } where
  root_eq := h.root_eq
  typesetter_eq := h.typesetter_eq
  destination_eq := hdestination.trans h.destination_eq
  names_eq := hnames.trans h.names_eq
  kept := h.kept

/-! ## Calls one by one -/

theorem keeps_atWorkplace {α : Type} (act : Act Workplace α) : Keeps (Continues spared b₀) (atWorkplace act) := by
  intro b hb
  rw [atWorkplace]
  rcases act b.workplace with ⟨result, w⟩
  cases result <;> exact hb.with_workplace w

theorem continues_decompile (name : String) : Keeps (Continues spared b₀) (decompile name) := by
  intro b hb
  obtain ⟨s, hrun, hlooked, -⟩ := decompile_spec b name
  rw [hrun]
  cases b.dumpOf b.session.preferred name <;> exact hb.trans hlooked.continues

theorem continues_entry (name : String) : Keeps (Continues spared b₀) (entry name) := by
  apply leads_get_bind
  intro b hb
  cases b.session.archive.find? name with
  | some found => exact leads_return hb
  | none => exact leads_fail hb

theorem continues_edit {name : String} (hname : ¬spared name) (dump : Text) :
    Keeps (Continues spared b₀) (edit name dump) :=
  (continues_entry name).bind fun _ => leads_modify fun _ h => h.with_edit hname dump

theorem continues_exportDumps : Keeps (Continues spared b₀) exportDumps := by
  apply leads_get_bind
  intro b hb
  refine ((keeps_atWorkplace _).start hb).bind fun _ => ?_
  refine (keeps_forM fun (e, place) _ => ?_).bind fun _ => (keeps_atWorkplace _).bind fun _ => leads_pure fun _ h => h
  exact (continues_decompile e.name).bind fun _ => keeps_atWorkplace _

/-- The entry a file is meant for bears the name of the file. -/
theorem leads_entryOfFile? (file : Path) :
    (entryOfFile? file).Leads (Continues spared b₀)
      (fun found b => Continues spared b₀ b ∧ ∀ name, found = some name → Path.stem? file = some name)
      (Continues spared b₀) := by
  have hnone : ∀ name, none = some name → Path.stem? file = some name := by
    intro name h
    cases h
  rw [entryOfFile?]
  split
  · exact leads_pure fun _ h => ⟨h, hnone⟩
  · rename_i name hname
    apply leads_get_bind
    intro b hb
    split_ifs
    · exact leads_return ⟨hb, fun _ h => hname.trans h⟩
    · exact ((keeps_atWorkplace _).start hb).bind fun _ => leads_pure fun _ h => ⟨h, hnone⟩

theorem continues_applyFile {file : Path} (hfile : ∀ name, Path.stem? file = some name → ¬spared name) :
    Keeps (Continues spared b₀) (applyFile file) := by
  refine (leads_entryOfFile? file).bind fun found => ?_
  cases found with
  | none => exact leads_pure fun _ h => h.1
  | some name =>
    apply leads_of_forall
    rintro b ⟨hb, hname⟩
    refine ((keeps_atWorkplace _).start hb).bind fun dump => ?_
    refine Leads.bind (Q := fun _ => Continues spared b₀) (leads_modify fun _ h => ?_) fun _ => leads_pure fun _ h => h
    exact h.with_edit (hfile name (hname name rfl)) dump

theorem continues_importFile {file : Path} (hfile : ∀ name, Path.stem? file = some name → ¬spared name) :
    Keeps (Continues spared b₀) (importFile file) := by
  refine (leads_entryOfFile? file).bind fun found => ?_
  cases found with
  | none => exact leads_pure fun _ h => h.1
  | some name =>
    apply leads_of_forall
    rintro b ⟨hb, hname⟩
    have hset : Keeps (Continues spared b₀) (loadSet file) := by
      refine (keeps_atWorkplace _).bind fun t => ?_
      split
      · exact leads_pure fun _ h => h
      · exact leads_throw fun _ h => h
    refine (hset.start hb).bind fun set => (continues_decompile name).bind fun dump => ?_
    dsimp only
    rcases Replacement.merge name dump set with ⟨merged, log⟩
    refine (keeps_atWorkplace _).bind fun _ => ?_
    rcases merged with e | _ | dump
    · exact (keeps_atWorkplace _).bind fun _ => leads_pure fun _ h => h
    · exact (keeps_atWorkplace _).bind fun _ => leads_pure fun _ h => h
    · refine Leads.bind (Q := fun _ => Continues spared b₀) (leads_modify fun _ h => ?_) fun _ => ?_
      · exact h.with_edit (hfile name (hname name rfl)) dump
      · split_ifs
        · exact (keeps_atWorkplace _).bind fun _ => leads_pure fun _ h => h
        · exact leads_pure fun _ h => h

theorem continues_countFiles {act : Path → Act Bench Bool} {files : List Path}
    (h : ∀ file ∈ files, Keeps (Continues spared b₀) (act file)) (count : Nat) :
    Keeps (Continues spared b₀)
      (files.foldlM (fun count file => do return if ← act file then count + 1 else count) count) :=
  keeps_foldlM (fun _ file hfile => (h file hfile).bind fun _ => leads_pure fun _ h => h) count

/-- The files below a directory with an extension, as a session finds them. -/
def filesBelow (b : Bench) (directory : Path) (extension : Text) : List Path :=
  (b.workplace.disk.pathsBelow directory).filter (Path.hasExtension · extension)

/-- Whether none of certain files is meant for a name that is spared. -/
def FilesSpare (spared : String → Prop) (files : List Path) : Prop :=
  ∀ file ∈ files, ∀ name, Path.stem? file = some name → ¬spared name

theorem filesWith_eq (b : Bench) (directory : Path) (extension : Text) :
    filesWith directory extension b = (.ok (b.filesBelow directory extension), b) := rfl

theorem leads_filesWith (b : Bench) (directory : Path) (extension : Text) {F : Bench → Prop} :
    (filesWith directory extension).Leads (· = b) (fun files s => s = b ∧ files = b.filesBelow directory extension) F := by
  rintro _ rfl
  rw [filesWith_eq]
  exact ⟨rfl, rfl⟩

theorem continues_applyDumps {directory : Path} (h : FilesSpare spared (b.filesBelow directory "txt".toList)) :
    (applyDumps directory).Leads (· = b) (fun _ => Continues spared b) (Continues spared b) := by
  refine (leads_filesWith b directory _).bind fun files => leads_of_forall ?_
  rintro _ ⟨rfl, rfl⟩
  refine ((continues_countFiles (fun file hfile => continues_applyFile (h file hfile)) 0).start (.refl _)).bind fun _ => ?_
  exact (keeps_atWorkplace _).bind fun _ => leads_pure fun _ h => h

theorem continues_importSets {directory : Path} (h : FilesSpare spared (b.filesBelow directory "json".toList)) :
    (importSets directory).Leads (· = b) (fun _ => Continues spared b) (Continues spared b) := by
  refine (leads_filesWith b directory _).bind fun files => leads_of_forall ?_
  rintro _ ⟨rfl, rfl⟩
  refine ((continues_countFiles (fun file hfile => continues_importFile (h file hfile)) 0).start (.refl _)).bind fun _ => ?_
  exact (keeps_atWorkplace _).bind fun _ => leads_pure fun _ h => h

theorem continues_saveArchive : Keeps (Continues spared b₀) saveArchive := by
  apply leads_get_bind
  intro b hb
  rcases hsave : b.session.archive.save b.workplace.disk with ⟨result, a⟩
  obtain ⟨-, hdestination, hmaybe, -⟩ := Archive.save_spec hsave
  have hnames : a.entries.map Entry.name = b.session.archive.entries.map Entry.name := by
    refine map_eq_of_forall₂ hmaybe ?_
    rintro e _ (rfl | ⟨data, -, rfl⟩) <;> rfl
  refine Leads.bind (Q := fun _ => Continues spared b₀) (leads_modify_of_eq (hb.with_archive hdestination hnames))
    fun _ => ?_
  cases result with
  | error e => exact leads_throw fun _ h => h
  | ok written => exact (keeps_atWorkplace _).bind fun _ => keeps_atWorkplace _

theorem continues_finish (count : Nat) (results : List (Nat × Except SessionError Bytes)) :
    Keeps (Continues spared b₀) (finish count results) := by
  rw [finish]
  split
  · exact leads_throw fun _ h => h
  rename_i built _
  refine Leads.bind (Q := fun _ => Continues spared b₀) (leads_modify fun s hs => ?_) fun _ => ?_
  · exact hs.with_archive (Archive.foldl_setDataAt_frame built _).2.1 (Archive.map_name_foldl_setDataAt built _)
  · exact continues_saveArchive.bind fun _ => keeps_atWorkplace _

theorem continues_save : Keeps (Continues spared b₀) save := by
  apply leads_get_bind
  intro b hb
  have htry : (tryAll (inScope b.session.archive)).Leads (· = b) (fun _ => Continues spared b₀) (Continues spared b₀) := by
    obtain ⟨results, s, hrun, hlooked, -⟩ := tryAll_spec (inScope b.session.archive) b
    rintro _ rfl
    rw [hrun]
    exact hb.trans hlooked.continues
  exact htry.bind fun results => continues_finish _ results

/-- Whether a call edits no name that is spared. -/
def Call.Spares (spared : String → Prop) (b : Bench) : Call → Prop
  | edit name _ => ¬spared name
  | applyDumps directory => FilesSpare spared (b.filesBelow directory "txt".toList)
  | importSets directory => FilesSpare spared (b.filesBelow directory "json".toList)
  | decompile _ | exportDumps | save => True

/-- A call that spares names continues the session. -/
theorem continues_act {c : Call} (h : c.Spares spared b) : Continues spared b (c.act b).2 := by
  have hact : c.act.Leads (· = b) (fun _ => Continues spared b) (Continues spared b) := by
    cases c with
    | decompile name =>
      exact ((continues_decompile name).start (.refl b)).bind fun _ => leads_pure fun _ h => h
    | edit name dump => exact (continues_edit h dump).start (.refl b)
    | applyDumps directory => exact (continues_applyDumps h).bind fun _ => leads_pure fun _ h => h
    | importSets directory => exact (continues_importSets h).bind fun _ => leads_pure fun _ h => h
    | exportDumps => exact (continues_exportDumps.start (.refl b)).bind fun _ => leads_pure fun _ h => h
    | save => exact continues_save.start (.refl b)
  exact hact.final

/-! ## Sessions from their opening on -/

/-- Whether a session is saved to its scene file and has no more entries than an image holds. -/
structure Savable (b : Bench) : Prop where
  destination_eq : b.session.archive.destination = b.session.scene
  length_le : b.session.archive.entries.length ≤ maxEntries

theorem Savable.of_openFile {b : Bench} {disk : Disk} (h : Archive.openFile disk b.session.scene = .ok b.session.archive) :
    Savable b := ⟨Archive.destination_of_openFile h, Archive.length_le_of_openFile h⟩

theorem Savable.continues (h : Savable b) (hcontinues : Continues spared b s) : Savable s where
  destination_eq := by
    rw [hcontinues.destination_eq, h.destination_eq, Session.scene, Session.scene, hcontinues.root_eq]
  length_le := by
    have hlength := congrArg List.length hcontinues.names_eq
    rw [List.length_map, List.length_map] at hlength
    rw [hlength]
    exact h.length_le

theorem Savable.with_workplace (h : Savable b) (w : Workplace) : Savable { b with workplace := w } :=
  ⟨h.destination_eq, h.length_le⟩

/-- Reverting opens the scene file anew or leaves the session as it is. -/
theorem Savable.revert (h : Savable b) : Savable (Bench.revert b).2 := by
  let P : Bench → Prop := fun s => s.session.root = b.session.root ∧ Savable s
  have hfiles : ∀ {α : Type} (act : Act Workplace α), Keeps P (atWorkplace act) := by
    intro α act s hs
    rw [atWorkplace]
    rcases act s.workplace with ⟨result, w⟩
    cases result <;> exact ⟨hs.1, hs.2.with_workplace w⟩
  have hopen : (atWorkplace (Workplace.openArchive b.session.scene)).Leads P
      (fun a s => P s ∧ ∃ disk, Archive.openFile disk b.session.scene = .ok a) P := by
    apply leads_atWorkplace
    rintro s hs
    refine ((Workplace.leads_openArchive (P := fun _ => True) b.session.scene).start trivial).mono (fun _ h => h) ?_ ?_
    · exact fun a w hopen => ⟨⟨hs.1, hs.2.with_workplace w⟩, w.disk, hopen.2⟩
    · exact fun w _ => ⟨hs.1, hs.2.with_workplace w⟩
  have hrevert : Bench.revert.Leads (· = b) (fun _ => P) P := by
    have hrest : Leads P (do
        atWorkplace (Workplace.change (·.copy (b.session.root.join backupPath) b.session.scene))
        let archive ← atWorkplace (Workplace.openArchive b.session.scene)
        update fun s => { s with archive := archive, dumps := DumpCache.empty }
        report [Log.info ("Reverted scripts from " ++ b.session.root.join backupPath)]) (fun _ => P) P := by
      refine (hfiles _).bind fun _ => hopen.bind fun a => ?_
      refine Leads.bind (Q := fun _ => P) (leads_modify ?_) fun _ => hfiles _
      rintro s ⟨⟨hroot, -⟩, disk, ha⟩
      have hscene : s.session.scene = b.session.scene := congrArg (Path.join · scenePath) hroot
      rw [← hscene] at ha
      exact ⟨hroot, .of_openFile ha⟩
    apply leads_get_bind
    intro s hs
    rw [hs]
    refine ((hfiles _).start ⟨rfl, h⟩).bind fun found => ?_
    dsimp only
    split_ifs
    · exact Leads.bind (Q := fun _ => P) (leads_throw fun _ h => h) fun _ => hrest
    · exact hrest
  exact hrevert.final.2

end Bench
end SceneScript
