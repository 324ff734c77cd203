import Mathlib
import SceneScript.Proofs.Archive.Opening
import SceneScript.Proofs.Session.Opening
import SceneScript.Proofs.Session.Saving
/-!
# What a saved session wrote

After any calls a save that succeeds leaves a scene file with the same entries: those in scope as their dumps assemble,
the others as they were.
-/
namespace SceneScript

namespace Archive

/-- An archive of loaded entries is read back from its image. -/
theorem openFile_build? {entries : List Entry} {image : Bytes}
    (himage : Image.build? (entries.map contentOf) = some image) (hcount : entries.length ≤ maxEntries)
    (hnames : ∀ e ∈ entries, FitsField e.name) (hloaded : ∀ e ∈ entries, e.isLoaded = true) {disk : Disk} {p : Path}
    {loc : Location} (hfile : disk.resolve p = .ok (loc, some (.file image))) :
    ∃ a, openFile disk p = .ok a ∧ List.Forall₂ (fun e e' => e'.name = e.name ∧ e'.timestamp = e.timestamp ∧
      ∃ data, e.payload = .loaded data ∧ e'.load disk (some p) = .ok data) entries a.entries := by
  obtain ⟨a, hopen, hreads⟩ := openFile_image himage (by rwa [List.length_map]) hfile
  rw [List.forall₂_map_left_iff] at hreads
  have hentries : ∀ e ∈ entries, FitsField e.name ∧ e.isLoaded = true := fun e he => ⟨hnames e he, hloaded e he⟩
  refine ⟨a, hopen, ((List.forall₂_and_left _ _).mpr ⟨hentries, hreads⟩).imp ?_⟩
  rintro e e' ⟨⟨hfits, hload⟩, hread⟩
  refine ⟨hread.name_of_fits hfits, hread.timestamp_eq, ?_⟩
  cases hpayload : e.payload with
  | onDisk offset size => simp [Entry.isLoaded, hpayload] at hload
  | loaded data =>
    have hdata : (contentOf e).data = data := by rw [contentOf, hpayload]
    exact ⟨data, rfl, hdata ▸ hread.load_eq⟩

end Archive

open Act

namespace Session

theorem leads_load (settings : Settings) : (load settings).Leads (fun _ => True) (fun s w => Bench.Opened ⟨s, w⟩) fun _ => True := by
  intro w _
  rcases hload : load settings w with ⟨result, w'⟩
  cases result with
  | ok s => exact (fresh_of_opened (.inl hload)).opened
  | error e => trivial

theorem leads_prepare (settings : Settings) : (prepare settings).Leads (fun _ => True) (fun s w => Bench.Opened ⟨s, w⟩) fun _ => True := by
  intro w _
  rcases hprepare : prepare settings w with ⟨result, w'⟩
  cases result with
  | ok s => exact (fresh_of_opened (.inr hprepare)).opened
  | error e => trivial

end Session

theorem Entry.Descends.refl {opened : Bench} (e : Entry) : Entry.Descends opened e e where
  name_eq := rfl
  timestamp_eq := rfl
  loaded := fun _ _ h => e.load_loaded h _ _
  unloaded := fun _ _ => rfl

namespace Bench

/-- What is called on a session. -/
inductive Call where
  | decompile (name : String)
  | edit (name : String) (dump : Text)
  | applyDumps (directory : Path)
  | importSets (directory : Path)
  | exportDumps
  | save

def Call.act : Call → Act Bench Unit
  | decompile name => do let _ ← Bench.decompile name
  | edit name dump => Bench.edit name dump
  | applyDumps directory => do let _ ← Bench.applyDumps directory
  | importSets directory => do let _ ← Bench.importSets directory
  | exportDumps => do let _ ← Bench.exportDumps
  | save => Bench.save

/-- The states of a session after calls, be they failures, while nobody else touches the scene file. -/
inductive Reaches (opened : Bench) : Bench → Prop where
  | opened : Reaches opened opened
  | call {b : Bench} (c : Call) (h : Reaches opened b) : Reaches opened (c.act b).2
  | others {b : Bench} {w : Workplace} (h : Reaches opened b)
      (hfile : w.disk.resolve opened.session.scene = b.workplace.disk.resolve opened.session.scene) :
      Reaches opened { b with workplace := w }

variable {opened : Bench}

theorem keeps_act (hsource : opened.session.archive.source? = some opened.session.scene) (c : Call) :
    Keeps (Upkeep opened unknown) c.act := by
  cases c with
  | decompile name => exact ((leads_decompile hsource name).weaken fun _ _ h => h.1).bind fun _ => leads_pure fun _ h => h
  | edit name dump => exact keeps_edit name dump
  | applyDumps directory => exact (keeps_applyDumps directory).bind fun _ => leads_pure fun _ h => h
  | importSets directory => exact (keeps_importSets hsource directory).bind fun _ => leads_pure fun _ h => h
  | exportDumps => exact (keeps_exportDumps hsource).bind fun _ => leads_pure fun _ h => h
  | save =>
    apply leads_of_forall
    intro b hb
    refine (leads_save hsource hb).mono (fun _ h => h) ?_ ?_
    · exact fun _ _ h => h.toUpkeep.with_known fun _ _ h => h.elim
    · exact fun _ h => h.with_known fun _ _ h => h.elim

theorem source_of_opened (h : opened.Opened) :
    opened.session.archive.source? = some opened.session.scene ∧ opened.session.archive.destination = opened.session.scene ∧
      opened.session.archive.entries.length ≤ maxEntries ∧
      ∃ data, opened.workplace.disk.read opened.session.scene = .ok data := by
  obtain ⟨image, _, hread, -, -⟩ := Archive.openFile_eq_ok h
  exact ⟨Archive.source_of_openFile h, Archive.destination_of_openFile h, Archive.length_le_of_openFile h, image, hread⟩

theorem upkeep_opened (h : opened.Opened) : Upkeep opened unknown opened := by
  obtain ⟨hsource, hdestination, -, data, hread⟩ := source_of_opened h
  obtain ⟨loc, hfile⟩ := Disk.resolve_of_read hread
  exact
    { root_eq := rfl
      typesetter_eq := rfl
      source_eq := hsource
      destination_eq := hdestination
      entries := List.forall₂_same.mpr fun e _ => .refl e
      file := ⟨loc, data, hfile, Or.inl hread⟩
      known := fun _ _ h => h.elim }

theorem Reaches.upkeep (h : opened.Opened) {b : Bench} (hreaches : Reaches opened b) :
    Upkeep opened unknown b := by
  induction hreaches with
  | opened => exact upkeep_opened h
  | call c _ ih => exact (keeps_act (source_of_opened h).1 c).after (fun _ _ h => h) ih
  | others _ hfile ih => exact ih.with_disk _ fun _ _ h => hfile.trans h

/-- What stands in a scene file that was saved where an entry stood when the session was opened. -/
structure Rewritten (opened b : Bench) (e₀ e : Entry) : Prop where
  name_eq : e.name = e₀.name
  timestamp_eq : e.timestamp = e₀.timestamp
  in_scope : isInScope e.name = true →
    ∃ data, Assembled opened b e.name data ∧ e.load b.workplace.disk (some opened.session.scene) = .ok data
  out_of_scope : isInScope e.name = false →
    ∃ data, e₀.load opened.workplace.disk (some opened.session.scene) = .ok data ∧
      e.load b.workplace.disk (some opened.session.scene) = .ok data

/-- The scene file of a session that was saved. -/
theorem Saved.reopen {known : String → Text → Prop} (h : opened.Opened)
    (hnames : ∀ e ∈ opened.session.archive.entries, FitsField e.name) {b : Bench} (hsaved : Saved opened known b) :
    ∃ a, Archive.openFile b.workplace.disk opened.session.scene = .ok a ∧
      List.Forall₂ (Rewritten opened b) opened.session.archive.entries a.entries := by
  obtain ⟨hsource, -, hcount, -⟩ := source_of_opened h
  obtain ⟨loc, image, himage, hfile⟩ := hsaved.image
  have hfits : ∀ e ∈ b.session.archive.entries, FitsField e.name := by
    intro e he
    obtain ⟨e₀, he₀, hdescends⟩ := exists_of_forall₂ hsaved.entries he
    rw [hdescends.name_eq]
    exact hnames e₀ he₀
  obtain ⟨a, hopen, hread⟩ := Archive.openFile_build? himage (hsaved.entries.length_eq ▸ hcount) hfits hsaved.all_loaded hfile
  refine ⟨a, hopen, forall₂_comp hsaved.entries hread ?_⟩
  rintro e₀ e e' he hdescends ⟨hname, htime, data, hpayload, hload⟩
  refine ⟨hname.trans hdescends.name_eq, htime.trans hdescends.timestamp_eq, ?_, ?_⟩
  · intro hscope
    rw [hname] at hscope ⊢
    obtain ⟨data', hpayload', hassembled⟩ := hsaved.filled e he hscope
    obtain rfl := Payload.loaded.inj (hpayload.symm.trans hpayload')
    exact ⟨_, hassembled, hload⟩
  · intro hscope
    rw [hname] at hscope
    exact ⟨data, hsource ▸ hdescends.loaded hscope data hpayload, hload⟩

/-- After any calls a save that succeeds leaves a scene file with the same entries in the same order, those in scope with
the bytes that their dumps assemble to and the others with the bytes they had. Saving again writes the same. -/
theorem save_of_reaches {settings : Settings} {w₀ w : Workplace} {s : Session}
    (hopen : Session.load settings w₀ = (.ok s, w) ∨ Session.prepare settings w₀ = (.ok s, w))
    (hnames : ∀ e ∈ s.archive.entries, FitsField e.name) {b b' : Bench} (hreaches : Reaches ⟨s, w⟩ b)
    (hsave : save b = (.ok (), b')) :
    (∃ a, Archive.openFile b'.workplace.disk s.scene = .ok a ∧
      List.Forall₂ (Rewritten ⟨s, w⟩ b') s.archive.entries a.entries) ∧
    (∀ name dump, b.session.dumps.get? name = some dump → b'.session.dumps.get? name = some dump) ∧
    ∃ b'', save b' = (.ok (), b'') ∧ b''.workplace.disk.read s.scene = b'.workplace.disk.read s.scene := by
  have hopened : Opened ⟨s, w⟩ := by
    rcases hopen with hopen | hopen
    · exact (Session.leads_load settings).of_ok trivial hopen
    · exact (Session.leads_prepare settings).of_ok trivial hopen
  have hupkeep : Upkeep ⟨s, w⟩ unknown b := hreaches.upkeep hopened
  have hsaved : Saved ⟨s, w⟩ (cached b) b' := (leads_save (source_of_opened hopened).1 hupkeep).of_ok rfl hsave
  exact ⟨hsaved.reopen hopened hnames, hsaved.known, hsaved.save_again⟩

/-- A script that is edited, next to an entry that is out of scope. -/
theorem save_of_reaches_edited :
    let image := (Image.build? [⟨"SC01", .zero, [0x0D, 2]⟩, ⟨"INIT", .zero, [1, 2, 3]⟩]).getD []
    let w₀ : Workplace := ⟨⟨[], [(["FILE"], .dir), (["FILE", "SCENE00.afs"], .file image)]⟩, []⟩
    let settings := { Settings.default with english := false, wraps := false }
    let dump := "header.1\nmessage.8 00-00-00-00-S @Yo\nret2.2\ntrailer.0".toList
    ∃ s w b b', Session.load settings w₀ = (.ok s, w) ∧ s.archive.entries.map Entry.name = ["SC01", "INIT"] ∧
      Reaches ⟨s, w⟩ b ∧ b.session.dumps.get? "SC01" = some dump ∧ save b = (.ok (), b') ∧
      (∃ a, Archive.openFile b'.workplace.disk s.scene = .ok a ∧
        List.Forall₂ (Rewritten ⟨s, w⟩ b') s.archive.entries a.entries) ∧
      (∀ name dump, b.session.dumps.get? name = some dump → b'.session.dumps.get? name = some dump) ∧
      ∃ b'', save b' = (.ok (), b'') ∧ b''.workplace.disk.read s.scene = b'.workplace.disk.read s.scene := by
  intro image w₀ settings dump
  have hrun : passes (Session.load settings w₀) (fun s w =>
      let b := ((Call.edit "SC01" dump).act ⟨s, w⟩).2
      decide (s.archive.entries.map Entry.name = ["SC01", "INIT"]) &&
        (decide (b.session.dumps.get? "SC01" = some dump) && (save b).1.toBool)) = true := by decide +kernel
  obtain ⟨s, w, hload, hrun⟩ := exists_of_passes hrun
  rw [Bool.and_eq_true, Bool.and_eq_true, decide_eq_true_eq, decide_eq_true_eq] at hrun
  obtain ⟨hnames, hdump, hok⟩ := hrun
  rcases hsave : save ((Call.edit "SC01" dump).act ⟨s, w⟩).2 with ⟨saved, b'⟩
  rw [hsave] at hok
  cases saved with
  | error e => cases hok
  | ok _ =>
    have hreaches : Reaches ⟨s, w⟩ ((Call.edit "SC01" dump).act ⟨s, w⟩).2 := .call _ .opened
    have hfits : ∀ e ∈ s.archive.entries, FitsField e.name := by
      have hlist : ∀ name ∈ ["SC01", "INIT"], FitsField name := by
        unfold FitsField
        decide +kernel
      rw [← hnames] at hlist
      exact List.forall_mem_map.mp hlist
    exact ⟨s, w, _, b', hload, hnames, hreaches, hdump, hsave, save_of_reaches (.inl hload) hfits hreaches hsave⟩

end Bench
end SceneScript
