import Mathlib
import SceneScript.Proofs.Archive.Rebuilding
import SceneScript.Proofs.Session.FailedSave
import SceneScript.Proofs.Session.Service
/-!
# What the scene file holds for a session

However a session was used since it opened its scene file, the file holds the same entries: those out of scope as they
were, and those in scope with any bytes. Once it was saved this takes names that fit their fields.
-/
namespace SceneScript

/-- Whether an entry stands for one of a session in its scene file on another disk, with any bytes if it is in scope. -/
structure Entry.HeldAs (b : Bench) (disk : Disk) (e₀ e : Entry) : Prop where
  name_eq : e.name = e₀.name
  timestamp_eq : e.timestamp = e₀.timestamp
  load_eq : isInScope e₀.name = false →
    e.load disk (some b.session.scene) = e₀.load b.workplace.disk (some b.session.scene)

namespace Bench

open Act

/-- Whether the scene file on a disk holds the entries of a session. -/
def HeldOn (b : Bench) (disk : Disk) : Prop :=
  ∃ a, Archive.openFile disk b.session.scene = .ok a ∧
    List.Forall₂ (Entry.HeldAs b disk) b.session.archive.entries a.entries

variable {opened base b : Bench} {disk disk' : Disk}

theorem HeldOn.congr (h : base.HeldOn disk) (hread : disk'.read base.session.scene = disk.read base.session.scene) :
    base.HeldOn disk' := by
  obtain ⟨a, hopen, hentries⟩ := h
  obtain ⟨image, _, himage, -, -⟩ := Archive.openFile_eq_ok hopen
  obtain ⟨loc, hfile⟩ := Disk.resolve_of_read himage
  obtain ⟨loc', hfile'⟩ := Disk.resolve_of_read (hread.trans himage)
  have hopen' : Archive.openFile disk' base.session.scene = .ok a := by
    rw [Archive.openFile, hread]
    exact hopen
  refine ⟨a, hopen', hentries.imp fun e₀ e hheld => ⟨hheld.name_eq, hheld.timestamp_eq, fun hscope => ?_⟩⟩
  rw [Entry.load_congr e hfile hfile', hheld.load_eq hscope]

theorem heldOn_opened (h : base.Opened) : base.HeldOn base.workplace.disk :=
  ⟨_, h, List.forall₂_same.mpr fun _ _ => ⟨rfl, rfl, fun _ => rfl⟩⟩

theorem heldOn_saved (h : base.Opened) (hnames : ∀ e ∈ base.session.archive.entries, FitsField e.name)
    {known : String → Text → Prop} (hsaved : Saved base known b) : base.HeldOn b.workplace.disk := by
  obtain ⟨a, hopen, hentries⟩ := hsaved.reopen h hnames
  refine ⟨a, hopen, hentries.imp fun e₀ e hrewritten => ⟨hrewritten.name_eq, hrewritten.timestamp_eq, fun hscope => ?_⟩⟩
  obtain ⟨data, hload₀, hload⟩ := hrewritten.out_of_scope (hrewritten.name_eq ▸ hscope)
  rw [hload₀, hload]

/-- A save that fails has written nothing. -/
theorem disk_eq_of_save_error {s : Bench} {e : SessionError} (h : save b = (.error e, s)) :
    s.workplace.disk = b.workplace.disk := by
  obtain ⟨_, _, hrun, hdisk, -⟩ | ⟨a, -, -, -, houtcome⟩ := save_cases b
  · rw [h] at hrun
    obtain ⟨-, rfl⟩ := Prod.mk.inj hrun
    exact hdisk
  · rw [h] at houtcome
    exact (Archive.outcome_eq_error houtcome.symm).1

/-- The scene file stays as it was when dumps are exported. -/
theorem resolve_scene_exportDumps {loc : Location} {data : Bytes}
    (h : b.workplace.disk.resolve b.session.scene = .ok (loc, some (.file data))) :
    (exportDumps b).2.workplace.disk.resolve b.session.scene = .ok (loc, some (.file data)) := by
  let P : Bench → Prop := fun s => s.session.scene = b.session.scene ∧
    s.workplace.disk.resolve b.session.scene = .ok (loc, some (.file data))
  have hlooked : ∀ {s t : Bench}, Looked s t → P s → P t := fun hlooked hs =>
    ⟨(congrArg (Path.join · scenePath) hlooked.root_eq).trans hs.1, hlooked.disk_eq ▸ hs.2⟩
  have hmoved : ∀ {s : Bench} {disk : Disk}, P s →
      (∀ loc data, s.workplace.disk.resolve s.session.scene = .ok (loc, some (.file data)) →
        disk.resolve s.session.scene = .ok (loc, some (.file data))) →
      P { s with workplace := { s.workplace with disk := disk } } := by
    intro s disk hs hdisk
    rw [hs.1] at hdisk
    exact ⟨hs.1, hdisk loc data hs.2⟩
  exact ((keeps_exportDumps_of hlooked hmoved).after (fun _ _ h => h) ⟨rfl, h⟩ : P _).2

theorem HeldOn.exportDumps (h : base.HeldOn b.workplace.disk) (hserved : Served opened base b) :
    base.HeldOn (exportDumps b).2.workplace.disk := by
  obtain ⟨loc, data, hfile, -⟩ := hserved.upkeep.file
  have hscene : b.session.scene = base.session.scene := congrArg (Path.join · scenePath) hserved.upkeep.root_eq
  refine h.congr ?_
  rw [← hscene] at hfile ⊢
  rw [Disk.read_of_resolve hfile, Disk.read_of_resolve (resolve_scene_exportDumps hfile)]

/-- A call leaves the scene file as it was, or with the same entries. -/
theorem HeldOn.call (h : base.HeldOn b.workplace.disk) (hserved : Served opened base b)
    (hnames : ∀ e ∈ base.session.archive.entries, FitsField e.name) (c : Call) :
    base.HeldOn (c.act b).2.workplace.disk := by
  have hsource := (source_of_opened hserved.base_opened).1
  refine (stable_disk base.HeldOn).after_act h (h.exportDumps hserved) ?_ c
  rcases hsave : save b with ⟨e | _, s⟩
  · exact disk_eq_of_save_error hsave ▸ h
  · exact heldOn_saved hserved.base_opened hnames ((leads_save hsource hserved.upkeep).of_ok rfl hsave)

/-- While names fit their fields the scene file holds the entries with which it was last opened. -/
theorem Serves.heldOn (hopened : opened.Opened) (h : Serves opened base b)
    (hnames : ∀ e ∈ base.session.archive.entries, FitsField e.name) : base.HeldOn b.workplace.disk := by
  induction h with
  | opened => exact heldOn_opened hopened
  | call c h ih => exact (ih hnames).call (h.served hopened) hnames c
  | reverted h hrevert _ => exact heldOn_opened ((h.served hopened).reverted hrevert).base_opened
  | @others base b w h hscene _ ih =>
    refine (ih hnames).congr ?_
    rw [← (h.served hopened).scene_eq] at hscene
    rw [Disk.read, Disk.read, hscene]

/-- A session that is opened on the scene file of another one has its entries, up to the bytes of those in scope. -/
theorem Served.agrees (h : Served opened base b) {a : Archive}
    (hentries : List.Forall₂ (Entry.HeldAs base b.workplace.disk) base.session.archive.entries a.entries) :
    List.Forall₂ (Entry.Agrees b.workplace.disk b.session.archive.source?) b.session.archive.entries a.entries := by
  have hsource := (source_of_opened h.base_opened).1
  have hmem : List.Forall₂ (fun e e₀ => e ∈ b.session.archive.entries ∧ Entry.Descends base e₀ e)
      b.session.archive.entries base.session.archive.entries :=
    (List.forall₂_and_left _ _).mpr ⟨fun _ he => he, h.upkeep.entries.flip⟩
  refine forall₂_comp hmem hentries ?_
  rintro e e₀ e' - ⟨he, hdescends⟩ hheld
  refine ⟨hheld.name_eq.trans hdescends.name_eq.symm, hheld.timestamp_eq.trans hdescends.timestamp_eq.symm, fun hscope => ?_⟩
  rw [h.upkeep.load_out_of_scope hsource hdescends he hscope, h.upkeep.source_eq, hsource]
  exact hheld.load_eq (hdescends.name_eq ▸ hscope)

/-- A session that is loaded on the files that another one has come to has no dumps yet, and otherwise the same. -/
theorem Served.exists_load {settings : Settings} {w₀ w : Workplace} {s : Session}
    (hopen : Session.load settings w₀ = (.ok s, w) ∨ Session.prepare settings w₀ = (.ok s, w)) (h : Served ⟨s, w⟩ base b)
    (hheld : base.HeldOn b.workplace.disk)
    (hspeakers : ∀ p ∈ settings.speakers?, Disk.SameFile p w.disk b.workplace.disk) :
    ∃ a log, Session.load settings b.workplace =
        (.ok (Session.openedOn settings a b.session.typesetter), { b.workplace with log := log }) ∧
      a.source? = b.session.archive.source? ∧ a.destination = b.session.archive.destination ∧
      List.Forall₂ (Entry.Agrees b.workplace.disk b.session.archive.source?) b.session.archive.entries a.entries := by
  obtain ⟨a, hreopen, hentries⟩ := hheld
  obtain ⟨hroot, hts⟩ := h.typesetterOn hopen hspeakers
  have hscene : base.session.scene = settings.gamePath.join scenePath :=
    congrArg (Path.join · scenePath) (h.upkeep.root_eq.symm.trans hroot)
  obtain ⟨_, _, -, -, ha⟩ := Archive.openFile_eq_ok hreopen
  have hsource : a.source? = some base.session.scene := congrArg Archive.source? ha
  have hdestination : a.destination = base.session.scene := congrArg Archive.destination ha
  rw [hscene] at hreopen
  obtain ⟨log, hload⟩ := Session.load_eq hreopen hts
  exact ⟨a, log, hload, hsource.trans h.upkeep.source_eq.symm, hdestination.trans h.upkeep.destination_eq.symm,
    h.agrees hentries⟩

end Bench
end SceneScript
