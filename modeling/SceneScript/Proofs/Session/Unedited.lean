import Mathlib
import SceneScript.Proofs.Session.Runs
import SceneScript.Proofs.Session.Writing
/-!
# Saving what was not edited

When every script comes back from its dump, a session that is saved right after it was opened leaves the bytes of every
entry as they are. Dumps are kept by name, so entries of one name must have the same bytes for that.
-/
namespace SceneScript

/-- Whether a script comes back from its dump, whichever character set it is first read in. -/
def Rebuilds (typesetter : Typesetter) (name : String) (bytes : Bytes) : Prop :=
  ∀ cs, ∃ dump, (disassemble name bytes cs).1 = .ok dump ∧ (assemble name dump.text typesetter).1 = .ok bytes

/-- Whether a script comes back when it is first read in one character set. -/
def rebuildsFrom (typesetter : Typesetter) (name : String) (bytes : Bytes) (cs : Charset) : Bool :=
  match (disassemble name bytes cs).1 with
  | .error _ => false
  | .ok dump => decide ((assemble name dump.text typesetter).1 = .ok bytes)

theorem rebuildsFrom_iff (typesetter : Typesetter) (name : String) (bytes : Bytes) (cs : Charset) :
    rebuildsFrom typesetter name bytes cs = true ↔
      ∃ dump, (disassemble name bytes cs).1 = .ok dump ∧ (assemble name dump.text typesetter).1 = .ok bytes := by
  rw [rebuildsFrom]
  cases (disassemble name bytes cs).1 with
  | error e => exact iff_of_false Bool.false_ne_true fun ⟨_, h, _⟩ => nomatch h
  | ok dump =>
    dsimp only
    rw [decide_eq_true_eq]
    constructor
    · exact fun h => ⟨dump, rfl, h⟩
    · rintro ⟨_, ⟨⟩, h⟩
      exact h

instance (typesetter : Typesetter) (name : String) (bytes : Bytes) : Decidable (Rebuilds typesetter name bytes) :=
  decidable_of_iff (∀ cs ∈ [Charset.big5, .shiftJis], rebuildsFrom typesetter name bytes cs = true) <| by
    rw [List.forall_mem_cons, List.forall_mem_singleton, rebuildsFrom_iff, rebuildsFrom_iff]
    constructor
    · rintro ⟨hbig5, hshiftJis⟩ (_ | _)
      · exact hbig5
      · exact hshiftJis
    · exact fun h => ⟨h _, h _⟩

namespace Bench

/-- An entry without a dump comes to the bytes it has if it comes back from its dump. -/
theorem bytesOf_of_rebuilds {b : Bench} {e : Entry} {place : Nat} {name : String}
    (hdumps : b.session.dumps.get? name = none) (hfind : b.session.archive.find? name = some (e, place)) {bytes : Bytes}
    (hload : e.load b.workplace.disk b.session.archive.source? = .ok bytes)
    (hrebuilds : Rebuilds b.session.typesetter name bytes) (cs : Charset) : b.bytesOf cs name = .ok bytes := by
  obtain ⟨dump, hdump, hbytes⟩ := hrebuilds cs
  have hdumpOf : b.dumpOf cs name = .ok dump.text := by
    rw [dumpOf_of_load hdumps hfind hload, hdump]
    rfl
  rw [bytesOf, hdumpOf]
  dsimp only
  rw [hbytes]
  rfl

/-- A save in which every entry in scope comes to the bytes it has writes the archive as it is. -/
theorem save_of_bytesOf_eq {b : Bench}
    (h : ∀ e ∈ b.session.archive.entries, isInScope e.name = true → ∃ bytes,
      e.load b.workplace.disk b.session.archive.source? = .ok bytes ∧ ∀ cs, b.bytesOf cs e.name = .ok bytes) :
    ((save b).1, (save b).2.workplace.disk) = b.session.archive.outcome b.workplace.disk := by
  obtain ⟨err, s, -, -, e, he, hscope, cs, hcs⟩ | ⟨a, hsource, hdestination, hfilled, hsave⟩ := save_cases b
  · obtain ⟨bytes, -, hbytes⟩ := h e he hscope
    rw [hbytes cs] at hcs
    cases hcs
  have hsame : List.Forall₂ (Entry.Same b.workplace.disk b.session.archive.source?) b.session.archive.entries a.entries := by
    refine ((List.forall₂_and_left _ _).mpr ⟨h, hfilled⟩).imp ?_
    rintro e e' ⟨he, hfill⟩
    refine ⟨hfill.name_eq, hfill.timestamp_eq, ?_⟩
    cases hscope : isInScope e.name with
    | false => exact hfill.out_of_scope hscope
    | true =>
      obtain ⟨bytes, hload, hbytes⟩ := he hscope
      obtain ⟨data, hdata, cs, hcs⟩ := hfill.in_scope hscope
      rw [hbytes cs] at hcs
      rw [hload, hdata, Except.ok.inj hcs]
  rw [hsave, Archive.outcome_congr hsource hdestination hsame]


/-- Whether the bytes of every entry of an opened archive are still in its file, each in its place. -/
def BytesKept (s : Session) (disk disk' : Disk) : Prop :=
  ∃ a, Archive.openFile disk' s.scene = .ok a ∧
    List.Forall₂ (fun e e' => e'.load disk' (some s.scene) = e.load disk (some s.scene)) s.archive.entries a.entries

/-- Writing an archive just as it was opened keeps the bytes of every entry. It succeeds if all of them can be read and
fit an image. -/
theorem outcome_of_opened {b : Bench} (hopened : b.Opened) {result : Except SessionError Unit} {disk : Disk}
    (h : b.session.archive.outcome b.workplace.disk = (result, disk)) :
    BytesKept b.session b.workplace.disk disk ∧ (result = .ok () ↔ ∃ contents,
      List.Forall₂ (Entry.Holds b.workplace.disk (some b.session.scene)) b.session.archive.entries contents ∧
        (Image.build? contents).isSome) := by
  obtain ⟨hsource, hdestination, hcount, data, hread⟩ := source_of_opened hopened
  obtain ⟨loc, hfile⟩ := Disk.resolve_of_read hread
  cases result with
  | ok _ =>
    obtain ⟨contents, image, hcontents, himage, hwrite⟩ := Archive.outcome_eq_ok h
    rw [hsource] at hcontents
    rw [hdestination] at hwrite
    refine ⟨?_, iff_of_true rfl ⟨contents, hcontents, by rw [himage]; rfl⟩⟩
    obtain ⟨loc', -, hfile'⟩ := Disk.resolve_write b.session.getLast?_scene (by decide) hwrite
    obtain ⟨a, hopen, hreads⟩ := Archive.openFile_image himage (hcontents.length_eq ▸ hcount) hfile'
    exact ⟨a, hopen, forall₂_comp hcontents hreads fun _ _ _ _ hholds hreads => hreads.load_eq.trans hholds.load_eq.symm⟩
  | error e =>
    obtain ⟨rfl, -⟩ := Archive.outcome_eq_error h
    refine ⟨⟨_, hopened, List.forall₂_same.mpr fun _ _ => rfl⟩, iff_of_false (fun h => nomatch h) ?_⟩
    rintro ⟨contents, hcontents, hfits⟩
    obtain ⟨image, himage⟩ := Option.isSome_iff_exists.mp hfits
    rw [← hsource] at hcontents
    rw [Archive.outcome, Archive.written, Archive.contents?_of_forall₂ hcontents] at h
    dsimp only at h
    rw [himage, hdestination] at h
    dsimp only at h
    rw [Disk.write_of_resolve b.session.getLast?_scene (by decide) hfile] at h
    cases h

/-- A session that is saved right after it was opened leaves the bytes of every entry, provided that each script in scope
comes back from its dump and scripts in scope of one name have the same bytes. -/
theorem save_unedited {settings : Settings} {w₀ w : Workplace} {s : Session}
    (hopen : Session.load settings w₀ = (.ok s, w) ∨ Session.prepare settings w₀ = (.ok s, w))
    (hrebuilds : ∀ e ∈ s.archive.entries, isInScope e.name = true → ∃ bytes,
      e.load w.disk (some s.scene) = .ok bytes ∧ Rebuilds s.typesetter e.name bytes)
    (hnames : ∀ e ∈ s.archive.entries, ∀ e' ∈ s.archive.entries, isInScope e.name = true → e'.name = e.name →
      e'.load w.disk (some s.scene) = e.load w.disk (some s.scene)) {result : Except SessionError Unit} {b : Bench}
    (hsave : save ⟨s, w⟩ = (result, b)) :
    BytesKept s w.disk b.workplace.disk ∧ (result = .ok () ↔ ∃ contents,
      List.Forall₂ (Entry.Holds w.disk (some s.scene)) s.archive.entries contents ∧ (Image.build? contents).isSome) := by
  have hfresh := Session.fresh_of_opened hopen
  have hopened : Opened ⟨s, w⟩ := hfresh.opened
  obtain ⟨hsource, -⟩ := source_of_opened hopened
  have houtcome : ((save ⟨s, w⟩).1, (save ⟨s, w⟩).2.workplace.disk) = s.archive.outcome w.disk := by
    apply save_of_bytesOf_eq (b := ⟨s, w⟩)
    dsimp only at hsource ⊢
    rw [hsource]
    intro e he hscope
    obtain ⟨bytes, hload, hbytes⟩ := hrebuilds e he hscope
    obtain ⟨e', place, hfind, he', hname⟩ := Archive.exists_find? he
    have hload' := (hnames e he e' he' hscope hname).trans hload
    have hdumps : s.dumps.get? e.name = none := by
      rw [hfresh.dumps_eq]
      rfl
    exact ⟨bytes, hload, bytesOf_of_rebuilds (b := ⟨s, w⟩) hdumps hfind (hsource ▸ hload') hbytes⟩
  rw [hsave] at houtcome
  exact outcome_of_opened hopened houtcome.symm

/-- Two scripts of one name with the same bytes, and an entry that is out of scope between them. -/
theorem save_unedited_twins :
    let image := (Image.build? [⟨"SC01", .zero, [1, 0x0D, 2]⟩, ⟨"INIT", .zero, [1, 2, 3]⟩,
      ⟨"SC01", .zero, [1, 0x0D, 2]⟩]).getD []
    let w₀ : Workplace := ⟨⟨[], [(["FILE"], .dir), (["FILE", "SCENE00.afs"], .file image)]⟩, []⟩
    let settings := { Settings.default with english := false, wraps := false }
    ∃ s w b, Session.load settings w₀ = (.ok s, w) ∧ s.archive.entries.map Entry.name = ["SC01", "INIT", "SC01"] ∧
      save ⟨s, w⟩ = (.ok (), b) ∧ BytesKept s w.disk b.workplace.disk := by
  intro image w₀ settings
  let shown : List (String × Bytes) := [("SC01", [1, 0x0D, 2]), ("INIT", [1, 2, 3]), ("SC01", [1, 0x0D, 2])]
  have hrun : Act.passes (Session.load settings w₀) (fun s w =>
      decide (s.archive.entries.map (fun e => (e.name, e.load w.disk (some s.scene))) =
        shown.map fun entry => (entry.1, .ok entry.2)) &&
      (decide (Rebuilds s.typesetter "SC01" [1, 0x0D, 2]) && (save ⟨s, w⟩).1.toBool)) = true := by decide +kernel
  obtain ⟨s, w, hload, hrun⟩ := Act.exists_of_passes hrun
  rw [Bool.and_eq_true, Bool.and_eq_true, decide_eq_true_eq, decide_eq_true_eq] at hrun
  obtain ⟨hshown, hrebuilds, hok⟩ := hrun
  have hnames : s.archive.entries.map Entry.name = shown.map Prod.fst := by
    have hfst := congrArg (List.map Prod.fst) hshown
    rwa [List.map_map, List.map_map] at hfst
  have hentry : ∀ e ∈ s.archive.entries, isInScope e.name = true →
      e.load w.disk (some s.scene) = .ok [1, 0x0D, 2] ∧ e.name = "SC01" := by
    intro e he hscope
    have hmem := List.mem_map_of_mem (f := fun e => (e.name, e.load w.disk (some s.scene))) he
    rw [hshown] at hmem
    simp only [shown, List.map_cons, List.map_nil, List.mem_cons, List.not_mem_nil, Prod.mk.injEq, or_false] at hmem
    obtain ⟨hname, hbytes⟩ | ⟨hname, -⟩ | ⟨hname, hbytes⟩ := hmem
    · exact ⟨hbytes, hname⟩
    · rw [hname] at hscope
      exact absurd hscope (by decide)
    · exact ⟨hbytes, hname⟩
  rcases hsave : save ⟨s, w⟩ with ⟨saved, b⟩
  rw [hsave] at hok
  cases saved with
  | error e => cases hok
  | ok _ =>
    refine ⟨s, w, b, hload, hnames, hsave, (save_unedited (.inl hload) ?_ ?_ hsave).1⟩
    · intro e he hscope
      obtain ⟨hbytes, hname⟩ := hentry e he hscope
      exact ⟨_, hbytes, hname ▸ hrebuilds⟩
    · intro e he e' he' hscope hname
      rw [(hentry e he hscope).1, (hentry e' he' (hname ▸ hscope)).1]

/-- Of two different scripts of one name the second is overwritten with the first. -/
theorem save_overwrites_namesake :
    let image := (Image.build? [⟨"SC01", .zero, [1, 0x0D, 2]⟩, ⟨"SC01", .zero, [1, 0x15, 2, 0x0D, 2]⟩]).getD []
    let w₀ : Workplace := ⟨⟨[], [(["FILE"], .dir), (["FILE", "SCENE00.afs"], .file image)]⟩, []⟩
    let settings := { Settings.default with english := false, wraps := false }
    ∃ s w b, Session.load settings w₀ = (.ok s, w) ∧
      (∀ e ∈ s.archive.entries, isInScope e.name = true → ∃ bytes,
        e.load w.disk (some s.scene) = .ok bytes ∧ Rebuilds s.typesetter e.name bytes) ∧
      save ⟨s, w⟩ = (.ok (), b) ∧ ¬BytesKept s w.disk b.workplace.disk := by
  intro image w₀ settings
  let before : List Bytes := [[1, 0x0D, 2], [1, 0x15, 2, 0x0D, 2]]
  let after : List Bytes := [[1, 0x0D, 2], [1, 0x0D, 2]]
  have hrun : Act.passes (Session.load settings w₀) (fun s w =>
      decide (s.archive.entries.map (fun e => (e.name, e.load w.disk (some s.scene))) =
        before.map fun bytes => ("SC01", .ok bytes)) &&
      (decide (∀ bytes ∈ before, Rebuilds s.typesetter "SC01" bytes) &&
        Act.passes (save ⟨s, w⟩) fun _ b => decide ((Archive.openFile b.workplace.disk s.scene).map (fun a =>
          a.entries.map (·.load b.workplace.disk (some s.scene))) = .ok (after.map .ok)))) = true := by decide +kernel
  obtain ⟨s, w, hload, hrun⟩ := Act.exists_of_passes hrun
  rw [Bool.and_eq_true, Bool.and_eq_true, decide_eq_true_eq, decide_eq_true_eq] at hrun
  obtain ⟨hbefore, hrebuilds, hrun⟩ := hrun
  obtain ⟨_, b, hsave, hafter⟩ := Act.exists_of_passes hrun
  rw [decide_eq_true_eq] at hafter
  refine ⟨s, w, b, hload, ?_, hsave, ?_⟩
  · intro e he _
    have hmem := List.mem_map_of_mem (f := fun e => (e.name, e.load w.disk (some s.scene))) he
    rw [hbefore] at hmem
    obtain ⟨bytes, hbytes, heq⟩ := List.mem_map.mp hmem
    obtain ⟨hname, hbytes'⟩ := Prod.mk.inj heq
    exact ⟨bytes, hbytes'.symm, hname ▸ hrebuilds bytes hbytes⟩
  · rintro ⟨a, hopen, hkept⟩
    rw [hopen] at hafter
    have hloads : a.entries.map (·.load b.workplace.disk (some s.scene)) =
        s.archive.entries.map (·.load w.disk (some s.scene)) := by
      rw [← List.forall₂_eq_eq_eq, List.forall₂_map_left_iff, List.forall₂_map_right_iff]
      exact hkept.flip
    have hbefore' := congrArg (List.map Prod.snd) hbefore
    rw [List.map_map, List.map_map] at hbefore'
    have heq := (Except.ok.inj hafter).symm.trans (hloads.trans hbefore')
    exact absurd heq (by decide)

end Bench
end SceneScript
