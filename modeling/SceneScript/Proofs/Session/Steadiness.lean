import Mathlib
import SceneScript.Proofs.Session.Consulting
import SceneScript.Proofs.Session.Course
/-!
# Sessions whose dumps do not depend on the order of the character sets

A session stays so through all calls: what an entry comes to was asked for before, or it is read from the same bytes.
-/
namespace SceneScript.Bench

open Act

/-- Whether a session is about its scene file and no dump depends on the character set that is tried first. -/
structure Steady (b : Bench) : Prop where
  source_eq : b.session.archive.source? = some b.session.scene
  destination_eq : b.session.archive.destination = b.session.scene
  file : ∃ loc data, b.workplace.disk.resolve b.session.scene = .ok (loc, some (.file data))
  dumps : ∀ name cs cs', b.dumpOf cs name = b.dumpOf cs' name

variable {b s : Bench}

/-- A session that was just opened is so if every script comes to one dump. -/
theorem steady_of_opened (hopened : b.Opened) (hdumps : b.session.dumps = DumpCache.empty) (honce : b.ReadOneWay) :
    Steady b := by
  obtain ⟨hsource, hdestination, -, data, hread⟩ := source_of_opened hopened
  obtain ⟨loc, hfile⟩ := Disk.resolve_of_read hread
  exact ⟨hsource, hdestination, ⟨loc, data, hfile⟩, fun name cs cs' =>
    dumpOf_of_opened hopened hopened rfl hdumps hdumps honce cs' cs name⟩

theorem Steady.looked (hlooked : Looked b s) (h : Steady b) : Steady s := by
  have hscene : s.session.scene = b.session.scene := congrArg (Path.join · scenePath) hlooked.root_eq
  refine ⟨?_, ?_, ?_, fun name cs cs' => ?_⟩
  · rw [hlooked.source_eq, h.source_eq, hscene]
  · rw [hlooked.destination_eq, h.destination_eq, hscene]
  · rw [hscene, hlooked.disk_eq]
    exact h.file
  · obtain ⟨cs₁, hcs₁⟩ := hlooked.exists_dumpOf_eq cs name
    obtain ⟨cs₂, hcs₂⟩ := hlooked.exists_dumpOf_eq cs' name
    rw [hcs₁, hcs₂, h.dumps name cs₁ cs₂]

theorem stable_steady : Stable Steady where
  looked := Steady.looked
  edited := by
    intro b name dump h
    refine ⟨h.source_eq, h.destination_eq, h.file, fun other cs cs' => ?_⟩
    rw [dumpOf_edit, dumpOf_edit, h.dumps other cs cs']

/-- The files may change as long as the scene file is the same. -/
theorem Steady.with_disk (h : Steady b) {disk : Disk} {log : Log}
    (hdisk : ∀ loc data, b.workplace.disk.resolve b.session.scene = .ok (loc, some (.file data)) →
      disk.resolve b.session.scene = .ok (loc, some (.file data))) : Steady { b with workplace := ⟨disk, log⟩ } := by
  obtain ⟨loc, data, hfile⟩ := h.file
  have hfile' := hdisk loc data hfile
  refine ⟨h.source_eq, h.destination_eq, ⟨loc, data, hfile'⟩, fun name cs cs' => ?_⟩
  have hload : ∀ e : Entry, e.load disk b.session.archive.source? = e.load b.workplace.disk b.session.archive.source? := by
    intro e
    rw [h.source_eq, Entry.load_congr e hfile hfile']
  exact (dumpOf_with_workplace hload cs name).trans ((h.dumps name cs cs').trans (dumpOf_with_workplace hload cs' name).symm)

theorem steady_exportEntry (directory : Path) (name : String) : Keeps Steady (exportEntry directory name) :=
  keeps_exportEntry_of Steady.looked (fun h hdisk => h.with_disk hdisk) directory name

theorem steady_exportDumps : Keeps Steady exportDumps :=
  keeps_exportDumps_of Steady.looked fun h hdisk => h.with_disk hdisk

/-! ## Saving -/

theorem Steady.upkeep (h : Steady b) : Upkeep b unknown b := by
  obtain ⟨loc, data, hfile⟩ := h.file
  exact
    { root_eq := rfl
      typesetter_eq := rfl
      source_eq := h.source_eq
      destination_eq := h.destination_eq
      entries := List.forall₂_same.mpr fun e _ => .refl e
      file := ⟨loc, data, hfile, .inl (Disk.read_of_resolve hfile)⟩
      known := fun _ _ h => h.elim }

/-- A session stays so while every entry in scope has its dump. -/
theorem Steady.of_upkeep (h : Steady b) (hupkeep : Upkeep b (cached b) s)
    (hscope : ∀ e ∈ b.session.archive.entries, isInScope e.name = true →
      ∃ dump, s.session.dumps.get? e.name = some dump) : Steady s := by
  have hscene : s.session.scene = b.session.scene := congrArg (Path.join · scenePath) hupkeep.root_eq
  obtain ⟨loc, data, hfile, -⟩ := hupkeep.file
  refine ⟨hscene ▸ hupkeep.source_eq, hscene ▸ hupkeep.destination_eq, ⟨loc, data, hscene ▸ hfile⟩, fun name cs cs' => ?_⟩
  cases hcached : s.session.dumps.get? name with
  | some dump => rw [dumpOf_cached hcached, dumpOf_cached hcached]
  | none =>
    obtain ⟨-, hnone⟩ | ⟨e₀, e, place, hfind₀, hfind, hdescends⟩ :=
      Archive.find?_of_forall₂ (fun _ _ hdescends => hdescends.name_eq) hupkeep.entries name
    · rw [dumpOf, dumpOf, hcached, hnone]
    cases hload : e.load s.workplace.disk s.session.archive.source? with
    | error err =>
      rw [dumpOf, dumpOf, hcached, hfind]
      dsimp only
      rw [hload]
    | ok bytes =>
      have hout : isInScope e.name = false := by
        rw [← Bool.not_eq_true]
        intro hin
        rw [hdescends.name_eq] at hin
        obtain ⟨dump, hdump⟩ := hscope e₀ (List.mem_of_getElem? (Archive.getElem?_of_find? hfind₀)) hin
        rw [Archive.name_of_find? hfind₀, hcached] at hdump
        cases hdump
      have hload₀ := hupkeep.load_eq h.source_eq hdescends (List.mem_of_getElem? (Archive.getElem?_of_find? hfind)) hout hload
      have huncached : b.session.dumps.get? name = none := by
        cases hdump : b.session.dumps.get? name with
        | none => rfl
        | some dump =>
          rw [hupkeep.known name dump hdump] at hcached
          cases hcached
      have hdump := h.dumps name cs cs'
      rw [dumpOf_of_load huncached hfind₀ hload₀, dumpOf_of_load huncached hfind₀ hload₀] at hdump
      rw [dumpOf_of_load hcached hfind hload, dumpOf_of_load hcached hfind hload, hdump]

/-- When all entries in scope were assembled they have their dumps, and still have them when the archive was written or
could not be. -/
theorem cached_of_collect (hupkeep : Upkeep b unknown b) (hsource : b.session.archive.source? = some b.session.scene)
    {results : List (Nat × Except SessionError Bytes)} {built : List (Nat × Bytes)}
    (htry : tryAll (inScope b.session.archive) b = (.ok results, s)) (hcollect : collect results = .ok built) :
    ∀ e ∈ b.session.archive.entries, isInScope e.name = true →
      ∃ dump, s.session.dumps.get? e.name = some dump ∧ (save b).2.session.dumps.get? e.name = some dump := by
  have hsave : save b = finish (inScope b.session.archive).length results s := by
    rw [save_eq, get_bind, bind_ok htry]
  have hkept : Continues (fun _ => True) s (save b).2 := by
    rw [hsave]
    exact (continues_finish _ results).after (fun _ _ h => h) (.refl s)
  obtain ⟨-, hassembled⟩ := (leads_assembleAll hsource _ hupkeep (F := fun _ => True)).of_ok rfl htry
  intro e he hscope
  obtain ⟨place, hplace⟩ := List.getElem?_of_mem he
  have hmem : (e, place) ∈ inScope b.session.archive := mem_inScope.mpr ⟨hplace, hscope⟩
  obtain ⟨r, hr, -, hdumps⟩ := exists_of_forall₂_left hassembled hmem
  obtain ⟨p, -, -, hok⟩ := exists_of_forall₂_left (forall₂_of_collect hcollect) hr
  obtain ⟨dump, hdump, -⟩ := hdumps p.2 hok
  exact ⟨dump, hdump, hkept.kept _ trivial dump hdump⟩

theorem Steady.save (h : Steady b) : Steady (Bench.save b).2 := by
  obtain ⟨results, s, htry, hlooked, -⟩ := tryAll_spec (inScope b.session.archive) b
  cases hcollect : collect results with
  | error e =>
    rw [save_of_collect_error htry hcollect]
    exact h.looked hlooked
  | ok built =>
    have hcached := cached_of_collect h.upkeep h.source_eq htry hcollect
    refine h.of_upkeep ?_ fun e he hscope => (hcached e he hscope).imp fun _ => And.right
    exact ((leads_save h.source_eq h.upkeep).weaken fun _ _ hsaved => hsaved.toUpkeep).final

end SceneScript.Bench
