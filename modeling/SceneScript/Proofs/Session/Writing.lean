import Mathlib
import SceneScript.Proofs.Session.Outcome
/-!
# What a save comes to

A save tries every entry in scope. If one fails the first failure is the result; else the archive is written with the
bytes of each entry, those in scope as they were assembled and the others as they are loaded.
-/
namespace SceneScript

/-! ## Archives -/

namespace Archive

/-- The contents of an archive do not depend on what is loaded. -/
theorem contents?_congr {a a' : Archive} {disk : Disk} (hsource : a'.source? = a.source?)
    (hentries : List.Forall₂ (Entry.Same disk a.source?) a.entries a'.entries) :
    a'.contents? disk = a.contents? disk := by
  rw [contents?, contents?, hsource]
  generalize a.entries = entries at hentries ⊢
  generalize a'.entries = entries' at hentries ⊢
  induction hentries with
  | nil => rfl
  | @cons e e' _ _ hsame _ ih =>
    have hcontent : e'.content? disk a.source? = e.content? disk a.source? := by
      rw [Entry.content?, Entry.content?, hsame.load_eq, hsame.name_eq, hsame.timestamp_eq]
    rw [List.mapM_cons, List.mapM_cons, hcontent, ih]

/-- The result of saving a session when it comes to the writing of an archive, and the files afterwards. -/
def outcome (a : Archive) (disk : Disk) : Except SessionError Unit × Disk :=
  match a.written disk with
  | .error e => (.error (.archive e), disk)
  | .ok (disk, _) => (.ok (), disk)

theorem outcome_congr {a a' : Archive} {disk : Disk} (hsource : a'.source? = a.source?)
    (hdestination : a'.destination = a.destination)
    (hentries : List.Forall₂ (Entry.Same disk a.source?) a.entries a'.entries) :
    a'.outcome disk = a.outcome disk := by
  rw [outcome, outcome, written, written, contents?_congr hsource hentries, hdestination]

theorem outcome_eq_ok {a : Archive} {disk disk' : Disk} (h : a.outcome disk = (.ok (), disk')) :
    ∃ contents image, List.Forall₂ (Entry.Holds disk a.source?) a.entries contents ∧
      Image.build? contents = some image ∧ disk.write a.destination image = .ok disk' := by
  rw [outcome] at h
  cases hwritten : a.written disk with
  | error e =>
    rw [hwritten] at h
    cases h
  | ok written =>
    rw [hwritten] at h
    obtain ⟨-, rfl⟩ := Prod.mk.inj h
    exact written_eq_ok hwritten

theorem outcome_eq_error {a : Archive} {disk disk' : Disk} {e : SessionError} (h : a.outcome disk = (.error e, disk')) :
    disk' = disk ∧ ∃ err, e = .archive err := by
  rw [outcome] at h
  cases hwritten : a.written disk with
  | error err =>
    rw [hwritten] at h
    obtain ⟨he, rfl⟩ := Prod.mk.inj h
    exact ⟨rfl, err, (Except.error.inj he).symm⟩
  | ok written =>
    rw [hwritten] at h
    cases h

/-- Giving entries other bytes leaves everything else of an archive. -/
theorem foldl_setDataAt_frame (built : List (Nat × Bytes)) (a : Archive) :
    (built.foldl (fun a (place, data) => a.setDataAt place data) a).source? = a.source? ∧
      (built.foldl (fun a (place, data) => a.setDataAt place data) a).destination = a.destination ∧
      (built.foldl (fun a (place, data) => a.setDataAt place data) a).entries.length = a.entries.length := by
  induction built generalizing a with
  | nil => exact ⟨rfl, rfl, rfl⟩
  | cons p built ih =>
    obtain ⟨hsource, hdestination, hlength⟩ := ih (a.setDataAt p.1 p.2)
    exact ⟨hsource, hdestination, hlength.trans (List.length_modify _ _ _)⟩

end Archive

/-- What becomes of an entry when those in scope are given other bytes. -/
structure Entry.Filled (disk : Disk) (source? : Option Path) (Good : String → Bytes → Prop) (e e' : Entry) : Prop where
  name_eq : e'.name = e.name
  timestamp_eq : e'.timestamp = e.timestamp
  in_scope : isInScope e.name = true → ∃ data, e'.load disk source? = .ok data ∧ Good e.name data
  out_of_scope : isInScope e.name = false → e'.load disk source? = e.load disk source?

namespace Bench

open Act

/-- The entries in scope, and no others, are given the bytes that were made for them. -/
theorem forall₂_filled {a a' : Archive} {disk : Disk} (Good : String → Bytes → Prop)
    (hentries : List.Forall₂ (Entry.Same disk a.source?) a.entries a'.entries) {built : List (Nat × Bytes)}
    (hbuilt : List.Forall₂ (fun (e : Entry × Nat) (p : Nat × Bytes) => p.1 = e.2 ∧ Good e.1.name p.2) (inScope a) built) :
    List.Forall₂ (Entry.Filled disk a.source? Good) a.entries
      (built.foldl (fun a (place, data) => a.setDataAt place data) a').entries := by
  apply forall₂_of_getElem?
  · rw [(Archive.foldl_setDataAt_frame _ _).2.2, hentries.length_eq]
  intro i e e₂ he he₂
  rw [Archive.getElem?_foldl_setDataAt] at he₂
  obtain ⟨e₁, he₁, rfl⟩ := Option.map_eq_some_iff.mp he₂
  have hsame := of_forall₂_getElem? hentries he he₁
  cases hlookup : built.reverse.lookup i with
  | some data =>
    have hmem : (i, data) ∈ built := List.mem_reverse.mp (mem_of_lookup hlookup)
    obtain ⟨⟨e₀, place⟩, he₀, hplace, hgood⟩ := exists_of_forall₂ hbuilt hmem
    obtain rfl : i = place := hplace
    obtain ⟨hentry, hscope⟩ := mem_inScope.mp he₀
    obtain rfl := Option.some.inj (he.symm.trans hentry)
    refine ⟨hsame.name_eq, hsame.timestamp_eq, fun _ => ⟨data, rfl, hgood⟩, ?_⟩
    intro hout
    rw [hscope] at hout
    cases hout
  | none =>
    refine ⟨hsame.name_eq, hsame.timestamp_eq, ?_, fun _ => hsame.load_eq⟩
    intro hscope
    have hmem : (e, i) ∈ inScope a := mem_inScope.mpr ⟨he, hscope⟩
    obtain ⟨p, hp, hplace, -⟩ := exists_of_forall₂_left hbuilt hmem
    obtain ⟨data, hdata⟩ := lookup_isSome (List.mem_reverse.mpr hp)
    rw [hplace, hlookup] at hdata
    cases hdata

/-! ## Trying the entries -/

theorem tryAll_cons {b s s' : Bench} {e : Entry} {place : Nat} {more : List (Entry × Nat)}
    {result : Except SessionError Bytes} {results : List (Nat × Except SessionError Bytes)}
    (htry : tryAssembleEntry e.name b = (.ok result, s)) (hmore : tryAll more s = (.ok results, s')) :
    tryAll ((e, place) :: more) b = (.ok ((place, result) :: results), s') := by
  have hfirst : (do return (place, ← tryAssembleEntry e.name) : Act Bench (Nat × Except SessionError Bytes)) b =
      (.ok (place, result), s) := by
    rw [bind_ok htry]
    rfl
  rw [tryAll, List.mapM_cons, bind_ok hfirst]
  change (tryAll more >>= fun results => pure ((place, result) :: results)) s = _
  rw [bind_ok hmore]
  rfl

/-- Every entry comes to what it would have come to at first, for some order of the character sets. -/
theorem tryAll_spec (entries : List (Entry × Nat)) (b : Bench) :
    ∃ results s, tryAll entries b = (.ok results, s) ∧ Looked b s ∧
      List.Forall₂ (fun (e : Entry × Nat) (r : Nat × Except SessionError Bytes) =>
        r.1 = e.2 ∧ ∃ cs, r.2 = b.bytesOf cs e.1.name) entries results := by
  induction entries generalizing b with
  | nil => exact ⟨[], b, rfl, .refl b, .nil⟩
  | cons p more ih =>
    obtain ⟨e, place⟩ := p
    obtain ⟨s, htry, hlooked, -⟩ := tryAssembleEntry_spec b e.name
    obtain ⟨results, s', hmore, hlooked', hresults⟩ := ih s
    refine ⟨_, s', tryAll_cons htry hmore, hlooked.trans hlooked', .cons ⟨rfl, _, rfl⟩ (hresults.imp ?_)⟩
    rintro e' r ⟨hplace, cs, hr⟩
    obtain ⟨cs', hcs'⟩ := hlooked.exists_bytesOf_eq cs e'.1.name
    exact ⟨hplace, cs', hr.trans hcs'⟩

theorem save_of_collect_error {b s : Bench} {results : List (Nat × Except SessionError Bytes)} {e : SessionError}
    (htry : tryAll (inScope b.session.archive) b = (.ok results, s)) (hcollect : collect results = .error e) :
    save b = (.error e, s) := by
  rw [save_eq, get_bind, bind_ok htry, finish, hcollect]
  rfl

private theorem saveArchive_eq (s : Bench) :
    ((saveArchive s).1, (saveArchive s).2.workplace.disk) = s.session.archive.outcome s.workplace.disk := by
  rw [Archive.outcome, ← Archive.save_fst, saveArchive, get_bind]
  rcases s.session.archive.save s.workplace.disk with ⟨result, archive⟩
  dsimp only
  rw [bind_ok (update_eq _ _)]
  cases result with
  | error e => rfl
  | ok written =>
    obtain ⟨disk, log⟩ := written
    rfl

theorem save_of_collect {b s : Bench} {results : List (Nat × Except SessionError Bytes)} {built : List (Nat × Bytes)}
    (htry : tryAll (inScope b.session.archive) b = (.ok results, s)) (hcollect : collect results = .ok built) :
    ((save b).1, (save b).2.workplace.disk) = (s.filled built).outcome s.workplace.disk := by
  let s₁ : Bench := { s with session := { s.session with archive := s.filled built } }
  have hrun : save b = (saveArchive >>= fun _ =>
      report [Log.info ("Saved " ++ Text.showNumber (inScope b.session.archive).length ++ " scripts")]) s₁ := by
    rw [save_eq, get_bind, bind_ok htry, finish, hcollect]
    dsimp only
    rw [bind_ok (update_eq _ _)]
    rfl
  have hsave := saveArchive_eq s₁
  rcases hstep : saveArchive s₁ with ⟨result, s₂⟩
  rw [hstep] at hsave
  rw [← hsave, hrun]
  cases result with
  | error e => rw [bind_error hstep]
  | ok _ =>
    rw [bind_ok hstep]
    rfl

theorem forall₂_of_collect {results : List (Nat × Except SessionError Bytes)} {built : List (Nat × Bytes)}
    (h : collect results = .ok built) :
    List.Forall₂ (fun (r : Nat × Except SessionError Bytes) p => p.1 = r.1 ∧ r.2 = .ok p.2) results built := by
  refine (forall₂_of_mapM h).imp ?_
  rintro ⟨place, result⟩ p hp
  cases result with
  | error e => cases hp
  | ok data =>
    obtain rfl := Except.ok.inj hp
    exact ⟨rfl, rfl⟩

theorem collect_cons_error (place : Nat) (e : SessionError) (more : List (Nat × Except SessionError Bytes)) :
    collect ((place, .error e) :: more) = .error e := rfl

theorem collect_cons_ok (place : Nat) (data : Bytes) (more : List (Nat × Except SessionError Bytes)) :
    collect ((place, .ok data) :: more) = (collect more).map ((place, data) :: ·) := by
  rw [collect, List.mapM_cons]
  change (collect more >>= fun built => pure ((place, data) :: built)) = _
  cases collect more <;> rfl

theorem exists_of_collect_error {results : List (Nat × Except SessionError Bytes)} {e : SessionError}
    (h : collect results = .error e) : ∃ r ∈ results, r.2 = .error e := by
  induction results with
  | nil => cases h
  | cons r more ih =>
    obtain ⟨place, result⟩ := r
    cases result with
    | error e' =>
      rw [collect_cons_error] at h
      obtain rfl := Except.error.inj h
      exact ⟨_, List.mem_cons_self, rfl⟩
    | ok data =>
      rw [collect_cons_ok] at h
      cases hmore : collect more with
      | ok built =>
        rw [hmore] at h
        cases h
      | error e' =>
        rw [hmore] at h
        obtain rfl := Except.error.inj h
        obtain ⟨r, hr, heq⟩ := ih hmore
        exact ⟨r, List.mem_cons_of_mem _ hr, heq⟩

/-- A save fails on an entry in scope, or it comes to the writing of an archive in which every entry in scope has bytes
that its dump assembles to and the others are as they were. -/
theorem save_cases (b : Bench) :
    (∃ err s, save b = (.error err, s) ∧ s.workplace.disk = b.workplace.disk ∧
      ∃ e ∈ b.session.archive.entries, isInScope e.name = true ∧ ∃ cs, b.bytesOf cs e.name = .error err) ∨
    ∃ a : Archive, a.source? = b.session.archive.source? ∧ a.destination = b.session.archive.destination ∧
      List.Forall₂ (Entry.Filled b.workplace.disk b.session.archive.source?
        fun name data => ∃ cs, b.bytesOf cs name = .ok data) b.session.archive.entries a.entries ∧
      ((save b).1, (save b).2.workplace.disk) = a.outcome b.workplace.disk := by
  obtain ⟨results, s, htry, hlooked, hresults⟩ := tryAll_spec (inScope b.session.archive) b
  cases hcollect : collect results with
  | error err =>
    obtain ⟨⟨place, result⟩, hr, rfl⟩ := exists_of_collect_error hcollect
    obtain ⟨⟨e, place'⟩, he, -, cs, hcs⟩ := exists_of_forall₂ hresults hr
    obtain ⟨hentry, hscope⟩ := mem_inScope.mp he
    exact .inl ⟨err, s, save_of_collect_error htry hcollect, hlooked.disk_eq, e, List.mem_of_getElem? hentry, hscope,
      cs, hcs.symm⟩
  | ok built =>
    obtain ⟨hsource, hdestination, -⟩ := Archive.foldl_setDataAt_frame built s.session.archive
    have hsave := save_of_collect htry hcollect
    rw [hlooked.disk_eq] at hsave
    refine .inr ⟨s.filled built, hsource.trans hlooked.source_eq, hdestination.trans hlooked.destination_eq, ?_, hsave⟩
    refine forall₂_filled _ hlooked.entries (forall₂_comp hresults (forall₂_of_collect hcollect) ?_)
    rintro e r p - ⟨hplace, cs, hr⟩ ⟨hplace', hp⟩
    exact ⟨hplace'.trans hplace, cs, hr.symm.trans hp⟩

end Bench
end SceneScript
