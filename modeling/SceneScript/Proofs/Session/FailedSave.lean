import Mathlib
import SceneScript.Proofs.Script.Retry
import SceneScript.Proofs.Session.Writing
/-!
# Saving that fails

A save in which an entry fails has loaded entries, filled the cache and moved on to another character set by then. None
of this is seen: the files and the entries are as they were, and a later save comes to what it would have come to.
-/
namespace SceneScript

/-- Whether an entry is another one, up to the bytes it has if it is in scope. -/
structure Entry.Agrees (disk : Disk) (source? : Option Path) (e e' : Entry) : Prop where
  name_eq : e'.name = e.name
  timestamp_eq : e'.timestamp = e.timestamp
  load_eq : isInScope e.name = false → e'.load disk source? = e.load disk source?

theorem Entry.Same.agrees {disk : Disk} {source? : Option Path} {e e' : Entry} (h : Entry.Same disk source? e e') :
    Entry.Agrees disk source? e e' := ⟨h.name_eq, h.timestamp_eq, fun _ => h.load_eq⟩

/-- The entries in scope are at the same places in archives whose entries have the same names. -/
private theorem forall₂_filter_zipIdx {Fits : Entry → Entry → Prop} (hname : ∀ e e', Fits e e' → e'.name = e.name)
    {entries entries' : List Entry} (h : List.Forall₂ Fits entries entries') (k : Nat) :
    List.Forall₂ (fun p p' : Entry × Nat => p'.1.name = p.1.name ∧ p'.2 = p.2)
      ((entries.zipIdx k).filter fun (e, _) => isInScope e.name)
      ((entries'.zipIdx k).filter fun (e, _) => isInScope e.name) := by
  induction h generalizing k with
  | nil => exact .nil
  | @cons e e' entries entries' hfits _ ih =>
    rw [List.zipIdx_cons, List.zipIdx_cons, List.filter_cons, List.filter_cons]
    simp only [hname e e' hfits]
    split_ifs
    · exact .cons ⟨hname e e' hfits, rfl⟩ (ih (k + 1))
    · exact ih (k + 1)

namespace Bench

open Act

/-- The names of the entries in scope, in the order of the archive. -/
def namesInScope (b : Bench) : List String := (inScope b.session.archive).map fun (e, _) => e.name

/-- Whether names are assembled one after the other until one fails, with which failure. -/
inductive FailsFirst : Bench → List String → SessionError → Prop where
  | here {b b' : Bench} {name : String} {more : List String} {e : SessionError}
      (h : assembleEntry name b = (.error e, b')) : FailsFirst b (name :: more) e
  | later {b b' : Bench} {name : String} {more : List String} {data : Bytes} {e : SessionError}
      (h : assembleEntry name b = (.ok data, b')) (hmore : FailsFirst b' more e) : FailsFirst b (name :: more) e

/-- Whether no dump of an entry in scope depends on the character set that is tried first. -/
def Unambiguous (b : Bench) : Prop :=
  ∀ name ∈ b.namesInScope, ∀ cs cs' dump dump', b.dumpOf cs name = .ok dump → b.dumpOf cs' name = .ok dump' →
    dump = dump'

/-- Whether an entry fails to be dumped does not depend on the character set that is tried first. -/
theorem dumpOf_error {b : Bench} {cs : Charset} {name : String} {e : SessionError} (h : b.dumpOf cs name = .error e)
    (cs' : Charset) : b.dumpOf cs' name = .error e := by
  rw [dumpOf] at h ⊢
  split at h
  · cases h
  · split at h
    · exact h
    · split at h
      · exact h
      · split at h
        · rename_i err hdisassemble
          rw [disassemble_error _ _ _ cs' hdisassemble]
          exact h
        · cases h

theorem Unambiguous.dumpOf_eq {b : Bench} (h : b.Unambiguous) {name : String} (hname : name ∈ b.namesInScope)
    (cs cs' : Charset) : b.dumpOf cs name = b.dumpOf cs' name := by
  cases hdump : b.dumpOf cs name with
  | error e => exact (dumpOf_error hdump cs').symm
  | ok dump =>
    cases hdump' : b.dumpOf cs' name with
    | error e =>
      rw [dumpOf_error hdump' cs] at hdump
      cases hdump
    | ok dump' => rw [h name hname cs cs' dump dump' hdump hdump']

theorem Unambiguous.bytesOf_eq {b : Bench} (h : b.Unambiguous) {name : String} (hname : name ∈ b.namesInScope)
    (cs cs' : Charset) : b.bytesOf cs name = b.bytesOf cs' name := by
  rw [bytesOf, bytesOf, h.dumpOf_eq hname cs cs']

/-! ## The first failure -/

theorem fst_assembleEntry (b : Bench) (name : String) :
    (assembleEntry name b).1 = b.bytesOf b.session.preferred name := by
  obtain ⟨s, hrun, -⟩ := assembleEntry_spec b name
  rw [hrun]

theorem FailsFirst.collect {entries : List (Entry × Nat)} {b : Bench} {e : SessionError}
    (h : FailsFirst b (entries.map fun (e, _) => e.name) e) :
    ∃ results s, tryAll entries b = (.ok results, s) ∧ collect results = .error e := by
  induction entries generalizing b with
  | nil => cases h
  | cons p more ih =>
    obtain ⟨entry, place⟩ := p
    obtain ⟨s, htry, -, hstate⟩ := tryAssembleEntry_spec b entry.name
    cases h with
    | here herror =>
      rw [← fst_assembleEntry, herror] at htry
      obtain ⟨results, s', hmore, -⟩ := tryAll_spec more s
      exact ⟨_, s', tryAll_cons htry hmore, collect_cons_error _ _ _⟩
    | later hok hlater =>
      rw [← fst_assembleEntry, hok] at htry hstate
      obtain rfl := hstate _ rfl
      obtain ⟨results, s', hmore, hcollect⟩ := ih hlater
      refine ⟨_, s', tryAll_cons htry hmore, ?_⟩
      rw [collect_cons_ok, hcollect]
      rfl

/-! ## Saving again after edits -/

/-- Whether two sessions come to the same when they are saved. -/
structure Alike (b s : Bench) : Prop where
  typesetter_eq : s.session.typesetter = b.session.typesetter
  source_eq : s.session.archive.source? = b.session.archive.source?
  destination_eq : s.session.archive.destination = b.session.archive.destination
  disk_eq : s.workplace.disk = b.workplace.disk
  entries : List.Forall₂ (Entry.Agrees b.workplace.disk b.session.archive.source?) b.session.archive.entries
    s.session.archive.entries
  dumps : ∀ name ∈ b.namesInScope, ∀ cs cs', s.dumpOf cs name = b.dumpOf cs' name

/-- A session in which dumps were asked for is alike if no dump depends on what was done before. -/
theorem Looked.alike {b s : Bench} (h : Looked b s) (hunambiguous : b.Unambiguous) : Alike b s where
  typesetter_eq := h.typesetter_eq
  source_eq := h.source_eq
  destination_eq := h.destination_eq
  disk_eq := h.disk_eq
  entries := h.entries.imp fun _ _ hsame => hsame.agrees
  dumps := by
    intro name hname cs cs'
    obtain ⟨cs₁, hcs₁⟩ := h.exists_dumpOf_eq cs name
    rw [hcs₁, hunambiguous.dumpOf_eq hname]

/-- After an edit the edited entry has its new dump and the others come to what they came to. -/
theorem dumpOf_edit (b : Bench) (cs : Charset) (name other : String) (dump : Text) :
    dumpOf { b with session := { b.session with dumps := b.session.dumps.edit name dump } } cs other =
      if other = name then .ok dump else b.dumpOf cs other := by
  rw [dumpOf]
  dsimp only
  rw [DumpCache.get?_edit]
  split_ifs
  · rfl
  · rw [dumpOf]

/-- Editing keeps sessions alike. -/
theorem Alike.edit {b s : Bench} (h : Alike b s) (name : String) (dump : Text) :
    Alike (Bench.edit name dump b).2 (Bench.edit name dump s).2 := by
  obtain ⟨hnone, hnone'⟩ | ⟨e, e', place, hfind, hfind', -⟩ :=
    Archive.find?_of_forall₂ (fun _ _ hagrees => hagrees.name_eq) h.entries name
  · rw [edit_eq_error hnone, edit_eq_error hnone']
    exact h
  · rw [edit_eq hfind, edit_eq hfind']
    refine ⟨h.typesetter_eq, h.source_eq, h.destination_eq, h.disk_eq, h.entries, ?_⟩
    intro other hother cs cs'
    rw [dumpOf_edit, dumpOf_edit, h.dumps other hother cs cs']

/-- What an entry in scope comes to in sessions that are alike. -/
theorem Alike.bytesOf_eq {b s : Bench} (h : Alike b s) {name : String} (hname : name ∈ b.namesInScope) (cs cs' : Charset) :
    s.bytesOf cs name = b.bytesOf cs' name := by
  rw [bytesOf, bytesOf, h.dumps name hname cs cs', h.typesetter_eq]

theorem mem_namesInScope {b : Bench} {name : String} :
    name ∈ b.namesInScope ↔ name ∈ b.session.archive.entries.map Entry.name ∧ isInScope name = true := by
  constructor
  · intro h
    obtain ⟨⟨e, i⟩, hmem, rfl⟩ := List.mem_map.mp h
    obtain ⟨hi, hscope⟩ := mem_inScope.mp hmem
    exact ⟨List.mem_map_of_mem (List.mem_of_getElem? hi), hscope⟩
  · rintro ⟨h, hscope⟩
    obtain ⟨e, he, rfl⟩ := List.mem_map.mp h
    obtain ⟨i, hi⟩ := List.getElem?_of_mem he
    have hmem : (e, i) ∈ inScope b.session.archive := mem_inScope.mpr ⟨hi, hscope⟩
    exact List.mem_map_of_mem (f := fun p : Entry × Nat => p.1.name) hmem

/-- Sessions that are alike try their entries with the same results. -/
theorem Alike.tryAll {b s : Bench} (h : Alike b s) :
    ∃ results b₁ s₁, Bench.tryAll (inScope b.session.archive) b = (.ok results, b₁) ∧ Looked b b₁ ∧
      Bench.tryAll (inScope s.session.archive) s = (.ok results, s₁) ∧ Looked s s₁ ∧
      List.Forall₂ (fun (e : Entry × Nat) (r : Nat × Except SessionError Bytes) =>
        r.1 = e.2 ∧ ∃ cs, r.2 = b.bytesOf cs e.1.name) (inScope b.session.archive) results ∧
      List.Forall₂ (fun (e : Entry × Nat) (r : Nat × Except SessionError Bytes) =>
        r.1 = e.2 ∧ ∃ cs, r.2 = s.bytesOf cs e.1.name) (inScope s.session.archive) results := by
  obtain ⟨results, b₁, htry, hlooked, hresults⟩ := tryAll_spec (inScope b.session.archive) b
  obtain ⟨results', s₁, htry', hlooked', hresults'⟩ := tryAll_spec (inScope s.session.archive) s
  have hmixed : List.Forall₂ (fun (e : Entry × Nat) (r : Nat × Except SessionError Bytes) =>
      r.1 = e.2 ∧ ∃ cs, r.2 = s.bytesOf cs e.1.name) (inScope b.session.archive) results' := by
    refine forall₂_comp (forall₂_filter_zipIdx (fun _ _ hagrees => hagrees.name_eq) h.entries 0) hresults' ?_
    rintro e e' r - ⟨hname, hplace⟩ ⟨hr, cs, hcs⟩
    exact ⟨hr.trans hplace, cs, hname ▸ hcs⟩
  -- The character sets that the two runs try first may differ from entry to entry, but the dumps do not.
  obtain rfl : results = results' := by
    rw [← List.forall₂_eq_eq_eq]
    refine forall₂_comp hresults.flip hmixed ?_
    rintro r e r' he ⟨hplace, cs, hr⟩ ⟨hplace', cs', hr'⟩
    have hmem : e.1.name ∈ b.namesInScope := List.mem_map_of_mem (f := fun e : Entry × Nat => e.1.name) he
    exact Prod.ext (hplace.trans hplace'.symm) (by rw [hr, hr', h.bytesOf_eq hmem cs' cs])
  exact ⟨results, b₁, s₁, htry, hlooked, htry', hlooked', hresults, hresults'⟩

private theorem forall₂_filled_of_results {b b₁ : Bench} (hlooked : Looked b b₁)
    {results : List (Nat × Except SessionError Bytes)} {built : List (Nat × Bytes)}
    (hresults : List.Forall₂ (fun (e : Entry × Nat) (r : Nat × Except SessionError Bytes) =>
      r.1 = e.2 ∧ ∃ cs, r.2 = b.bytesOf cs e.1.name) (inScope b.session.archive) results)
    (hcollect : collect results = .ok built) :
    List.Forall₂ (Entry.Filled b.workplace.disk b.session.archive.source? fun name data => ∃ cs, b.bytesOf cs name = .ok data)
      b.session.archive.entries (b₁.filled built).entries := by
  refine forall₂_filled _ hlooked.entries (forall₂_comp hresults (forall₂_of_collect hcollect) ?_)
  rintro e r p - ⟨hplace, cs, hr⟩ ⟨hplace', hp⟩
  exact ⟨hplace'.trans hplace, cs, hr.symm.trans hp⟩

/-- Sessions that are alike are saved with the same result and leave the same files. -/
theorem Alike.save {b s : Bench} (h : Alike b s) :
    (Bench.save s).1 = (Bench.save b).1 ∧ (Bench.save s).2.workplace.disk = (Bench.save b).2.workplace.disk := by
  obtain ⟨results, b₁, s₁, htry, hlooked, htry', hlooked', hresults, hresults'⟩ := h.tryAll
  cases hcollect : collect results with
  | error e =>
    rw [save_of_collect_error htry hcollect, save_of_collect_error htry' hcollect]
    exact ⟨rfl, hlooked'.disk_eq.trans (h.disk_eq.trans hlooked.disk_eq.symm)⟩
  | ok built =>
    obtain ⟨hsource, hdestination, -⟩ := Archive.foldl_setDataAt_frame built b₁.session.archive
    obtain ⟨hsource', hdestination', -⟩ := Archive.foldl_setDataAt_frame built s₁.session.archive
    have hfilled := forall₂_filled_of_results hlooked hresults hcollect
    have hfilled' := forall₂_filled_of_results hlooked' hresults' hcollect
    rw [h.disk_eq, h.source_eq] at hfilled'
    have hsame : List.Forall₂ (Entry.Same b.workplace.disk b.session.archive.source?) (b₁.filled built).entries
        (s₁.filled built).entries := by
      have hright : List.Forall₂ (fun e e₁' => ∃ e', Entry.Agrees b.workplace.disk b.session.archive.source? e e' ∧
          Entry.Filled b.workplace.disk b.session.archive.source? (fun name data => ∃ cs, s.bytesOf cs name = .ok data) e' e₁')
          b.session.archive.entries (s₁.filled built).entries :=
        forall₂_comp h.entries hfilled' fun _ e' _ _ h₁ h₂ => ⟨e', h₁, h₂⟩
      refine forall₂_comp hfilled.flip hright ?_
      rintro e₁ e e₁' he hfill ⟨e', hagrees, hfill'⟩
      refine ⟨?_, ?_, ?_⟩
      · rw [hfill'.name_eq, hagrees.name_eq, hfill.name_eq]
      · rw [hfill'.timestamp_eq, hagrees.timestamp_eq, hfill.timestamp_eq]
      · cases hscope : isInScope e.name with
        | false =>
          rw [hfill'.out_of_scope (hagrees.name_eq ▸ hscope), hagrees.load_eq hscope, hfill.out_of_scope hscope]
        | true =>
          obtain ⟨data, hload, cs, hdata⟩ := hfill.in_scope hscope
          obtain ⟨data', hload', cs', hdata'⟩ := hfill'.in_scope (hagrees.name_eq ▸ hscope)
          rw [hagrees.name_eq, h.bytesOf_eq (mem_namesInScope.mpr ⟨List.mem_map_of_mem he, hscope⟩) cs' cs, hdata] at hdata'
          rw [hload, hload', Except.ok.inj hdata']
    have houtcome : (s₁.filled built).outcome b.workplace.disk = (b₁.filled built).outcome b.workplace.disk := by
      have hsourceEq : (b₁.filled built).source? = b.session.archive.source? := hsource.trans hlooked.source_eq
      apply Archive.outcome_congr
      · exact hsource'.trans (hlooked'.source_eq.trans (h.source_eq.trans hsourceEq.symm))
      · exact hdestination'.trans (hlooked'.destination_eq.trans
          (h.destination_eq.trans (hlooked.destination_eq.symm.trans hdestination.symm)))
      · rw [hsourceEq]
        exact hsame
    have hsave := save_of_collect htry hcollect
    have hsave' := save_of_collect htry' hcollect
    rw [hlooked.disk_eq] at hsave
    rw [hlooked'.disk_eq, h.disk_eq, houtcome, ← hsave] at hsave'
    exact Prod.mk.inj hsave'

end Bench
end SceneScript
