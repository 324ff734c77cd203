import Mathlib
import SceneScript.Proofs.Session.Steadiness
/-!
# Two sessions in lockstep

Two sessions may differ in the log, and in the character set that the next script is first read in if no dump depends on
it. Whatever is called on both gives the same results and leaves the same files.
-/
namespace SceneScript

namespace Act

variable {σ α β : Type}

/-- Whether two actions give the same result and leave related states. -/
def Together (R : σ → σ → Prop) (act act' : Act σ α) (s s' : σ) : Prop :=
  (act' s').1 = (act s).1 ∧ R (act s).2 (act' s').2

/-- Whether an action does so from all related states. -/
def Lockstep (R : σ → σ → Prop) (act : Act σ α) : Prop := ∀ s s', R s s' → Together R act act s s'

variable {R : σ → σ → Prop} {s s' : σ}

theorem Together.bind {act act' : Act σ α} {next next' : α → Act σ β} (h : Together R act act' s s')
    (hnext : ∀ a t t', R t t' → Together R (next a) (next' a) t t') :
    Together R (act >>= next) (act' >>= next') s s' := by
  obtain ⟨hresult, hstate⟩ := h
  rcases hrun : act s with ⟨result, t⟩
  rcases hrun' : act' s' with ⟨result', t'⟩
  rw [hrun, hrun'] at hresult hstate
  obtain rfl : result' = result := hresult
  cases result' with
  | error e =>
    rw [Together, bind_error hrun, bind_error hrun']
    exact ⟨rfl, hstate⟩
  | ok a =>
    rw [Together, bind_ok hrun, bind_ok hrun']
    exact hnext a t t' hstate

theorem lockstep_pure (a : α) : Lockstep R (pure a : Act σ α) := fun _ _ h => ⟨rfl, h⟩

theorem lockstep_throw (e : SessionError) : Lockstep R (throw e : Act σ α) := fun _ _ h => ⟨rfl, h⟩

theorem Lockstep.bind {act : Act σ α} {next : α → Act σ β} (h : Lockstep R act) (hnext : ∀ a, Lockstep R (next a)) :
    Lockstep R (act >>= next) := fun s s' hs => (h s s' hs).bind hnext

/-- What two actions do with the states they look at. -/
theorem lockstep_get_bind {next : σ → Act σ β} (h : ∀ s s', R s s' → Together R (next s) (next s') s s') :
    Lockstep R ((get : Act σ σ) >>= next) := by
  intro s s' hs
  rw [Together, get_bind, get_bind]
  exact h s s' hs

theorem lockstep_forM {items : List α} {act : α → Act σ PUnit} (h : ∀ a, Lockstep R (act a)) :
    Lockstep R (items.forM act) := by
  induction items with
  | nil => exact lockstep_pure _
  | cons a items ih => exact (h a).bind fun _ => ih

theorem lockstep_foldlM {items : List α} {act : β → α → Act σ β} (h : ∀ b a, Lockstep R (act b a)) (b : β) :
    Lockstep R (items.foldlM act b) := by
  induction items generalizing b with
  | nil => exact lockstep_pure b
  | cons a items ih =>
    rw [List.foldlM_cons]
    exact (h b a).bind ih

theorem lockstep_mapM {items : List α} {act : α → Act σ β} (h : ∀ a, Lockstep R (act a)) :
    Lockstep R (items.mapM act) := by
  induction items with
  | nil =>
    rw [List.mapM_nil]
    exact lockstep_pure []
  | cons a items ih =>
    rw [List.mapM_cons]
    exact (h a).bind fun b => ih.bind fun bs => lockstep_pure _

end Act

namespace Bench

open Act

/-! ## Twins -/

/-- Whether two sessions differ at most in the log and, unless it is known to be the same, in the character set that the
next script is first read in. -/
structure Twins (same : Prop) (b s : Bench) : Prop where
  root_eq : s.session.root = b.session.root
  archive_eq : s.session.archive = b.session.archive
  typesetter_eq : s.session.typesetter = b.session.typesetter
  dumps_eq : s.session.dumps = b.session.dumps
  disk_eq : s.workplace.disk = b.workplace.disk
  preferred_eq : same → s.session.preferred = b.session.preferred

/-- Twins that come to the same dumps. -/
structure Abreast (same : Prop) (b s : Bench) : Prop extends Twins same b s where
  steady : ¬same → Steady b

variable {same : Prop} {b s : Bench}

/-- Twins have the same dump for an entry whatever is asked for. -/
theorem Abreast.dumpOf_eq (h : Abreast same b s) (name : String) :
    s.dumpOf s.session.preferred name = b.dumpOf b.session.preferred name := by
  have htwin : ∀ cs, s.dumpOf cs name = b.dumpOf cs name := by
    intro cs
    rw [dumpOf, dumpOf, h.archive_eq, h.dumps_eq, h.disk_eq]
  rw [htwin]
  by_cases hsame : same
  · rw [h.preferred_eq hsame]
  · exact (h.steady hsame).dumps name _ _

/-- An action that twins go through alike, and that keeps the dumps from depending on the order of the character sets. -/
theorem lockstep_of_twins {α : Type} {act : Act Bench α}
    (htwins : ∀ b s, Abreast same b s → Together (Twins same) act act b s) (hsteady : Keeps Steady act) :
    Lockstep (Abreast same) act := by
  intro b s h
  obtain ⟨hresult, hstate⟩ := htwins b s h
  exact ⟨hresult, hstate, fun hne => hsteady.after (fun _ _ h => h) (h.steady hne)⟩

theorem lockstep_report (lines : Log) : Lockstep (Abreast same) (report lines) :=
  lockstep_of_twins (fun _ _ h => ⟨rfl, { h.toTwins with }⟩) (stable_steady.keeps_report lines)

theorem lockstep_entry (name : String) : Lockstep (Abreast same) (entry name) := by
  apply lockstep_get_bind
  intro b s h
  rw [h.archive_eq]
  cases b.session.archive.find? name with
  | some found => exact lockstep_pure found b s h
  | none => exact lockstep_throw _ b s h

theorem lockstep_inspect {α : Type} (look : Disk → Except FileError α) :
    Lockstep (Abreast same) (atWorkplace (Workplace.inspect look)) := by
  apply lockstep_of_twins _ (keeps_inspect look)
  intro b s h
  rw [Together, atWorkplace, atWorkplace, Workplace.inspect, get_bind, get_bind, h.disk_eq]
  cases look b.workplace.disk <;> exact ⟨rfl, h.toTwins⟩

theorem lockstep_change {f : Disk → Except FileError Disk} (hsteady : Keeps Steady (atWorkplace (Workplace.change f))) :
    Lockstep (Abreast same) (atWorkplace (Workplace.change f)) := by
  apply lockstep_of_twins _ hsteady
  intro b s h
  have hdisk := h.disk_eq
  rw [Together]
  cases hf : f b.workplace.disk with
  | error e =>
    rw [atWorkplace_eq (Workplace.change_eq_error hf), atWorkplace_eq (Workplace.change_eq_error (hdisk.symm ▸ hf))]
    exact ⟨rfl, h.toTwins⟩
  | ok disk =>
    rw [atWorkplace_eq (Workplace.change_eq_ok hf), atWorkplace_eq (Workplace.change_eq_ok (hdisk.symm ▸ hf))]
    exact ⟨rfl, { h.toTwins with disk_eq := rfl }⟩

theorem lockstep_editDumps (name : String) (dump : Text) :
    Lockstep (Abreast same) (update fun s => { s with dumps := s.dumps.edit name dump }) :=
  lockstep_of_twins (fun _ _ h => ⟨rfl, { h.toTwins with dumps_eq := congrArg (DumpCache.edit · name dump) h.dumps_eq }⟩)
    (leads_modify fun _ h => stable_steady.edited name dump h)

/-- Dumps are asked for alike: the results agree, and so does what is stored of them. -/
theorem lockstep_decompile (name : String) : Lockstep (Abreast same) (decompile name) := by
  apply lockstep_of_twins _ (stable_steady.keeps_decompile name)
  intro b s h
  have hdump := h.dumpOf_eq name
  have hcached' : s.session.dumps.get? name = b.session.dumps.get? name := congrArg (DumpCache.get? · name) h.dumps_eq
  have hfind' : s.session.archive.find? name = b.session.archive.find? name := congrArg (Archive.find? · name) h.archive_eq
  rw [Together]
  cases hcached : b.session.dumps.get? name with
  | some dump =>
    rw [decompile_of_cached hcached, decompile_of_cached (hcached'.trans hcached)]
    exact ⟨rfl, h.toTwins⟩
  | none =>
    rw [hcached] at hcached'
    cases hfind : b.session.archive.find? name with
    | none =>
      rw [decompile_of_unknown hcached hfind, decompile_of_unknown hcached' (hfind'.trans hfind)]
      exact ⟨rfl, h.toTwins⟩
    | some found =>
      obtain ⟨e, place⟩ := found
      rw [hfind] at hfind'
      have hload' : e.load s.workplace.disk s.session.archive.source? =
          e.load b.workplace.disk b.session.archive.source? := by rw [h.disk_eq, h.archive_eq]
      cases hload : e.load b.workplace.disk b.session.archive.source? with
      | error err =>
        rw [decompile_of_load_error hcached hfind hload, decompile_of_load_error hcached' hfind' (hload'.trans hload)]
        exact ⟨rfl, h.toTwins⟩
      | ok bytes =>
        rw [hload] at hload'
        rw [dumpOf_of_load hcached hfind hload, dumpOf_of_load hcached' hfind' hload'] at hdump
        have hpreferred := h.preferred_eq
        rcases hrun : disassemble name bytes b.session.preferred with ⟨err | dump, log⟩ <;>
          rcases hrun' : disassemble name bytes s.session.preferred with ⟨err' | dump', log'⟩ <;>
          rw [hrun, hrun'] at hdump
        · obtain rfl : err' = err := SessionError.script.inj (Except.error.inj hdump)
          rw [decompile_of_load_ok_error hcached hfind hload hrun, decompile_of_load_ok_error hcached' hfind' hload' hrun']
          exact ⟨rfl, { h.toTwins with archive_eq := congrArg (Archive.setDataAt · place bytes) h.archive_eq }⟩
        · cases hdump
        · cases hdump
        · have htext : dump'.text = dump.text := Except.ok.inj hdump
          rw [decompile_of_load_ok hcached hfind hload hrun, decompile_of_load_ok hcached' hfind' hload' hrun', htext]
          refine ⟨rfl, { h.toTwins with archive_eq := ?_, dumps_eq := ?_, preferred_eq := fun hsame => ?_ }⟩
          · exact congrArg (Archive.setDataAt · place bytes) h.archive_eq
          · exact congrArg (fun dumps : DumpCache => (dumps.insertFirst name dump.text).1) h.dumps_eq
          · -- From the same order of the character sets the same one is found.
            rw [hpreferred hsame, hrun] at hrun'
            rw [Except.ok.inj (Prod.mk.inj hrun').1]

/-! ## Calls -/

theorem lockstep_edit (name : String) (dump : Text) : Lockstep (Abreast same) (edit name dump) :=
  (lockstep_entry name).bind fun _ => lockstep_editDumps name dump

theorem lockstep_entryOfFile? (file : Path) : Lockstep (Abreast same) (entryOfFile? file) := by
  rw [entryOfFile?]
  split
  · exact lockstep_pure _
  · rename_i name _
    apply lockstep_get_bind
    intro b s h
    rw [h.archive_eq]
    split_ifs
    · exact lockstep_pure _ b s h
    · exact ((lockstep_report _).bind fun _ => lockstep_pure _) b s h

theorem lockstep_applyFile (file : Path) : Lockstep (Abreast same) (applyFile file) := by
  refine (lockstep_entryOfFile? file).bind fun found => ?_
  cases found with
  | none => exact lockstep_pure _
  | some name => exact (lockstep_inspect _).bind fun dump => (lockstep_editDumps name dump).bind fun _ => lockstep_pure _

theorem lockstep_loadSet (file : Path) : Lockstep (Abreast same) (loadSet file) := by
  refine (lockstep_inspect _).bind fun t => ?_
  split
  · exact lockstep_pure _
  · exact lockstep_throw _

theorem lockstep_importFile (file : Path) : Lockstep (Abreast same) (importFile file) := by
  refine (lockstep_entryOfFile? file).bind fun found => ?_
  cases found with
  | none => exact lockstep_pure _
  | some name =>
    refine (lockstep_loadSet file).bind fun set => (lockstep_decompile name).bind fun dump => ?_
    dsimp only
    rcases Replacement.merge name dump set with ⟨merged, log⟩
    refine (lockstep_report _).bind fun _ => ?_
    rcases merged with e | _ | dump
    · exact (lockstep_report _).bind fun _ => lockstep_pure _
    · exact (lockstep_report _).bind fun _ => lockstep_pure _
    · refine (lockstep_editDumps name dump).bind fun _ => ?_
      split_ifs
      · exact (lockstep_report _).bind fun _ => lockstep_pure _
      · exact lockstep_pure _

private theorem lockstep_countFiles {act : Path → Act Bench Bool} (hact : ∀ file, Lockstep (Abreast same) (act file))
    (directory : Path) (extension : Text) (lines : Nat → Log) :
    Lockstep (Abreast same) (do
      let count ← countFiles (← filesWith directory extension) act
      report (lines count)
      return count) := by
  have hfiles : Lockstep (Abreast same) (filesWith directory extension) := by
    intro b s h
    rw [Together, filesWith_eq, filesWith_eq, filesBelow, filesBelow, h.disk_eq]
    exact ⟨rfl, h⟩
  refine hfiles.bind fun files => Lockstep.bind ?_ fun count => (lockstep_report _).bind fun _ => lockstep_pure _
  exact lockstep_foldlM (fun _ file => (hact file).bind fun _ => lockstep_pure _) 0

theorem lockstep_applyDumps (directory : Path) : Lockstep (Abreast same) (applyDumps directory) :=
  lockstep_countFiles lockstep_applyFile directory _ _

theorem lockstep_importSets (directory : Path) : Lockstep (Abreast same) (importSets directory) :=
  lockstep_countFiles lockstep_importFile directory _ _

theorem lockstep_exportEntry (directory : Path) (name : String) :
    Lockstep (Abreast same) (exportEntry directory name) := by
  refine (lockstep_decompile name).bind fun dump => lockstep_change ?_
  exact keeps_change_of_moved (fun h hdisk => h.with_disk hdisk) fun _ _ _ _ => resolve_scene_of_export

theorem lockstep_exportDumps : Lockstep (Abreast same) exportDumps := by
  apply lockstep_get_bind
  intro b s h
  have hmake : Lockstep (Abreast same) (atWorkplace (Workplace.change (·.makeDirectory (b.session.root.join dumpsPath)))) :=
    lockstep_change (keeps_change_of_moved (fun h hdisk => h.with_disk hdisk) fun _ _ _ _ => Disk.resolve_makeDirectory)
  dsimp only
  rw [h.root_eq, h.archive_eq]
  refine (hmake b s h).bind fun _ => Lockstep.bind ?_ fun _ => (lockstep_report _).bind fun _ => lockstep_pure _
  exact lockstep_forM fun p => lockstep_exportEntry _ p.1.name

/-! ## Saving -/

theorem lockstep_tryAssembleEntry (name : String) : Lockstep (Abreast same) (tryAssembleEntry name) := by
  have hassemble : Lockstep (Abreast same) (assembleEntry name) := by
    refine (lockstep_decompile name).bind fun dump => lockstep_get_bind fun b s h => ?_
    rw [h.typesetter_eq]
    rcases assemble name dump b.session.typesetter with ⟨result, log⟩
    refine (lockstep_report log b s h).bind fun _ => ?_
    cases result with
    | ok bytes => exact lockstep_pure bytes
    | error e => exact lockstep_throw _
  have hattempt : Lockstep (Abreast same) (attempt (assembleEntry name)) := by
    intro b s h
    obtain ⟨hresult, hstate⟩ := hassemble b s h
    exact ⟨congrArg Except.ok hresult, hstate⟩
  refine hattempt.bind fun result => ?_
  cases result with
  | ok data => exact lockstep_pure _
  | error e => exact (lockstep_report _).bind fun _ => lockstep_pure _

private theorem twins_saveArchive (b s : Bench) (h : Twins same b s) : Together (Twins same) saveArchive saveArchive b s := by
  rw [Together, saveArchive, get_bind, get_bind, h.archive_eq, h.disk_eq]
  rcases b.session.archive.save b.workplace.disk with ⟨result, archive⟩
  dsimp only
  rw [bind_ok (update_eq _ _), bind_ok (update_eq _ _)]
  cases result with
  | error e => exact ⟨rfl, { h with archive_eq := rfl }⟩
  | ok written => exact ⟨rfl, { h with archive_eq := rfl, disk_eq := rfl }⟩

private theorem twins_finish (count : Nat) (results : List (Nat × Except SessionError Bytes)) (b s : Bench)
    (h : Twins same b s) : Together (Twins same) (finish count results) (finish count results) b s := by
  rw [finish]
  split
  · exact ⟨rfl, h⟩
  rename_i built _
  refine Together.bind ?_ fun _ t t' ht => (twins_saveArchive t t' ht).bind fun _ u u' hu => ⟨rfl, { hu with }⟩
  refine ⟨rfl, { h with archive_eq := ?_ }⟩
  rw [update_eq, update_eq]
  dsimp only
  rw [h.archive_eq]

theorem lockstep_save : Lockstep (Abreast same) save := by
  apply lockstep_of_twins
  · intro b s h
    have htry : Lockstep (Abreast same) (tryAll (inScope b.session.archive)) :=
      lockstep_mapM fun p => (lockstep_tryAssembleEntry p.1.name).bind fun _ => lockstep_pure _
    obtain ⟨hresult, hstate⟩ := htry b s h
    rw [Together, save_eq, get_bind, get_bind, h.archive_eq]
    exact Together.bind ⟨hresult, hstate.toTwins⟩ (twins_finish _)
  · intro b h
    have hsave := h.save
    rcases hrun : save b with ⟨_ | _, b'⟩ <;> rw [hrun] at hsave <;> exact hsave

end Bench
end SceneScript
