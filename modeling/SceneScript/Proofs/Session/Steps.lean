import Mathlib
import SceneScript.Proofs.Session.Outcome
import SceneScript.Proofs.Session.Runs
/-!
# What calls keep

A property of sessions that is kept when dumps are asked for and edited is kept by every call that does no more. Exports
also write files, but never the scene file.
-/
namespace SceneScript.Bench

open Act

/-- Whether a property of sessions is kept when dumps are asked for, and when one is edited. -/
structure Stable (P : Bench → Prop) : Prop where
  looked : ∀ {b s : Bench}, Looked b s → P b → P s
  edited : ∀ {b : Bench} (name : String) (dump : Text), P b →
    P { b with session := { b.session with dumps := b.session.dumps.edit name dump } }

/-- Looking at the files or at the list of entries changes nothing. -/
theorem keeps_inspect {α : Type} {P : Bench → Prop} (look : Disk → Except FileError α) :
    Keeps P (atWorkplace (Workplace.inspect look)) := by
  intro b hb
  rw [atWorkplace, Workplace.inspect, get_bind]
  cases look b.workplace.disk <;> exact hb

theorem keeps_entry {P : Bench → Prop} (name : String) : Keeps P (entry name) := by
  apply leads_get_bind
  intro b hb
  cases b.session.archive.find? name with
  | some found => exact leads_return hb
  | none => exact leads_fail hb

/-- A call whose result is not looked at. -/
theorem snd_discard {α : Type} (act : Act Bench α) (b : Bench) : ((do let _ ← act) b : Except SessionError Unit × Bench).2 = (act b).2 := by
  rcases hrun : act b with ⟨_ | _, b'⟩
  · exact congrArg Prod.snd (bind_error hrun)
  · exact congrArg Prod.snd (bind_ok hrun)

namespace Stable

variable {P : Bench → Prop} (h : Stable P)

include h

theorem keeps_report (lines : Log) : Keeps P (report lines) :=
  fun b hb => h.looked ((Looked.refl b).with_log (b.workplace.log ++ lines)) hb

theorem keeps_decompile (name : String) : Keeps P (decompile name) := by
  intro b hb
  obtain ⟨s, hrun, hlooked, -⟩ := decompile_spec b name
  rw [hrun]
  cases b.dumpOf b.session.preferred name <;> exact h.looked hlooked hb

theorem keeps_edit (name : String) (dump : Text) : Keeps P (edit name dump) :=
  (keeps_entry name).bind fun _ => leads_modify fun _ hb => h.edited name dump hb

theorem keeps_entryOfFile? (file : Path) : Keeps P (entryOfFile? file) := by
  rw [entryOfFile?]
  split
  · exact leads_pure fun _ hb => hb
  · apply leads_get_bind
    intro b hb
    split_ifs
    · exact leads_return hb
    · exact ((h.keeps_report _).start hb).bind fun _ => leads_pure fun _ hb => hb

theorem keeps_applyFile (file : Path) : Keeps P (applyFile file) := by
  refine (h.keeps_entryOfFile? file).bind fun found => ?_
  cases found with
  | none => exact leads_pure fun _ hb => hb
  | some name =>
    refine (keeps_inspect _).bind fun dump => ?_
    refine Leads.bind (Q := fun _ => P) (leads_modify fun _ hb => ?_) fun _ => leads_pure fun _ hb => hb
    exact h.edited name dump hb

theorem keeps_importFile (file : Path) : Keeps P (importFile file) := by
  refine (h.keeps_entryOfFile? file).bind fun found => ?_
  cases found with
  | none => exact leads_pure fun _ hb => hb
  | some name =>
    have hset : Keeps P (loadSet file) := by
      refine (keeps_inspect _).bind fun t => ?_
      split
      · exact leads_pure fun _ hb => hb
      · exact leads_throw fun _ hb => hb
    refine hset.bind fun set => (h.keeps_decompile name).bind fun dump => ?_
    dsimp only
    rcases Replacement.merge name dump set with ⟨merged, log⟩
    refine (h.keeps_report _).bind fun _ => ?_
    rcases merged with e | _ | dump
    · exact (h.keeps_report _).bind fun _ => leads_pure fun _ hb => hb
    · exact (h.keeps_report _).bind fun _ => leads_pure fun _ hb => hb
    · refine Leads.bind (Q := fun _ => P) (leads_modify fun _ hb => h.edited name dump hb) fun _ => ?_
      split_ifs
      · exact (h.keeps_report _).bind fun _ => leads_pure fun _ hb => hb
      · exact leads_pure fun _ hb => hb

theorem keeps_countFiles {act : Path → Act Bench Bool} (hact : ∀ file, Keeps P (act file)) (directory : Path)
    (extension : Text) (lines : Nat → Log) :
    Keeps P (do
      let count ← countFiles (← filesWith directory extension) act
      report (lines count)
      return count) := by
  refine Leads.bind (Q := fun _ => P) (fun b hb => hb) fun files => ?_
  refine Leads.bind (Q := fun _ => P) ?_ fun count => (h.keeps_report _).bind fun _ => leads_pure fun _ hb => hb
  exact keeps_foldlM (fun _ file _ => (hact file).bind fun _ => leads_pure fun _ hb => hb) 0

theorem keeps_applyDumps (directory : Path) : Keeps P (applyDumps directory) :=
  h.keeps_countFiles h.keeps_applyFile directory _ _

theorem keeps_importSets (directory : Path) : Keeps P (importSets directory) :=
  h.keeps_countFiles h.keeps_importFile directory _ _

/-- What a call keeps if an export and a save do. -/
theorem after_act {b : Bench} (hb : P b) (hexport : P (exportDumps b).2) (hsave : P (save b).2) (c : Call) :
    P (c.act b).2 := by
  cases c with
  | decompile name => exact snd_discard (Bench.decompile name) b ▸ (h.keeps_decompile name).after (fun _ _ h => h) hb
  | edit name dump => exact (h.keeps_edit name dump).after (fun _ _ h => h) hb
  | applyDumps directory =>
    exact snd_discard (Bench.applyDumps directory) b ▸ (h.keeps_applyDumps directory).after (fun _ _ h => h) hb
  | importSets directory =>
    exact snd_discard (Bench.importSets directory) b ▸ (h.keeps_importSets directory).after (fun _ _ h => h) hb
  | exportDumps => exact snd_discard Bench.exportDumps b ▸ hexport
  | save => exact hsave

end Stable

/-! ## Exports -/

section

variable {P : Bench → Prop} (hlooked : ∀ {b s : Bench}, Looked b s → P b → P s)
  (hmoved : ∀ {b : Bench} {disk : Disk}, P b →
    (∀ loc data, b.workplace.disk.resolve b.session.scene = .ok (loc, some (.file data)) →
      disk.resolve b.session.scene = .ok (loc, some (.file data))) →
    P { b with workplace := { b.workplace with disk := disk } })

include hmoved

theorem keeps_change_of_moved {f : Disk → Except FileError Disk}
    (h : ∀ (b : Bench) disk loc data, f b.workplace.disk = .ok disk →
      b.workplace.disk.resolve b.session.scene = .ok (loc, some (.file data)) →
      disk.resolve b.session.scene = .ok (loc, some (.file data))) :
    Keeps P (atWorkplace (Workplace.change f)) := by
  intro b hb
  cases hf : f b.workplace.disk with
  | error e =>
    rw [atWorkplace_eq (Workplace.change_eq_error hf)]
    exact hb
  | ok disk =>
    rw [atWorkplace_eq (Workplace.change_eq_ok hf)]
    exact hmoved hb fun loc data => h b disk loc data hf

include hlooked

/-- What is kept when dumps are asked for, and when files other than the scene file are changed, is kept by an export. -/
theorem keeps_exportEntry_of (directory : Path) (name : String) : Keeps P (exportEntry directory name) := by
  have hdecompile : Keeps P (decompile name) := by
    intro b hb
    obtain ⟨s, hrun, hs, -⟩ := decompile_spec b name
    rw [hrun]
    cases b.dumpOf b.session.preferred name <;> exact hlooked hs hb
  exact hdecompile.bind fun dump => keeps_change_of_moved hmoved fun b _ _ _ => resolve_scene_of_export

theorem keeps_exportDumps_of : Keeps P exportDumps := by
  apply leads_get_bind
  intro b hb
  have hmake : Keeps P (atWorkplace (Workplace.change (·.makeDirectory (b.session.root.join dumpsPath)))) :=
    keeps_change_of_moved hmoved fun _ _ _ _ => Disk.resolve_makeDirectory
  refine (hmake.start hb).bind fun _ => ?_
  refine (keeps_forM fun (e, place) _ => keeps_exportEntry_of hlooked hmoved _ e.name).bind fun _ => ?_
  refine Leads.bind (Q := fun _ => P) (fun b hb => ?_) fun _ => leads_pure fun _ h => h
  exact hlooked ((Looked.refl b).with_log _) hb

end

end SceneScript.Bench
