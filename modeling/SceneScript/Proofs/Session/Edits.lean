import Mathlib
import SceneScript.Proofs.Session.Course
/-!
# Edits on their way to the scene file

A dump that a session has taken for an entry in scope is what the entry is assembled from when the session is saved,
whatever is done with other entries before that. A dump that is taken for an entry out of scope is never looked at again.
-/
namespace SceneScript.Bench

open Act

/-- Whether a session takes a dump for an entry: it is given directly, or it stands in a file that is counted while the
dumps below a directory are taken, and no later one of these files is for the same entry. -/
inductive Accepts (name : String) (text : Text) : Bench → Bench → Prop where
  | edit {b b' : Bench} (h : Bench.edit name text b = (.ok (), b')) : Accepts name text b b'
  | file {b b₁ b₂ : Bench} {directory file : Path} {before after : List Path} {count : Nat}
      (hfiles : b.filesBelow directory "txt".toList = before ++ file :: after)
      (hbefore : countFiles before applyFile b = (.ok count, b₁)) (hcounted : applyFile file b₁ = (.ok true, b₂))
      (hname : Path.stem? file = some name) (htext : b₁.workplace.disk.readText file = .ok text)
      (hafter : ∀ later ∈ after, Path.stem? later ≠ some name) : Accepts name text b (applyDumps directory b).2

/-- The states of a session after calls that edit other names alone, with any changes to the files meanwhile. -/
inductive Meanwhile (name : String) (b : Bench) : Bench → Prop where
  | start : Meanwhile name b b
  | call {s : Bench} (c : Call) (h : Meanwhile name b s) (hspares : c.Spares (· = name) s) :
      Meanwhile name b (c.act s).2
  | others {s : Bench} (w : Workplace) (h : Meanwhile name b s) : Meanwhile name b { s with workplace := w }

theorem Meanwhile.continues {name : String} {b s : Bench} (h : Meanwhile name b s) : Continues (· = name) b s := by
  induction h with
  | start => exact .refl b
  | call c _ hspares ih => exact ih.trans (continues_act hspares)
  | others w _ ih => exact ih.with_workplace w

/-- A file that is for an entry is counted, and becomes its dump. -/
theorem applyFile_eq {b : Bench} {file : Path} {name : String} {found : Entry × Nat} {text : Text}
    (hname : Path.stem? file = some name) (hfind : b.session.archive.find? name = some found)
    (htext : b.workplace.disk.readText file = .ok text) :
    applyFile file b =
      (.ok true, { b with session := { b.session with dumps := b.session.dumps.edit name text } }) := by
  have hentry : entryOfFile? file b = (.ok (some name), b) := by
    rw [entryOfFile?, hname]
    dsimp only
    rw [get_bind, hfind]
    rfl
  have hread : atWorkplace (Workplace.inspect (·.readText file)) b = (.ok text, b) := by
    rw [atWorkplace, Workplace.inspect, get_bind, htext]
    rfl
  rw [applyFile, bind_ok hentry]
  dsimp only
  rw [bind_ok hread, bind_ok (update_eq _ _)]
  rfl

/-- A file that is counted is for an entry, whose dump it becomes. -/
theorem applyFile_counted {b b' : Bench} {file : Path} {name : String} {text : Text}
    (h : applyFile file b = (.ok true, b')) (hname : Path.stem? file = some name)
    (htext : b.workplace.disk.readText file = .ok text) :
    (∃ found, b.session.archive.find? name = some found) ∧ b'.session.dumps.get? name = some text := by
  cases hfind : b.session.archive.find? name with
  | none =>
    have hentry : ∃ w, entryOfFile? file b = (.ok none, { b with workplace := w }) := by
      rw [entryOfFile?, hname]
      dsimp only
      rw [get_bind, hfind]
      exact ⟨_, rfl⟩
    obtain ⟨w, hentry⟩ := hentry
    rw [applyFile, bind_ok hentry] at h
    cases h
  | some found =>
    rw [applyFile_eq hname hfind htext] at h
    obtain ⟨-, rfl⟩ := Prod.mk.inj h
    refine ⟨⟨found, rfl⟩, ?_⟩
    dsimp only
    rw [DumpCache.get?_edit, if_pos rfl]

/-- Counting files goes on where it stood. -/
theorem countFiles_append {before : List Path} (after : List Path) {act : Path → Act Bench Bool} {b b₁ b₂ : Bench} {file : Path}
    {count : Nat} {counted : Bool} (hbefore : countFiles before act b = (.ok count, b₁))
    (hfile : act file b₁ = (.ok counted, b₂)) :
    countFiles (before ++ file :: after) act b =
      (after.foldlM (fun count file => do return if ← act file then count + 1 else count)
        (if counted then count + 1 else count) : Act Bench Nat) b₂ := by
  rw [countFiles] at hbefore ⊢
  rw [List.foldlM_append, bind_ok hbefore, List.foldlM_cons]
  have hstep : (do return if ← act file then count + 1 else count : Act Bench Nat) b₁ =
      (.ok (if counted then count + 1 else count), b₂) := by
    rw [bind_ok hfile]
    rfl
  rw [bind_ok hstep]

/-- What comes after a file that is counted leaves the dump that was taken from it. -/
theorem get?_applyDumps {b b₁ b₂ : Bench} {directory file : Path} {before after : List Path} {count : Nat} {name : String}
    {text : Text} (hfiles : b.filesBelow directory "txt".toList = before ++ file :: after)
    (hbefore : countFiles before applyFile b = (.ok count, b₁)) (hcounted : applyFile file b₁ = (.ok true, b₂))
    (htaken : b₂.session.dumps.get? name = some text) (hafter : ∀ later ∈ after, Path.stem? later ≠ some name) :
    (applyDumps directory b).2.session.dumps.get? name = some text := by
  have hspare : FilesSpare (· = name) after := by
    rintro later hlater _ hname rfl
    exact hafter later hlater hname
  have hrest : Continues (· = name) b₂ (applyDumps directory b).2 := by
    rw [applyDumps, bind_ok (filesWith_eq b directory _), hfiles, bind_congr (countFiles_append after hbefore hcounted)]
    have htail : Keeps (Continues (· = name) b₂) _ :=
      continues_countFiles (fun file hfile => continues_applyFile (hspare file hfile)) (count + 1)
    refine Leads.final (P := Continues (· = name) b₂) ((htail.start (.refl b₂)).bind fun count => ?_)
    exact (keeps_atWorkplace _).bind fun _ => leads_pure fun _ h => h
  exact hrest.kept name rfl text htaken

/-- A dump that is taken is for an entry, whose dump it becomes. -/
theorem Accepts.taken {name : String} {text : Text} {b b' : Bench} (h : Accepts name text b b') :
    Continues (fun _ => False) b b' ∧ name ∈ b.session.archive.entries.map Entry.name ∧
      b'.session.dumps.get? name = some text := by
  cases h with
  | edit h =>
    cases hfind : b.session.archive.find? name with
    | none =>
      rw [edit_eq_error hfind] at h
      cases h
    | some found =>
      rw [edit_eq hfind] at h
      obtain ⟨-, rfl⟩ := Prod.mk.inj h
      refine ⟨(Continues.refl b).with_edit not_false text, Archive.mem_names_of_find? hfind, ?_⟩
      dsimp only
      rw [DumpCache.get?_edit, if_pos rfl]
  | @file b₁ b₂ directory file before after count hfiles hbefore hcounted hname htext hafter =>
    obtain ⟨⟨found, hfind⟩, htaken⟩ := applyFile_counted hcounted hname htext
    have hfree : ∀ files, FilesSpare (fun _ => False) files := fun _ _ _ _ _ => not_false
    have hcontinues : Continues (fun _ => False) b b₁ :=
      (continues_countFiles (fun file hfile => continues_applyFile (hfree before file hfile)) 0).of_ok (.refl b) hbefore
    refine ⟨(continues_applyDumps (hfree _)).final, ?_, get?_applyDumps hfiles hbefore hcounted htaken hafter⟩
    rw [← hcontinues.names_eq]
    exact Archive.mem_names_of_find? hfind

end SceneScript.Bench
