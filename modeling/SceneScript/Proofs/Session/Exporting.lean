import Mathlib
import SceneScript.Proofs.Files.Locations
import SceneScript.Proofs.Session.FailedSave
import SceneScript.Proofs.Session.Opening
/-!
# Where dumps are exported to

Every entry in scope has its dump written to a file of its name in the dump directory. A name without a slash in it stays
there; with one the path may lead anywhere.
-/
namespace SceneScript.Bench

open Act

/-- The directory that a session exports its dumps to. -/
def dumpsDirectory (b : Bench) : Path := b.session.root.join dumpsPath

/-- The file that the dump of an entry is exported to. -/
def dumpPath (b : Bench) (name : String) : Path := b.dumpsDirectory.join (name ++ ".txt")

/-- Where the dump directory is. -/
def dumpsLocation (b : Bench) : Location := b.workplace.disk.locate b.dumpsDirectory

/-- Where the dump of an entry is exported to. -/
def dumpLocation (b : Bench) (name : String) : Location := b.workplace.disk.locate (b.dumpPath name)

/-! ## Paths of dumps -/

theorem getLast?_dumpsDirectory (b : Bench) : b.dumpsDirectory.toList.getLast? = some 'T' :=
  (Path.getLast?_join b.session.root (by decide)).trans (by decide)

theorem dumpsDirectory_isEmpty (b : Bench) : b.dumpsDirectory.isEmpty = false := by
  have hlast := b.getLast?_dumpsDirectory
  rw [← Bool.not_eq_true, String.isEmpty_iff]
  intro h
  rw [h] at hlast
  cases hlast

theorem getLast?_textFile (name : String) : (name ++ ".txt").toList.getLast? = some 't' := by
  rw [String.toList_append, List.getLast?_append_of_ne_nil _ (by decide)]
  rfl

theorem getLast?_dumpPath (b : Bench) (name : String) : (b.dumpPath name).toList.getLast? = some 't' := by
  refine (Path.getLast?_join b.dumpsDirectory ?_).trans (getLast?_textFile name)
  intro h
  have hlast := getLast?_textFile name
  rw [h] at hlast
  cases hlast

theorem notMem_slash_textFile {name : String} (h : '/' ∉ name.toList) : '/' ∉ (name ++ ".txt").toList := by
  rw [String.toList_append, List.mem_append, not_or]
  exact ⟨h, by decide⟩

theorem step_textFile (at' : Location) (name : String) : Disk.step at' (name ++ ".txt") = at' ++ [name ++ ".txt"] := by
  have hlast := getLast?_textFile name
  rw [Disk.step, if_neg, if_neg]
  · intro h
    rw [h] at hlast
    cases hlast
  · rintro (h | h) <;> rw [h] at hlast <;> cases hlast

theorem dumpLocation_eq (b : Bench) {name : String} (h : '/' ∉ name.toList) :
    b.dumpLocation name = b.dumpsLocation ++ [name ++ ".txt"] := by
  rw [dumpLocation, dumpPath, Disk.locate_join b.dumpsDirectory_isEmpty
    (Path.endsWithSlash_eq_false b.getLast?_dumpsDirectory (by decide)) (notMem_slash_textFile h), step_textFile]
  rfl

theorem below?_dumpLocation (b : Bench) {name : String} (h : '/' ∉ name.toList) :
    Disk.below? b.dumpsLocation (b.dumpLocation name) = some [name ++ ".txt"] := by
  rw [b.dumpLocation_eq h, Disk.below?, if_pos, List.drop_left]
  exact ⟨List.isPrefixOf_iff_prefix.mpr (List.prefix_append _ _), by simp⟩

/-! ## Files that export changes -/

section

variable {b₀ : Bench} {changed : Location → Prop}

/-- Whether a session has the same files as another, save at some locations. -/
def SameFiles (changed : Location → Prop) (b₀ b : Bench) : Prop :=
  Disk.SameFiles changed b₀.workplace.disk b.workplace.disk

theorem sameFiles_decompile (name : String) : Keeps (SameFiles changed b₀) (decompile name) := by
  intro b hb
  obtain ⟨s, hrun, hlooked, -⟩ := decompile_spec b name
  rw [SameFiles, ← hlooked.disk_eq] at hb
  rw [hrun]
  cases b.dumpOf b.session.preferred name <;> exact hb

theorem sameFiles_change {f : Disk → Except FileError Disk}
    (h : ∀ d d', Disk.SameFiles changed b₀.workplace.disk d → f d = .ok d' → Disk.SameFiles changed d d') :
    Keeps (SameFiles changed b₀) (atWorkplace (Workplace.change f)) := by
  intro b hb
  cases hf : f b.workplace.disk with
  | ok d =>
    rw [atWorkplace_eq (Workplace.change_eq_ok hf)]
    exact hb.trans (h _ d hb hf)
  | error e =>
    rw [atWorkplace_eq (Workplace.change_eq_error hf)]
    exact hb

/-- Exporting an entry changes no file but its own. -/
theorem sameFiles_exportEntry {name : String} (hname : changed (b₀.dumpLocation name)) :
    Keeps (SameFiles changed b₀) (exportEntry b₀.dumpsDirectory name) := by
  refine (sameFiles_decompile name).bind fun dump => sameFiles_change fun d d' hd h => ?_
  refine Disk.sameFiles_write (b₀.getLast?_dumpPath name) (by decide) ?_ h
  rw [Disk.locate_congr hd.home_eq]
  exact hname

/-- Exporting changes no files but those of the entries in scope. -/
theorem sameFiles_exportDumps (b : Bench) :
    SameFiles (fun l => ∃ name ∈ b.namesInScope, l = b.dumpLocation name) b (exportDumps b).2 := by
  let changed : Location → Prop := fun l => ∃ name ∈ b.namesInScope, l = b.dumpLocation name
  have hexport : exportDumps.Leads (· = b) (fun _ => SameFiles changed b) (SameFiles changed b) := by
    apply leads_get_bind
    intro s hs
    obtain rfl : b = s := hs.symm
    have hentry : ∀ p ∈ inScope b.session.archive, Keeps (SameFiles changed b) (exportEntry b.dumpsDirectory p.1.name) :=
      fun p hp => sameFiles_exportEntry ⟨p.1.name, List.mem_map_of_mem (f := fun p : Entry × Nat => p.1.name) hp, rfl⟩
    refine ((sameFiles_change fun d d' _ h => Disk.sameFiles_makeDirectory h).start (.refl _)).bind fun _ => ?_
    refine (keeps_forM hentry).bind fun _ => ?_
    exact Leads.bind (Q := fun _ => SameFiles changed b) (fun s hs => hs) fun _ => leads_pure fun _ h => h
  exact hexport.final

end

/-- Exporting, be it a success or a failure, changes no file outside of the dump directory, provided that the dump of each
entry in scope that has a slash in its name goes below the directory. -/
theorem exportDumps_confined {b b' : Bench} {result : Except SessionError Path} (h : exportDumps b = (result, b'))
    (hnames : ∀ name ∈ b.namesInScope, '/' ∈ name.toList → (Disk.below? b.dumpsLocation (b.dumpLocation name)).isSome)
    {l : Location} (hl : Disk.below? b.dumpsLocation l = none) (data : Bytes) :
    b'.workplace.disk.node? l = some (.file data) ↔ b.workplace.disk.node? l = some (.file data) := by
  have hsame := sameFiles_exportDumps b
  rw [h] at hsame
  refine hsame.file_iff l ?_ data
  rintro ⟨name, hname, rfl⟩
  have hbelow : (Disk.below? b.dumpsLocation (b.dumpLocation name)).isSome := by
    by_cases hslash : '/' ∈ name.toList
    · exact hnames name hname hslash
    · rw [b.below?_dumpLocation hslash]
      rfl
  rw [hl] at hbelow
  cases hbelow

/-- A script whose dump is written, and one whose path leads over a directory that is missing. -/
theorem exportDumps_confined_missing :
    let image := (Image.build? [⟨"SC01", .zero, [1, 0x0D, 2]⟩, ⟨"old/../SC02", .zero, [1, 0x0D, 2]⟩]).getD []
    let w₀ : Workplace := ⟨⟨[], [(["FILE"], .dir), (["FILE", "SCENE00.afs"], .file image)]⟩, []⟩
    let settings := { Settings.default with english := false, wraps := false }
    ∃ s w e b', Session.load settings w₀ = (.ok s, w) ∧ exportDumps ⟨s, w⟩ = (.error e, b') ∧
      b'.workplace.disk.read "FILE/SCENE00TXT/SC01.txt" = .ok (Utf8.encode "header.1\nret2.2\ntrailer.0".toList) ∧
      ∀ l, Disk.below? ["FILE", "SCENE00TXT"] l = none → ∀ data,
        (b'.workplace.disk.node? l = some (.file data) ↔ w.disk.node? l = some (.file data)) := by
  intro image w₀ settings
  let dump := Utf8.encode "header.1\nret2.2\ntrailer.0".toList
  have hrun : passes (Session.load settings w₀) (fun s w =>
      let b : Bench := ⟨s, w⟩
      decide (∀ name ∈ b.namesInScope, '/' ∈ name.toList → (Disk.below? b.dumpsLocation (b.dumpLocation name)).isSome) &&
      (decide (b.dumpsLocation = ["FILE", "SCENE00TXT"]) && (!(exportDumps b).1.toBool &&
        decide ((exportDumps b).2.workplace.disk.read "FILE/SCENE00TXT/SC01.txt" = .ok dump)))) = true := by decide +kernel
  obtain ⟨s, w, hload, hrun⟩ := exists_of_passes hrun
  rw [Bool.and_eq_true, Bool.and_eq_true, Bool.and_eq_true, decide_eq_true_eq, decide_eq_true_eq, decide_eq_true_eq] at hrun
  obtain ⟨hnames, hdirectory, hfails, hwritten⟩ := hrun
  rcases hexport : exportDumps ⟨s, w⟩ with ⟨result, b'⟩
  rw [hexport] at hfails hwritten
  cases result with
  | ok directory => cases hfails
  | error e =>
    refine ⟨s, w, e, b', hload, hexport, hwritten, fun l hl data => ?_⟩
    rw [← hdirectory] at hl
    exact exportDumps_confined hexport hnames hl data

/-- A name that leads up has its dump written outside of the dump directory. -/
theorem exportDumps_escapes :
    let image := (Image.build? [⟨"../../evil", .zero, [1, 0x0D, 2]⟩]).getD []
    let w₀ : Workplace := ⟨⟨[], [(["FILE"], .dir), (["FILE", "SCENE00.afs"], .file image)]⟩, []⟩
    let settings := { Settings.default with english := false, wraps := false }
    ∃ s w b', Session.load settings w₀ = (.ok s, w) ∧
      exportDumps ⟨s, w⟩ = (.ok "./FILE/SCENE00TXT", b') ∧ Disk.below? ["FILE", "SCENE00TXT"] ["evil.txt"] = none ∧
      w.disk.node? ["evil.txt"] = none ∧
      b'.workplace.disk.node? ["evil.txt"] = some (.file (Utf8.encode "header.1\nret2.2\ntrailer.0".toList)) := by
  intro image w₀ settings
  let dump := Utf8.encode "header.1\nret2.2\ntrailer.0".toList
  have hrun : passes (Session.load settings w₀) (fun s w => decide (w.disk.node? ["evil.txt"] = none) &&
      passes (exportDumps ⟨s, w⟩) fun directory b' => decide (directory = "./FILE/SCENE00TXT") &&
        decide (b'.workplace.disk.node? ["evil.txt"] = some (.file dump))) = true := by decide +kernel
  obtain ⟨s, w, hload, hrun⟩ := exists_of_passes hrun
  rw [Bool.and_eq_true, decide_eq_true_eq] at hrun
  obtain ⟨hbefore, hrun⟩ := hrun
  obtain ⟨directory, b', hexport, hrun⟩ := exists_of_passes hrun
  rw [Bool.and_eq_true, decide_eq_true_eq, decide_eq_true_eq] at hrun
  obtain ⟨rfl, hafter⟩ := hrun
  exact ⟨s, w, b', hload, hexport, by decide, hbefore, hafter⟩

end SceneScript.Bench
