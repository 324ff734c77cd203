import Mathlib
import SceneScript.Proofs.Files.Locations
/-!
# Files below a directory

What is listed below a directory when files are written there and directories made. A directory that was made is found
under its path.
-/
namespace SceneScript.Disk

variable {d d' : Disk} {top l : Location}

theorem below?_eq_some {names : List String} : below? top l = some names ↔ l = top ++ names ∧ names ≠ [] := by
  rw [below?]
  constructor
  · intro h
    split_ifs at h with hbelow
    obtain rfl := Option.some.inj h
    obtain ⟨⟨names, rfl⟩, hne⟩ := And.imp_left List.isPrefixOf_iff_prefix.mp hbelow
    rw [List.drop_left]
    refine ⟨rfl, ?_⟩
    rintro rfl
    exact hne (List.append_nil top).symm
  · rintro ⟨rfl, hnames⟩
    rw [if_pos, List.drop_left]
    exact ⟨List.isPrefixOf_iff_prefix.mpr (List.prefix_append _ _), by simpa using hnames⟩

/-- What a node is listed as below a location: the names that lead to it and its bytes, if it is a file there. -/
def listing? (top : Location) : Location × Node → Option (List String × Bytes)
  | (l, .file data) => (below? top l).map (·, data)
  | (_, .dir) => none

/-- The files below a location in the order of the nodes. -/
def listed (d : Disk) (top : Location) : List (List String × Bytes) := d.nodes.filterMap (listing? top)

theorem filesBelow_perm (d : Disk) (top : Location) : (d.filesBelow top).Perm (d.listed top) := by
  rw [filesBelow]
  refine (List.mergeSort_perm _ _).trans (List.Perm.of_eq (List.filterMap_congr ?_))
  rintro ⟨l, node⟩ -
  cases node with
  | dir => rfl
  | file data => cases hbelow : below? top l <;> simp [listing?, hbelow]

/-- A file that is written is listed in place of the one that was there. -/
theorem listed_put_file {names : List String} (h : below? top l = some names) (data : Bytes) :
    (d.put l (.file data)).listed top = (names, data) :: (d.listed top).filter fun (other, _) => other ≠ names := by
  obtain ⟨rfl, hnames⟩ := below?_eq_some.mp h
  have hhead : listing? top (top ++ names, .file data) = some (names, data) := by rw [listing?, h, Option.map_some]
  rw [listed, put, List.filterMap_cons_some hhead, listed]
  congr 1
  induction d.nodes with
  | nil => rfl
  | cons p nodes ih =>
    rw [List.filter_cons, List.filterMap_cons]
    cases hp : listing? top p with
    | none =>
      dsimp only
      split_ifs
      · rw [List.filterMap_cons_none hp, ih]
      · exact ih
    | some found =>
      obtain ⟨l', node⟩ := p
      cases node with
      | dir => cases hp
      | file data' =>
        obtain ⟨names', hbelow, rfl⟩ := Option.map_eq_some_iff.mp hp
        obtain ⟨rfl, -⟩ := below?_eq_some.mp hbelow
        dsimp only
        rw [List.filter_cons]
        by_cases heq : names' = names
        · rw [if_neg (by simp [heq]), if_neg (by simp [heq]), ih]
        · rw [if_pos (by simpa using heq), if_pos (by simpa using heq), List.filterMap_cons_some hp, ih]

/-- A directory that is made where nothing was is not listed. -/
theorem listed_put_dir (h : d.node? l = none) : (d.put l .dir).listed top = d.listed top := by
  rw [node?] at h
  split_ifs at h
  rw [List.lookup_eq_none_iff] at h
  rw [listed, put, List.filter_eq_self.mpr]
  · rfl
  · intro p hp
    exact decide_eq_true (bne_iff_ne.mp (h p hp)).symm

theorem listed_makeAlong {parts : List String} (h : d.makeAlong l parts = .ok d') : d'.listed top = d.listed top := by
  induction parts generalizing d l with
  | nil =>
    cases h
    rfl
  | cons part more ih =>
    rw [makeAlong] at h
    split at h
    · cases h
    dsimp only at h
    split at h
    · exact ih h
    · cases h
    · rename_i hnone
      rw [ih h, listed_put_dir hnone]

theorem listed_makeDirectory {p : Path} (h : d.makeDirectory p = .ok d') : d'.listed top = d.listed top := by
  rw [makeDirectory] at h
  split at h
  · cases h
  · split_ifs at h
    · cases h
      rfl
    all_goals exact listed_makeAlong h

/-- The parts along which directories were made are followed to the last of them. -/
theorem follow_of_makeAlong {parts : List String} (h : d.makeAlong l parts = .ok d') (hdir : d.node? l = some .dir) :
    d'.follow l parts = .ok (parts.foldl step l, some .dir) := by
  induction parts generalizing d l with
  | nil =>
    cases h
    rw [follow, hdir]
    rfl
  | cons part more ih =>
    have hkept := (makeAlong_ok h).2 l .dir hdir
    rw [makeAlong] at h
    split at h
    · cases h
    rename_i hlong
    dsimp only at h
    split at h
    · rename_i hnext
      rw [follow_cons hkept hlong (by rw [(makeAlong_ok h).2 _ _ hnext]; rfl)]
      exact ih h hnext
    · cases h
    · rename_i hnone
      have hne : step l part ≠ [] := ne_nil_of_node? (by rw [hnone]; simp)
      have hput : (d.put (step l part) .dir).node? (step l part) = some .dir := by rw [node?_put d hne, if_pos rfl]
      rw [follow_cons hkept hlong (by rw [(makeAlong_ok h).2 _ _ hput]; rfl)]
      exact ih h hput

/-- A directory that was made is found. -/
theorem resolve_of_makeDirectory {p : Path} (h : d.makeDirectory p = .ok d') (hempty : p.isEmpty = false)
    (hstart : d.node? (if p.isAbsolute then [] else d.home) = some .dir) :
    d'.resolve p = .ok (d.locate p, some .dir) := by
  rw [makeDirectory] at h
  split at h
  · cases h
  rename_i hrefusal
  rw [hempty, if_neg Bool.false_ne_true] at h
  rw [resolve, hrefusal]
  dsimp only
  rw [hempty, if_neg Bool.false_ne_true, (makeAlong_ok h).1, locate]
  exact follow_of_makeAlong h hstart

/-- The paths of the files in a directory without directories in it. -/
theorem pathsBelow_perm {p : Path} (h : d.resolve p = .ok (top, some .dir)) {names : List String}
    (hlisted : (d.listed top).map Prod.fst = names.map ([·])) : (d.pathsBelow p).Perm (names.map p.join) := by
  have hrefusal := (resolve_eq_ok h).1
  have hfiles : ((d.filesBelow top).map Prod.fst).Perm (names.map ([·])) := hlisted ▸ (d.filesBelow_perm top).map _
  have hflat : ∀ file ∈ d.filesBelow top, ∃ name, file.1 = [name] := by
    intro file hfile
    obtain ⟨name, -, hname⟩ := List.mem_map.mp (hfiles.subset (List.mem_map_of_mem hfile))
    exact ⟨name, hname.symm⟩
  have hpaths : d.pathsBelow p = ((d.filesBelow top).map Prod.fst).map (List.foldl Path.join p) := by
    rw [pathsBelow, h, List.map_map]
    dsimp only
    rw [List.filter_eq_self.mpr]
    · rfl
    · rintro file hfile
      obtain ⟨name, hname⟩ := hflat file hfile
      rw [hname, List.dropLast_singleton, List.foldl_nil, hrefusal]
      rfl
  rw [hpaths]
  refine (hfiles.map _).trans (List.Perm.of_eq ?_)
  rw [List.map_map]
  rfl

end SceneScript.Disk
