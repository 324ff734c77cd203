import Mathlib
import SceneScript.Proofs.Files.Disk
/-!
# Locations by name

A path names a location whether something is there or not. Paths below one directory are followed alike up to their last
part, and making a directory or writing a file changes no other location.
-/
namespace SceneScript

namespace Path

theorem isAbsolute_of_noSlash {p : Path} (h : '/' ∉ p.toList) : p.isAbsolute = false := by
  rw [isAbsolute, beq_eq_false_iff_ne]
  exact fun hhead => h (List.mem_of_mem_head? hhead)

theorem parts_of_noSlash {p : Path} (h : '/' ∉ p.toList) : p.parts = [p] := by
  rw [parts, List.splitOn_eq_singleton h, List.map_singleton, String.ofList_toList]

private theorem parts_append_slash (front back : Path) : (front ++ "/" ++ back).parts = front.parts ++ back.parts := by
  have htext : (front ++ "/" ++ back).toList = front.toList ++ '/' :: back.toList := by
    rw [String.toList_append, String.toList_append, List.append_assoc]
    rfl
  rw [parts, htext, List.splitOn_append_cons_self, List.map_append]
  rfl

private theorem isAbsolute_append {front : Path} (h : front.isEmpty = false) (back : Path) :
    (front ++ back : Path).isAbsolute = front.isAbsolute := by
  have hne : front.toList ≠ [] := by
    intro hnil
    rw [String.toList_eq_nil_iff.mp hnil] at h
    cases h
  rw [isAbsolute, isAbsolute, String.toList_append, List.head?_append_of_ne_nil _ hne]

/-- The parts of a path below a directory whose own path does not end with a slash. -/
theorem parts_join {base below : Path} (hbase : base.isEmpty = false) (hslash : base.endsWithSlash = false)
    (hbelow : below.isAbsolute = false) :
    (base.join below).parts = base.parts ++ below.parts ∧ (base.join below).isAbsolute = base.isAbsolute := by
  rw [join, if_neg (by rw [hbelow]; exact Bool.false_ne_true), if_neg (by rw [hbase, hslash]; decide)]
  refine ⟨parts_append_slash _ _, ?_⟩
  rw [String.append_assoc]
  exact isAbsolute_append hbase _

/-- All paths below a directory begin alike. -/
theorem exists_parts_join (base : Path) : ∃ front, ∀ below : Path, below.isAbsolute = false →
    (base.join below).parts = front ++ below.parts ∧ (base.join below).isAbsolute = base.isAbsolute := by
  cases hbase : base.isEmpty with
  | true =>
    obtain rfl : base = "" := String.isEmpty_iff.mp hbase
    refine ⟨[], fun below hbelow => ?_⟩
    rw [join, if_neg (by rw [hbelow]; exact Bool.false_ne_true), if_pos (by decide), String.empty_append]
    exact ⟨rfl, hbelow⟩
  | false =>
    cases hslash : base.endsWithSlash with
    | false => exact ⟨base.parts, fun below hbelow => parts_join hbase hslash hbelow⟩
    | true =>
      obtain ⟨rest, hrest⟩ := List.getLast?_eq_some_iff.mp (eq_of_beq hslash)
      have hfront : base = String.ofList rest ++ "/" := by
        apply String.toList_injective
        rw [hrest, String.toList_append, String.toList_ofList]
        rfl
      refine ⟨parts (String.ofList rest), fun below hbelow => ?_⟩
      rw [join, if_neg (by rw [hbelow]; exact Bool.false_ne_true), if_pos (by rw [hslash, Bool.or_true])]
      refine ⟨?_, isAbsolute_append hbase _⟩
      rw [hfront]
      exact parts_append_slash _ _

/-- The name of a file is the last part of its path. -/
theorem fileName?_join (base : Path) {below : Path} (hslash : '/' ∉ below.toList) (hempty : below.toList ≠ [])
    (hhere : below.toList ≠ ['.']) (hup : below.toList ≠ ['.', '.']) :
    fileName? (base.join below) = some below.toList := by
  obtain ⟨front, hfront⟩ := exists_parts_join base
  obtain ⟨hparts, -⟩ := hfront below (isAbsolute_of_noSlash hslash)
  have hsplit : (base.join below).toList.splitOn '/' = front.map String.toList ++ [below.toList] := by
    have htexts := congrArg (List.map String.toList) hparts
    rw [parts_of_noSlash hslash, parts, List.map_map, List.map_append, List.map_singleton] at htexts
    have hid : String.toList ∘ String.ofList = id := funext fun _ => String.toList_ofList
    rw [← htexts, hid, List.map_id]
  rw [fileName?, hsplit, List.filter_append, List.filter_cons_of_pos (by simp [hempty, hhere]), List.filter_nil,
    List.getLast?_concat]
  split
  · rename_i heq
    exact absurd (Option.some.inj heq) hup
  · rename_i heq
    cases heq
  · rename_i heq
    exact heq.symm

/-- A text file is for the name that comes before its extension. -/
theorem splitExtension_textFile {name : Text} (h : name ≠ []) :
    splitExtension (name ++ ".txt".toList) = (name, some "txt".toList) := by
  have hcut : Text.cutAtLast '.' (name ++ ".txt".toList) = some (name, "txt".toList) :=
    Text.cutAtLast_append (by decide) name
  rw [splitExtension, hcut]
  cases name with
  | nil => exact absurd rfl h
  | cons c name => rfl

theorem stem?_textFile (base : Path) {name : String} (hslash : '/' ∉ name.toList) (hempty : name ≠ "") :
    stem? (base.join (name ++ ".txt")) = some name ∧ hasExtension (base.join (name ++ ".txt")) "txt".toList = true := by
  have hname : name.toList ≠ [] := fun hnil => hempty (String.toList_eq_nil_iff.mp hnil)
  have hfile : fileName? (base.join (name ++ ".txt")) = some (name.toList ++ ".txt".toList) := by
    rw [← String.toList_append]
    apply fileName?_join
    · rw [String.toList_append, List.mem_append, not_or]
      exact ⟨hslash, by decide⟩
    all_goals
      rw [String.toList_append]
      intro h
      have hlength := congrArg List.length h
      rw [List.length_append] at hlength
      have hfour : ".txt".toList.length = 4 := by decide
      simp only [List.length_nil, List.length_cons] at hlength
      omega
  rw [stem?, hasExtension, extension?, hfile, Option.map_some, Option.bind_some, splitExtension_textFile hname]
  refine ⟨congrArg some String.ofList_toList, ?_⟩
  dsimp only
  decide

end Path

namespace Disk

/-- The location that a path names. -/
def locate (d : Disk) (p : Path) : Location := p.parts.foldl step (if p.isAbsolute then [] else d.home)

section

variable {d d' : Disk} {start loc : Location} {n : Option Node}

theorem eq_foldl_of_follow {parts : List String} (h : d.follow start parts = .ok (loc, n)) : loc = parts.foldl step start := by
  induction parts generalizing start with
  | nil => exact (Prod.mk.inj (Except.ok.inj h)).1.symm
  | cons part more ih =>
    obtain ⟨-, -, ⟨-, rfl, rfl, -⟩ | ⟨-, h⟩⟩ := follow_cons_eq_ok h
    · rfl
    · exact ih h

theorem eq_locate_of_resolve {p : Path} (h : d.resolve p = .ok (loc, n)) : loc = d.locate p :=
  eq_foldl_of_follow (resolve_eq_ok h).2.2

theorem locate_congr (h : d'.home = d.home) (p : Path) : d'.locate p = d.locate p := by
  rw [locate, locate, h]

/-- The location of a path below a directory whose own path does not end with a slash. -/
theorem locate_join {base below : Path} (hbase : base.isEmpty = false) (hslash : base.endsWithSlash = false)
    (hbelow : '/' ∉ below.toList) : d.locate (base.join below) = step (d.locate base) below := by
  obtain ⟨hparts, habsolute⟩ := Path.parts_join hbase hslash (Path.isAbsolute_of_noSlash hbelow)
  rw [locate, locate, hparts, habsolute, Path.parts_of_noSlash hbelow, List.foldl_concat]

/-- A path is followed to its last part in a directory. -/
theorem follow_concat_eq_ok {front : List String} {last : String} :
    d.follow start (front ++ [last]) = .ok (loc, n) ↔ ∃ dir, d.follow start front = .ok (dir, some .dir) ∧
      ¬longestName < last.utf8ByteSize ∧ loc = step dir last ∧ n = d.node? loc := by
  induction front generalizing start with
  | nil =>
    constructor
    · intro h
      obtain ⟨hdir, hlong, ⟨hnone, -, rfl, rfl⟩ | ⟨-, h⟩⟩ := follow_cons_eq_ok h
      · exact ⟨start, by rw [follow, hdir], hlong, rfl, hnone.symm⟩
      · obtain ⟨rfl, rfl⟩ := Prod.mk.inj (Except.ok.inj h)
        exact ⟨start, by rw [follow, hdir], hlong, rfl, rfl⟩
    · rintro ⟨dir, hstart, hlong, rfl, rfl⟩
      obtain ⟨rfl, hdir⟩ := Prod.mk.inj (Except.ok.inj hstart)
      rw [List.nil_append, follow, hdir]
      dsimp only
      rw [if_neg hlong]
      split_ifs with hnone hmore
      · rw [Option.isNone_iff_eq_none.mp hnone]
      · exact absurd rfl hmore
      · rw [follow]
  | cons part front ih =>
    constructor
    · intro h
      obtain ⟨hdir, hlong, ⟨-, hnil, -⟩ | ⟨hnext, h⟩⟩ := follow_cons_eq_ok h
      · simp at hnil
      · obtain ⟨dir, hfront, hlast⟩ := ih.mp h
        exact ⟨dir, (follow_cons hdir hlong hnext front).trans hfront, hlast⟩
    · rintro ⟨dir, hfront, hlast⟩
      obtain ⟨hdir, hlong, ⟨-, -, -, hnone⟩ | ⟨hnext, hfront⟩⟩ := follow_cons_eq_ok hfront
      · cases hnone
      · exact (follow_cons hdir hlong hnext _).trans (ih.mpr ⟨dir, hfront, hlast⟩)

end

/-! ## Changes elsewhere -/

/-- Whether all directories are there still and all files are as they were, save at some locations. -/
structure SameFiles (changed : Location → Prop) (d d' : Disk) : Prop extends KeepsDirectories d d' where
  file_iff : ∀ l, ¬changed l → ∀ data, d'.node? l = some (.file data) ↔ d.node? l = some (.file data)

/-- Whether a path leads to the same file as before, or to none as before. -/
def SameFile (p : Path) (d d' : Disk) : Prop := ∀ data, d'.read p = .ok data ↔ d.read p = .ok data

section

variable {changed : Location → Prop} {d d' d'' : Disk}

theorem SameFiles.refl (d : Disk) : SameFiles changed d d := ⟨⟨rfl, fun _ h => h⟩, fun _ _ _ => Iff.rfl⟩

theorem SameFiles.trans (h : SameFiles changed d d') (h' : SameFiles changed d' d'') : SameFiles changed d d'' where
  home_eq := h'.home_eq.trans h.home_eq
  dirs := fun l hl => h'.dirs l (h.dirs l hl)
  file_iff := fun l hl data => (h'.file_iff l hl data).trans (h.file_iff l hl data)

theorem SameFiles.mono {changed' : Location → Prop} (h : SameFiles changed d d') (hchanged : ∀ l, changed l → changed' l) :
    SameFiles changed' d d' :=
  { h with file_iff := fun l hl => h.file_iff l fun hc => hl (hchanged l hc) }

/-- Writing a file changes the location of its path. -/
theorem sameFiles_write {p : Path} {data : Bytes} {c : Char} (hend : p.toList.getLast? = some c) (hslash : c ≠ '/')
    (hchanged : changed (d.locate p)) (h : d.write p data = .ok d') : SameFiles changed d d' := by
  obtain ⟨-, loc, hresolve, hdir, rfl⟩ := write_eq_ok h
  rw [Path.dropEndSlashes_eq hend hslash] at hresolve
  obtain rfl := eq_locate_of_resolve hresolve
  refine ⟨keepsDirectories_put hdir _, fun l hl data' => ?_⟩
  rw [node?_put d (ne_nil_of_node? hdir), if_neg]
  rintro rfl
  exact hl hchanged

private theorem sameFiles_makeAlong {at' : Location} {parts : List String} (h : d.makeAlong at' parts = .ok d') :
    SameFiles changed d d' := by
  induction parts generalizing d at' with
  | nil =>
    cases h
    exact .refl _
  | cons part more ih =>
    rw [makeAlong] at h
    split at h
    · cases h
    dsimp only at h
    split at h
    · exact ih h
    · cases h
    · rename_i hnone
      have hdir : d.node? (step at' part) ≠ some .dir := by simp [hnone]
      have hput : SameFiles changed d (d.put (step at' part) .dir) := by
        refine ⟨keepsDirectories_put hdir _, fun l _ data => ?_⟩
        rw [node?_put d (ne_nil_of_node? hdir)]
        split_ifs with hl
        · simp [hl, hnone]
        · rfl
      exact hput.trans (ih h)

/-- Making a directory changes no file. -/
theorem sameFiles_makeDirectory {p : Path} (h : d.makeDirectory p = .ok d') : SameFiles changed d d' := by
  rw [makeDirectory] at h
  split at h
  · cases h
  · split_ifs at h
    · cases h
      exact .refl _
    all_goals exact sameFiles_makeAlong h

theorem SameFile.refl (p : Path) (d : Disk) : SameFile p d d := fun _ => Iff.rfl

theorem SameFile.trans {p : Path} (h : SameFile p d d') (h' : SameFile p d' d'') : SameFile p d d'' :=
  fun data => (h' data).trans (h data)

/-- A path whose directory is there leads to the same file for as long as its location is not changed. -/
theorem SameFiles.resolve_iff (h : SameFiles changed d d') {p : Path} {n : Option Node}
    (hp : d.resolve p = .ok (d.locate p, n)) (hchanged : ¬changed (d.locate p)) (data : Bytes) :
    d'.resolve p = .ok (d.locate p, some (.file data)) ↔ d.resolve p = .ok (d.locate p, some (.file data)) := by
  constructor
  · intro hfile
    rw [hp, ← node?_of_resolve hp, (h.file_iff _ hchanged data).mp (node?_of_resolve hfile)]
  · intro hfile
    exact resolve_of_keepsDirectories h.toKeepsDirectories hfile ((h.file_iff _ hchanged data).mpr (node?_of_resolve hfile))

theorem SameFiles.sameFile (h : SameFiles changed d d') {p : Path} {n : Option Node}
    (hp : d.resolve p = .ok (d.locate p, n)) (hchanged : ¬changed (d.locate p)) : SameFile p d d' := by
  intro data
  constructor
  · intro hread
    obtain ⟨loc, hfile⟩ := resolve_of_read hread
    obtain rfl : loc = d.locate p := (eq_locate_of_resolve hfile).trans (locate_congr h.home_eq p)
    exact read_of_resolve ((h.resolve_iff hp hchanged data).mp hfile)
  · intro hread
    obtain ⟨loc, hfile⟩ := resolve_of_read hread
    obtain rfl := eq_locate_of_resolve hfile
    exact read_of_resolve ((h.resolve_iff hp hchanged data).mpr hfile)

/-- The name of a location ends as a path that names it does. -/
theorem getLast?_locate (d : Disk) {p : Path} {c : Char} (hend : p.toList.getLast? = some c) (hslash : c ≠ '/')
    (hdot : c ≠ '.') : ∃ name, (d.locate p).getLast? = some name ∧ name.toList.getLast? = some c := by
  obtain ⟨part, hpart, hpartEnd⟩ := Path.getLast?_parts hend hslash
  obtain ⟨front, hparts⟩ := List.getLast?_eq_some_iff.mp hpart
  have hplain : part ≠ "" ∧ part ≠ "." ∧ part ≠ ".." := by
    refine ⟨?_, ?_, ?_⟩
    · rintro rfl
      cases hpartEnd
    all_goals
      rintro rfl
      exact hdot (Option.some.inj hpartEnd).symm
  refine ⟨part, ?_, hpartEnd⟩
  rw [locate, hparts, List.foldl_concat, step, if_neg (by simp [hplain]), if_neg hplain.2.2, List.getLast?_concat]

/-- Paths that end otherwise name other locations. -/
theorem locate_ne (d : Disk) {p q : Path} {c c' : Char} (hp : p.toList.getLast? = some c) (hslash : c ≠ '/')
    (hdot : c ≠ '.') (hq : q.toList.getLast? = some c') (hslash' : c' ≠ '/') (hdot' : c' ≠ '.') (hne : c ≠ c') :
    d.locate p ≠ d.locate q := by
  obtain ⟨name, hname, hend⟩ := d.getLast?_locate hp hslash hdot
  obtain ⟨name', hname', hend'⟩ := d.getLast?_locate hq hslash' hdot'
  intro heq
  rw [heq, hname', Option.some.injEq] at hname
  rw [hname, hend, Option.some.injEq] at hend'
  exact hne hend'

end

/-! ## Paths side by side -/

/-- Where one file of a directory is found the paths of others lead to their locations too, unless they are refused. -/
theorem resolve_sibling {d : Disk} {root below other : Path} {part part' : String} {front : List String} {loc : Location}
    {n : Option Node} (hbelow : below.isAbsolute = false) (hparts : below.parts = front ++ [part])
    (hother : other.isAbsolute = false) (hparts' : other.parts = front ++ [part'])
    (hlong : ¬longestName < part'.utf8ByteSize) (h : d.resolve (root.join below) = .ok (loc, n))
    (hrefusal : refusal? (root.join other) = none) (hempty : (root.join other).isEmpty = false) :
    d.resolve (root.join other) = .ok (d.locate (root.join other), d.node? (d.locate (root.join other))) := by
  obtain ⟨start, hstart⟩ := Path.exists_parts_join root
  obtain ⟨hsplit, habsolute⟩ := hstart below hbelow
  obtain ⟨hsplit', habsolute'⟩ := hstart other hother
  obtain ⟨-, -, hfollow⟩ := resolve_eq_ok h
  rw [hsplit, hparts, ← List.append_assoc, habsolute] at hfollow
  obtain ⟨dir, hdir, -⟩ := follow_concat_eq_ok.mp hfollow
  have hresolve : d.resolve (root.join other) = .ok (step dir part', d.node? (step dir part')) := by
    rw [resolve, hrefusal]
    dsimp only
    rw [hempty, if_neg Bool.false_ne_true, hsplit', hparts', ← List.append_assoc, habsolute']
    exact follow_concat_eq_ok.mpr ⟨dir, hdir, hlong, rfl, rfl⟩
  rw [← eq_locate_of_resolve hresolve]
  exact hresolve

end Disk
end SceneScript
