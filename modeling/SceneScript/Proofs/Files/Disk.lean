import Mathlib
import SceneScript.Files.Disk
/-!
# Where paths lead

A path leads to the same location for as long as the directories on the way stay. A file that is written is found again
by the path it was written to, and files elsewhere are as before.
-/
namespace SceneScript

namespace Path

theorem getLast?_join (base : Path) {below : Path} (h : below ≠ "") :
    (base.join below).toList.getLast? = below.toList.getLast? := by
  have hne : below.toList ≠ [] := fun hnil => h (String.toList_eq_nil_iff.mp hnil)
  rw [join]
  split_ifs
  · rfl
  · rw [String.toList_append, List.getLast?_append_of_ne_nil _ hne]
  · rw [String.toList_append, List.getLast?_append_of_ne_nil _ hne]

private theorem getLast?_intercalate {sep c : Char} (hsep : c ≠ sep) {parts : List Text}
    (h : ([sep].intercalate parts).getLast? = some c) :
    ∃ last, parts.getLast? = some last ∧ last.getLast? = some c := by
  induction parts with
  | nil => cases h
  | cons part more ih =>
    cases more with
    | nil =>
      rw [List.intercalate_singleton] at h
      exact ⟨part, rfl, h⟩
    | cons other more =>
      rw [List.intercalate_cons_cons] at h
      by_cases hnil : [sep].intercalate (other :: more) = []
      · rw [hnil, List.append_nil, List.getLast?_append_of_ne_nil _ (List.cons_ne_nil _ _)] at h
        exact absurd (Option.some.inj h).symm hsep
      · rw [List.getLast?_append_of_ne_nil _ hnil] at h
        rw [List.getLast?_cons_cons]
        exact ih h

/-- The last part of a path ends as the path does. -/
theorem getLast?_parts {p : Path} {c : Char} (h : p.toList.getLast? = some c) (hc : c ≠ '/') :
    ∃ part, p.parts.getLast? = some part ∧ part.toList.getLast? = some c := by
  rw [← (List.intercalate_splitOn '/' : ['/'].intercalate (p.toList.splitOn '/') = _)] at h
  obtain ⟨last, hlast, hend⟩ := getLast?_intercalate hc h
  refine ⟨String.ofList last, ?_, ?_⟩
  · rw [parts, List.getLast?_map, hlast, Option.map_some]
  · rwa [String.toList_ofList]

theorem endsWithSlash_eq_false {p : Path} {c : Char} (h : p.toList.getLast? = some c) (hc : c ≠ '/') :
    p.endsWithSlash = false := by
  rw [endsWithSlash, h]
  simpa using hc

theorem dropEndSlashes_eq {p : Path} {c : Char} (h : p.toList.getLast? = some c) (hc : c ≠ '/') :
    p.dropEndSlashes = p := by
  have hdrop : Text.dropEndWhile (· == '/') p.toList = p.toList := by
    rw [List.getLast?_eq_head?_reverse] at h
    obtain ⟨rest, hrest⟩ := List.head?_eq_some_iff.mp h
    rw [Text.dropEndWhile, hrest, List.dropWhile_cons_of_neg (by simpa using hc), ← hrest, List.reverse_reverse]
  rw [dropEndSlashes, hdrop]
  split
  · rfl
  · exact String.ofList_toList

end Path

namespace Disk

/-! ## Nodes -/

theorem node?_put (d : Disk) {at' : Location} (h : at' ≠ []) (node : Node) (l : Location) :
    (d.put at' node).node? l = if l = at' then some node else d.node? l := by
  rw [node?, node?]
  by_cases hl : l = at'
  · subst hl
    rw [if_neg h, if_pos rfl, put, List.lookup_cons_self]
  · rw [if_neg hl]
    split_ifs with hnil
    · rfl
    · have hne : (l == at') = false := beq_eq_false_iff_ne.mpr hl
      rw [put, List.lookup_cons, hne]
      dsimp only
      induction d.nodes with
      | nil => rfl
      | cons entry nodes ih =>
        obtain ⟨other, n⟩ := entry
        rw [List.filter_cons, List.lookup_cons]
        split_ifs with hkeep
        · rw [List.lookup_cons, ih]
        · have hother : other = at' := by simpa using hkeep
          rw [hother, hne]
          exact ih

theorem ne_nil_of_node? {d : Disk} {at' : Location} (h : d.node? at' ≠ some .dir) : at' ≠ [] := by
  rintro rfl
  exact h rfl

/-- Whether every directory of a disk is still one on another. -/
structure KeepsDirectories (d d' : Disk) : Prop where
  home_eq : d'.home = d.home
  dirs : ∀ l, d.node? l = some .dir → d'.node? l = some .dir

/-- Nothing is put in place of a directory. -/
theorem keepsDirectories_put {d : Disk} {at' : Location} (h : d.node? at' ≠ some .dir) (node : Node) :
    d.KeepsDirectories (d.put at' node) where
  home_eq := rfl
  dirs := by
    intro l hl
    rw [node?_put d (ne_nil_of_node? h), if_neg, hl]
    rintro rfl
    exact h hl

/-! ## Following a path -/

section

variable {d d' : Disk} {start loc : Location} {parts : List String} {n : Option Node}

theorem follow_cons_eq_ok {part : String} {more : List String} (h : d.follow start (part :: more) = .ok (loc, n)) :
    d.node? start = some .dir ∧ ¬longestName < part.utf8ByteSize ∧
      ((d.node? (step start part) = none ∧ more = [] ∧ step start part = loc ∧ n = none) ∨
        (d.node? (step start part)).isSome ∧ d.follow (step start part) more = .ok (loc, n)) := by
  rw [follow] at h
  split at h
  · rename_i hdir
    dsimp only at h
    split_ifs at h with hlong hnone hnil
    · obtain ⟨hloc, hn⟩ := Prod.mk.inj (Except.ok.inj h)
      exact ⟨hdir, hlong, Or.inl ⟨Option.isNone_iff_eq_none.mp hnone, List.isEmpty_iff.mp hnil, hloc, hn.symm⟩⟩
    · exact ⟨hdir, hlong, Or.inr ⟨by simpa [← Option.isSome_iff_ne_none] using hnone, h⟩⟩
  · cases h
  · cases h

theorem follow_cons {part : String} (hdir : d.node? start = some .dir) (hlong : ¬longestName < part.utf8ByteSize)
    (hnext : (d.node? (step start part)).isSome) (more : List String) :
    d.follow start (part :: more) = d.follow (step start part) more := by
  rw [follow, hdir]
  dsimp only
  rw [if_neg hlong, if_neg (by simp [Option.isSome_iff_ne_none.mp hnext])]

theorem node?_of_follow (h : d.follow start parts = .ok (loc, n)) : d.node? loc = n := by
  induction parts generalizing start with
  | nil =>
    obtain ⟨rfl, hn⟩ := Prod.mk.inj (Except.ok.inj h)
    exact hn
  | cons part more ih =>
    obtain ⟨-, -, ⟨hnone, -, rfl, rfl⟩ | ⟨-, h⟩⟩ := follow_cons_eq_ok h
    · exact hnone
    · exact ih h

/-- A path leads to the same location when the directories on the way are the same. -/
theorem follow_of_keepsDirectories (hkeeps : d.KeepsDirectories d') (h : d.follow start parts = .ok (loc, n))
    {node : Node} (hnode : d'.node? loc = some node) : d'.follow start parts = .ok (loc, some node) := by
  induction parts generalizing start with
  | nil =>
    obtain ⟨rfl, -⟩ := Prod.mk.inj (Except.ok.inj h)
    rw [follow, hnode]
  | cons part more ih =>
    obtain ⟨hdir, hlong, ⟨-, rfl, rfl, -⟩ | ⟨hnext, h⟩⟩ := follow_cons_eq_ok h
    · rw [follow_cons (hkeeps.dirs _ hdir) hlong (by rw [hnode]; rfl), follow, hnode]
    · have hnext' : (d'.node? (step start part)).isSome := by
        obtain ⟨next, hnext⟩ := Option.isSome_iff_exists.mp hnext
        cases next with
        | dir =>
          rw [hkeeps.dirs _ hnext]
          rfl
        | file data =>
          -- Only the end of the path may be a file.
          cases more with
          | nil =>
            obtain ⟨rfl, -⟩ := Prod.mk.inj (Except.ok.inj h)
            rw [hnode]
            rfl
          | cons other more =>
            obtain ⟨hdir', -⟩ := follow_cons_eq_ok h
            rw [hnext] at hdir'
            cases hdir'
      rw [follow_cons (hkeeps.dirs _ hdir) hlong hnext']
      exact ih h

/-- A path ends at the location that its last part names. -/
theorem getLast?_of_follow {part : String} (h : d.follow start parts = .ok (loc, n)) (hlast : parts.getLast? = some part)
    (hempty : part ≠ "") (hhere : part ≠ ".") (hup : part ≠ "..") : loc.getLast? = some part := by
  have hstep : ∀ l, (step l part).getLast? = some part := by
    intro l
    rw [step, if_neg (by simp [hempty, hhere]), if_neg hup, List.getLast?_concat]
  induction parts generalizing start with
  | nil => cases hlast
  | cons first more ih =>
    obtain ⟨-, -, ⟨-, rfl, rfl, -⟩ | ⟨-, h⟩⟩ := follow_cons_eq_ok h
    · rw [List.getLast?_singleton, Option.some.injEq] at hlast
      rw [hlast]
      exact hstep start
    · cases more with
      | nil =>
        rw [List.getLast?_singleton, Option.some.injEq] at hlast
        obtain ⟨rfl, -⟩ := Prod.mk.inj (Except.ok.inj h)
        rw [hlast]
        exact hstep start
      | cons other more =>
        rw [List.getLast?_cons_cons] at hlast
        exact ih h hlast

end

/-! ## Files by their paths -/

section

variable {d d' : Disk} {p : Path} {loc : Location} {n : Option Node}

theorem resolve_eq_ok (h : d.resolve p = .ok (loc, n)) :
    refusal? p = none ∧ p.isEmpty = false ∧ d.follow (if p.isAbsolute then [] else d.home) p.parts = .ok (loc, n) := by
  rw [resolve] at h
  split at h
  · cases h
  · rename_i hrefusal
    split at h
    · cases h
    · rename_i hempty
      exact ⟨hrefusal, Bool.eq_false_iff.mpr hempty, h⟩

theorem node?_of_resolve (h : d.resolve p = .ok (loc, n)) : d.node? loc = n := node?_of_follow (resolve_eq_ok h).2.2

theorem resolve_of_keepsDirectories (hkeeps : d.KeepsDirectories d') (h : d.resolve p = .ok (loc, n)) {node : Node}
    (hnode : d'.node? loc = some node) : d'.resolve p = .ok (loc, some node) := by
  obtain ⟨hrefusal, hempty, hfollow⟩ := resolve_eq_ok h
  rw [resolve, hrefusal]
  dsimp only
  rw [hempty, hkeeps.home_eq]
  exact follow_of_keepsDirectories hkeeps hfollow hnode

/-- The name of a location ends as a path to it does. -/
theorem getLast?_of_resolve {c : Char} (h : d.resolve p = .ok (loc, n)) (hend : p.toList.getLast? = some c)
    (hslash : c ≠ '/') (hdot : c ≠ '.') : ∃ name, loc.getLast? = some name ∧ name.toList.getLast? = some c := by
  obtain ⟨part, hpart, hpartEnd⟩ := Path.getLast?_parts hend hslash
  refine ⟨part, getLast?_of_follow (resolve_eq_ok h).2.2 hpart ?_ ?_ ?_, hpartEnd⟩
  · rintro rfl
    cases hpartEnd
  · rintro rfl
    exact hdot (Option.some.inj hpartEnd).symm
  · rintro rfl
    exact hdot (Option.some.inj hpartEnd).symm

/-- What writing a file comes to. -/
theorem write_eq_ok {data : Bytes} (h : d.write p data = .ok d') :
    p.endsWithSlash = false ∧ ∃ loc, d.resolve p.dropEndSlashes = .ok (loc, d.node? loc) ∧ d.node? loc ≠ some .dir ∧
      d' = d.put loc (.file data) := by
  rw [write] at h
  split at h
  · cases h
  · cases h
  · cases h
  · rename_i loc n hdir _ hresolve
    have hnode := node?_of_resolve hresolve
    split_ifs at h with hslash
    refine ⟨Bool.eq_false_iff.mpr hslash, loc, ?_, ?_, (Except.ok.inj h).symm⟩
    · rw [hnode]
      exact hresolve
    · rw [hnode]
      exact hdir

/-- A file that was written is found. -/
theorem resolve_write {data : Bytes} {c : Char} (hend : p.toList.getLast? = some c) (hslash : c ≠ '/')
    (h : d.write p data = .ok d') :
    ∃ loc, d.resolve p = .ok (loc, d.node? loc) ∧ d'.resolve p = .ok (loc, some (.file data)) := by
  obtain ⟨-, loc, hresolve, hdir, rfl⟩ := write_eq_ok h
  rw [Path.dropEndSlashes_eq hend hslash] at hresolve
  refine ⟨loc, hresolve, resolve_of_keepsDirectories (keepsDirectories_put hdir _) hresolve ?_⟩
  rw [node?_put d (ne_nil_of_node? hdir), if_pos rfl]

/-- A file may be written where there is one. -/
theorem write_of_resolve {data data' : Bytes} {c : Char} (hend : p.toList.getLast? = some c) (hslash : c ≠ '/')
    (h : d.resolve p = .ok (loc, some (.file data))) : d.write p data' = .ok (d.put loc (.file data')) := by
  rw [write, (resolve_eq_ok h).1, Path.dropEndSlashes_eq hend hslash, h, Path.endsWithSlash_eq_false hend hslash]
  rfl

/-- Writing a file leaves a file of another ending as it was. -/
theorem resolve_write_of_ne {data data' : Bytes} {q : Path} {c c' : Char} (hq : q.toList.getLast? = some c)
    (hslash : c ≠ '/') (hdot : c ≠ '.') (hp : p.toList.getLast? = some c') (hslash' : c' ≠ '/') (hdot' : c' ≠ '.')
    (hne : c ≠ c') (h : d.write p data = .ok d') (hfile : d.resolve q = .ok (loc, some (.file data'))) :
    d'.resolve q = .ok (loc, some (.file data')) := by
  obtain ⟨-, loc', hresolve, hdir, rfl⟩ := write_eq_ok h
  rw [Path.dropEndSlashes_eq hp hslash'] at hresolve
  obtain ⟨name, hname, hnameEnd⟩ := getLast?_of_resolve hfile hq hslash hdot
  obtain ⟨name', hname', hnameEnd'⟩ := getLast?_of_resolve hresolve hp hslash' hdot'
  refine resolve_of_keepsDirectories (keepsDirectories_put hdir _) hfile ?_
  rw [node?_put d (ne_nil_of_node? hdir), if_neg, node?_of_resolve hfile]
  rintro rfl
  obtain rfl := Option.some.inj (hname.symm.trans hname')
  exact hne (Option.some.inj (hnameEnd.symm.trans hnameEnd'))

theorem copy_eq_ok {q : Path} (h : d.copy q p = .ok d') :
    ∃ loc data, d.resolve q = .ok (loc, some (.file data)) ∧ d.write p data = .ok d' := by
  rw [copy] at h
  split at h
  · cases h
  · cases h
  · cases h
  · rename_i loc data hresolve
    exact ⟨loc, data, hresolve, h⟩

theorem contains_of_resolve {node : Node} (h : d.resolve p = .ok (loc, some node)) : d.contains p = true := by
  rw [contains, h]

/-- Making directories leaves every node as it was. -/
theorem makeAlong_ok {at' : Location} {parts : List String} (h : d.makeAlong at' parts = .ok d') :
    d'.home = d.home ∧ ∀ l node, d.node? l = some node → d'.node? l = some node := by
  induction parts generalizing d at' with
  | nil =>
    cases h
    exact ⟨rfl, fun _ _ h => h⟩
  | cons part more ih =>
    rw [makeAlong] at h
    split at h
    · cases h
    dsimp only at h
    split at h
    · exact ih h
    · cases h
    · rename_i hnone
      obtain ⟨hhome, hnodes⟩ := ih h
      refine ⟨hhome, fun l node hl => hnodes l node ?_⟩
      have hdir : d.node? (step at' part) ≠ some .dir := by simp [hnone]
      rw [node?_put d (ne_nil_of_node? hdir), if_neg, hl]
      rintro rfl
      rw [hnone] at hl
      cases hl

theorem resolve_makeDirectory {q : Path} {node : Node} (h : d.makeDirectory p = .ok d')
    (hq : d.resolve q = .ok (loc, some node)) : d'.resolve q = .ok (loc, some node) := by
  rw [makeDirectory] at h
  split at h
  · cases h
  · split_ifs at h
    · cases h
      exact hq
    all_goals
      obtain ⟨hhome, hnodes⟩ := makeAlong_ok h
      exact resolve_of_keepsDirectories ⟨hhome, fun l => hnodes l _⟩ hq (hnodes _ _ (node?_of_resolve hq))

theorem read_of_resolve {data : Bytes} (h : d.resolve p = .ok (loc, some (.file data))) : d.read p = .ok data := by
  rw [read, h]

theorem resolve_of_read {data : Bytes} (h : d.read p = .ok data) : ∃ loc, d.resolve p = .ok (loc, some (.file data)) := by
  rw [read] at h
  split at h
  · cases h
  · cases h
  · cases h
  · rename_i loc data' hresolve
    obtain rfl := Except.ok.inj h
    exact ⟨loc, hresolve⟩

/-- A file that is copied to another ending is there twice. -/
theorem read_copy {q : Path} {c c' : Char} (hq : q.toList.getLast? = some c) (hslash : c ≠ '/') (hdot : c ≠ '.')
    (hp : p.toList.getLast? = some c') (hslash' : c' ≠ '/') (hdot' : c' ≠ '.') (hne : c ≠ c')
    (h : d.copy q p = .ok d') : d'.read q = d.read q ∧ d'.read p = d.read q := by
  obtain ⟨loc, data, hfile, hwrite⟩ := copy_eq_ok h
  have hkept := resolve_write_of_ne hq hslash hdot hp hslash' hdot' hne hwrite hfile
  obtain ⟨loc', -, hcopied⟩ := resolve_write hp hslash' hwrite
  rw [read_of_resolve hfile, read_of_resolve hkept, read_of_resolve hcopied]
  exact ⟨rfl, rfl⟩

theorem readPart_of_resolve {data : Bytes} (h : d.resolve p = .ok (loc, some (.file data))) (offset size : Nat) :
    d.readPart p offset size =
      .ok (if ((data.drop offset).take size).length = size then some ((data.drop offset).take size) else none) := by
  rw [readPart, h]

theorem length_of_readPart {offset size : Nat} {part : Bytes} (h : d.readPart p offset size = .ok (some part)) :
    part.length = size := by
  rw [readPart] at h
  split at h
  · cases h
  · cases h
  · split_ifs at h with hsize
    obtain rfl := Option.some.inj (Except.ok.inj h)
    exact hsize.symm
  · have hpart := Except.ok.inj h
    split_ifs at hpart with hlength
    exact Option.some.inj hpart ▸ hlength

end

end Disk
end SceneScript
