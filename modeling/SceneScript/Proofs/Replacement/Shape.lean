import SceneScript.Proofs.Replacement.Emptying
import SceneScript.Proofs.Replacement.Messages
/-!
# The shape of a merged dump

New texts are put into a dump as they are. Texts without line feeds keep the number of its lines and what each line has in
front of its strings; texts without `§` signs also keep the number of strings of each line.
-/
namespace SceneScript

namespace Replacement

/-- A character that is in no text of a set and not in an old text is not in what takes its place. -/
theorem notMem_of_newText? {set : ReplacementSet} {earlier : List Row} {row : Row} {k : Nat} {old t : Text} {c : Char}
    (hc : c ≠ '」') (htexts : ∀ t ∈ set.texts, c ∉ t) (hold : c ∉ old) (h : newText? set earlier row k old = some t) :
    c ∉ t := by
  rw [newText?_eq] at h
  obtain ⟨place, -, hput⟩ := Option.bind_eq_some_iff.mp h
  rcases exists_of_textAt? hput with ⟨u, hu, -, hpart⟩ | ⟨n, u, -, hu, hmerged⟩
  · exact fun hm => htexts u hu (hpart.subset hm)
  · have hmem : u ∈ set.texts := by
      obtain ⟨before, after, hlines, -⟩ := List.lookup_eq_some_iff.mp hu
      simp [ReplacementSet.texts, hlines]
    exact notMem_of_mergeMessage? hmerged hc hold (htexts u hmem)

/-- Whether merging a set puts a text in the place of string `k` of row `i`. -/
def Puts (set : ReplacementSet) (rows : List Row) (i k : Nat) (t : Text) : Prop :=
  ∃ row old, rows[i]? = some row ∧ row.strings[k]? = some old ∧ newText? set (rows.take i) row k old = some t

section Renewed

variable {set : ReplacementSet} {rows : List Row}

variable (set rows) in
theorem getElem?_renewedBehind (i : Nat) :
    (renewedBehind set [] rows)[i]? = rows[i]?.map fun row => row.renew (newText? set (rows.take i) row) :=
  List.getElem?_mapIdx

theorem exists_of_mem_renewedBehind {new : Row} (h : new ∈ renewedBehind set [] rows) :
    ∃ (i : Nat) (row : Row), rows[i]? = some row ∧ new = row.renew (newText? set (rows.take i) row) := by
  obtain ⟨i, hi⟩ := List.mem_iff_getElem?.mp h
  rw [getElem?_renewedBehind] at hi
  obtain ⟨row, hrow, rfl⟩ := Option.map_eq_some_iff.mp hi
  exact ⟨i, row, hrow, rfl⟩

/-- A string of a renewed row is the old one or what is put in its place. -/
theorem of_getElem?_renew {i k : Nat} {row : Row} {s : Text} (hrow : rows[i]? = some row)
    (hs : (row.renew (newText? set (rows.take i) row)).strings[k]? = some s) :
    row.strings[k]? = some s ∨ Puts set rows i k s := by
  rw [Row.getElem?_renew] at hs
  obtain ⟨old, hold, rfl⟩ := Option.map_eq_some_iff.mp hs
  cases hnew : newText? set (rows.take i) row k old with
  | none => exact .inl hold
  | some t => exact .inr ⟨row, old, hrow, hold, hnew⟩

/-- A character that is in no text of a set and in no string of the rows is in nothing that is put there. -/
theorem notMem_of_puts {c : Char} (hc : c ≠ '」') (htexts : ∀ t ∈ set.texts, c ∉ t)
    (hstrings : ∀ row ∈ rows, ∀ s ∈ row.strings, c ∉ s) {i k : Nat} {t : Text} (h : Puts set rows i k t) : c ∉ t := by
  obtain ⟨row, old, hrow, hold, hnew⟩ := h
  exact notMem_of_newText? hc htexts (hstrings row (List.mem_of_getElem? hrow) old (List.mem_of_getElem? hold)) hnew

/-- No string of the renewed rows has a line feed when no text that is put in them has one. -/
theorem feed_mem_renewedBehind (hfeed : ∀ row ∈ rows, ∀ s ∈ row.strings, '\n' ∉ s) :
    (∀ new ∈ renewedBehind set [] rows, ∀ s ∈ new.strings, '\n' ∉ s) ↔ ∀ i k t, Puts set rows i k t → '\n' ∉ t := by
  constructor
  · rintro hnone i k t ⟨row, old, hrow, hold, hnew⟩
    have hrenewed := getElem?_renewedBehind set rows i
    rw [hrow] at hrenewed
    refine hnone _ (List.mem_of_getElem? hrenewed) t (List.mem_of_getElem? (i := k) ?_)
    rw [Row.getElem?_renew, hold, Option.map_some, hnew, Option.getD_some]
  · intro hputs new hnew s hs
    obtain ⟨i, row, hrow, rfl⟩ := exists_of_mem_renewedBehind hnew
    obtain ⟨k, hk⟩ := List.mem_iff_getElem?.mp hs
    rcases of_getElem?_renew hrow hk with hold | hput
    · exact hfeed row (List.mem_of_getElem? hrow) s (List.mem_of_getElem? hold)
    · exact hputs i k s hput

theorem isName_renewedBehind (hnames : ∀ row ∈ rows, Row.isName row.name = true) :
    ∀ new ∈ renewedBehind set [] rows, Row.isName new.name = true := by
  intro new hnew
  obtain ⟨i, row, hrow, rfl⟩ := exists_of_mem_renewedBehind hnew
  exact hnames row (List.mem_of_getElem? hrow)

/-- Renewed rows have as many lines as before when no text that is put in them has a line feed. -/
theorem length_splitOn_renewedBehind (hne : rows ≠ []) (hnames : ∀ row ∈ rows, Row.isName row.name = true)
    (hfeed : ∀ row ∈ rows, ∀ s ∈ row.strings, '\n' ∉ s) :
    ((showRows (renewedBehind set [] rows)).splitOn '\n').length = rows.length ↔
      ∀ i k t, Puts set rows i k t → '\n' ∉ t := by
  have hlength : (renewedBehind set [] rows).length = rows.length := List.length_mapIdx
  have hne' : renewedBehind set [] rows ≠ [] := by
    rwa [← List.length_pos_iff, hlength, List.length_pos_iff]
  have hlines : ((renewedBehind set [] rows).map (Row.render (labelledOffsets (renewedBehind set [] rows)).contains)).length =
      rows.length := by rw [List.length_map, hlength]
  rw [showRows, ← hlines, Text.length_splitOn_joinLines (mt List.map_eq_nil_iff.mp hne'), ← feed_mem_renewedBehind hfeed,
    List.forall_mem_map]
  refine forall₂_congr fun new hnew => ?_
  rw [Row.feed_mem_render (isName_renewedBehind hnames new hnew)]
  push Not
  rfl

theorem splits_renew {i : Nat} {row : Row} (h : row.Splits) (hsign : ∀ s ∈ row.strings, '§' ∉ s) (hrow : rows[i]? = some row)
    (hputs : ∀ k t, Puts set rows i k t → k + 1 < row.strings.length → '§' ∉ t) :
    (row.renew (newText? set (rows.take i) row)).Splits := by
  refine ⟨h.isName, h.name_noAt, fun s hs => ?_⟩
  obtain ⟨k, hk⟩ := List.mem_iff_getElem?.mp hs
  rw [List.getElem?_dropLast] at hk
  split_ifs at hk with hlt
  rcases of_getElem?_renew hrow hk with hold | hput
  · exact hsign s (List.mem_of_getElem? hold)
  · rw [Row.renew, List.length_mapIdx] at hlt
    exact hputs k s hput (by omega)

/-- The line of a renewed row has the front that it had, and the number of strings that it had if no text with a `§` is put
in front of another string. -/
theorem shape_render_renew {i : Nat} {row : Row} (h : row.Mergeable) (hsign : ∀ s ∈ row.strings, '§' ∉ s)
    (hrow : rows[i]? = some row) (labelled : Nat → Bool) :
    let line := row.render labelled
    let line' := (row.renew (newText? set (rows.take i) row)).render labelled
    (splitStrings line').1 = (splitStrings line).1 ∧
      ((∀ k t, Puts set rows i k t → k + 1 < (splitStrings line).2.length → '§' ∉ t) →
        (splitStrings line').2.length = (splitStrings line).2.length) := by
  let new := row.renew (newText? set (rows.take i) row)
  have hname : Row.isName new.name = true := h.isName
  have hat : '@' ∉ new.name := h.name_noAt
  have hfront : (splitStrings (new.render labelled)).1 = row.frame labelled :=
    congrArg Prod.fst (splitStrings_render_eq hname hat labelled)
  dsimp only
  rw [splitStrings_render h.toSplits]
  refine ⟨hfront, fun hputs => ?_⟩
  rw [splitStrings_render (splits_renew h.toSplits hsign hrow hputs)]
  exact List.length_mapIdx

end Renewed

/-- What is put in the place of the strings of a dump of a script that has no line feeds and no `§` in its strings decides
what becomes of its shape. As many lines as before come out when no text that is put has a line feed; each then has the part
before its first string that it had, and as many strings as it had if no text with a `§` is put in front of another string. -/
theorem shape_of_merge {name : String} {bytes : Bytes} {preferred : Charset} {dump : Disassembly} {rows : List Row}
    {set : ReplacementSet} {entry : String} {merged : Text} (hdump : (disassemble name bytes preferred).1 = .ok dump)
    (hrows : Reading.rows ⟨name, bytes, dump.charset⟩ = .ok rows)
    (hstrings : ∀ row ∈ rows, ∀ s ∈ row.strings, '\n' ∉ s ∧ '§' ∉ s) (hpatches : set.patches = [])
    (hmerge : (merge entry dump.text set).1 = .ok (some merged)) :
    let lines := dump.text.splitOn '\n'
    let lines' := merged.splitOn '\n'
    (lines'.length = lines.length ↔ ∀ i k t, Puts set rows i k t → '\n' ∉ t) ∧
      (lines'.length = lines.length → ∀ i line line', lines[i]? = some line → lines'[i]? = some line' →
        (splitStrings line').1 = (splitStrings line).1 ∧
        ((∀ k t, Puts set rows i k t → k + 1 < (splitStrings line).2.length → '§' ∉ t) →
          (splitStrings line').2.length = (splitStrings line).2.length)) := by
  have hsign : ∀ row ∈ rows, ∀ s ∈ row.strings, '§' ∉ s := fun row hrow s hs => (hstrings row hrow s hs).2
  have hfeed : ∀ row ∈ rows, ∀ s ∈ row.strings, '\n' ∉ s := fun row hrow s hs => (hstrings row hrow s hs).1
  obtain ⟨htext, hne, hmergeable⟩ := mergeable_of_disassemble hdump hrows hsign
  have hnames : ∀ row ∈ rows, Row.isName row.name = true := fun row hrow => (hmergeable row hrow).isName
  obtain rfl : merged = showRows (renewedBehind set [] rows) := by
    classical
    rw [htext, merge_showRows hne hmergeable hfeed hpatches] at hmerge
    dsimp only at hmerge
    split_ifs at hmerge
    · exact (Option.some.inj (Except.ok.inj hmerge)).symm
    · cases Except.ok.inj hmerge
  have hlines := splitOn_showRows hne hnames hfeed
  rw [← htext] at hlines
  dsimp only
  rw [hlines, List.length_map, length_splitOn_renewedBehind hne hnames hfeed]
  refine ⟨Iff.rfl, fun hputs i line line' hline hline' => ?_⟩
  have hne' : renewedBehind set [] rows ≠ [] := mt List.mapIdx_eq_nil_iff.mp hne
  rw [splitOn_showRows hne' (isName_renewedBehind hnames) ((feed_mem_renewedBehind hfeed).mpr hputs),
    labelledOffsets_renewedBehind, List.getElem?_map, getElem?_renewedBehind] at hline'
  rw [List.getElem?_map] at hline
  obtain ⟨row, hrow, rfl⟩ := Option.map_eq_some_iff.mp hline
  rw [hrow] at hline'
  obtain rfl := Option.some.inj hline'
  have hmem := List.mem_of_getElem? hrow
  exact shape_render_renew (hmergeable row hmem) (hsign row hmem) hrow _

/-- A message is replaced by a text with at signs, brackets and a `§`. -/
theorem shape_of_merge_message :
    let bytes : Bytes := [1, 0x18, 8, 0, 0, 0, 0, 11, 0, 0x0D, 2, 0x41, 0]
    let set : ReplacementSet := { ReplacementSet.empty with lines := [(1, "@「§Yes」%R".toList)] }
    let message : Text → Text := fun text =>
      "header.1\nmessage.8 00-00-00-00-S @".toList ++ text ++ "\nret2.2\ntrailer.0".toList
    let dump := message "A".toList
    let merged := message "@「§Yes」".toList
    (disassemble "SC01" bytes .big5).1 = .ok ⟨dump, .big5⟩ ∧ set.patches = [] ∧
      (merge "SC01" dump set).1 = .ok (some merged) ∧ (merged.splitOn '\n').length = (dump.splitOn '\n').length ∧
      ∀ (i : Nat) (line line' : Text), (dump.splitOn '\n')[i]? = some line → (merged.splitOn '\n')[i]? = some line' →
        (splitStrings line').1 = (splitStrings line).1 ∧ (splitStrings line').2.length = (splitStrings line).2.length := by
  intro bytes set message dump merged
  have hdump : (disassemble "SC01" bytes .big5).1 = .ok ⟨dump, .big5⟩ := by decide +kernel
  let rows : List Row := [Row.raw "header".toList 1 [],
    ⟨some 1, "message".toList, 8, [.byte 0, .byte 0, .byte 0, .byte 0, .pointer 11], ["A".toList]⟩,
    ⟨some 9, "ret2".toList, 2, [], []⟩, Row.raw "trailer".toList 0 []]
  have hrows : Reading.rows ⟨"SC01", bytes, .big5⟩ = .ok rows := by decide +kernel
  have hstrings : ∀ row ∈ rows, ∀ s ∈ row.strings, '\n' ∉ s ∧ '§' ∉ s := by decide +kernel
  have hmerge : (merge "SC01" dump set).1 = .ok (some merged) := by decide +kernel
  have hfeed : ∀ i k t, Puts set rows i k t → '\n' ∉ t := fun i k t =>
    notMem_of_puts (by decide) (by decide +kernel) fun row hrow s hs => (hstrings row hrow s hs).1
  have hsingle : ∀ line ∈ dump.splitOn '\n', (splitStrings line).2.length ≤ 1 := by decide +kernel
  obtain ⟨hlength, hshape⟩ := shape_of_merge hdump hrows hstrings rfl hmerge
  refine ⟨hdump, rfl, hmerge, hlength.mpr hfeed, fun i line line' hline hline' => ?_⟩
  obtain ⟨hfront, hcount⟩ := hshape (hlength.mpr hfeed) i line line' hline hline'
  refine ⟨hfront, hcount fun k t _ hlt => ?_⟩
  have hle := hsingle line (List.mem_of_getElem? hline)
  omega

/-- A line feed in the new text of a message ends its line and brings another instruction into the dump, and `§` signs in an
option that another follows bring another string into the choice. -/
theorem merge_changes_shape :
    let bytes : Bytes := [1, 0x18, 8, 0, 0, 0, 0, 35, 0, 0x1B, 24, 0, 0, 0, 0, 0, 0, 37, 0, 0, 0, 0, 0, 0, 0, 39, 0,
      0, 0, 0, 0, 0, 0, 0x0D, 2, 0x41, 0, 0x42, 0, 0x43, 0]
    let message : Text → Text := fun text => "header.1\nmessage.8 00-00-00-00-S @".toList ++ text ++ ['\n']
    let choice : Text → Text := fun texts =>
      "select.24 00-00-00-00-00-00-S-00-00-00-00-00-00-S-00-00-00-00-00-00 §".toList ++ texts ++ "\nret2.2\ntrailer.0".toList
    let dump : Text := message "A".toList ++ choice "B§ @C".toList
    (disassemble "SC01" bytes .big5).1 = .ok ⟨dump, .big5⟩ ∧
      merge "SC01" dump { ReplacementSet.empty with lines := [(1, "Hi\nkey_wait.2".toList)] } =
        (.ok (some (message "Hi\nkey_wait.2".toList ++ choice "B§ @C".toList)), []) ∧
      merge "SC01" dump { ReplacementSet.empty with choices := [["Yes§ §No".toList, "C".toList]] } =
        (.ok (some (message "A".toList ++ choice "Yes§ §No§ @C".toList)), []) := by
  decide +kernel

end Replacement
end SceneScript
