import SceneScript.Proofs.Replacement.Traces
/-!
# Merging again

Merging a set into what it was merged into changes nothing, provided that its texts keep to their lines, its messages settle,
its patches know their slots again, and what the patches move or bring in does not take texts from other lines.
-/
namespace SceneScript

/-! ## The last trailer -/

/-- The lines of a dump in front of its last trailer. -/
def linesBeforeTrailer (lines : List Text) : List Text := (lines.reverse.dropWhile fun t => !isTrailer t).tail.reverse

theorem exists_lastTrailer {lines : List Text} (h : linesBeforeTrailer lines ≠ []) :
    ∃ trailer rest, lines = linesBeforeTrailer lines ++ trailer :: rest ∧ isTrailer trailer = true ∧
      ∀ t ∈ rest, isTrailer t = false := by
  have hparts := List.takeWhile_append_dropWhile (p := fun t => !isTrailer t) (l := lines.reverse)
  rw [linesBeforeTrailer] at h ⊢
  cases hdrop : lines.reverse.dropWhile (fun t => !isTrailer t) with
  | nil => simp [hdrop] at h
  | cons trailer before =>
    have hhead := List.head?_dropWhile_not (fun t => !isTrailer t) lines.reverse
    rw [hdrop] at hhead hparts
    refine ⟨trailer, (lines.reverse.takeWhile fun t => !isTrailer t).reverse, ?_, by simpa using hhead, fun t ht => ?_⟩
    · simpa using (congrArg List.reverse hparts).symm
    · simpa using List.mem_takeWhile_imp (List.mem_reverse.mp ht)

theorem lineName?_of_isTrailer {line : Text} (h : isTrailer line = true) : lineName? line = some "trailer".toList := by
  obtain ⟨more, hmore⟩ := List.isPrefixOf_iff_prefix.mp h
  have hbody : afterLabels line = "trailer".toList ++ '.' :: more := hmore.symm
  rw [← lineName?_afterLabels, hbody]
  exact lineName?_name (by decide) more

namespace Replacement

section Merged

variable {set : ReplacementSet} {lines : List Text}

/-! ## Merged lines -/

/-- The lines of a dump with the texts that a set has for them. -/
def mergedLines (set : ReplacementSet) (lines : List Text) : List Text :=
  lines.mapIdx fun i line => (renewLine? (textsFor? set lines i line) line).getD line

theorem getElem?_mergedLines (set : ReplacementSet) (lines : List Text) (i : Nat) : (mergedLines set lines)[i]? =
    lines[i]?.map fun line => (renewLine? (textsFor? set lines i line) line).getD line := List.getElem?_mapIdx

/-- Merging a set applies its patches to the merged lines, unless it has none and changes no line. -/
theorem fst_merge (entry : String) (dump : Text) (set : ReplacementSet) :
    (merge entry dump set).1 = .ok none ∧ set.patches = [] ∨
      (merge entry dump set).1 =
        (applyPatches entry (Text.joinLines (mergedLines set (dump.splitOn '\n'))) set.patches).1.map some := by
  let lines := dump.splitOn '\n'
  let changed := (lines.mapIdx fun i line => renewLine? (textsFor? set lines i line) line).any Option.isSome
  have hrun : mergeLines set.lines (Cursor.ofSet set) [] false lines = (mergedLines set lines, changed) :=
    mergeLines_behind set [] [] false lines
  rw [merge, hrun]
  dsimp only
  split_ifs with hnone
  · rw [Bool.and_eq_true, List.isEmpty_iff] at hnone
    exact .inl ⟨rfl, hnone.2⟩
  · exact .inr rfl

theorem renewLine?_of_not_counts {line : Text} (h : set.counts (rowOfLine line) = false) (earlier : List Row) :
    renewLine? (newText? set earlier (rowOfLine line)) line = none :=
  renewLine?_eq_none (newText?_of_not_counts h earlier)

theorem getElem?_mergedLines_of_not_counts {i : Nat} {line : Text} (hline : lines[i]? = some line)
    (hcounts : set.counts (rowOfLine line) = false) : (mergedLines set lines)[i]? = some line := by
  rw [getElem?_mergedLines, hline, Option.map_some, textsFor?, renewLine?_of_not_counts hcounts, Option.getD_none]

theorem lineName?_eq_of_counts {line : Text} (h : set.counts (rowOfLine line) = true) :
    lineName? line = some (rowOfLine line).name := by
  rw [rowOfLine]
  cases hname : lineName? line with
  | some name => rfl
  | none =>
    rw [rowOfLine, hname, ReplacementSet.counts] at h
    simp at h

theorem counts_trailer {line : Text} (h : isTrailer line = true) (set : ReplacementSet) : set.counts (rowOfLine line) = false := by
  refine set.counts_eq_false ?_
  rw [name_rowOfLine (lineName?_of_isTrailer h)]
  decide

/-! ## Sets that can be merged again -/

/-- The lines of a dump of a script have their names in front of their strings. -/
theorem lineName?_splitStrings_of_disassemble {name : String} {bytes : Bytes} {preferred : Charset} {dump : Disassembly}
    {rows : List Row} (hdump : (disassemble name bytes preferred).1 = .ok dump)
    (hrows : Reading.rows ⟨name, bytes, dump.charset⟩ = .ok rows) (hfeed : ∀ row ∈ rows, ∀ s ∈ row.strings, '\n' ∉ s) :
    ∀ line ∈ dump.text.splitOn '\n', lineName? (splitStrings line).1 = lineName? line := by
  obtain ⟨rows', hrows', htext⟩ := rows_of_disassemble hdump
  obtain rfl : rows = rows' := Except.ok.inj (hrows.symm.trans hrows')
  have hne : rows ≠ [] := by
    obtain ⟨row, w, -, rfl⟩ := Reading.rows_eq_ok.mp hrows
    exact List.cons_ne_nil _ _
  have hnames := Reading.names_of_rows hrows
  rw [htext, splitOn_showRows hne (fun row hrow => (hnames row hrow).1) hfeed, List.forall_mem_map]
  intro row hrow
  obtain ⟨hname, hat, -⟩ := hnames row hrow
  let bare : Row := { row with strings := [] }
  have hframe : bare.render (labelledOffsets rows).contains = row.frame (labelledOffsets rows).contains :=
    (Row.render_eq _ bare).trans (List.append_nil _)
  have hbare : Row.isName bare.name = true := hname
  rw [splitStrings_render_eq hname hat, Row.lineName?_render hname, ← hframe]
  exact Row.lineName?_render hbare _

/-- The text of a message on a line. -/
def messageOn? (line : Text) : Option Text :=
  if lineName? line = some "message".toList then (Text.cutAt '@' line).map Prod.snd else none

/-- Whether a set leaves a dump as it is when it is merged into what it was merged into. -/
structure Repeatable (set : ReplacementSet) (lines : List Text) : Prop where
  texts_noFeed : ∀ t ∈ set.texts, '\n' ∉ t
  /-- The strings that others may follow do not end early. -/
  inner_noSign : ∀ t ∈ set.routes ++ set.choices.flatten, '§' ∉ t
  /-- New strings do not change the name of a line. -/
  names_first : ∀ line ∈ lines, set.counts (rowOfLine line) = true → lineName? (splitStrings line).1 = lineName? line
  messages_settle : ∀ i < lines.length, ∀ old ∈ lines[i]?.bind messageOn?,
    ∀ t ∈ set.lines.lookup (countNamed "message" ((lines.take i).map rowOfLine) + 1), Settles old t
  patches_front : ∀ p ∈ set.patches, p.line ≠ 0 ∧ p.line ≤ (linesBeforeTrailer lines).length
  patches_know : ∀ p ∈ set.patches, p.KnowsSlot lines
  /-- Nothing that is counted moves to the end of the dump. -/
  slots_uncounted : ∀ p ∈ set.patches, ∀ t ∈ lines[p.line - 1]?, set.counts (rowOfLine t) = false
  /-- Nothing that is counted comes in from a patch, or it comes when the texts are used up. -/
  blocks_uncounted : (∀ p ∈ set.patches, ∀ payload ∈ p.payload?, Uncounted set payload) ∨
    SpentBy set ((linesBeforeTrailer lines).map rowOfLine)

/-- A counted line that is merged is steady and keeps the number of its strings, unless it is a message. -/
theorem steady_merged (h : Repeatable set lines) {i : Nat} {line : Text} (hline : lines[i]? = some line)
    (hcounts : set.counts (rowOfLine line) = true) :
    let f := textsFor? set lines i line
    Steady f (rowOfLine line).name ((renewLine? f line).getD line) ∧ ((rowOfLine line).name ≠ "message".toList →
      (splitStrings ((renewLine? f line).getD line)).2.length = (splitStrings line).2.length) := by
  have hmem := List.mem_of_getElem? hline
  have hname := lineName?_eq_of_counts hcounts
  have hnamed : lineName? (splitStrings line).1 = some (rowOfLine line).name := by rw [h.names_first line hmem hcounts, hname]
  refine steady_renewed hnamed (fun hmessage k old t hk hnew => ?_) (fun hmessage k => newText?_old hmessage) ?_
  · obtain ⟨u, hu, hpart⟩ := exists_of_newText?_inner hmessage hk hnew
    exact fun hm => h.inner_noSign u hu (hpart.subset hm)
  · intro hmessage head old t hcut hnew
    have hmerge : ∀ old, textsFor? set lines i line 0 old =
        (set.lines.lookup (countNamed "message" ((lines.take i).map rowOfLine) + 1)).bind (mergeMessage? old) := by
      intro old
      rw [textsFor?, newText?_message hmessage]
    rw [hmerge] at hnew ⊢
    obtain ⟨replacement, hreplacement, hput⟩ := Option.bind_eq_some_iff.mp hnew
    rw [hreplacement]
    have hold : lines[i]?.bind messageOn? = some old := by
      rw [hline, Option.bind_some, messageOn?, if_pos (hmessage ▸ hname), hcut]
      rfl
    exact h.messages_settle i (List.getElem?_eq_some_iff.mp hline).1 old hold replacement hreplacement t hput

/-- A merged line has the name that it had. -/
theorem name_mergedLine (h : Repeatable set lines) {i : Nat} {line : Text} (hline : lines[i]? = some line) :
    (rowOfLine ((renewLine? (textsFor? set lines i line) line).getD line)).name = (rowOfLine line).name := by
  cases hcounts : set.counts (rowOfLine line) with
  | true => exact name_rowOfLine (lineName?_of_named (steady_merged h hline hcounts).1.named)
  | false => rw [textsFor?, renewLine?_of_not_counts hcounts, Option.getD_none]

theorem map_name_mergedLines (h : Repeatable set lines) :
    ((mergedLines set lines).map rowOfLine).map Row.name = (lines.map rowOfLine).map Row.name := by
  refine List.ext_getElem? fun i => ?_
  rw [List.getElem?_map, List.getElem?_map, List.getElem?_map, List.getElem?_map, getElem?_mergedLines]
  cases hline : lines[i]? with
  | none => rfl
  | some line => exact congrArg some (name_mergedLine h hline)

theorem noFeed_mergedLines (h : Repeatable set lines) (hfeed : ∀ line ∈ lines, '\n' ∉ line) :
    ∀ t ∈ mergedLines set lines, '\n' ∉ t := by
  intro t ht
  obtain ⟨i, hi⟩ := List.mem_iff_getElem?.mp ht
  rw [getElem?_mergedLines] at hi
  obtain ⟨line, hline, rfl⟩ := Option.map_eq_some_iff.mp hi
  refine feed_notMem_renewed (hfeed line (List.mem_of_getElem? hline)) fun k old new hold hnew => ?_
  exact notMem_of_newText? (by decide) h.texts_noFeed hold hnew

/-- The last trailer stays where it was. -/
theorem exists_front_mergedLines (h : Repeatable set lines) {front rest : List Text} {trailer : Text}
    (hsplit : lines = front ++ trailer :: rest) (htrailer : isTrailer trailer = true) (hrest : ∀ t ∈ rest, isTrailer t = false) :
    ∃ front' rest', mergedLines set lines = front' ++ trailer :: rest' ∧ front'.length = front.length ∧
      ∀ t ∈ rest', isTrailer t = false := by
  have hlines : lines.length = front.length + (rest.length + 1) := by rw [hsplit, List.length_append, List.length_cons]
  have hlength : (mergedLines set lines).length = lines.length := List.length_mapIdx
  have hnth : lines[front.length]? = some trailer := by
    rw [hsplit, List.getElem?_append_right (Nat.le_refl _), Nat.sub_self]
    rfl
  have hnth' := getElem?_mergedLines_of_not_counts hnth (counts_trailer htrailer set)
  obtain ⟨hlt, htrailer'⟩ := List.getElem?_eq_some_iff.mp hnth'
  refine ⟨(mergedLines set lines).take front.length, (mergedLines set lines).drop (front.length + 1), ?_, ?_, fun t ht => ?_⟩
  · rw [← htrailer', List.getElem_cons_drop, List.take_append_drop]
  · rw [List.length_take]
    omega
  · obtain ⟨j, hj⟩ := List.mem_iff_getElem?.mp ht
    rw [List.getElem?_drop, getElem?_mergedLines] at hj
    obtain ⟨line, hline, rfl⟩ := Option.map_eq_some_iff.mp hj
    by_contra hne
    rw [Bool.not_eq_false] at hne
    have hcounts := counts_trailer hne set
    rw [set.counts_congr (name_mergedLine h hline)] at hcounts
    rw [textsFor?, renewLine?_of_not_counts hcounts, Option.getD_none] at hne
    have hmem : line ∈ rest := by
      rw [hsplit, List.getElem?_append_right (by omega), Nat.add_assoc, Nat.add_sub_cancel_left, Nat.add_comm 1 j,
        List.getElem?_cons_succ] at hline
      exact List.mem_of_getElem? hline
    rw [hrest line hmem] at hne
    cases hne

/-! ## Lines that stay -/

/-- A line that was merged stays as it is when the set is merged again, whatever patches leave of it and wherever the same
counted lines stand in front of it. -/
theorem stays_of_traces (h : Repeatable set lines) {i : Nat} {line t : Text} (hline : lines[i]? = some line)
    (ht : Traces set ((renewLine? (textsFor? set lines i line) line).getD line) t) {earlier : List Row}
    (hearlier : set.counted earlier = set.counted ((lines.take i).map rowOfLine)) :
    (renewLine? (newText? set earlier (rowOfLine t)) t).getD t = t := by
  have hname := name_mergedLine h hline
  cases hcounts : set.counts (rowOfLine t) with
  | false => rw [renewLine?_of_not_counts hcounts, Option.getD_none]
  | true =>
    rw [ht.counts_eq, set.counts_congr hname] at hcounts
    obtain ⟨hsteady, hlength⟩ := steady_merged h hline hcounts
    obtain ⟨hsteady, hstrings⟩ := ht.steady (by rw [set.counts_congr hname, hcounts]) hsteady
    have hname : (rowOfLine t).name = (rowOfLine line).name := name_rowOfLine (lineName?_of_named hsteady.named)
    have htexts : newText? set earlier (rowOfLine t) = textsFor? set lines i line := by
      by_cases hmessage : (rowOfLine line).name = "message".toList
      · rw [textsFor?, ← newText?_congr_counted hearlier rfl rfl]
        funext k old
        rw [newText?_message (hname.trans hmessage), newText?_message hmessage]
      · refine newText?_congr_counted hearlier hname ?_
        rw [rowOfLine, rowOfLine, hstrings, hlength hmessage]
    rw [htexts, hsteady.stays]

section Places

variable {front front' blocks back : List Text} (hmerged : mergedLines set lines = front ++ back)
include hmerged

private theorem exists_line_of_merged {i : Nat} {t : Text} (ht : (front ++ back)[i]? = some t) :
    ∃ line, lines[i]? = some line ∧ (renewLine? (textsFor? set lines i line) line).getD line = t := by
  rw [← hmerged, getElem?_mergedLines] at ht
  exact Option.map_eq_some_iff.mp ht

private theorem counted_take_merged (h : Repeatable set lines) (n : Nat) :
    set.counted ((lines.take n).map rowOfLine) = set.counted (((front ++ back).take n).map rowOfLine) := by
  refine set.counted_congr ?_
  rw [← hmerged, List.map_take, List.map_take, List.map_take, List.map_take, map_name_mergedLines h]

variable (htraces : List.Forall₂ (Traces set) front front')
include htraces

/-- In front of the blocks every line has the lines in front of it that it had. -/
private theorem stays_in_front (h : Repeatable set lines) {i : Nat} {t : Text} (ht : front'[i]? = some t) :
    (renewLine? (newText? set ((front'.take i).map rowOfLine) (rowOfLine t)) t).getD t = t := by
  have hi : i < front.length := htraces.length_eq ▸ (List.getElem?_eq_some_iff.mp ht).1
  have ht₀ := List.getElem?_eq_getElem hi
  obtain ⟨line, hline, hnew⟩ := exists_line_of_merged hmerged ((List.getElem?_append_left hi).trans ht₀)
  refine stays_of_traces h hline (hnew ▸ of_forall₂_getElem? htraces ht₀ ht) ?_
  rw [counted_take_merged hmerged h, List.take_append_of_le_length hi.le]
  exact counted_of_traces (List.forall₂_take i htraces)

/-- Behind uncounted blocks every line has the counted lines in front of it that it had. -/
private theorem stays_behind_blocks (h : Repeatable set lines) (hblocks : ∀ t ∈ blocks, set.counts (rowOfLine t) = false) {j : Nat}
    {t : Text} (ht : (blocks ++ back)[j]? = some t) :
    (renewLine? (newText? set (front'.map rowOfLine ++ ((blocks ++ back).take j).map rowOfLine) (rowOfLine t)) t).getD t = t := by
  by_cases hj : j < blocks.length
  · rw [List.getElem?_append_left hj] at ht
    rw [renewLine?_of_not_counts (hblocks t (List.mem_of_getElem? ht)), Option.getD_none]
  · obtain ⟨k, rfl⟩ := Nat.exists_eq_add_of_le (Nat.le_of_not_lt hj)
    rw [List.getElem?_append_right (Nat.le_add_right _ _), Nat.add_sub_cancel_left] at ht
    have ht₀ : (front ++ back)[front.length + k]? = some t := by
      rw [List.getElem?_append_right (Nat.le_add_right _ _), Nat.add_sub_cancel_left, ht]
    obtain ⟨line, hline, hnew⟩ := exists_line_of_merged hmerged ht₀
    have hnone : set.counted (blocks.map rowOfLine) = [] :=
      ReplacementSet.counted_eq_nil (List.forall_mem_map.mpr hblocks)
    refine stays_of_traces h hline (hnew ▸ .refl) ?_
    rw [counted_take_merged hmerged h, List.take_length_add_append, List.take_length_add_append, List.map_append, List.map_append,
      set.counted_append, set.counted_append, set.counted_append, hnone, List.nil_append, counted_of_traces htraces]

/-- Behind lines that used the texts up nothing is merged. -/
private theorem stays_of_spent (h : Repeatable set lines) (hspent : SpentBy set ((lines.take front.length).map rowOfLine))
    (more : List Row) (t : Text) : (renewLine? (newText? set (front'.map rowOfLine ++ more) (rowOfLine t)) t).getD t = t := by
  have hsame : newText? set (front'.map rowOfLine ++ more) (rowOfLine t) =
      newText? set ((lines.take front.length).map rowOfLine ++ more) (rowOfLine t) := by
    refine newText?_congr_counted ?_ rfl rfl
    rw [set.counted_append, set.counted_append, counted_of_traces htraces, counted_take_merged hmerged h, List.take_left]
  rw [hsame, renewLine?_eq_none (hspent.newText?_eq_none more _), Option.getD_none]

/-- Lines that were merged and patched stay as they are when the set is merged again. -/
theorem mergedLines_again (h : Repeatable set lines)
    (hblocks : (∀ t ∈ blocks, set.counts (rowOfLine t) = false) ∨ SpentBy set ((lines.take front.length).map rowOfLine)) :
    mergedLines set (front' ++ (blocks ++ back)) = front' ++ (blocks ++ back) := by
  refine List.ext_getElem? fun i => ?_
  rw [getElem?_mergedLines]
  cases ht : (front' ++ (blocks ++ back))[i]? with
  | none => rfl
  | some t =>
    rw [Option.map_some, textsFor?]
    refine congrArg some ?_
    by_cases hi : i < front'.length
    · rw [List.getElem?_append_left hi] at ht
      rw [List.take_append_of_le_length hi.le]
      exact stays_in_front hmerged htraces h ht
    · obtain ⟨j, rfl⟩ := Nat.exists_eq_add_of_le (Nat.le_of_not_lt hi)
      rw [List.getElem?_append_right (Nat.le_add_right _ _), Nat.add_sub_cancel_left] at ht
      rw [List.take_length_add_append, List.map_append]
      rcases hblocks with hblocks | hspent
      · exact stays_behind_blocks hmerged htraces h hblocks ht
      · exact stays_of_spent hmerged htraces h hspent _ t

end Places

/-! ## Whole dumps -/

/-- A dump that has slots has a trailer behind them. -/
theorem exists_trailer (h : Repeatable set lines) {p : Patch} (hp : p ∈ set.patches) :
    ∃ trailer rest, lines = linesBeforeTrailer lines ++ trailer :: rest ∧ isTrailer trailer = true ∧
      ∀ t ∈ rest, isTrailer t = false := by
  refine exists_lastTrailer fun hnil => ?_
  obtain ⟨hpos, hle⟩ := h.patches_front p hp
  rw [hnil, List.length_nil] at hle
  omega

/-- A slot is not merged. -/
theorem exists_slot (h : Repeatable set lines) {p : Patch} (hp : p ∈ set.patches) :
    ∃ t, lines[p.line - 1]? = some t ∧ (mergedLines set lines)[p.line - 1]? = some t ∧ set.counts (rowOfLine t) = false := by
  obtain ⟨hpos, hle⟩ := h.patches_front p hp
  obtain ⟨trailer, rest, hsplit, -⟩ := exists_trailer h hp
  have hlength := congrArg List.length hsplit
  rw [List.length_append, List.length_cons] at hlength
  have ht := List.getElem?_eq_getElem (l := lines) (i := p.line - 1) (by omega)
  have hcounts := h.slots_uncounted p hp _ ht
  exact ⟨_, ht, getElem?_mergedLines_of_not_counts ht hcounts, hcounts⟩

/-- What patches make of merged lines stays as it is when the set is merged again, and so do the slots of the patches. -/
theorem again_of_applyPatches (h : Repeatable set lines) (hfeed : ∀ line ∈ lines, '\n' ∉ line) (hne : lines ≠ [])
    {entry : String} {patched : Text} (hpatched : (applyPatches entry (Text.joinLines (mergedLines set lines)) set.patches).1 = .ok patched) :
    mergedLines set (patched.splitOn '\n') = patched.splitOn '\n' ∧ ∀ p ∈ set.patches, p.Done (patched.splitOn '\n') := by
  have hnew : (Text.joinLines (mergedLines set lines)).splitOn '\n' = mergedLines set lines :=
    List.splitOn_intercalate _ (noFeed_mergedLines h hfeed) (mt List.mapIdx_eq_nil_iff.mp hne)
  by_cases hnil : set.patches = []
  · rw [hnil] at hpatched
    obtain rfl := Except.ok.inj hpatched
    refine ⟨?_, fun p hp => absurd hp (by simp [hnil])⟩
    have hsame : mergedLines set (mergedLines set lines ++ ([] ++ [])) = mergedLines set lines ++ ([] ++ []) :=
      mergedLines_again (List.append_nil _).symm (List.forall₂_same.mpr fun t _ => .refl) h (.inl (List.forall_mem_nil _))
    rw [List.append_nil, List.append_nil] at hsame
    rw [hnew, hsame]
  · obtain ⟨p₀, hp₀⟩ := List.exists_mem_of_ne_nil _ hnil
    obtain ⟨trailer, rest, hsplit, htrailer, hrest⟩ := exists_trailer h hp₀
    obtain ⟨front, rest', hparts, hlength, hrest'⟩ := exists_front_mergedLines h hsplit htrailer hrest
    have hfront : ∀ p ∈ set.patches, p.line ≠ 0 ∧ p.line ≤ front.length := hlength ▸ h.patches_front
    have hslots : ∀ p ∈ set.patches, ∀ t, (mergedLines set lines)[p.line - 1]? = some t → set.counts (rowOfLine t) = false := by
      intro p hp t ht
      obtain ⟨t', -, ht', hcounts⟩ := exists_slot h hp
      rwa [Option.some.inj (ht.symm.trans ht')]
    have hknows : ∀ p ∈ set.patches, p.KnowsSlot (mergedLines set lines) := by
      intro p hp
      have hknows := h.patches_know p hp
      obtain ⟨t, ht, ht', -⟩ := exists_slot h hp
      exact ⟨hknows.not_jump, hknows.tells_length, ht'.trans ht.symm ▸ hknows.sees_indented⟩
    have htake : lines.take front.length = linesBeforeTrailer lines := by
      conv_lhs => rw [hsplit, hlength, List.take_left]
    rw [← hnew] at hslots hknows
    obtain ⟨front', blocks, hmerged, htraces, hblocks⟩ :=
      exists_blocks (hnew.trans hparts) htrailer hrest' hfront hslots hpatched
    refine ⟨?_, done_of_applyPatches (hnew.trans hparts) htrailer hrest' hfront hknows hpatched⟩
    rw [hmerged]
    exact mergedLines_again hparts htraces h (h.blocks_uncounted.imp hblocks fun hspent => htake.symm ▸ hspent)

end Merged

/-- Merging a set into a dump that it was merged into leaves that dump as it is. -/
theorem merge_again {entry : String} {dump merged : Text} {set : ReplacementSet} (hset : Repeatable set (dump.splitOn '\n'))
    (h : (merge entry dump set).1 = .ok (some merged)) :
    (merge entry merged set).1 = .ok none ∨ (merge entry merged set).1 = .ok (some merged) := by
  have hpatched : (applyPatches entry (Text.joinLines (mergedLines set (dump.splitOn '\n'))) set.patches).1 = .ok merged := by
    rcases fst_merge entry dump set with ⟨hnone, -⟩ | hmerge
    · rw [h] at hnone
      cases hnone
    · rw [h] at hmerge
      cases happly : (applyPatches entry (Text.joinLines (mergedLines set (dump.splitOn '\n'))) set.patches).1 with
      | error e =>
        rw [happly] at hmerge
        cases hmerge
      | ok patched =>
        rw [happly] at hmerge
        rw [Option.some.inj (Except.ok.inj hmerge)]
  obtain ⟨hlines, hdone⟩ := again_of_applyPatches hset (Text.notMem_of_mem_splitOn dump) (List.splitOn_ne_nil _ _) hpatched
  rcases fst_merge entry merged set with ⟨hnone, -⟩ | hmerge
  · exact .inl hnone
  · right
    rw [hmerge, hlines, Text.joinLines, List.intercalate_splitOn,
      applyPatches_of_done (fun p hp => (hset.patches_know p hp).not_jump) hdone]
    rfl

/-- Two messages and a choice get new texts, and a patch brings another message in when they are used up. -/
theorem merge_again_messages :
    let choice : Text → Text := fun texts => "select.24 00-00-00-00-00-00-S-00-00-00-00-00-00-S".toList ++
      "-00-00-00-00-00-00 ".toList ++ texts
    let dump := Text.joinLines ["header.1".toList, "message.8 00-00-00-00-S @Hi%K".toList,
      "fade_in.10 00-00-00-00-00-00-00-00".toList, choice "§B§ @C".toList, "message.8 00-00-00-00-S @【A】「D」%K".toList,
      "ret2.2".toList, "trailer.0".toList]
    let patch : Patch := ⟨.insertAfter, 3, "fade_in.10".toList, true, some "message.8 00-00-00-00-S @New".toList⟩
    let set : ReplacementSet := { ReplacementSet.empty with
      lines := [(1, "Yo%R%P".toList), (2, "Bye".toList)], choices := [["No".toList, "Yes".toList]], patches := [patch] }
    let merged := Text.joinLines ["header.1".toList, "message.8 00-00-00-00-S @Yo%P".toList, jumpTo "P1".toList 10,
      "&PR1: ".toList ++ choice "§No§ @Yes".toList, "message.8 00-00-00-00-S @【A】「Bye」%K".toList, "ret2.2".toList,
      "&P1: fade_in.10 00-00-00-00-00-00-00-00".toList, "message.8 00-00-00-00-S @New".toList, jumpTo "PR1".toList 10,
      "trailer.0".toList]
    (merge "SC01" dump set).1 = .ok (some merged) ∧
      ((merge "SC01" merged set).1 = .ok none ∨ (merge "SC01" merged set).1 = .ok (some merged)) := by
  intro choice dump patch set merged
  have hmerge : (merge "SC01" dump set).1 = .ok (some merged) := by decide +kernel
  have hknows : ∀ p ∈ set.patches, p.KnowsSlot (dump.splitOn '\n') := by
    have hexpected : "fade_in.10".toList = "fade_in".toList ++ '.' :: "10".toList := by decide
    rw [List.forall_mem_singleton]
    exact (Patch.recognises_of_name hexpected (by decide) (by decide) fun h => absurd h (Option.some_ne_none _)).knowsSlot _
  have hspent : SpentBy set ((linesBeforeTrailer (dump.splitOn '\n')).map rowOfLine) :=
    { names := Nat.zero_le _
      routes := Nat.zero_le _
      strings := Nat.zero_le _
      titles := Nat.zero_le _
      postTitleStrings := Nat.zero_le _
      choices := by decide +kernel
      messages := by decide +kernel }
  have hset : Repeatable set (dump.splitOn '\n') :=
    { texts_noFeed := by decide +kernel
      inner_noSign := by decide +kernel
      names_first := by decide +kernel
      messages_settle := by decide +kernel
      patches_front := by decide +kernel
      patches_know := hknows
      slots_uncounted := by decide +kernel
      blocks_uncounted := .inr hspent }
  exact ⟨hmerge, merge_again hset hmerge⟩

/-- A set of patches only. -/
def patchSet (patches : List Patch) : ReplacementSet := { ReplacementSet.empty with patches := patches }

/-- A patch of a jump finds its own jump where it expects one, and is applied to it. -/
theorem merge_patchSet_jump :
    let dump := "Loop_Cond.10\nret2.2\ntrailer.0".toList
    let p : Patch := ⟨.replace, 1, "Loop_Cond.10".toList, true, some "key_wait.2".toList⟩
    let first := Text.joinLines [jumpTo "P1".toList 10, "&PR1: ret2.2".toList, "&P1: key_wait.2".toList,
      jumpTo "PR1".toList 10, "trailer.0".toList]
    let second := Text.joinLines [jumpTo "P1".toList 10, "&PR1: &PR1: ret2.2".toList, "&P1: key_wait.2".toList,
      jumpTo "PR1".toList 10, "&P1: key_wait.2".toList, jumpTo "PR1".toList 10, "trailer.0".toList]
    (merge "SC01" dump (patchSet [p])).1 = .ok (some first) ∧ (merge "SC01" first (patchSet [p])).1 = .ok (some second) ∧
      first ≠ second := by
  decide +kernel

end Replacement
end SceneScript
