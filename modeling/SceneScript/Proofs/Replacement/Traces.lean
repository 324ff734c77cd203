import SceneScript.Proofs.Replacement.Renewing
/-!
# What patches leave of counted lines

Patches put labels in front of lines, turn slots into jumps and no-ops and move what stood there into blocks. If nothing that
a set counts stands in a slot, the counted lines in front of the last trailer stay in place and in order.
-/
namespace SceneScript.Replacement

/-! ## Lines -/

section Traces

variable {set : ReplacementSet}

/-- What patches leave of a line, as far as a set is concerned: labels may come in front of it, and a line that the set does
not count may become another such line. -/
inductive Traces (set : ReplacementSet) (t : Text) : Text → Prop
  | refl : Traces set t t
  | define {label t' : Text} (hlabel : ∀ c ∈ label, isLabelChar c = true) (h : Traces set t t') :
    Traces set t (defining label ++ t')
  | uncounted {t' : Text} (h : set.counts (rowOfLine t) = false) (h' : set.counts (rowOfLine t') = false) : Traces set t t'

theorem name_rowOfLine {line name : Text} (h : lineName? line = some name) : (rowOfLine line).name = name := by
  rw [rowOfLine, h, Option.getD_some]

/-- The lines that patches leave in their slots are counted for no set. -/
theorem counts_slot {line name : Text} (hname : lineName? line = some name)
    (hslot : name = Opcode.loopCondName ∨ name = Opcode.nopName) (set : ReplacementSet) :
    set.counts (rowOfLine line) = false := by
  refine set.counts_eq_false ?_
  rw [name_rowOfLine hname]
  rcases hslot with rfl | rfl <;> decide

theorem name_rowOfLine_defining {label : Text} (h : ∀ c ∈ label, isLabelChar c = true) (t : Text) :
    (rowOfLine (defining label ++ t)).name = (rowOfLine t).name := by
  rw [rowOfLine, rowOfLine, lineName?_defining h]

theorem Traces.counts_eq {t t' : Text} (h : Traces set t t') : set.counts (rowOfLine t') = set.counts (rowOfLine t) := by
  induction h with
  | refl => rfl
  | define hlabel _ ih => rw [set.counts_congr (name_rowOfLine_defining hlabel _), ih]
  | uncounted h h' => rw [h, h']

theorem Traces.name_eq {t t' : Text} (h : Traces set t t') (hcounts : set.counts (rowOfLine t) = true) :
    (rowOfLine t').name = (rowOfLine t).name := by
  induction h with
  | refl => rfl
  | define hlabel _ ih => rw [name_rowOfLine_defining hlabel, ih]
  | uncounted h =>
    rw [h] at hcounts
    cases hcounts

theorem Traces.steady {t t' name : Text} {f : Nat → Text → Option Text} (h : Traces set t t')
    (hcounts : set.counts (rowOfLine t) = true) (hsteady : Steady f name t) :
    Steady f name t' ∧ (splitStrings t').2 = (splitStrings t).2 := by
  induction h with
  | refl => exact ⟨hsteady, rfl⟩
  | define hlabel _ ih =>
    refine ⟨ih.1.defining hlabel, ?_⟩
    rw [splitStrings_defining hlabel ih.1.named, ih.2]
  | uncounted h =>
    rw [h] at hcounts
    cases hcounts

/-- The lines that a set counts are those that it counted before. -/
theorem counted_of_traces {lines lines' : List Text} (h : List.Forall₂ (Traces set) lines lines') :
    set.counted (lines'.map rowOfLine) = set.counted (lines.map rowOfLine) := by
  rw [ReplacementSet.counted, ReplacementSet.counted]
  induction h with
  | nil => rfl
  | @cons t t' more more' ht _ ih =>
    rw [List.map_cons, List.map_cons, List.filter_cons, List.filter_cons, ht.counts_eq]
    split_ifs with hcounts
    · rw [List.map_cons, List.map_cons, ih, ht.name_eq hcounts]
    · exact ih

/-- The step: what a patch of an uncounted slot makes of a line. -/
theorem Traces.of_leaves {p : Patch} {i : Nat} {t₀ t t' : Text} (ht : Traces set t₀ t)
    (hslot : i = p.line - 1 → set.counts (rowOfLine t₀) = false) (h : p.Leaves i t t') : Traces set t₀ t' := by
  cases h with
  | kept => exact ht
  | jumped hline hname =>
    rw [lineName?_afterLabels] at hname
    exact .uncounted (hslot hline) (counts_slot hname (.inl rfl) set)
  | @erased _ length hline _ _ _ _ _ hbody =>
    have hname : lineName? t' = some Opcode.nopName := by
      rw [← lineName?_afterLabels, hbody]
      exact lineName?_name (by decide) _
    exact .uncounted (hslot hline) (counts_slot hname (.inr rfl) set)
  | labelled hlabel => exact ht.define hlabel

end Traces

/-! ## Lines of overflow blocks -/

/-- Whether a set counts none of the lines of a text. -/
def Uncounted (set : ReplacementSet) (t : Text) : Prop := ∀ line ∈ t.splitOn '\n', set.counts (rowOfLine line) = false

section Uncounted

variable {set : ReplacementSet}

theorem uncounted_of_line {t : Text} (hfeed : '\n' ∉ t) (h : set.counts (rowOfLine t) = false) : Uncounted set t := by
  rw [Uncounted, List.splitOn_eq_singleton hfeed, List.forall_mem_singleton]
  exact h

theorem Uncounted.defining {t label : Text} (h : Uncounted set t) (hlabel : ∀ c ∈ label, isLabelChar c = true) :
    Uncounted set (defining label ++ t) := by
  obtain ⟨line, more, hlines⟩ := List.exists_cons_of_ne_nil (List.splitOn_ne_nil '\n' t)
  rw [Uncounted, hlines, List.forall_mem_cons] at h
  rw [Uncounted, Text.splitOn_append (notMem_feed_defining hlabel), hlines, List.modifyHead_cons, List.forall_mem_cons,
    set.counts_congr (name_rowOfLine_defining hlabel line)]
  exact h

theorem uncounted_overflowBlock {payload body : Text} (hpayload : Uncounted set payload) (hbody : Uncounted set body)
    (mode : PatchMode) (index : Nat) : ∀ t ∈ overflowBlock mode index payload body, Uncounted set t := by
  have hstart := isLabelChar_of_mem_overflowLabel index
  have hresume := isLabelChar_of_mem_resumeLabel index
  have hback : Uncounted set (jumpTo (resumeLabel index) minSlotLength) :=
    uncounted_of_line (fun hm => (plain_of_mem_jumpTo hresume _ hm).1 rfl)
      (counts_slot (Patch.lineName?_jumpTo _ _) (.inl rfl) set)
  cases mode with
  | insertBefore => simpa [overflowBlock, hback, hbody] using hpayload.defining hstart
  | insertAfter => simpa [overflowBlock, hback, hpayload] using hbody.defining hstart
  | replace => simpa [overflowBlock, hback] using hpayload.defining hstart

end Uncounted

/-! ## Runs of patches -/

section Patched

variable {set : ReplacementSet} {s s' : Patching} {entry : String} {index : Nat} {lines : List Text} {patches : List Patch}

private theorem traces_carryOut {p : Patch} {application : Application} (hline : p.line ≠ 0)
    (hslot : ∀ t, lines[p.line - 1]? = some t → set.counts (rowOfLine t) = false)
    (hplan : p.plan entry index s.lines = .ok application) (h : List.Forall₂ (Traces set) lines s.lines) :
    List.Forall₂ (Traces set) lines (s.carryOut entry index p.line application).lines := by
  refine forall₂_of_getElem? (by rw [Patching.length_carryOut, h.length_eq]) fun i t₀ t' ht₀ ht' => ?_
  have hi : i < s.lines.length := h.length_eq ▸ (List.getElem?_eq_some_iff.mp ht₀).1
  have ht := List.getElem?_eq_getElem hi
  obtain ⟨t'', ht'', hleaves⟩ := Patching.leaves_carryOut hline hplan ht
  obtain rfl := Option.some.inj (ht''.symm.trans ht')
  exact (of_forall₂_getElem? h ht₀ ht).of_leaves (fun hi => hslot t₀ (hi ▸ ht₀)) hleaves

private theorem uncounted_carryOut {p : Patch} {application : Application}
    (hslot : ∀ t, lines[p.line - 1]? = some t → set.counts (rowOfLine t) = false)
    (hpayload : ∀ payload, p.payload? = some payload → Uncounted set payload)
    (hplan : p.plan entry index s.lines = .ok application) (h : List.Forall₂ (Traces set) lines s.lines)
    (hfeed : ∀ t ∈ s.lines, '\n' ∉ t) (hoverflow : ∀ t ∈ s.overflow, Uncounted set t) :
    ∀ t ∈ (s.carryOut entry index p.line application).overflow, Uncounted set t := by
  obtain ⟨target, htarget, hcases⟩ := Patch.plan_ok hplan
  rcases hcases with ⟨rfl, -⟩ | ⟨length, -, -, -, ⟨-, -, rfl⟩ | ⟨payload, next, hsome, -, -, rfl⟩⟩
  · exact hoverflow
  · exact hoverflow
  · have hi : p.line - 1 < lines.length := h.length_eq ▸ (List.getElem?_eq_some_iff.mp htarget).1
    have hcounts : set.counts (rowOfLine (afterLabels target)) = false := by
      have hname : (rowOfLine (afterLabels target)).name = (rowOfLine target).name := by
        rw [rowOfLine, rowOfLine, lineName?_afterLabels]
      rw [set.counts_congr hname, (of_forall₂_getElem? h (List.getElem?_eq_getElem hi) htarget).counts_eq]
      exact hslot _ (List.getElem?_eq_getElem hi)
    have hbodyFeed : '\n' ∉ afterLabels target := by
      obtain ⟨pre, hpre, -⟩ := exists_labels_append target
      have hnone := hfeed target (List.mem_of_getElem? htarget)
      rw [hpre, List.mem_append, not_or] at hnone
      exact hnone.2
    rw [Patching.carryOut, List.forall_mem_append]
    exact ⟨hoverflow, uncounted_overflowBlock (hpayload payload hsome) (uncounted_of_line hbodyFeed hcounts) p.mode index⟩

/-- The run: the lines of a dump leave their traces when no patch has a counted slot, and the overflow is not counted if the
payloads are not. -/
theorem traces_applyAll (hlines : ∀ p ∈ patches, p.line ≠ 0)
    (hslots : ∀ p ∈ patches, ∀ t, lines[p.line - 1]? = some t → set.counts (rowOfLine t) = false)
    (htraces : List.Forall₂ (Traces set) lines s.lines) (hfeed : ∀ t ∈ s.lines, '\n' ∉ t)
    (h : (s.applyAll entry index patches).1 = .ok s') :
    List.Forall₂ (Traces set) lines s'.lines ∧
      ((∀ p ∈ patches, ∀ payload, p.payload? = some payload → Uncounted set payload) →
        (∀ t ∈ s.overflow, Uncounted set t) → ∀ t ∈ s'.overflow, Uncounted set t) := by
  induction patches generalizing s index with
  | nil =>
    obtain rfl := Except.ok.inj h
    exact ⟨htraces, fun _ hoverflow => hoverflow⟩
  | cons p more ih =>
    rw [List.forall_mem_cons] at hlines hslots
    rw [Patching.applyAll] at h
    split at h
    · cases h
    rename_i application hplan
    obtain ⟨hmore, hblocks⟩ := ih hlines.2 hslots.2 (traces_carryOut hlines.1 hslots.1 hplan htraces)
      (Patching.carryOut_noFeed hplan hfeed) h
    refine ⟨hmore, fun hpayloads hoverflow => ?_⟩
    rw [List.forall_mem_cons] at hpayloads
    exact hblocks hpayloads.2 (uncounted_carryOut hslots.1 hpayloads.1 hplan htraces hfeed hoverflow)

/-- A patched dump: what the patches leave of the lines in front of the last trailer, their blocks, and the trailer. -/
theorem exists_blocks {dump patched trailer : Text} {front rest : List Text} (hsplit : dump.splitOn '\n' = front ++ trailer :: rest)
    (htrailer : isTrailer trailer = true) (hrest : ∀ t ∈ rest, isTrailer t = false)
    (hlines : ∀ p ∈ patches, p.line ≠ 0 ∧ p.line ≤ front.length)
    (hslots : ∀ p ∈ patches, ∀ t, (dump.splitOn '\n')[p.line - 1]? = some t → set.counts (rowOfLine t) = false)
    (h : (applyPatches entry dump patches).1 = .ok patched) :
    ∃ front' blocks, patched.splitOn '\n' = front' ++ (blocks ++ trailer :: rest) ∧
      List.Forall₂ (Traces set) front front' ∧
      ((∀ p ∈ patches, ∀ payload, p.payload? = some payload → Uncounted set payload) →
        ∀ t ∈ blocks, set.counts (rowOfLine t) = false) := by
  obtain ⟨s, hrun, hpatched⟩ := exists_applyAll_of_applyPatches h
  have hdumpFeed := Text.notMem_of_mem_splitOn dump
  have hnth : (dump.splitOn '\n')[front.length]? = some trailer := by
    rw [hsplit, List.getElem?_append_right (Nat.le_refl _), Nat.sub_self]
    rfl
  obtain ⟨hdrop, hfeed⟩ := Patching.front_applyAll hlines hnth htrailer hdumpFeed hrun
  obtain ⟨htraces, hblocks⟩ := traces_applyAll (fun p hp => (hlines p hp).1) hslots
    (List.forall₂_same.mpr fun t _ => .refl) hdumpFeed hrun
  rw [hsplit] at htraces
  obtain ⟨front', back, hparts, hfront, -⟩ := forall₂_append_left htraces
  obtain rfl : back = trailer :: rest := by
    rwa [hparts, hsplit, hfront.length_eq, List.drop_left, ← hfront.length_eq, List.drop_left] at hdrop
  rw [hparts, List.forall_mem_append, List.forall_mem_cons] at hfeed
  refine ⟨front', s.overflow.flatMap fun t => t.splitOn '\n', ?_, hfront, fun hpayloads => ?_⟩
  · rw [hpatched _ _ _ hparts htrailer hrest, Text.splitOn_joinLines_append hfeed.1 (by simp), Text.splitOn_joinLines (by simp),
      List.flatMap_append, ← Text.splitOn_joinLines (List.cons_ne_nil trailer rest)]
    rw [Text.joinLines, List.splitOn_intercalate _ (List.forall_mem_cons.mpr hfeed.2) (List.cons_ne_nil _ _)]
  · intro t ht
    obtain ⟨block, hblock, ht⟩ := List.mem_flatMap.mp ht
    exact hblocks hpayloads (List.forall_mem_nil _) block hblock t ht

end Patched

end SceneScript.Replacement
