import Mathlib
import SceneScript.Proofs.Patch.Slots
/-!
# Overflow blocks

A patched dump as a listing: the lines up to the trailer as the patches leave them, one block for each slot that became a
jump, and the trailer. Its labels are those of the original, those of the payloads and two new ones for each block.
-/
namespace SceneScript

/-- What an overflow block says in front of its jump back. -/
def PatchMode.block (mode : PatchMode) (payload : Listing) (c : Content) : Listing :=
  match mode with
  | .insertBefore => payload ++ [⟨[], some c⟩]
  | .insertAfter => ⟨[], some c⟩ :: payload
  | .replace => payload

private theorem read?_singleton {t : Text} {st : Statement} (h : Statement.read? false t = some st) :
    Listing.read? false [t] = some [st] := by
  rw [Listing.read?_eq_some, List.map_singleton, h, List.map_singleton]

private theorem read?_closedLines {t : Text} {st : Statement} (hfeed : '\n' ∉ t)
    (h : Statement.readEnded? t = some st) : Listing.read? false (Text.closedLines t) = some [st] := by
  rw [Text.closedLines_singleton hfeed]
  exact read?_singleton h

private theorem read?_modifyHead {pre : Text} {names : List Text} (hadds : AddsLabels pre names) {lines : List Text}
    {sts : Listing} (h : Listing.read? false (lines.modifyHead (pre ++ ·)) = some sts) :
    ∃ payload, Listing.read? false lines = some payload ∧ sts = payload.modifyHead (Statement.withLabels names) := by
  cases lines with
  | nil =>
    cases h
    exact ⟨[], rfl, rfl⟩
  | cons t more =>
    rw [List.modifyHead_cons, Listing.read?_eq_some, List.map_cons, Statement.read?_addsLabels hadds] at h
    cases sts with
    | nil => cases h
    | cons st sts =>
      rw [List.map_cons, List.cons.injEq] at h
      obtain ⟨st₀, hst, rfl⟩ := Option.map_eq_some_iff.mp h.1
      refine ⟨st₀ :: sts, ?_, rfl⟩
      rw [Listing.read?_eq_some, List.map_cons, List.map_cons, hst, h.2]

theorem ne_nil_of_read? {t : Text} {sts : Listing} (h : Listing.read? false (Text.closedLines t) = some sts) :
    sts ≠ [] := by
  rintro rfl
  rw [Listing.read?_eq_some, Text.closedLines_eq, List.map_nil, List.map_eq_nil_iff, List.map_eq_nil_iff] at h
  exact List.splitOn_ne_nil _ _ h

/-- An overflow block says what its payload and the moved instruction say, then jumps back. -/
private theorem read?_overflowBlock {mode : PatchMode} {index : Nat} {payload body : Text} {c : Content} {sts : Listing}
    (hfeed : '\n' ∉ body) (hbody : Statement.readEnded? body = some ⟨[], some c⟩)
    (h : Listing.read? false ((overflowBlock mode index payload body).flatMap Text.closedLines) = some sts) :
    ∃ own, Listing.read? false (Text.closedLines payload) = some own ∧
      sts = (mode.block own c).modifyHead (Statement.withLabels [overflowLabel index]) ++
        [⟨[], some (jumpContent (resumeLabel index) minSlotLength)⟩] := by
  have hlabel := isLabelChar_of_mem_overflowLabel index
  have hadds := addsLabels_defining hlabel
  have hstartFeed := notMem_feed_defining hlabel
  have hstartEnd := getLast?_defining (overflowLabel index)
  have hjump : Statement.read? false (jumpTo (resumeLabel index) minSlotLength) =
      some ⟨[], some (jumpContent (resumeLabel index) minSlotLength)⟩ :=
    read?_jumpTo (List.cons_ne_nil _ _) (isLabelChar_of_mem_resumeLabel index) (by decide)
  have hback : Listing.read? false (Text.closedLines (jumpTo (resumeLabel index) minSlotLength)) =
      some [⟨[], some (jumpContent (resumeLabel index) minSlotLength)⟩] := by
    have hplain : ∀ c ∈ jumpTo (resumeLabel index) minSlotLength, c ≠ '\n' ∧ c ≠ '\r' :=
      plain_of_mem_jumpTo (isLabelChar_of_mem_resumeLabel index)
    have hreturn : (jumpTo (resumeLabel index) minSlotLength).getLast? ≠ some '\r' :=
      fun hlast => (hplain _ (List.mem_of_getLast? hlast)).2 rfl
    apply read?_closedLines fun hm => (hplain _ hm).1 rfl
    rw [Statement.readEnded?, Text.withoutReturn_eq hreturn, hjump]
  have hmoved : Listing.read? false (Text.closedLines body) = some [⟨[], some c⟩] := read?_closedLines hfeed hbody
  cases mode with
  | insertBefore =>
    rw [overflowBlock, List.flatMap_cons, List.flatMap_cons, List.flatMap_singleton,
      Text.closedLines_append hstartFeed hstartEnd] at h
    obtain ⟨front, back, hfront, hrest, rfl⟩ := Listing.read?_append.mp h
    obtain ⟨front', back', hfront', hback', rfl⟩ := Listing.read?_append.mp hrest
    obtain ⟨own, hown, rfl⟩ := read?_modifyHead hadds hfront
    obtain rfl := Option.some.inj (hmoved.symm.trans hfront')
    obtain rfl := Option.some.inj (hback.symm.trans hback')
    refine ⟨own, hown, ?_⟩
    obtain ⟨st, more, rfl⟩ := List.exists_cons_of_ne_nil (ne_nil_of_read? hown)
    simp [PatchMode.block]
  | insertAfter =>
    rw [overflowBlock, List.flatMap_cons, List.flatMap_cons, List.flatMap_singleton,
      Text.closedLines_append hstartFeed hstartEnd] at h
    obtain ⟨front, back, hfront, hrest, rfl⟩ := Listing.read?_append.mp h
    obtain ⟨own, back', hown, hback', rfl⟩ := Listing.read?_append.mp hrest
    obtain ⟨moved, hmoved', rfl⟩ := read?_modifyHead hadds hfront
    obtain rfl := Option.some.inj (hmoved.symm.trans hmoved')
    obtain rfl := Option.some.inj (hback.symm.trans hback')
    exact ⟨own, hown, rfl⟩
  | replace =>
    rw [overflowBlock, List.flatMap_cons, List.flatMap_singleton, Text.closedLines_append hstartFeed hstartEnd] at h
    obtain ⟨front, back, hfront, hback', rfl⟩ := Listing.read?_append.mp h
    obtain ⟨own, hown, rfl⟩ := read?_modifyHead hadds hfront
    obtain rfl := Option.some.inj (hback.symm.trans hback')
    exact ⟨own, hown, rfl⟩

/-! ## The patched dump as a listing -/

/-- A trailer line is read as a trailer. -/
theorem content_of_isTrailer {t : Text} {st : Statement} (htrailer : isTrailer t = true)
    (h : Statement.read? false t = some st) : ∃ c, st.content? = some c ∧ c.kind = .trailer := by
  obtain ⟨pre, names, hpre, hadds, -⟩ := exists_afterLabels t
  obtain ⟨rest, hrest⟩ := List.isPrefixOf_iff_prefix.mp htrailer
  have hbody : afterLabels t = "trailer".toList ++ '.' :: rest := hrest.symm
  have hheading : lineHeading? t = some (some ("trailer".toList, rest)) := by
    rw [hpre, (hadds _).2, hbody]
    exact (Row.heading_name (by decide) rest).2
  rw [Statement.read?, hheading] at h
  obtain ⟨c, hc, rfl⟩ := Option.map_eq_some_iff.mp h
  rw [Content.read?] at hc
  simp only [Option.bind_eq_bind, Option.bind_eq_some_iff, Option.some.injEq] at hc
  obtain ⟨kind, hkind, length, -, tokens, -, rfl⟩ := hc
  obtain rfl : LineKind.trailer = kind := Option.some.inj hkind
  exact ⟨_, rfl, rfl⟩

/-- The lines of a dump in front of its trailer read as the statements in front of the last. -/
theorem exists_readAs {dump last : Text} {front : List Text} {sts : Listing}
    (hlines : Text.lines dump = front ++ [last]) (htrailer : isTrailer last = true)
    (hread : Listing.read? false (Text.lines dump) = some sts) :
    ∃ body final open' part rest, sts = body ++ [final] ∧ Statement.read? false last = some final ∧
      dump.splitOn '\n' = open' ++ part :: rest ∧ ReadAs open' body ∧ isTrailer part = true ∧
      (rest = [] ∨ rest = [[]]) ∧ Text.lines (Text.joinLines (part :: rest)) = [last] := by
  obtain ⟨open', part, rest, hsplit, hopen, hpart, hrest, hlast⟩ := Text.exists_splitOn hlines
  rw [hlines, ← hopen] at hread
  obtain ⟨body, finals, hbody, hfinals, rfl⟩ := Listing.read?_append.mp hread
  rw [Listing.read?_eq_some, List.map_map] at hbody
  rw [Listing.read?_eq_some, List.map_singleton] at hfinals
  have hone : finals.length = 1 := by simpa using (congrArg List.length hfinals).symm
  obtain ⟨final, rfl⟩ := List.length_eq_one_iff.mp hone
  rw [List.map_singleton, List.cons.injEq] at hfinals
  refine ⟨body, final, open', part, rest, rfl, hfinals.1, hsplit, ⟨hbody, ?_⟩, ?_, hrest, hlast⟩
  · intro t ht
    apply Text.notMem_of_mem_splitOn dump
    rw [hsplit]
    exact List.mem_append_left _ ht
  · rcases hpart with rfl | rfl
    · exact htrailer
    · exact isTrailer_append htrailer _

namespace Settled

/-- What the lines say that a patch puts behind the script. -/
def block (d : Settled) : Listing := (Listing.read? false (d.overflow.flatMap Text.closedLines)).getD []

theorem read?_blocks {settled : List Settled} {sts : Listing}
    (h : Listing.read? false ((settled.flatMap overflow).flatMap Text.closedLines) = some sts) :
    sts = settled.flatMap block ∧
      ∀ d ∈ settled, Listing.read? false (d.overflow.flatMap Text.closedLines) = some d.block := by
  induction settled generalizing sts with
  | nil =>
    cases h
    exact ⟨rfl, by simp⟩
  | cons d more ih =>
    rw [List.flatMap_cons, List.flatMap_append] at h
    obtain ⟨front, back, hfront, hback, rfl⟩ := Listing.read?_append.mp h
    obtain ⟨rfl, hmore⟩ := ih hback
    have hblock : d.block = front := by rw [block, hfront, Option.getD_some]
    rw [List.forall_mem_cons, List.flatMap_cons, hblock]
    exact ⟨rfl, hfront, hmore⟩

/-- The lines of a patched dump: those in front of the trailer, the blocks and the trailer. -/
theorem read?_patched {settled : List Settled} {sts sts' : Listing} {final : Statement} {open' rest : List Text}
    {part last : Text} (hreads : ReadAs open' sts) (hfinal : Statement.read? false last = some final)
    (hlast : Text.lines (Text.joinLines (part :: rest)) = [last])
    (h : Listing.read? false (Text.lines (Text.joinLines (open' ++ (settled.flatMap overflow ++ part :: rest)))) =
      some sts') :
    sts' = sts ++ (settled.flatMap block ++ [final]) ∧
      ∀ d ∈ settled, Listing.read? false (d.overflow.flatMap Text.closedLines) = some d.block := by
  rw [← List.append_assoc, Text.lines_joinLines_append _ (List.cons_ne_nil part rest), hlast, List.flatMap_append,
    Listing.read?_append] at h
  obtain ⟨front, back, hfront, hback, rfl⟩ := h
  obtain ⟨body, blocks, hbody, hblocks, rfl⟩ := Listing.read?_append.mp hfront
  have hopen : Listing.read? false (open'.flatMap Text.closedLines) = some sts := by
    rw [Text.flatMap_closedLines hreads.noFeed, Listing.read?_eq_some, List.map_map]
    exact hreads.read_eq
  obtain rfl := Option.some.inj (hopen.symm.trans hbody)
  obtain rfl := Option.some.inj ((read?_singleton hfinal).symm.trans hback)
  obtain ⟨rfl, hread⟩ := read?_blocks hblocks
  exact ⟨List.append_assoc .., hread⟩

theorem block_of_branched {d : Settled} {sts : Listing} {c : Content} (h : d.Sound sts c)
    (hread : Listing.read? false (d.overflow.flatMap Text.closedLines) = some d.block) {slot label : Text}
    {overflow : List Text} (happlication : d.application = .branched slot label overflow) :
    ∃ payload own, d.patch.payload? = some payload ∧ Listing.read? false (Text.closedLines payload) = some own ∧
      d.block = (d.patch.mode.block own c).modifyHead (Statement.withLabels [overflowLabel d.index]) ++
        [⟨[], some (jumpContent (resumeLabel d.index) minSlotLength)⟩] := by
  obtain ⟨-, -, payload, body, hpayload, hfeed, hbody, rfl⟩ := h.branched slot label overflow happlication
  have hoverflow : d.overflow = overflowBlock d.patch.mode d.index payload body := by
    rw [Settled.overflow, happlication]
  rw [hoverflow] at hread
  obtain ⟨own, hown, hblock⟩ := read?_overflowBlock hfeed hbody hread
  exact ⟨payload, own, hpayload, hown, hblock⟩

end Settled

private theorem labels_modifyHead {sts : Listing} (h : sts ≠ []) (names : List Text) :
    Listing.labels (sts.modifyHead (Statement.withLabels names)) = names ++ sts.labels := by
  obtain ⟨st, more, rfl⟩ := List.exists_cons_of_ne_nil h
  rw [List.modifyHead_cons, Listing.labels_cons, Listing.labels_cons, ← List.append_assoc]
  rfl

private theorem labels_block (mode : PatchMode) (own : Listing) (c : Content) : (mode.block own c).labels = own.labels := by
  cases mode <;> simp [PatchMode.block]

theorem block_ne_nil {mode : PatchMode} {own : Listing} {c : Content} (h : own ≠ []) : mode.block own c ≠ [] := by
  cases mode <;> simp [PatchMode.block, h]

theorem overflowLabel_injective : Function.Injective overflowLabel := by
  intro i j h
  rw [← Text.decimalValue_decimal i, List.cons_injective h, Text.decimalValue_decimal]

theorem resumeLabel_injective : Function.Injective resumeLabel := by
  intro i j h
  rw [← Text.decimalValue_decimal i, List.cons_injective (List.cons_injective h), Text.decimalValue_decimal]

theorem overflowLabel_ne_resumeLabel (i j : Nat) : overflowLabel i ≠ resumeLabel j := by
  intro h
  have hdigits : Text.decimal i = 'R' :: Text.decimal j := List.cons_injective h
  have hdigit := List.all_eq_true.mp (Text.all_isDigit_decimal i) 'R' (by rw [hdigits]; exact List.mem_cons_self)
  exact absurd hdigit (by decide)

/-- The labels that the payload of a patch defines. -/
def Patch.labels (p : Patch) : List Text := ((p.payload?.map Text.closedLines).getD []).flatMap lineLabels

namespace Settled

/-- The label of the overflow block of a patch, if there is one. -/
def starts (d : Settled) : List Text :=
  match d.application with
  | .branched .. => [overflowLabel d.index]
  | _ => []

/-- The labels of the payload, if it got into the script. -/
def moved (d : Settled) : List Text :=
  match d.application with
  | .branched .. => d.patch.labels
  | _ => []

private theorem labels_eq {d : Settled} {sts : Listing} {c : Content} (h : d.Sound sts c)
    (hread : Listing.read? false (d.overflow.flatMap Text.closedLines) = some d.block) :
    d.block.labels = d.starts ++ d.moved := by
  cases happlication : d.application with
  | alreadyApplied | erased =>
    have hoverflow : d.overflow = [] := by rw [overflow, happlication]
    have hblock : d.block = [] := by
      rw [block, hoverflow]
      rfl
    rw [hblock, starts, moved, happlication]
    rfl
  | branched slot label overflow =>
    obtain ⟨payload, own, hpayload, hown, hblock⟩ := block_of_branched h hread happlication
    have hne : d.patch.mode.block own c ≠ [] := block_ne_nil (ne_nil_of_read? hown)
    rw [hblock, Listing.labels_append, labels_modifyHead hne, labels_block, starts, moved, happlication]
    dsimp only
    rw [Patch.labels, hpayload, Option.map_some, Option.getD_some, Listing.labels_of_read? hown]
    simp

private theorem nodup_of_indices {settled : List Settled} (hindices : (settled.map index).Nodup) {f : Nat → Text}
    (hf : Function.Injective f) {names : Settled → List Text} (hnames : ∀ d ∈ settled, (names d).Sublist [f d.index]) :
    (settled.flatMap names).Nodup := by
  have hsublist := List.Sublist.flatMap_right settled hnames
  rw [← List.map_eq_flatMap] at hsublist
  have hmap : (settled.map fun d => f d.index) = (settled.map index).map f := by rw [List.map_map]; rfl
  rw [hmap] at hsublist
  exact (hindices.map hf).sublist hsublist

theorem starts_sublist (d : Settled) : d.starts.Sublist [overflowLabel d.index] := by
  rw [starts]
  split
  · exact .refl _
  · exact List.nil_sublist _

theorem resumes_sublist (d : Settled) : d.resumes.Sublist [resumeLabel d.index] := by
  rw [resumes]
  split
  · exact .refl _
  · exact List.nil_sublist _

theorem moved_sublist (d : Settled) : d.moved.Sublist d.patch.labels := by
  rw [moved]
  split
  · exact .refl _
  · exact List.nil_sublist _

/-- No label is defined twice in the patched dump. -/
theorem nodup_labels {settled : List Settled} {body : Listing} {final : Statement}
    (hsettled : ∀ d ∈ settled, ∃ c, d.Sound body c) (hindices : (settled.map index).Nodup)
    (hread : ∀ d ∈ settled, Listing.read? false (d.overflow.flatMap Text.closedLines) = some d.block)
    (hnodup : (Listing.labels (body ++ [final]) ++ settled.flatMap fun d => d.patch.labels).Nodup)
    (hfree : ∀ i, ∀ label ∈ Listing.labels (body ++ [final]) ++ settled.flatMap fun d => d.patch.labels,
      label ≠ overflowLabel i ∧ label ≠ resumeLabel i) :
    (Listing.labels (rewriteAll settled body ++ (settled.flatMap block ++ [final]))).Nodup := by
  have hbody : (rewriteAll settled body).labels.Perm (settled.flatMap resumes ++ body.labels) := by
    apply labels_rewriteAll_perm
    intro d hd
    obtain ⟨c, hc⟩ := hsettled d hd
    exact hc.resumes_lt
  have hblocks : (Listing.labels (settled.flatMap block)).Perm (settled.flatMap starts ++ settled.flatMap moved) := by
    have heq : Listing.labels (settled.flatMap block) = settled.flatMap fun d => d.starts ++ d.moved := by
      rw [Listing.labels, List.flatMap_assoc]
      apply List.flatMap_congr
      intro d hd
      obtain ⟨c, hc⟩ := hsettled d hd
      exact labels_eq hc (hread d hd)
    rw [heq]
    exact (List.flatMap_append_perm settled starts moved).symm
  have hperm : (Listing.labels (rewriteAll settled body ++ (settled.flatMap block ++ [final]))).Perm
      ((settled.flatMap starts ++ settled.flatMap resumes) ++
        (Listing.labels (body ++ [final]) ++ settled.flatMap moved)) := by
    rw [List.perm_iff_count]
    intro label
    simp only [Listing.labels_append, List.count_append, hbody.count_eq, hblocks.count_eq]
    omega
  have hold : (Listing.labels (body ++ [final]) ++ settled.flatMap moved).Sublist
      (Listing.labels (body ++ [final]) ++ settled.flatMap fun d => d.patch.labels) :=
    (List.Sublist.refl _).append (List.Sublist.flatMap_right settled fun d _ => d.moved_sublist)
  have hstarts : ∀ label ∈ settled.flatMap starts, ∃ i, label = overflowLabel i := by
    intro label hlabel
    obtain ⟨d, -, hd⟩ := List.mem_flatMap.mp hlabel
    exact ⟨d.index, List.mem_singleton.mp (d.starts_sublist.subset hd)⟩
  have hresumes : ∀ label ∈ settled.flatMap resumes, ∃ i, label = resumeLabel i := by
    intro label hlabel
    obtain ⟨d, -, hd⟩ := List.mem_flatMap.mp hlabel
    exact ⟨d.index, List.mem_singleton.mp (d.resumes_sublist.subset hd)⟩
  rw [hperm.nodup_iff, List.nodup_append, List.nodup_append]
  refine ⟨⟨nodup_of_indices hindices overflowLabel_injective fun d _ => d.starts_sublist,
    nodup_of_indices hindices resumeLabel_injective fun d _ => d.resumes_sublist, ?_⟩, hnodup.sublist hold, ?_⟩
  · intro label hlabel label' hlabel'
    obtain ⟨i, rfl⟩ := hstarts label hlabel
    obtain ⟨j, rfl⟩ := hresumes label' hlabel'
    exact overflowLabel_ne_resumeLabel i j
  · intro label hlabel label' hlabel'
    have hne := fun i => hfree i label' (hold.subset hlabel')
    rcases List.mem_append.mp hlabel with hlabel | hlabel
    · obtain ⟨i, rfl⟩ := hstarts label hlabel
      exact (hne i).1.symm
    · obtain ⟨i, rfl⟩ := hresumes label hlabel
      exact (hne i).2.symm

end Settled

end SceneScript
