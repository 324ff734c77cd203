import Mathlib
import SceneScript.Proofs.Patch.Blocks
import SceneScript.Proofs.Script.Placement
/-!
# The wiring of a patched script

A patched script keeps every offset of the script it was made from. A slot that became a jump leads to its overflow
block, and the block leads back behind the slot.
-/
namespace SceneScript

/-- Whether a jump of some length to a target stands at an offset of a script. -/
def JumpsAt (out : Bytes) (offset length target : Nat) : Prop :=
  minSlotLength ≤ length ∧ length ≤ 255 ∧ target ≤ lastOffset ∧ (out.drop offset).take length =
    [Opcode.loopCond, UInt8.ofNat length] ++ (Bytes.word16 target ++ List.replicate (length - 4) 0)

/-- Whether an erased slot of some length stands at an offset of a script. -/
def ErasedAt (out : Bytes) (offset length : Nat) : Prop :=
  minSlotLength ≤ length ∧ length ≤ 255 ∧
    (out.drop offset).take length = [0, UInt8.ofNat length] ++ List.replicate (length - 2) 0

/-- How a patched script differs from the original with some listing: `last` are the labels of its trailer line, and
`labelAt` tells where labels stand in the patched script. -/
structure Wired (ts : Typesetter) (sts : Listing) (last : List Text) (settled : List Settled) (labelAt : Text → Nat)
    (out out' : Bytes) : Prop where
  stream_eq : ∀ k < sts.size,
    (∀ d ∈ settled, d.application ≠ .alreadyApplied →
      k < sts.start (d.patch.line - 1) ∨ sts.start d.patch.line ≤ k) →
    (∀ cell ∈ sts.movable last 0, k ≠ cell ∧ k ≠ cell + 1) → out'[k]? = out[k]?
  line_eq : ∀ i st, sts[i]? = some st →
    (∀ d ∈ settled, d.patch.line - 1 = i → d.application = .alreadyApplied) →
    st.StandsAt ts out sts.labelOffset (sts.start i) ∧ st.StandsAt ts out' labelAt (sts.start i)
  label_eq : ∀ label ∈ sts.labels, label ∉ last → labelAt label = sts.labelOffset label
  skipped : ∀ d ∈ settled, d.application = .alreadyApplied →
    ∃ c, sts.contentAt? (d.patch.line - 1) = some c ∧ (c.name = Opcode.loopCondName ∨
      d.patch.mode = .replace ∧ d.patch.payload? = none ∧ c.name = Opcode.nopName)
  erased : ∀ d ∈ settled, ∀ slot, d.application = .erased slot →
    ∃ c, sts.contentAt? (d.patch.line - 1) = some c ∧ d.patch.mode = .replace ∧ d.patch.payload? = none ∧
      sts.start d.patch.line = sts.start (d.patch.line - 1) + c.length ∧
      ErasedAt out' (sts.start (d.patch.line - 1)) c.length
  branched : ∀ d ∈ settled, ∀ slot label overflow, d.application = .branched slot label overflow →
    ∃ c payload own target, sts.contentAt? (d.patch.line - 1) = some c ∧ d.patch.payload? = some payload ∧
      Listing.read? false (Text.closedLines payload) = some own ∧
      sts.start d.patch.line = sts.start (d.patch.line - 1) + c.length ∧ sts.size ≤ target ∧
      JumpsAt out' (sts.start (d.patch.line - 1)) c.length target ∧
      (d.patch.mode.block own c).StandsAt ts out' labelAt target ∧
      JumpsAt out' (target + (d.patch.mode.block own c).size) minSlotLength (sts.start d.patch.line)

/-- A script and what patches made of it: listings that both assemble. -/
structure Rewired (ts : Typesetter) (sts sts' body : Listing) (final : Statement) (settled : List Settled)
    (out out' : Bytes) : Prop where
  original_eq : sts = body ++ [final]
  patched_eq : sts' = Settled.rewriteAll settled body ++ (settled.flatMap Settled.block ++ [final])
  original : ∃ parts trailer, sts.Assembles ts parts trailer ∧ out = sts.image parts trailer
  patched : ∃ parts trailer, sts'.Assembles ts parts trailer ∧ out' = sts'.image parts trailer
  original_nodup : sts.labels.Nodup
  patched_nodup : sts'.labels.Nodup
  final_eq : final.written? = none
  sound : ∀ d ∈ settled, ∃ c opcode, d.Sound body c ∧ c.kind = .instruction opcode
  distinct : (settled.map (·.patch.line - 1)).Nodup
  line_ne_zero : ∀ d ∈ settled, d.patch.line ≠ 0
  read_eq : ∀ d ∈ settled, Listing.read? false (d.overflow.flatMap Text.closedLines) = some d.block

namespace Rewired

variable {ts : Typesetter} {sts sts' body : Listing} {final : Statement} {settled : List Settled} {out out' : Bytes}

/-- Lines keep their offsets. -/
private theorem start_eq (h : Rewired ts sts sts' body final settled out out') {i : Nat} (hi : i ≤ body.length) :
    sts'.start i = sts.start i := by
  have hsizes : (Settled.rewriteAll settled body).map Statement.size = body.map Statement.size := by
    apply Settled.map_size_rewriteAll h.distinct
    intro d hd
    obtain ⟨c, opcode, hsound, hkind⟩ := h.sound d hd
    exact ⟨c, opcode, hsound.content_eq, hkind⟩
  rw [h.original_eq, h.patched_eq, Listing.start, Listing.start, List.take_append_of_le_length hi,
    List.take_append_of_le_length (by rwa [Settled.length_rewriteAll]), Listing.size, Listing.size, List.map_take,
    List.map_take, hsizes]

private theorem getElem?_original (h : Rewired ts sts sts' body final settled out out') {i : Nat} {st : Statement}
    (hst : body[i]? = some st) : sts[i]? = some st := by
  rw [h.original_eq, List.getElem?_append_left (List.getElem?_eq_some_iff.mp hst).1, hst]

private theorem getElem?_patched (h : Rewired ts sts sts' body final settled out out') {i : Nat} {st : Statement}
    (hst : (Settled.rewriteAll settled body)[i]? = some st) : sts'[i]? = some st := by
  rw [h.patched_eq, List.getElem?_append_left (List.getElem?_eq_some_iff.mp hst).1, hst]

private theorem labelOffset_of_mem (h : Rewired ts sts sts' body final settled out out') {i : Nat} {st : Statement}
    (hst : sts'[i]? = some st) {label : Text} (hlabel : label ∈ st.labels) :
    sts'.labelOffset label = sts'.start i ∧ sts'.start i ≤ lastOffset := by
  obtain ⟨parts, trailer, hpatched, -⟩ := h.patched
  exact (hpatched.laidOut h.patched_nodup).label_eq i st hst label hlabel

/-- Labels in front of the trailer keep their offsets. -/
private theorem label_eq (h : Rewired ts sts sts' body final settled out out') {label : Text}
    (hlabel : label ∈ sts.labels) (hlast : label ∉ final.labels) : sts'.labelOffset label = sts.labelOffset label := by
  rw [h.original_eq, Listing.labels_append, List.mem_append] at hlabel
  have hbody : label ∈ body.labels := hlabel.resolve_right (by simpa using hlast)
  obtain ⟨st, hmem, hlabel⟩ := List.mem_flatMap.mp hbody
  obtain ⟨i, hi⟩ := List.getElem?_of_mem hmem
  obtain ⟨st', hst', hsubset, -⟩ := Settled.labels_rewriteAll settled hi
  obtain ⟨parts, trailer, horiginal, -⟩ := h.original
  rw [(h.labelOffset_of_mem (h.getElem?_patched hst') (hsubset hlabel)).1,
    ((horiginal.laidOut h.original_nodup).label_eq i st (h.getElem?_original hi) label hlabel).1]
  exact h.start_eq (List.getElem?_eq_some_iff.mp hi).1.le

/-- A line of the patched script stands where that of the original stood. -/
private theorem line_patched (h : Rewired ts sts sts' body final settled out out') {i : Nat} {c : Content}
    (hc : (Settled.rewriteAll settled body).contentAt? i = some c) :
    Statement.StandsAt ts out' sts'.labelOffset ⟨[], some c⟩ (sts.start i) := by
  obtain ⟨⟨labels, _⟩, hst, rfl⟩ := Option.bind_eq_some_iff.mp hc
  have hi : i < body.length := by
    rw [← Settled.length_rewriteAll settled body]
    exact (List.getElem?_eq_some_iff.mp hst).1
  obtain ⟨parts, trailer, hpatched, rfl⟩ := h.patched
  have hline := hpatched.line (h.getElem?_patched hst)
  rw [h.start_eq hi.le] at hline
  exact hline

private theorem line_eq (h : Rewired ts sts sts' body final settled out out') {i : Nat} {st : Statement}
    (hst : sts[i]? = some st) (huntouched : ∀ d ∈ settled, d.patch.line - 1 = i → d.application = .alreadyApplied) :
    st.StandsAt ts out sts.labelOffset (sts.start i) ∧ st.StandsAt ts out' sts'.labelOffset (sts.start i) := by
  obtain ⟨parts, trailer, horiginal, rfl⟩ := h.original
  refine ⟨horiginal.line hst, ?_⟩
  cases hw : st.written? with
  | none =>
    refine ⟨[], ?_, ?_⟩
    · rw [Statement.size, Statement.bytes, hw]
      exact List.take_zero
    · rw [Statement.strings, hw]
      exact .nil
  | some c =>
    have hc := (Option.filter_eq_some_iff.mp hw).1
    have hbody : body.contentAt? i = some c := by
      have hne : st ≠ final := by
        rintro rfl
        rw [h.final_eq] at hw
        cases hw
      rw [h.original_eq, List.getElem?_append] at hst
      split_ifs at hst with hi
      · rw [Listing.contentAt?, hst, Option.bind_some, hc]
      · exact absurd (List.mem_singleton.mp (List.mem_of_getElem? hst)) hne
    rw [← Settled.contentAt?_rewriteAll_of_untouched huntouched] at hbody
    have hline := h.line_patched hbody
    obtain ⟨labels, _⟩ := st
    obtain rfl : _ = some c := hc
    exact hline

/-- Outside the slots and the words that hold offsets, the streams are the same. -/
private theorem stream_eq (h : Rewired ts sts sts' body final settled out out') {k : Nat} (hk : k < sts.size)
    (hslots : ∀ d ∈ settled, d.application ≠ .alreadyApplied →
      k < sts.start (d.patch.line - 1) ∨ sts.start d.patch.line ≤ k)
    (hcells : ∀ cell ∈ sts.movable final.labels 0, k ≠ cell ∧ k ≠ cell + 1) : out'[k]? = out[k]? := by
  -- The offset lies in some line, which is no slot and refers to labels that keep their offsets.
  obtain ⟨i, st, hst, hle, hlt⟩ := Listing.exists_line_of_lt_size hk
  have huntouched : ∀ d ∈ settled, d.patch.line - 1 = i → d.application = .alreadyApplied := by
    intro d hd hline
    by_contra hne
    have hzero := h.line_ne_zero d hd
    have hnext : d.patch.line = i + 1 := by omega
    have hslot := hslots d hd hne
    rw [hline, hnext, Listing.start_succ hst] at hslot
    omega
  obtain ⟨⟨offsets, hbytes, -⟩, offsets', hbytes', -⟩ := h.line_eq hst huntouched
  have htargets : ∀ label ∈ st.targets, label ∉ final.labels → sts.labelOffset label = sts'.labelOffset label := by
    intro label hlabel hlast
    obtain ⟨parts, trailer, horiginal, -⟩ := h.original
    have hdefined := horiginal.defined label (List.mem_flatMap.mpr ⟨st, List.mem_of_getElem? hst, hlabel⟩)
    exact (h.label_eq hdefined hlast).symm
  have hagree := (Statement.agreesOutside_bytes htargets (sts.start i) offsets offsets').2 (k - sts.start i)
  rw [← hbytes, ← hbytes', List.getElem?_take_of_lt (by omega), List.getElem?_take_of_lt (by omega),
    List.getElem?_drop, List.getElem?_drop, Nat.add_sub_cancel' hle] at hagree
  apply hagree
  intro cell hcell
  exact hcells cell (Listing.movable_subset hst _ hcell)

/-- The slot of a patch keeps its place and its length. -/
private theorem exists_slot (h : Rewired ts sts sts' body final settled out out') {d : Settled} (hd : d ∈ settled) :
    ∃ c, d.Sound body c ∧ sts.contentAt? (d.patch.line - 1) = some c ∧ c.length ≤ 255 ∧
      sts.start d.patch.line = sts.start (d.patch.line - 1) + c.length ∧
      ∃ offsets, (out'.drop (sts.start (d.patch.line - 1))).take c.length =
        (d.slot c).bytes sts'.labelOffset offsets := by
  obtain ⟨c, opcode, hsound, hkind⟩ := h.sound d hd
  obtain ⟨st, hst, hc⟩ := Option.bind_eq_some_iff.mp hsound.content_eq
  have hst' := h.getElem?_original hst
  have hnext : d.patch.line = d.patch.line - 1 + 1 := by
    have := h.line_ne_zero d hd
    omega
  have hsize : st.size = c.length := by
    rw [Statement.size, Statement.written?_eq hc (by simp [hkind])]
    rfl
  refine ⟨c, hsound, by rw [Listing.contentAt?, hst', Option.bind_some, hc], ?_, ?_, ?_⟩
  · obtain ⟨parts, trailer, horiginal, -⟩ := h.original
    have hopens := ((Listing.fitsAt_of_getElem? horiginal.fits hst').2 c hc).1
    rwa [hkind] at hopens
  · conv_lhs => rw [hnext]
    rw [Listing.start_succ hst', hsize]
  · have hslot := Settled.contentAt?_rewriteAll_of_mem h.distinct hd body
    rw [hsound.content_eq, Option.map_some] at hslot
    obtain ⟨opcode', hkind'⟩ := d.slot_kind hkind
    have hwritten : Statement.written? ⟨[], some (d.slot c)⟩ = some (d.slot c) :=
      Statement.written?_eq rfl (by simp [hkind'])
    obtain ⟨offsets, hbytes, -⟩ := h.line_patched hslot
    rw [Statement.size, Statement.bytes, hwritten, Option.map_some, Option.getD_some, Option.map_some,
      Option.getD_some, d.slot_length] at hbytes
    exact ⟨offsets, hbytes⟩

private theorem skipped (h : Rewired ts sts sts' body final settled out out') {d : Settled} (hd : d ∈ settled)
    (happlication : d.application = .alreadyApplied) :
    ∃ c, sts.contentAt? (d.patch.line - 1) = some c ∧ (c.name = Opcode.loopCondName ∨
      d.patch.mode = .replace ∧ d.patch.payload? = none ∧ c.name = Opcode.nopName) := by
  obtain ⟨c, hsound, hc, -⟩ := h.exists_slot hd
  exact ⟨c, hc, hsound.skipped happlication⟩

private theorem erased (h : Rewired ts sts sts' body final settled out out') {d : Settled} (hd : d ∈ settled)
    {slot : Text} (happlication : d.application = .erased slot) :
    ∃ c, sts.contentAt? (d.patch.line - 1) = some c ∧ d.patch.mode = .replace ∧ d.patch.payload? = none ∧
      sts.start d.patch.line = sts.start (d.patch.line - 1) + c.length ∧
      ErasedAt out' (sts.start (d.patch.line - 1)) c.length := by
  obtain ⟨c, hsound, hc, hshort, hnext, offsets, hbytes⟩ := h.exists_slot hd
  obtain ⟨hlong, hmode, hpayload⟩ := hsound.erased slot happlication
  have hslot : d.slot c = nopContent c.length := by rw [Settled.slot, happlication]
  rw [hslot, bytes_nopContent] at hbytes
  exact ⟨c, hc, hmode, hpayload, hnext, hlong, hshort, hbytes⟩

/-- The label after a slot that became a jump stands right behind the slot. -/
private theorem resumeLabel_eq (h : Rewired ts sts sts' body final settled out out') {d : Settled} (hd : d ∈ settled)
    {slot label : Text} {overflow : List Text} (happlication : d.application = .branched slot label overflow) :
    sts'.labelOffset (resumeLabel d.index) = sts.start d.patch.line ∧ sts.start d.patch.line ≤ lastOffset := by
  obtain ⟨c, -, hsound, -⟩ := h.sound d hd
  have hlt := (hsound.branched slot label overflow happlication).2.1
  obtain ⟨st, hst, -, hresumes⟩ := Settled.labels_rewriteAll settled (List.getElem?_eq_getElem hlt)
  have hmem : resumeLabel d.index ∈ d.resumes := by
    rw [Settled.resumes, happlication]
    exact List.mem_singleton_self _
  have hlabel := h.labelOffset_of_mem (h.getElem?_patched hst) (hresumes d hd rfl hmem)
  rwa [h.start_eq hlt.le] at hlabel

/-- The overflow begins where the stream of the original ended. -/
private theorem size_rewriteAll (h : Rewired ts sts sts' body final settled out out') :
    (Settled.rewriteAll settled body).size = sts.size := by
  have hfinal : final.size = 0 := by
    rw [Statement.size, h.final_eq]
    rfl
  have hpatched : sts'.start body.length = (Settled.rewriteAll settled body).size := by
    rw [h.patched_eq, Listing.start, ← Settled.length_rewriteAll settled body, List.take_left]
  rw [← hpatched, h.start_eq (Nat.le_refl _), h.original_eq, Listing.start, List.take_left, Listing.size_append,
    Listing.size_cons, Listing.size_nil, hfinal]
  rfl

/-- An overflow block stands where its label does. -/
private theorem block_standsAt (h : Rewired ts sts sts' body final settled out out') {d : Settled} (hd : d ∈ settled)
    {sts₀ : Listing} {back : Statement} (hne : sts₀ ≠ [])
    (hblock : d.block = sts₀.modifyHead (Statement.withLabels [overflowLabel d.index]) ++ [back]) :
    ∃ target, sts'.labelOffset (overflowLabel d.index) = target ∧ sts.size ≤ target ∧ target ≤ lastOffset ∧
      sts₀.StandsAt ts out' sts'.labelOffset target ∧
      back.StandsAt ts out' sts'.labelOffset (target + sts₀.size) := by
  obtain ⟨st, more, rfl⟩ := List.exists_cons_of_ne_nil hne
  obtain ⟨before, after, hsettled⟩ := List.append_of_mem hd
  -- The patched script is cut in front of the block, before its jump back and behind it.
  let front : Listing := Settled.rewriteAll settled body ++ before.flatMap Settled.block
  let starting : Listing := st.withLabels [overflowLabel d.index] :: more
  let rest : Listing := after.flatMap Settled.block ++ [final]
  have hsplit : sts' = front ++ (starting ++ ([back] ++ rest)) := by
    have hblocks : settled.flatMap Settled.block =
        before.flatMap Settled.block ++ ((starting ++ [back]) ++ after.flatMap Settled.block) := by
      conv_lhs => rw [hsettled]
      rw [List.flatMap_append, List.flatMap_cons, hblock, List.modifyHead_cons]
    rw [h.patched_eq, hblocks]
    simp only [front, rest, List.append_assoc]
  have hsplit' : sts' = (front ++ starting) ++ ([back] ++ rest) := by
    rw [hsplit]
    exact (List.append_assoc ..).symm
  have hst : sts'[front.length]? = some (st.withLabels [overflowLabel d.index]) := by
    rw [hsplit, List.getElem?_append_right (Nat.le_refl _), Nat.sub_self]
    rfl
  have hfront : sts'.start front.length = front.size := by rw [hsplit, Listing.start, List.take_left]
  have hlabel := h.labelOffset_of_mem hst (List.mem_cons_self : overflowLabel d.index ∈ _)
  rw [hfront] at hlabel
  obtain ⟨parts, trailer, hpatched, rfl⟩ := h.patched
  have hstands := hpatched.segment hsplit
  refine ⟨front.size, hlabel.1, ?_, hlabel.2, hstands, ?_⟩
  · rw [← h.size_rewriteAll, Listing.size_append]
    exact Nat.le_add_right _ _
  · have hback := Listing.standsAt_singleton.mp (hpatched.segment hsplit')
    rwa [Listing.size_append] at hback

/-- A slot that became a jump leads to its block, and the block back behind the slot. -/
private theorem branched (h : Rewired ts sts sts' body final settled out out') {d : Settled} (hd : d ∈ settled)
    {slot label : Text} {overflow : List Text} (happlication : d.application = .branched slot label overflow) :
    ∃ c payload own target, sts.contentAt? (d.patch.line - 1) = some c ∧ d.patch.payload? = some payload ∧
      Listing.read? false (Text.closedLines payload) = some own ∧
      sts.start d.patch.line = sts.start (d.patch.line - 1) + c.length ∧ sts.size ≤ target ∧
      JumpsAt out' (sts.start (d.patch.line - 1)) c.length target ∧
      (d.patch.mode.block own c).StandsAt ts out' sts'.labelOffset target ∧
      JumpsAt out' (target + (d.patch.mode.block own c).size) minSlotLength (sts.start d.patch.line) := by
  obtain ⟨c, hsound, hc, hshort, hnext, slotOffsets, hslot⟩ := h.exists_slot hd
  obtain ⟨payload, own, hpayload, hown, hblock⟩ := Settled.block_of_branched hsound (h.read_eq d hd) happlication
  obtain ⟨target, htarget, hbehind, hreach, hstands, backOffsets, hback, -⟩ :=
    h.block_standsAt hd (block_ne_nil (ne_nil_of_read? hown)) hblock
  obtain ⟨hresume, hresumeReach⟩ := h.resumeLabel_eq hd happlication
  have hcontent : d.slot c = jumpContent (overflowLabel d.index) c.length := by rw [Settled.slot, happlication]
  rw [hcontent, bytes_jumpContent, htarget] at hslot
  have hjump : Statement.bytes sts'.labelOffset backOffsets
      ⟨[], some (jumpContent (resumeLabel d.index) minSlotLength)⟩ =
        (jumpContent (resumeLabel d.index) minSlotLength).bytes sts'.labelOffset backOffsets := rfl
  rw [hjump, bytes_jumpContent, hresume] at hback
  exact ⟨c, payload, own, target, hc, hpayload, hown, hnext, hbehind,
    ⟨(hsound.branched slot label overflow happlication).1, hshort, hreach, hslot⟩, hstands,
    ⟨Nat.le_refl _, by decide, hresumeReach, hback⟩⟩

theorem wired (h : Rewired ts sts sts' body final settled out out') :
    Wired ts sts final.labels settled sts'.labelOffset out out' where
  stream_eq _ := h.stream_eq
  line_eq _ _ := h.line_eq
  label_eq _ := h.label_eq
  skipped _ := h.skipped
  erased _ hd _ := h.erased hd
  branched _ hd _ _ _ := h.branched hd

end Rewired

private theorem written?_of_trailer {st : Statement} {c : Content} (h : st.content? = some c)
    (hkind : c.kind = .trailer) : st.written? = none := by
  rw [Statement.written?, h, Option.filter_some, if_neg (by simp [hkind])]

/-- Patching keeps the offsets of a scene, and each slot that became a jump leads through its block and back. -/
theorem wired_of_applyPatches {name : String} {dump patched last : Text} {patches : List Patch} {ts : Typesetter}
    {out out' : Bytes} {sts : Listing} {front : List Text} (hscene : isRecordFile name = false)
    (hpatched : (applyPatches name dump patches).1 = .ok patched) (hout : (assemble name dump ts).1 = .ok out)
    (hout' : (assemble name patched ts).1 = .ok out') (hread : Listing.read? false (Text.lines dump) = some sts)
    (hdistinct : (patches.map Patch.line).Nodup)
    (htargets : ∀ p ∈ patches, p.line ≠ 0 ∧
      ∃ c opcode, sts.contentAt? (p.line - 1) = some c ∧ c.kind = .instruction opcode)
    (hlines : Text.lines dump = front ++ [last]) (htrailer : isTrailer last = true)
    (hnodup : (sts.labels ++ patches.flatMap Patch.labels).Nodup)
    (hfree : ∀ i, ∀ label ∈ sts.labels ++ patches.flatMap Patch.labels,
      label ≠ overflowLabel i ∧ label ≠ resumeLabel i) :
    ∃ sts', Listing.read? false (Text.lines patched) = some sts' ∧
      Wired ts sts (lineLabels last) (settledPatches name dump patches) sts'.labelOffset out out' := by
  obtain ⟨body, final, open', part, rest, rfl, hfinal, hsplit, hreads, hpart, hrest, hlast⟩ :=
    exists_readAs hlines htrailer hread
  obtain ⟨cfinal, hcfinal, hkfinal⟩ := content_of_isTrailer htrailer hfinal
  have hwritten := written?_of_trailer hcfinal hkfinal
  have horiginalNodup : (Listing.labels (body ++ [final])).Nodup := hnodup.sublist (List.sublist_append_left _ _)
  obtain ⟨parts, trailer, horiginal, rfl⟩ := (assemble_ok_iff (by rwa [hscene]) horiginalNodup).mp hout
  have htargets' : ∀ p ∈ patches, p.line ≠ 0 ∧
      ∃ c opcode, body.contentAt? (p.line - 1) = some c ∧ c.kind = .instruction opcode ∧ c.length ≤ 255 := by
    intro p hp
    obtain ⟨hline, c, opcode, hcontent, hkind⟩ := htargets p hp
    obtain ⟨st, hst, hc⟩ := Option.bind_eq_some_iff.mp hcontent
    have hopens := ((Listing.fitsAt_of_getElem? horiginal.fits hst).2 c hc).1
    rw [hkind] at hopens
    refine ⟨hline, c, opcode, ?_, hkind, hopens⟩
    rw [List.getElem?_append] at hst
    split_ifs at hst with hi
    · rw [Listing.contentAt?, hst, Option.bind_some, hc]
    · obtain rfl := List.mem_singleton.mp (List.mem_of_getElem? hst)
      obtain rfl := Option.some.inj (hc.symm.trans hcfinal)
      rw [hkfinal] at hkind
      cases hkind
  obtain ⟨hpatches, hindices, hsound, open'', hreads', rfl⟩ :=
    applyPatches_ok hsplit hpart hrest hreads hdistinct (by
      intro p hp
      obtain ⟨hline, c, -, hcontent, -, hshort⟩ := htargets' p hp
      exact ⟨hline, c, hcontent, lt_of_le_of_lt hshort (by decide)⟩) hpatched
  let settled := settledPatches name dump patches
  have hlabels : (settled.flatMap fun d => d.patch.labels) = patches.flatMap Patch.labels := by
    rw [← hpatches, List.flatMap_map]
  have hlineNumbers : settled.map (·.patch.line - 1) = patches.map (·.line - 1) := by
    rw [← hpatches, List.map_map]
    rfl
  obtain ⟨sts', hread'⟩ := read?_of_assemble hout'
  rw [hscene] at hread'
  obtain ⟨rfl, hblocks⟩ := Settled.read?_patched hreads' hfinal hlast hread'
  have hindicesNodup : (settled.map Settled.index).Nodup := by
    rw [hindices]
    exact List.nodup_range'
  have hpatchedNodup := Settled.nodup_labels hsound hindicesNodup hblocks (by rwa [hlabels]) (by rwa [hlabels])
  obtain ⟨parts', trailer', hpatched', rfl⟩ := (assemble_ok_iff (by rwa [hscene]) hpatchedNodup).mp hout'
  have hrewired : Rewired ts (body ++ [final]) _ body final settled _ _ :=
    { original_eq := rfl
      patched_eq := rfl
      original := ⟨parts, trailer, horiginal, rfl⟩
      patched := ⟨parts', trailer', hpatched', rfl⟩
      original_nodup := horiginalNodup
      patched_nodup := hpatchedNodup
      final_eq := hwritten
      sound := by
        intro d hd
        obtain ⟨c, hc⟩ := hsound d hd
        obtain ⟨-, c', opcode, hcontent, hkind, -⟩ := htargets' d.patch (hpatches ▸ List.mem_map_of_mem hd)
        obtain rfl := Option.some.inj (hc.content_eq.symm.trans hcontent)
        exact ⟨c, opcode, hc, hkind⟩
      distinct := by
        rw [hlineNumbers]
        apply hdistinct.of_map.map_on
        intro p hp q hq heq
        have hp₀ := (htargets' p hp).1
        have hq₀ := (htargets' q hq).1
        exact List.inj_on_of_nodup_map hdistinct hp hq (by omega)
      line_ne_zero := fun d hd => (htargets' d.patch (hpatches ▸ List.mem_map_of_mem hd)).1
      read_eq := hblocks }
  refine ⟨_, hread', ?_⟩
  rw [← Statement.labels_of_read? hfinal]
  exact hrewired.wired

/-- A message put in after the first instruction, and the third one erased. -/
theorem wired_of_applyPatches_message :
    let dump := ("header.1\n&a: fade_in.10 00-00-00-00-00-00-00-00\nmessage.8 00-00-00-00-S @Hi\n" ++
      "fade_in.10 00-00-00-00-00-00-00-00\nkey_wait.2\ntrailer.1 FF").toList
    let patched := ("header.1\n&a: Loop_Cond.10 &P1-00-00-00-00-00-00\n&PR1: message.8 00-00-00-00-S @Hi\n" ++
      "nop.10 00-00-00-00-00-00-00-00\nkey_wait.2\n&P1: fade_in.10 00-00-00-00-00-00-00-00\n" ++
      "&in: message.8 00-00-00-00-S @Yo\nLoop_Cond.10 &PR1-00-00-00-00-00-00\ntrailer.1 FF").toList
    let patches : List Patch :=
      [⟨.insertAfter, 2, "fade_in.10".toList, true, some "&in: message.8 00-00-00-00-S @Yo".toList⟩,
        ⟨.replace, 4, "fade_in.10".toList, true, none⟩]
    let zeros : Bytes := List.replicate 8 0
    let out : Bytes := [1, 0x31, 10] ++ zeros ++ [0x18, 8, 0, 0, 0, 0, 31, 0] ++ [0x31, 10] ++ zeros ++
      [0x15, 2, 0x48, 0x69, 0, 0xFF]
    let out' : Bytes := [1, 6, 10, 31] ++ zeros.drop 1 ++ [0x18, 8, 0, 0, 0, 0, 59, 0] ++ [0, 10] ++ zeros ++
      [0x15, 2, 0x31, 10] ++ zeros ++ [0x18, 8, 0, 0, 0, 0, 62, 0, 6, 10, 11] ++ zeros.drop 1 ++
      [0x48, 0x69, 0, 0x59, 0x6F, 0, 0xFF]
    (applyPatches "SC01" dump patches).1 = .ok patched ∧ (assemble "SC01" dump (.plain .big5)).1 = .ok out ∧
      (assemble "SC01" patched (.plain .big5)).1 = .ok out' ∧
      ∃ sts sts', Listing.read? false (Text.lines dump) = some sts ∧
        Listing.read? false (Text.lines patched) = some sts' ∧
        Wired (.plain .big5) sts [] (settledPatches "SC01" dump patches) sts'.labelOffset out out' := by
  intro dump patched patches zeros out out'
  have hpatched : (applyPatches "SC01" dump patches).1 = .ok patched := by decide +kernel
  have hout : (assemble "SC01" dump (.plain .big5)).1 = .ok out := by decide +kernel
  have hout' : (assemble "SC01" patched (.plain .big5)).1 = .ok out' := by decide +kernel
  obtain ⟨sts, hread⟩ := read?_of_assemble hout
  have hsts : sts = (Listing.read? false (Text.lines dump)).getD [] := by
    rw [show Listing.read? false (Text.lines dump) = some sts from hread, Option.getD_some]
  have hlabels : sts.labels ++ patches.flatMap Patch.labels = ["a".toList, "in".toList] := by
    rw [hsts]
    decide +kernel
  obtain ⟨sts', hread', hwired⟩ := wired_of_applyPatches rfl hpatched hout hout' hread (by decide)
    (by
      rw [hsts, List.forall_mem_cons, List.forall_mem_singleton]
      let fadeIn : Content := ⟨.instruction 0x31, "fade_in".toList, 10, List.replicate 8 (.byte 0)⟩
      exact ⟨⟨by decide, fadeIn, 0x31, by decide +kernel, rfl⟩, ⟨by decide, fadeIn, 0x31, by decide +kernel, rfl⟩⟩)
    (by decide +kernel : Text.lines dump = (Text.lines dump).dropLast ++ ["trailer.1 FF".toList]) (by decide +kernel)
    (by rw [hlabels]; decide)
    (by
      intro i
      rw [hlabels, List.forall_mem_cons, List.forall_mem_singleton]
      simp [overflowLabel, resumeLabel])
  rw [show lineLabels "trailer.1 FF".toList = [] by decide +kernel] at hwired
  exact ⟨hpatched, hout, hout', sts, sts', hread, hread', hwired⟩

/-- A jump to a label of the trailer line does not keep its target, although it stands in no slot and holds no string:
the blocks are put in front of that line. -/
theorem applyPatches_moves_trailer :
    let dump := ("header.1\nLoop_Cond.10 &end-00-00-00-00-00-00\nfade_in.10 00-00-00-00-00-00-00-00\n" ++
      "key_wait.2\n&end: trailer.0").toList
    let patched := ("header.1\nLoop_Cond.10 &end-00-00-00-00-00-00\nLoop_Cond.10 &P1-00-00-00-00-00-00\n" ++
      "&PR1: key_wait.2\n&P1: key_wait.2\nLoop_Cond.10 &PR1-00-00-00-00-00-00\n&end: trailer.0").toList
    let p : Patch := ⟨.replace, 3, "fade_in.10".toList, true, some "key_wait.2".toList⟩
    let fadeIn : Content := ⟨.instruction 0x31, "fade_in".toList, 10, List.replicate 8 (.byte 0)⟩
    (applyPatches "SC01" dump [p]).1 = .ok patched ∧
      (Text.lines dump).map isTrailer = [false, false, false, false, true] ∧
      ∃ out out' sts, (assemble "SC01" dump (.plain .big5)).1 = .ok out ∧
        (assemble "SC01" patched (.plain .big5)).1 = .ok out' ∧
        Listing.read? (isRecordFile "SC01") (Text.lines dump) = some sts ∧ sts.contentAt? 2 = some fadeIn ∧
        sts.labels ++ p.labels = ["end".toList] ∧ sts.strings = [] ∧ sts.start 2 = 11 ∧ sts.start 3 = 21 ∧
        out[3]? = some 23 ∧ out'[3]? = some 35 := by
  intro dump patched p fadeIn
  let zeros : Bytes := List.replicate 8 0
  have hout : (assemble "SC01" dump (.plain .big5)).1 =
      .ok ([1, 6, 10, 23] ++ zeros.drop 1 ++ [0x31, 10] ++ zeros ++ [0x15, 2]) := by decide +kernel
  have hout' : (assemble "SC01" patched (.plain .big5)).1 =
      .ok ([1, 6, 10, 35] ++ zeros.drop 1 ++ [6, 10, 23] ++ zeros.drop 1 ++ [0x15, 2, 0x15, 2, 6, 10, 21] ++
        zeros.drop 1) := by decide +kernel
  obtain ⟨sts, hread⟩ := read?_of_assemble hout
  have hsts : sts = (Listing.read? (isRecordFile "SC01") (Text.lines dump)).getD [] := by rw [hread, Option.getD_some]
  refine ⟨by decide +kernel, by decide +kernel, _, _, sts, hout, hout', hread, ?_⟩
  rw [hsts]
  decide +kernel

end SceneScript
