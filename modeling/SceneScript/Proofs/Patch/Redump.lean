import Mathlib
import SceneScript.Proofs.Patch.PatchedScript
import SceneScript.Proofs.Script.Placement
/-!
# Editing a patched script

The dump of a patched script shows the instructions of the original with their strings, which can be replaced like those of
any script. The overflow blocks stand behind the instruction that ends the script, so that the dump shows them as bytes: when
strings are replaced, the pointers of the blocks stay as they are, while their strings move with the end of the pool.
-/
namespace SceneScript

/-- Whether lines fill a stretch of a script, and which offsets their cells hold. -/
def Listing.Fills (sts : Listing) (offsets : List Nat) (out : Bytes) (start : Nat) : Prop :=
  sts.Writes offsets ((out.drop start).take sts.size)

/-- Whether a string is written at an offset of a script, which may be past what a pointer can reach. -/
def PoolString.WrittenAt (ts : Typesetter) (out : Bytes) (s : PoolString) (offset : Nat) : Prop :=
  ∃ part, s.part? ts = some part ∧ (out.drop offset).take part.length = part

namespace Reading

/-! ## The pool -/

theorem writtenAt_poolOffsets {ts : Typesetter} {out after : Bytes} {offset : Nat} {strings : List PoolString}
    {parts : List Bytes} (hparts : List.Forall₂ (fun s part => PoolString.part? ts s = some part) strings parts)
    (hdrop : out.drop offset = parts.flatten ++ after) :
    List.Forall₂ (PoolString.WrittenAt ts out) strings (poolOffsets offset parts) := by
  refine forall₂_comp hparts (drop_poolOffsets hdrop).flip fun s part start _ hpart ⟨rest, hrest⟩ => ?_
  exact ⟨part, hpart, by rw [hrest, List.take_left]⟩

theorem standsAt_of_writtenAt {ts : Typesetter} {out : Bytes} {strings : List PoolString} {offsets : List Nat}
    (h : List.Forall₂ (PoolString.WrittenAt ts out) strings offsets) (hreach : ∀ offset ∈ offsets, offset ≤ lastOffset) :
    List.Forall₂ (PoolString.StandsAt ts out) strings offsets := by
  have hflip : List.Forall₂ (flip (PoolString.StandsAt ts out)) offsets strings :=
    forall₂_imp_mem h.flip fun offset hoffset _ hwritten => ⟨hreach offset hoffset, hwritten⟩
  exact hflip.flip

/-- Parts that come to stand elsewhere all move by as much. -/
theorem poolOffsets_moved {start start' size size' : Nat} (h : start' + size = start + size')
    (parts : List Bytes) :
    poolOffsets start' parts = (poolOffsets start parts).map fun offset => offset + size' - size := by
  rw [poolOffsets_eq, poolOffsets_eq, List.map_map]
  refine List.map_congr_left fun k _ => ?_
  simp only [Function.comp_apply]
  omega

/-! ## A dump in which strings were replaced -/

theorem raw_injective {name : Text} {length length' : Nat} {content content' : Bytes}
    (h : Row.raw name length content = Row.raw name length' content') : content = content' := by
  have hops : content.map Operand.byte = content'.map Operand.byte := congrArg Row.operands h
  exact List.map_injective_iff.mpr (fun _ _ => Operand.byte.inj) hops

theorem paddingRows_injective {gap gap' : Bytes} (h : paddingRows gap = paddingRows gap') : gap = gap' := by
  rw [← flatMap_bytes_paddingRows false gap, h, flatMap_bytes_paddingRows]

theorem alike_refl {rows : List Row} (h : ∀ offset ∈ rows.flatMap Row.pointers, offset ≤ lastOffset) :
    List.Forall₂ Row.Alike rows rows :=
  List.forall₂_same.mpr fun row hrow =>
    ⟨rfl, rfl, rfl, alike_self fun offset hoffset => h offset (List.mem_flatMap.mpr ⟨row, hrow, hoffset⟩)⟩

theorem alike_trans {rows rows' rows'' : List Row} (h : List.Forall₂ Row.Alike rows rows')
    (h' : List.Forall₂ Row.Alike rows' rows'') : List.Forall₂ Row.Alike rows rows'' := by
  refine forall₂_comp h h' fun row row' row'' _ hrow hrow' => ⟨hrow'.start_eq.trans hrow.start_eq,
    hrow'.name_eq.trans hrow.name_eq, hrow'.length_eq.trans hrow.length_eq, ?_⟩
  refine forall₂_comp hrow.operands hrow'.operands fun op op' op'' _ hop hop' => ?_
  cases op with
  | pointer target =>
    cases op' with
    | pointer target' =>
      cases op'' with
      | pointer target'' => exact hop'
      | byte | jump => cases hop'
    | byte | jump => cases hop
  | byte | jump =>
    cases hop
    exact hop'

theorem length_pointers_alike {rows rows' : List Row} (h : List.Forall₂ Row.Alike rows rows') :
    (rows'.flatMap Row.pointers).length = (rows.flatMap Row.pointers).length := by
  induction h with
  | nil => rfl
  | cons hrow _ ih =>
    rw [List.flatMap_cons, List.flatMap_cons, List.length_append, List.length_append, ih, Row.pointers, Row.pointers,
      Operand.length_pointers_alike hrow.operands]

/-- What a dump in which strings were replaced assembles to: the header, the padding and the trailer of the script, its rows
with pointers to the new strings, and these in place of the old ones. -/
theorem exists_of_assemble_refilled {r : Reading} {header : Row} {w : Walked} {rows : List Row} {ts : Typesetter} {out : Bytes}
    (hwalks : r.Walks header w) (hrefilled : List.Forall₂ Row.Refilled w.rows rows)
    (hwritable : ∀ row ∈ rows, row.Writable) (hlength : r.bytes.length < Text.numberBound)
    (h : (assemble r.name (showRows (header :: (rows ++ (r.padding w ++ [r.trailer w])))) ts).1 = .ok out) :
    ∃ content gap t rows' parts, header = headerRow content ∧ r.padding w = paddingRows gap ∧ r.trailer w = Row.trailer t ∧
      List.Forall₂ Row.Alike w.rows rows' ∧ Body (isRecordFile r.name) (content.length + 1) rows' ∧
      List.Forall₂ (fun s part => PoolString.part? ts s = some part) (stringsOf rows) parts ∧
      rows'.flatMap Row.pointers = poolOffsets (content.length + 1 + rowsLength rows' + gap.length) parts ∧
      out = scriptBytes (isRecordFile r.name) content rows' gap parts.flatten t := by
  obtain ⟨content, gap, rest, t, rfl, hcontent, hbody, hresolves, -, hpadding, htrailer, hbytes, ht, -⟩ :=
    dissect_padding hwalks
  have hgapLength : gap.length < Text.numberBound := by
    have hlengths := congrArg List.length hbytes
    simp only [List.length_cons, List.length_append] at hlengths
    omega
  have halike := refilled_alike hrefilled hbody.words.1
  have hbody' := body_alike halike hbody
  have hcount := refilled_count hrefilled hresolves.count
  rw [hpadding, htrailer, ← scriptRows] at h
  obtain ⟨rows', parts, hrows, hparts, hpointers, hout⟩ :=
    exists_of_assemble_scriptRows hcontent hbody' hcount hwritable hgapLength (Nat.lt_of_le_of_lt ht hlength) h
  have halike' := hrows.imp fun _ _ hrow => hrow.1
  rw [stringsOf_alike hrows] at hparts
  exact ⟨content, gap, t, rows', parts, rfl, hpadding, htrailer, alike_trans halike halike', body_alike halike' hbody',
    hparts, hpointers, hout⟩

/-! ## The blocks -/

namespace PatchedImage

variable {name : String} {cs : Charset} {content rest trailer out : Bytes} {front blocks : Listing} {rows : List Row}
  {own more : List Bytes}

/-- A walk of the script ends in front of the blocks if an instruction ends the script there. -/
theorem exists_walks (h : PatchedImage (.plain cs) content front blocks rows own more rest trailer out)
    (hrecords : isRecordFile name = false) (hcontent : content.length < 255)
    (hunread : ∀ s ∈ stringsOf rows, ∀ c ∈ s.content, c ∉ Charset.unread)
    (hends : ∃ row ∈ rows.getLast?, row.name = Opcode.ret2Name) :
    ∃ w gap t, Walks ⟨name, out, cs⟩ (headerRow content) w ∧ w.rows = rows ∧
      padding ⟨name, out, cs⟩ w = paddingRows gap ∧ Reading.trailer ⟨name, out, cs⟩ w = Row.trailer t ∧
      ∀ pool : Bytes, (own = [] → pool = []) → gap ++ (pool ++ t) = rest ++ (pool ++ (more.flatten ++ trailer)) := by
  obtain ⟨segments, rfl, hreads⟩ := h.exists_segments hunread
  have hbody : Body (isRecordFile name) (content.length + 1) rows := by
    rw [hrecords]
    exact h.instructions
  have hout := h.out_eq
  rw [← hrecords] at hout
  by_cases hnil : segments = []
  · subst hnil
    have hout' : out = scriptBytes (isRecordFile name) content rows [] (PoolSegment.parts []).flatten
        (rest ++ (more.flatten ++ trailer)) := by
      rw [hout]
      rfl
    have hpointers : rows.flatMap Row.pointers =
        poolOffsets (content.length + 1 + rowsLength rows + ([] : Bytes).length) (PoolSegment.parts []) :=
      h.pointers_eq.trans rfl
    obtain ⟨w, hwalks, hrows, hpadding, htrailer⟩ := walks_scriptBytes (t := rest ++ (more.flatten ++ trailer)) hcontent hbody
      h.count hpointers hreads (fun _ => rfl) (Or.inr (Or.inl hends))
    rw [← hout'] at hwalks hpadding htrailer
    refine ⟨w, [], _, hwalks, hrows, hpadding, htrailer, fun pool hpool => ?_⟩
    rw [hpool rfl]
    rfl
  · obtain ⟨w, hwalks, hrows, hpadding, htrailer⟩ := walks_scriptBytes (t := more.flatten ++ trailer) hcontent hbody h.count
      h.pointers_eq hreads (fun h => absurd h hnil) (Or.inr (Or.inl hends))
    rw [← hout] at hwalks hpadding htrailer
    exact ⟨w, rest, _, hwalks, hrows, hpadding, htrailer, fun pool _ => rfl⟩

/-- The first lines fill the front of every script that begins with instructions like those of this one. -/
theorem front_fills (h : PatchedImage (.plain cs) content front blocks rows own more rest trailer out)
    {rows' behind : List Row} (halike : List.Forall₂ Row.Alike (rows ++ behind) rows') (gap pool t : Bytes) :
    front.Fills ((rows'.flatMap Row.pointers).take front.strings.length) (scriptBytes false content rows' gap pool t) 0 := by
  obtain ⟨before, after, rfl, hbefore, -⟩ := forall₂_append_left halike
  have hbody : Body false (content.length + 1) before := body_alike hbefore h.instructions
  have hpointers : (before.flatMap Row.pointers).length = front.strings.length := by
    rw [length_pointers_alike hbefore, h.strings_eq, length_stringsOf h.count]
  have hsize : (UInt8.ofNat (content.length + 1) :: (content ++ before.flatMap (Row.bytes false))).length = front.size := by
    rw [h.front_size, List.length_cons, List.length_append, hbody.length_bytes, rowsLength_alike hbefore]
    omega
  have hbytes : scriptBytes false content (before ++ after) gap pool t =
      (UInt8.ofNat (content.length + 1) :: (content ++ before.flatMap (Row.bytes false))) ++
        (after.flatMap (Row.bytes false) ++ (gap ++ (pool ++ t))) := by
    simp [scriptBytes]
  rw [Listing.Fills, hbytes, List.drop_zero, List.take_left' hsize, List.flatMap_append, List.take_left' hpointers]
  exact h.front_writes before hbefore

/-- The further lines fill the stretch behind the instructions. -/
theorem blocks_fills (h : PatchedImage (.plain cs) content front blocks rows own more rest trailer out) {rows' : List Row}
    (halike : List.Forall₂ Row.Alike rows rows') (pool t : Bytes) :
    blocks.Fills (poolOffsets (content.length + 1 + rowsLength rows + rest.length + own.flatten.length) more)
      (scriptBytes false content rows' rest pool t) front.size := by
  have hbody : Body false (content.length + 1) rows' := body_alike halike h.instructions
  have hsize : (UInt8.ofNat (content.length + 1) :: (content ++ rows'.flatMap (Row.bytes false))).length = front.size := by
    rw [h.front_size, List.length_cons, List.length_append, hbody.length_bytes, rowsLength_alike halike]
    omega
  have hbytes : scriptBytes false content rows' rest pool t =
      (UInt8.ofNat (content.length + 1) :: (content ++ rows'.flatMap (Row.bytes false))) ++ (rest ++ (pool ++ t)) := by
    simp [scriptBytes]
  rw [Listing.Fills, hbytes, List.drop_left' hsize, h.blocks_size, List.take_left]
  exact h.blocks_writes

/-- Whatever stands in the pool of the instructions, the further lines hold what they held, while their strings move by as
much as the script grows. -/
theorem blocks_moved (h : PatchedImage (.plain cs) content front blocks rows own more rest trailer out) {rows' : List Row}
    (halike : List.Forall₂ Row.Alike rows rows') {pool out' : Bytes}
    (hout' : out' = scriptBytes false content rows' rest pool (more.flatten ++ trailer)) :
    ∃ offsets, blocks.Fills offsets out front.size ∧
      List.Forall₂ (PoolString.StandsAt (.plain cs) out) blocks.strings offsets ∧ blocks.Fills offsets out' front.size ∧
      List.Forall₂ (PoolString.WrittenAt (.plain cs) out') blocks.strings
        (offsets.map fun offset => offset + out'.length - out.length) := by
  have hbody : Body false (content.length + 1) rows := h.instructions
  have hbody' : Body false (content.length + 1) rows' := body_alike halike hbody
  have hlength := congrArg List.length h.out_eq
  have hlength' := congrArg List.length hout'
  rw [length_scriptBytes hbody] at hlength
  rw [length_scriptBytes hbody', rowsLength_alike halike] at hlength'
  have hpool : out.drop (content.length + 1 + rowsLength rows + rest.length) = own.flatten ++ (more.flatten ++ trailer) := by
    rw [h.out_eq, drop_scriptBytes hbody]
  have hpool' : out'.drop (content.length + 1 + rowsLength rows + rest.length) = pool ++ (more.flatten ++ trailer) := by
    rw [hout', ← rowsLength_alike halike, drop_scriptBytes hbody']
  generalize hstart : content.length + 1 + rowsLength rows + rest.length = start at hpool hpool' hlength hlength'
  have hwritten := writtenAt_poolOffsets h.more_eq (by rw [← List.drop_drop, hpool, List.drop_left])
  have hwritten' := writtenAt_poolOffsets h.more_eq (by rw [← List.drop_drop, hpool', List.drop_left])
  have hreach : ∀ offset ∈ poolOffsets (start + own.flatten.length) more, offset ≤ lastOffset := by
    intro offset hoffset
    apply h.inReach
    rw [hstart, poolOffsets_append]
    exact List.mem_append_right _ hoffset
  refine ⟨poolOffsets (start + own.flatten.length) more, ?_, standsAt_of_writtenAt hwritten hreach, ?_, ?_⟩
  · rw [h.out_eq, ← hstart]
    exact h.blocks_fills (alike_refl hbody.words.1) _ _
  · rw [hout', ← hstart]
    exact h.blocks_fills halike _ _
  · have hmoved : start + pool.length + out.length = start + own.flatten.length + out'.length := by omega
    rw [← poolOffsets_moved hmoved]
    exact hwritten'

end PatchedImage

end Reading

/-- A patched script stays editable where its dump shows instructions: whatever strings are replaced in the dump, the cells of
the instructions lead to the strings. The overflow blocks behind an instruction that ends the script, which patches cannot
fill, stay as they are. Their cells hold what they held, while their strings move by as much as the script grows. -/
theorem assemble_patched_refilled {name entry : String} {bytes bytes' out : Bytes} {preferred : Charset} {dump : Disassembly}
    {patched : Text} {row header : Row} {w w' : Reading.Walked} {patches : List Patch} {rows : List Row}
    (h : (disassemble name bytes preferred).1 = .ok dump) (hrecords : isRecordFile name = false)
    (hwalks : Reading.Walks ⟨name, bytes, dump.charset⟩ row w)
    (hfeed : ∀ row ∈ w.rows, ∀ s ∈ row.strings, '\n' ∉ s)
    (hsign : ∀ row ∈ w.rows, ∀ s ∈ row.strings.dropLast, '§' ∉ s) (hlength : bytes.length < Text.numberBound)
    (hlines : ∀ p ∈ patches, 2 ≤ p.line ∧ p.line ≤ w.rows.length + 1)
    (hpatch : (applyPatches entry dump.text patches).1 = .ok patched)
    (hassemble : (assemble name patched (.plain dump.charset)).1 = .ok bytes')
    (hwalks' : Reading.Walks ⟨name, bytes', dump.charset⟩ header w') (hlength' : bytes'.length < Text.numberBound)
    (hrefilled : List.Forall₂ Row.Refilled w'.rows rows) (hwritable : ∀ row ∈ rows, row.Writable)
    (hedited : (assemble name (showRows (header :: (rows ++ (Reading.padding ⟨name, bytes', dump.charset⟩ w' ++
      [Reading.trailer ⟨name, bytes', dump.charset⟩ w'])))) (.plain dump.charset)).1 = .ok out) :
    let r : Reading := ⟨name, bytes', dump.charset⟩
    let ts : Typesetter := .plain dump.charset
    (disassemble name bytes' dump.charset).1 =
        .ok ⟨showRows (header :: (w'.rows ++ (r.padding w' ++ [r.trailer w']))), dump.charset⟩ ∧
      ∃ front blocks : Listing, Listing.read? false (Text.lines patched) = some (front ++ blocks) ∧
        front.length = w.rows.length + 1 ∧ front.strings <+: Reading.stringsOf w'.rows ∧
        (∃ offsets, front.Fills offsets out 0 ∧
          List.Forall₂ (PoolString.StandsAt ts out) ((Reading.stringsOf rows).take front.strings.length) offsets) ∧
        ((∃ last ∈ w.rows.getLast?, last.name = Opcode.ret2Name ∧ last.length < minSlotLength) →
          w'.rows.length = w.rows.length ∧ ∃ offsets, blocks.Fills offsets bytes' front.size ∧
            List.Forall₂ (PoolString.StandsAt ts bytes') blocks.strings offsets ∧ blocks.Fills offsets out front.size ∧
            List.Forall₂ (PoolString.WrittenAt ts out) blocks.strings
              (offsets.map fun offset => offset + out.length - bytes'.length)) := by
  intro r ts
  obtain ⟨content, front, blocks, rows₀, own, more, rest, trailer, hcontent, hread, himage, hkept, hstrings, -⟩ :=
    exists_patchedImage_of_applyPatches h hrecords hwalks hfeed hsign hlength hlines hpatch hassemble
  have hunread := hwalks.notMem_unread_of_subset hstrings
  obtain ⟨rfl, behind, hrows⟩ := himage.rows_of_walks hrecords hcontent hunread hwalks'
  obtain ⟨content', gap, t, rows', parts, hheader, hpadding, htrailer, halike, hbody, hparts, hpointers, hout⟩ :=
    Reading.exists_of_assemble_refilled hwalks' hrefilled hwritable hlength' hedited
  obtain rfl := Reading.raw_injective hheader
  rw [hrecords] at hbody hout
  have hshown : (disassemble name bytes' dump.charset).1 =
      .ok ⟨showRows (Reading.headerRow content :: (w'.rows ++ (r.padding w' ++ [r.trailer w']))), dump.charset⟩ :=
    disassemble_eq_ok.mpr (Or.inl (dumpIn_eq_ok.mpr ⟨_, Reading.rows_eq_ok.mpr ⟨_, _, hwalks', rfl⟩, rfl⟩))
  refine ⟨hshown, front, blocks, hread, by rw [himage.length_eq, hkept.length_eq], ?_, ?_, ?_⟩
  · rw [hrows, himage.strings_eq, Reading.stringsOf, Reading.stringsOf, List.flatMap_append]
    exact List.prefix_append _ _
  · rw [hrows] at halike
    refine ⟨_, hout ▸ himage.front_fills halike gap parts.flatten t, List.forall₂_take _ ?_⟩
    have hpool : out.drop (content.length + 1 + rowsLength rows' + gap.length) = parts.flatten ++ t := by
      rw [hout]
      exact Reading.drop_scriptBytes hbody
    have hwritten := Reading.writtenAt_poolOffsets hparts hpool
    rw [← hpointers] at hwritten
    exact Reading.standsAt_of_writtenAt hwritten hbody.words.1
  · rintro ⟨last, hlast, hname, hshort⟩
    -- The instruction that ends the script is too short for a slot, so that the second walk ends there as well.
    have hends : ∃ row ∈ rows₀.getLast?, row.name = Opcode.ret2Name := by
      obtain ⟨row₀, hrow₀, hsame⟩ := Reading.forall₂_getLast? hkept.flip hlast
      exact ⟨row₀, hrow₀, (hsame hshort).trans hname⟩
    obtain ⟨w₁, gap₁, t₁, hwalks₁, hrows₁, hpadding₁, htrailer₁, hlayout⟩ :=
      himage.exists_walks hrecords hcontent hunread hends
    obtain ⟨-, rfl⟩ := hwalks'.unique hwalks₁
    obtain rfl := Reading.paddingRows_injective (hpadding.symm.trans hpadding₁)
    obtain rfl : t = t₁ := Reading.raw_injective (htrailer.symm.trans htrailer₁)
    rw [hrows₁] at halike
    have hnone : own = [] → parts = [] := by
      intro hown
      have hlengths := Reading.length_pointers_alike halike
      rw [hpointers, himage.pointers_eq, length_poolOffsets, length_poolOffsets, hown] at hlengths
      exact List.length_eq_zero_iff.mp hlengths
    have hlaid : out = Reading.scriptBytes false content rows' rest parts.flatten (more.flatten ++ trailer) := by
      rw [hout, Reading.scriptBytes, Reading.scriptBytes, hlayout parts.flatten fun hown => by rw [hnone hown]; rfl]
    exact ⟨by rw [hrows₁, hkept.length_eq], himage.blocks_moved halike hlaid⟩

/-- A message that a patch brought in, and another one that becomes longer by three bytes. -/
theorem assemble_patched_refilled_message :
    let bytes : Bytes := [1, 0x31, 10, 0, 0, 0, 0, 0, 0, 0, 0, 0x18, 8, 0, 0, 0, 0, 0x15, 0, 0x0D, 2, 0x48, 0x69, 0]
    let p : Patch := ⟨.insertAfter, 2, "fade_in.10".toList, true, some "message.8 00-00-00-00-S @Yo".toList⟩
    let shown (message : String) : Text := Text.joinLines ["header.1".toList,
      "Loop_Cond.10 15-00-00-00-00-00-00-00".toList, message.toList, "ret2.2".toList,
      "data.28 31-0A-00-00-00-00-00-00-00-00-18-08-00-00-00-00-34-00-06-0A-0B-00-00-00-00-00-00-00".toList,
      "trailer.3 59-6F-00".toList]
    ∃ dump patched bytes' out, (disassemble "SC01" bytes .big5).1 = .ok dump ∧
      (applyPatches "SC01" dump.text [p]).1 = .ok patched ∧
      (assemble "SC01" patched (.plain .big5)).1 = .ok bytes' ∧
      (disassemble "SC01" bytes' .big5).1 = .ok ⟨shown "message.8 00-00-00-00-S @Hi", .big5⟩ ∧
      (assemble "SC01" (shown "message.8 00-00-00-00-S @Hello") (.plain .big5)).1 = .ok out ∧
      out.length = bytes'.length + 3 ∧ ∃ front blocks : Listing,
        Listing.read? false (Text.lines patched) = some (front ++ blocks) ∧ front.length = 4 ∧
        ∃ offsets, blocks.Fills offsets out front.size ∧
          List.Forall₂ (PoolString.WrittenAt (.plain .big5) out) blocks.strings (offsets.map (· + 3)) := by
  intro bytes p shown
  let fade := "fade_in.10 00-00-00-00-00-00-00-00".toList
  let dump : Disassembly := ⟨Text.joinLines ["header.1".toList, fade, "message.8 00-00-00-00-S @Hi".toList,
    "ret2.2".toList, "trailer.0".toList], .big5⟩
  let patched := Text.joinLines ["header.1".toList, jumpTo "P1".toList 10,
    "&PR1: message.8 00-00-00-00-S @Hi".toList, "ret2.2".toList, "&P1: ".toList ++ fade,
    "message.8 00-00-00-00-S @Yo".toList, jumpTo "PR1".toList 10, "trailer.0".toList]
  let image (pool : Bytes) : Bytes := [1, 0x06, 10, 0x15, 0, 0, 0, 0, 0, 0, 0, 0x18, 8, 0, 0, 0, 0, 0x31, 0, 0x0D, 2,
    0x31, 10, 0, 0, 0, 0, 0, 0, 0, 0, 0x18, 8, 0, 0, 0, 0, 0x34, 0, 0x06, 10, 0x0B, 0, 0, 0, 0, 0, 0, 0] ++ pool
  let bytes' := image [0x48, 0x69, 0, 0x59, 0x6F, 0]
  let out := image [0x48, 0x65, 0x6C, 0x6C, 0x6F, 0, 0x59, 0x6F, 0]
  let message (pointer : Nat) (t : Text) : Row :=
    ⟨some 11, "message".toList, 8, [.byte 0, .byte 0, .byte 0, .byte 0, .pointer pointer], [t]⟩
  let ret2 : Row := ⟨some 19, "ret2".toList, 2, [], []⟩
  let loop : Row := ⟨some 1, "Loop_Cond".toList, 10, .jump 0x15 :: List.replicate 6 (.byte 0), []⟩
  let w : Reading.Walked := ⟨[⟨some 1, "fade_in".toList, 10, List.replicate 8 (.byte 0), []⟩, message 0x15 "Hi".toList, ret2],
    0x15, ⟨some 0x15, 0x18⟩⟩
  let w' : Reading.Walked := ⟨[loop, message 0x31 "Hi".toList, ret2], 0x15, ⟨some 0x31, 0x34⟩⟩
  let rows := [loop, message 0x31 "Hello".toList, ret2]
  have h : (disassemble "SC01" bytes .big5).1 = .ok dump := by decide +kernel
  have hwalks : Reading.Walks ⟨"SC01", bytes, .big5⟩ (Reading.headerRow []) w := ⟨1, by decide +kernel, by decide +kernel⟩
  have hwalks' : Reading.Walks ⟨"SC01", bytes', .big5⟩ (Reading.headerRow []) w' :=
    ⟨1, by decide +kernel, by decide +kernel⟩
  have hpatch : (applyPatches "SC01" dump.text [p]).1 = .ok patched := by decide +kernel
  have hassemble : (assemble "SC01" patched (.plain .big5)).1 = .ok bytes' := by decide +kernel
  have hrefilled : List.Forall₂ Row.Refilled w'.rows rows :=
    .cons ⟨[], rfl, rfl⟩ (.cons ⟨["Hello".toList], rfl, rfl⟩ (.cons ⟨[], rfl, rfl⟩ .nil))
  have hwritable : ∀ row ∈ rows, row.Writable := by
    rw [List.forall_mem_cons, List.forall_mem_cons, List.forall_mem_singleton]
    exact ⟨⟨by decide, by decide, by decide, by decide⟩, ⟨by decide, by decide, by decide, by decide⟩,
      ⟨by decide, by decide, by decide, by decide⟩⟩
  let written (rows : List Row) : Text := showRows (Reading.headerRow [] :: (rows ++
    (Reading.padding ⟨"SC01", bytes', .big5⟩ w' ++ [Reading.trailer ⟨"SC01", bytes', .big5⟩ w'])))
  have hshown : written w'.rows = shown "message.8 00-00-00-00-S @Hi" := by decide +kernel
  have hshown' : written rows = shown "message.8 00-00-00-00-S @Hello" := by decide +kernel
  have hout : (assemble "SC01" (written rows) (.plain .big5)).1 = .ok out := by decide +kernel
  have hends : ∃ last ∈ w.rows.getLast?, last.name = Opcode.ret2Name ∧ last.length < minSlotLength :=
    ⟨ret2, rfl, rfl, by decide⟩
  obtain ⟨hdump, front, blocks, hread, hlength, -, -, hblocks⟩ :=
    assemble_patched_refilled h (by decide) hwalks (by decide +kernel) (by decide +kernel) (by decide) (by decide) hpatch
      hassemble hwalks' (by decide) hrefilled hwritable hout
  obtain ⟨-, offsets, -, -, hfills, hwritten⟩ := hblocks hends
  refine ⟨dump, patched, bytes', out, h, hpatch, hassemble, ?_, ?_, by decide, front, blocks, hread, hlength, offsets, hfills,
    ?_⟩
  · rw [← hshown]
    exact hdump
  · rw [← hshown']
    exact hout
  · have hmoved : offsets.map (· + 3) = offsets.map fun offset => offset + out.length - bytes'.length := by
      refine List.map_congr_left fun offset _ => ?_
      change offset + 3 = offset + 58 - 55
      omega
    rw [hmoved]
    exact hwritten

/-- A message that a patch brought in: the dump of the patched script shows its block as bytes, and its pointer does not
follow its string when another string becomes longer. -/
theorem assemble_stale_pointer :
    let fade := "fade_in.10 00-00-00-00-00-00-00-00".toList
    let dump := Text.joinLines ["header.1".toList, fade, "message.8 00-00-00-00-S @Hi".toList, "ret2.2".toList,
      "trailer.0".toList]
    let p : Patch := ⟨.insertAfter, 2, "fade_in.10".toList, true, some "message.8 00-00-00-00-S @Yo".toList⟩
    let patched := Text.joinLines ["header.1".toList, jumpTo "P1".toList 10,
      "&PR1: message.8 00-00-00-00-S @Hi".toList, "ret2.2".toList, "&P1: ".toList ++ fade,
      "message.8 00-00-00-00-S @Yo".toList, jumpTo "PR1".toList 10, "trailer.0".toList]
    let image (pool : Bytes) : Bytes := [1, 0x06, 10, 0x15, 0, 0, 0, 0, 0, 0, 0, 0x18, 8, 0, 0, 0, 0, 0x31, 0, 0x0D, 2,
      0x31, 10, 0, 0, 0, 0, 0, 0, 0, 0, 0x18, 8, 0, 0, 0, 0, 0x34, 0, 0x06, 10, 0x0B, 0, 0, 0, 0, 0, 0, 0] ++ pool
    let shown (message : String) : Text := Text.joinLines ["header.1".toList,
      "Loop_Cond.10 15-00-00-00-00-00-00-00".toList, message.toList, "ret2.2".toList,
      "data.28 31-0A-00-00-00-00-00-00-00-00-18-08-00-00-00-00-34-00-06-0A-0B-00-00-00-00-00-00-00".toList,
      "trailer.3 59-6F-00".toList]
    let out' := image [0x48, 0x65, 0x6C, 0x6C, 0x6F, 0, 0x59, 0x6F, 0]
    (applyPatches "SC01" dump [p]).1 = .ok patched ∧
      (assemble "SC01" patched (.plain .big5)).1 = .ok (image [0x48, 0x69, 0, 0x59, 0x6F, 0]) ∧
      (disassemble "SC01" (image [0x48, 0x69, 0, 0x59, 0x6F, 0]) .big5).1 =
        .ok ⟨shown "message.8 00-00-00-00-S @Hi", .big5⟩ ∧
      (assemble "SC01" (shown "message.8 00-00-00-00-S @Hello") (.plain .big5)).1 = .ok out' ∧
      (out'.drop 0x25).take 2 = [0x34, 0] ∧ (out'.drop 0x34).take 3 ≠ [0x59, 0x6F, 0] ∧
      (out'.drop 0x37).take 3 = [0x59, 0x6F, 0] := by
  decide +kernel

end SceneScript
