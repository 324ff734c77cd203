import Mathlib
import SceneScript.Proofs.Patch.PatchedScript
import SceneScript.Proofs.Patch.Reapplication
/-!
# Patched scripts read back

A walk of a patched script comes by all instructions of the original, each where it was and as long as it was, and finds a
jump in each slot: no label moves an instruction, and all strings stand behind the blocks of the patches.
-/
namespace SceneScript

/-- Patches with payloads that expect no jump are found applied in the dump of the script that the patched dump assembles to,
provided that no string of the original but the last of a line has the sign that closes it. -/
theorem applyPatches_reloaded {name entry : String} {bytes bytes' : Bytes} {preferred : Charset} {dump : Disassembly}
    {patched text : Text} {row : Row} {w : Reading.Walked} {patches : List Patch}
    (h : (disassemble name bytes preferred).1 = .ok dump) (hrecords : isRecordFile name = false)
    (hwalks : Reading.Walks ⟨name, bytes, dump.charset⟩ row w)
    (hfeed : ∀ row ∈ w.rows, ∀ s ∈ row.strings, '\n' ∉ s)
    (hsign : ∀ row ∈ w.rows, ∀ s ∈ row.strings.dropLast, '§' ∉ s) (hlength : bytes.length < Text.numberBound)
    (hpayload : ∀ p ∈ patches, p.payload? ≠ none) (hlines : ∀ p ∈ patches, 2 ≤ p.line ∧ p.line ≤ w.rows.length + 1)
    (hjump : ∀ p ∈ patches, ∀ body, p.expects body = true → lineName? body ≠ some Opcode.loopCondName)
    (hpatch : (applyPatches entry dump.text patches).1 = .ok patched)
    (hassemble : (assemble name patched (.plain dump.charset)).1 = .ok bytes')
    (hreload : (disassemble name bytes' dump.charset).1 = .ok ⟨text, dump.charset⟩) :
    (applyPatches entry text patches).1 = .ok text := by
  obtain ⟨content, front, blocks, rows, own, more, rest, trailer, hcontent, -, himage, hkept, hstrings, hjumps⟩ :=
    exists_patchedImage_of_applyPatches h hrecords hwalks hfeed hsign hlength hlines hpatch hassemble
  have hunread := hwalks.notMem_unread_of_subset hstrings
  obtain ⟨header, w', hwalks', htext⟩ := exists_walks_of_disassemble hreload
  obtain ⟨rfl, rows', hrows⟩ := himage.rows_of_walks hrecords hcontent hunread hwalks'
  have hisName : ∀ row ∈ rows, Row.isName row.name = true := by
    intro row hrow
    obtain ⟨position, opcode, hname, -⟩ := Reading.exists_of_mem_instructions himage.instructions row hrow
    exact (Reading.of_name? hname).1
  have hfeed' : ∀ row ∈ rows, ∀ s ∈ row.strings, '\n' ∉ s := by
    intro row hrow s hs
    rw [← Reading.map_content_poolStrings row.name row.strings] at hs
    obtain ⟨s, hmem, rfl⟩ := List.mem_map.mp hs
    obtain ⟨row', hrow', t, ht, hsubset⟩ := hstrings s (List.mem_flatMap.mpr ⟨row, hrow, hmem⟩)
    exact fun hm => hfeed row' hrow' t ht (hsubset hm)
  -- The lines of the second dump up to the last instruction of the first are those of its rows.
  obtain ⟨labelled, rest', hrest, htext'⟩ : ∃ labelled rest', rest' ≠ [] ∧
      text = Text.joinLines ((Reading.headerRow content :: rows).map (Row.render labelled) ++ rest') := by
    rw [hrows] at htext
    let tail := rows' ++ (Reading.padding ⟨name, bytes', dump.charset⟩ w' ++ [Reading.trailer ⟨name, bytes', dump.charset⟩ w'])
    let labelled := (labelledOffsets (Reading.headerRow content :: (rows ++ tail))).contains
    refine ⟨labelled, tail.map (Row.render labelled), by simp [tail], ?_⟩
    rw [← List.map_append, List.cons_append]
    rw [List.append_assoc] at htext
    exact htext
  have hfeedLines : ∀ t ∈ (Reading.headerRow content :: rows).map (Row.render labelled), '\n' ∉ t := by
    intro t ht
    obtain ⟨row, hrow, rfl⟩ := List.mem_map.mp ht
    rcases List.mem_cons.mp hrow with rfl | hrow
    · exact Row.notMem_feed_render (show Row.isName "header".toList = true by decide) (List.forall_mem_nil _) labelled
    · exact Row.notMem_feed_render (hisName row hrow) (hfeed' row hrow) labelled
  apply applyPatches_of_done hjump
  intro p hp
  obtain ⟨row', hrow', hname⟩ := hjumps hpayload p hp
  have hle := hlines p hp
  obtain ⟨hi, rfl⟩ := List.getElem?_eq_some_iff.mp hrow'
  refine ⟨rows[p.line - 2].render labelled, ?_, .jump ?_⟩
  · rw [htext', Text.splitOn_joinLines_append hfeedLines hrest, List.getElem?_append_left (by simp; omega),
      show p.line - 1 = p.line - 2 + 1 by omega, List.map_cons, List.getElem?_cons_succ, List.getElem?_map, hrow',
      Option.map_some]
  · rw [lineName?_afterLabels_render (hisName _ (List.getElem_mem hi)), hname]

/-- The block of a patch that is applied twice lies behind `ret2`, and its string behind the string of the script. -/
theorem applyPatches_reloaded_blocks :
    let bytes : Bytes := [1, 0x31, 10, 0, 0, 0, 0, 0, 0, 0, 0, 0x18, 8, 0, 0, 0, 0, 31, 0, 0x31, 10, 0, 0, 0, 0, 0, 0, 0, 0,
      0x0D, 2, 0x48, 0x69, 0]
    let p : Patch := ⟨.insertAfter, 2, "fade_in.10 ".toList, true, some "message.8 00-00-00-00-S @Yo".toList⟩
    let q : Patch := ⟨.replace, 4, "fade_in".toList, true, some "key_wait.2".toList⟩
    let text := ("header.1\nLoop_Cond.10 1F-00-00-00-00-00-00-00\nmessage.8 00-00-00-00-S @Hi\n" ++
      "Loop_Cond.10 3B-00-00-00-00-00-00-00\nret2.2\ndata.40 31-0A-00-00-00-00-00-00-00-00-18-08-00-00-00-00-4A-00-" ++
      "06-0A-0B-00-00-00-00-00-00-00-15-02-06-0A-1D-00-00-00-00-00-00-00\ntrailer.3 59-6F-00").toList
    ∃ dump patched bytes', (disassemble "SC01" bytes .big5).1 = .ok dump ∧
      (applyPatches "SC01" dump.text [p, q, p]).1 = .ok patched ∧
      (assemble "SC01" patched (.plain dump.charset)).1 = .ok bytes' ∧
      (disassemble "SC01" bytes' dump.charset).1 = .ok ⟨text, dump.charset⟩ ∧
      (applyPatches "SC01" text [p, q, p]).1 = .ok text := by
  intro bytes p q text
  let dump : Disassembly := ⟨("header.1\nfade_in.10 00-00-00-00-00-00-00-00\nmessage.8 00-00-00-00-S @Hi\n" ++
    "fade_in.10 00-00-00-00-00-00-00-00\nret2.2\ntrailer.0").toList, .big5⟩
  let patched := Text.joinLines ["header.1".toList, jumpTo "P1".toList 10, "&PR1: message.8 00-00-00-00-S @Hi".toList,
    jumpTo "P2".toList 10, "&PR2: ret2.2".toList, "&P1: fade_in.10 00-00-00-00-00-00-00-00".toList,
    "message.8 00-00-00-00-S @Yo".toList, jumpTo "PR1".toList 10, "&P2: key_wait.2".toList, jumpTo "PR2".toList 10,
    "trailer.0".toList]
  let bytes' : Bytes := [1, 6, 10, 31, 0, 0, 0, 0, 0, 0, 0, 0x18, 8, 0, 0, 0, 0, 71, 0, 6, 10, 59, 0, 0, 0, 0, 0, 0, 0,
    0x0D, 2, 0x31, 10, 0, 0, 0, 0, 0, 0, 0, 0, 0x18, 8, 0, 0, 0, 0, 74, 0, 6, 10, 11, 0, 0, 0, 0, 0, 0, 0, 0x15, 2,
    6, 10, 29, 0, 0, 0, 0, 0, 0, 0, 0x48, 0x69, 0, 0x59, 0x6F, 0]
  let fade (start : Nat) : Row := ⟨some start, "fade_in".toList, 10, List.replicate 8 (.byte 0), []⟩
  let message : Row :=
    ⟨some 11, "message".toList, 8, [.byte 0, .byte 0, .byte 0, .byte 0, .pointer 31], ["Hi".toList]⟩
  let w : Reading.Walked := ⟨[fade 1, message, fade 19, ⟨some 29, "ret2".toList, 2, [], []⟩], 31, ⟨some 31, 34⟩⟩
  have h : (disassemble "SC01" bytes .big5).1 = .ok dump := by decide +kernel
  have hwalks : Reading.Walks ⟨"SC01", bytes, .big5⟩ (Reading.headerRow []) w :=
    ⟨1, by decide +kernel, by decide +kernel⟩
  have hjump : ∀ p' ∈ [p, q, p], ∀ body, p'.expects body = true → lineName? body ≠ some Opcode.loopCondName := by
    have hp := Patch.expects_no_jump (p := p) (c := 'f') rfl (by decide)
    rw [List.forall_mem_cons, List.forall_mem_cons, List.forall_mem_singleton]
    exact ⟨hp, Patch.expects_no_jump (c := 'f') rfl (by decide), hp⟩
  have hpatch : (applyPatches "SC01" dump.text [p, q, p]).1 = .ok patched := by decide +kernel
  have hassemble : (assemble "SC01" patched (.plain .big5)).1 = .ok bytes' := by decide +kernel
  have hreload : (disassemble "SC01" bytes' .big5).1 = .ok ⟨text, .big5⟩ := by decide +kernel
  exact ⟨dump, patched, bytes', h, hpatch, hassemble, hreload, applyPatches_reloaded h (by decide) hwalks
    (by decide +kernel) (by decide +kernel) (by decide) (by decide) (by decide) hjump hpatch hassemble hreload⟩

end SceneScript
