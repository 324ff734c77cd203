import Mathlib
import SceneScript.Proofs.Charset.Reading
import SceneScript.Proofs.Script.Editing
/-!
# Reading an assembled script

A dump that assembles gives a script of the same rows, whose strings are what the typesetter made of them, and it is read
as such in the character set that it was written in.
-/
namespace SceneScript

/-- A row with other strings. -/
def Row.mapStrings (f : Text → Text) (row : Row) : Row := { row with strings := row.strings.map f }

namespace Reading

/-! ## What was assembled -/

/-- What a script consists of that was assembled from the dump of another: the header, the padding and the trailer of the
old one, its rows with new pointers, and the pool. -/
structure Relaid (r : Reading) (row : Row) (w : Walked) (ts : Typesetter) (out content gap t : Bytes) (rows : List Row)
    (parts : List Bytes) : Prop where
  script_eq : row :: (w.rows ++ (r.padding w ++ [r.trailer w])) = scriptRows content w.rows gap t
  content_lt : content.length < 255
  gap_lt : gap.length < Text.numberBound
  trailer_lt : t.length < Text.numberBound
  body : Body (isRecordFile r.name) (content.length + 1) rows
  alike : List.Forall₂ (fun row row' => row.Alike row' ∧ row'.strings = row.strings) w.rows rows
  count : ∀ row ∈ rows, row.strings.length = row.pointers.length
  parts_eq : List.Forall₂ (fun s part => PoolString.part? ts s = some part) (stringsOf rows) parts
  pointers_eq : rows.flatMap Row.pointers = poolOffsets (content.length + 1 + rowsLength rows + gap.length) parts
  out_eq : out = scriptBytes (isRecordFile r.name) content rows gap parts.flatten t
  reached : w.pool.reached w.stop = true → gap = [] ∧ parts ≠ []
  gap_eq : parts = [] → gap = []
  ends : EndsSafely (isRecordFile r.name) w ∨ w.pool.lowest? = some (w.stop + 1) ∨ Stalls (gap ++ (parts.flatten ++ t))

theorem exists_relaid {r : Reading} {row : Row} {w : Walked} {ts : Typesetter} {out : Bytes} (hwalks : r.Walks row w)
    (hwritable : ∀ row ∈ w.rows, row.Writable) (hlength : r.bytes.length < Text.numberBound)
    (h : (assemble r.name (showRows (row :: (w.rows ++ (r.padding w ++ [r.trailer w])))) ts).1 = .ok out) :
    ∃ content gap t rows parts, r.Relaid row w ts out content gap t rows parts := by
  obtain ⟨content, gap, rest, t, rfl, hcontent, hbody, hresolves, -, hpadding, htrailer, hbytes, ht, hreached, hnone,
    hends⟩ := dissect_padding hwalks
  have hgapLength : gap.length < Text.numberBound := by
    have hlengths := congrArg List.length hbytes
    simp only [List.length_cons, List.length_append] at hlengths
    omega
  have htLength : t.length < Text.numberBound := Nat.lt_of_le_of_lt ht hlength
  have hscript : headerRow content :: (w.rows ++ (r.padding w ++ [r.trailer w])) = scriptRows content w.rows gap t := by
    rw [hpadding, htrailer, scriptRows]
  rw [hscript] at h
  obtain ⟨rows, parts, halike, hparts, hpointers, hout⟩ :=
    exists_of_assemble_scriptRows hcontent hbody hresolves.count hwritable hgapLength htLength h
  have hnil : parts = [] ↔ w.rows.flatMap Row.pointers = [] := by
    rw [← List.length_eq_zero_iff, ← hparts.length_eq, stringsOf_alike halike, ← length_stringsOf hresolves.count,
      List.length_eq_zero_iff]
  refine ⟨content, gap, t, rows, parts, hscript, hcontent, hgapLength, htLength,
    body_alike (halike.imp fun _ _ hrow => hrow.1) hbody, halike, count_alike halike hresolves.count, hparts, hpointers,
    hout, fun h => ?_, fun h => hnone (hnil.mp h), ?_⟩
  · exact ⟨(hreached h).1, fun hparts => (hreached h).2 (hnil.mp hparts)⟩
  · refine hends.imp_right (Or.imp_right fun hstalls => hstalls parts.flatten fun hpointers => ?_)
    rw [hnil.mpr hpointers, List.flatten_nil]

/-! ## Other strings -/

section MapStrings

variable (f : Text → Text)

theorem refilled_mapStrings (rows : List Row) : List.Forall₂ Row.Refilled rows (rows.map (Row.mapStrings f)) := by
  rw [List.forall₂_map_right_iff, List.forall₂_same]
  exact fun row _ => ⟨row.strings.map f, List.length_map _, rfl⟩

private theorem poolStrings_map (name : Text) (strings : List Text) :
    Row.poolStrings name (strings.map f) =
      (Row.poolStrings name strings).map fun s => ⟨f s.content, s.suffix⟩ := by
  fun_induction Row.poolStrings name strings with
  | case1 => rfl
  | case2 t => rfl
  | case3 t more hmore ih =>
    rw [List.map_cons, List.map_cons, ← ih, Row.poolStrings]
    simpa using hmore

theorem stringsOf_mapStrings (rows : List Row) :
    stringsOf (rows.map (Row.mapStrings f)) = (stringsOf rows).map fun s => ⟨f s.content, s.suffix⟩ := by
  rw [stringsOf, stringsOf, List.flatMap_map, List.map_flatMap]
  exact List.flatMap_congr fun row _ => poolStrings_map f row.name row.strings

end MapStrings

namespace Relaid

variable {r : Reading} {row : Row} {w : Walked} {ts : Typesetter} {out content gap t : Bytes} {rows : List Row}
  {parts : List Bytes}

private theorem mem_strings (h : r.Relaid row w ts out content gap t rows parts) {s : PoolString} (hs : s ∈ stringsOf rows) :
    ∃ row ∈ w.rows, s.content ∈ row.strings := by
  rw [stringsOf_alike h.alike] at hs
  obtain ⟨row, hrow, hs⟩ := List.mem_flatMap.mp hs
  refine ⟨row, hrow, ?_⟩
  rw [← map_content_poolStrings row.name row.strings]
  exact List.mem_map_of_mem hs

theorem exists_segments_of_parts {cs : Charset} {f : Text → Text} {strings : List PoolString} {parts : List Bytes}
    (hparts : List.Forall₂ (fun s part => PoolString.part? ts s = some part) strings parts)
    (hread : ∀ s ∈ strings, ∀ bytes, (ts.encode s.content).1 = .ok bytes →
      cs.decode? bytes = some (f s.content) ∧ 0 ∉ bytes) :
    ∃ segments, PoolSegment.parts segments = parts ∧
      List.Forall₂ (Reads cs) (strings.map fun s => ⟨f s.content, s.suffix⟩) segments := by
  induction hparts with
  | nil => exact ⟨[], rfl, .nil⟩
  | @cons s part strings parts hpart _ ih =>
    rw [List.forall_mem_cons] at hread
    obtain ⟨segments, rfl, hsegments⟩ := ih hread.2
    obtain ⟨bytes, hbytes, rfl⟩ := Option.map_eq_some_iff.mp hpart
    have hencode : (ts.encode s.content).1 = .ok bytes := by
      cases hcode : (ts.encode s.content).1 with
      | error c => simp [hcode, Except.toOption] at hbytes
      | ok bytes' => simpa [hcode, Except.toOption] using hbytes
    obtain ⟨hdecode, hzero⟩ := hread.1 bytes hencode
    exact ⟨⟨bytes, s.suffix⟩ :: segments, rfl, .cons ⟨hdecode, hzero, rfl⟩ hsegments⟩

/-- The rows with other strings take up the same bytes. -/
private theorem mapped (h : r.Relaid row w ts out content gap t rows parts) (f : Text → Text) :
    Body (isRecordFile r.name) (content.length + 1) (rows.map (Row.mapStrings f)) ∧
      (∀ row ∈ rows.map (Row.mapStrings f), row.strings.length = row.pointers.length) ∧
      (rows.map (Row.mapStrings f)).flatMap Row.pointers =
        poolOffsets (content.length + 1 + rowsLength (rows.map (Row.mapStrings f)) + gap.length) parts ∧
      out = scriptBytes (isRecordFile r.name) content (rows.map (Row.mapStrings f)) gap parts.flatten t := by
  have hrefilled := refilled_mapStrings f rows
  have halike := refilled_alike hrefilled h.body.words.1
  obtain ⟨hbytes, hpointers, -⟩ := refilled_eq hrefilled (isRecordFile r.name)
  refine ⟨body_alike halike h.body, refilled_count hrefilled h.count, ?_, ?_⟩
  · rw [hpointers, rowsLength_alike halike, h.pointers_eq]
  · rw [h.out_eq, scriptBytes, scriptBytes, hbytes]

/-- The script is read with the strings that its bytes stand for, unless its walk ended only because an empty string begins
one byte behind it. -/
theorem rows_eq (h : r.Relaid row w ts out content gap t rows parts)
    (hends : EndsSafely (isRecordFile r.name) w ∨ w.pool.lowest? ≠ some (w.stop + 1))
    {cs : Charset} {f : Text → Text} (hread : ∀ row ∈ w.rows, ∀ s ∈ row.strings, ∀ bytes, (ts.encode s).1 = .ok bytes →
      cs.decode? bytes = some (f s) ∧ 0 ∉ bytes) :
    Reading.rows ⟨r.name, out, cs⟩ = .ok (scriptRows content (rows.map (Row.mapStrings f)) gap t) := by
  obtain ⟨hbody, hcount, hpointers, hout⟩ := h.mapped f
  obtain ⟨segments, hparts, hsegments⟩ := exists_segments_of_parts h.parts_eq fun s hs =>
    let ⟨row, hrow, hmem⟩ := h.mem_strings hs
    hread row hrow s.content hmem
  rw [← stringsOf_mapStrings] at hsegments
  have hnil : segments = [] ↔ parts = [] := by rw [← hparts, PoolSegment.parts, List.map_eq_nil_iff]
  have hends' : isRecordFile r.name = true ∨
      (∃ row ∈ (rows.map (Row.mapStrings f)).getLast?, row.name = Opcode.ret2Name) ∨ (gap = [] ∧ segments ≠ []) ∨
        Stalls (gap ++ ((PoolSegment.parts segments).flatten ++ t)) := by
    have hends' : EndsSafely (isRecordFile r.name) w ∨ Stalls (gap ++ ((PoolSegment.parts segments).flatten ++ t)) := by
      rcases h.ends with hsafe | hlowest | hstalls
      · exact Or.inl hsafe
      · exact Or.inl (hends.resolve_right fun hne => hne hlowest)
      · rw [hparts]
        exact Or.inr hstalls
    rcases hends' with (hrecords | ⟨last, hlast, hname⟩ | hreached) | hstalls
    · exact Or.inl hrecords
    · obtain ⟨last', hlast', hrow, -⟩ := forall₂_getLast? h.alike.flip hlast
      refine Or.inr (Or.inl ⟨last'.mapStrings f, ?_, hrow.name_eq.trans hname⟩)
      rw [List.getLast?_map, Option.mem_def, Option.mem_def.mp hlast', Option.map_some]
    · obtain ⟨hgap, hne⟩ := h.reached hreached
      exact Or.inr (Or.inr (Or.inl ⟨hgap, fun hsegments => hne (hnil.mp hsegments)⟩))
    · exact Or.inr (Or.inr (Or.inr hstalls))
  rw [← hparts] at hpointers hout
  rw [hout]
  exact rows_scriptBytes h.content_lt hbody hcount hpointers hsegments (fun h' => h.gap_eq (hnil.mp h')) hends'

/-- The dump of the script assembles to the script itself, if its strings are written as before. -/
theorem assemble_eq (h : r.Relaid row w ts out content gap t rows parts) {f : Text → Text}
    (hwritable : ∀ row ∈ w.rows, (row.mapStrings f).Writable)
    (hset : ∀ row ∈ w.rows, ∀ s ∈ row.strings, (ts.encode (f s)).1 = (ts.encode s).1) :
    (assemble r.name (showRows (scriptRows content (rows.map (Row.mapStrings f)) gap t)) ts).1 = .ok out := by
  obtain ⟨hbody, hcount, hpointers, hout⟩ := h.mapped f
  have hwritable' : ∀ row ∈ rows.map (Row.mapStrings f), row.Writable := by
    intro _ hrow
    obtain ⟨row', hrow', rfl⟩ := List.mem_map.mp hrow
    obtain ⟨row, hmem, -, hstrings⟩ := exists_of_forall₂ h.alike hrow'
    obtain ⟨hfeed, hguillemet, hinner, hlast⟩ := hwritable row hmem
    have hmapped : (row'.mapStrings f).strings = (row.mapStrings f).strings := congrArg (List.map f) hstrings
    rw [← hmapped] at hfeed hguillemet hinner hlast
    exact ⟨hfeed, hguillemet, hinner, hlast⟩
  have hparts : List.Forall₂ (fun s part => PoolString.part? ts s = some part)
      (stringsOf (rows.map (Row.mapStrings f))) parts := by
    rw [stringsOf_mapStrings, List.forall₂_map_left_iff]
    refine forall₂_imp_mem h.parts_eq fun s hs part hpart => ?_
    obtain ⟨row, hrow, hmem⟩ := h.mem_strings hs
    rw [PoolString.part?] at hpart ⊢
    rwa [hset row hrow s.content hmem]
  rw [hout]
  exact assemble_scriptRows h.content_lt hbody hcount hwritable' h.gap_lt h.trailer_lt hparts hpointers

end Relaid
/-! ## The strings of a script -/

/-- The strings of a script hold no guillemets, no null character and none of the signs that Shift-JIS writes as others. -/
theorem Walks.notMem_unread {r : Reading} {row : Row} {w : Walked} (h : r.Walks row w) :
    ∀ row ∈ w.rows, ∀ s ∈ row.strings, ∀ c ∈ s, c ∉ Charset.unread := by
  intro row hrow s hs
  obtain ⟨-, -, -, -, -, hresolves, -⟩ := h.dissect
  obtain ⟨p, -, content, after, -, hzero, hdecode⟩ := exists_of_forall₂ (hresolves row hrow) hs
  exact Charset.notMem_unread_of_decode? hdecode hzero

/-- A row can be written if its strings keep to its line. -/
theorem Walks.writable {r : Reading} {row : Row} {w : Walked} (h : r.Walks row w)
    (hfeed : ∀ row ∈ w.rows, ∀ s ∈ row.strings, '\n' ∉ s)
    (hsign : ∀ row ∈ w.rows, ∀ s ∈ row.strings.dropLast, '§' ∉ s)
    (hreturn : ∀ row ∈ w.rows, ∀ s ∈ row.strings.getLast?, s.getLast? ≠ some '\r') :
    ∀ row ∈ w.rows, row.Writable := by
  intro row hrow
  refine ⟨hfeed row hrow, fun s hs => ?_, hsign row hrow, hreturn row hrow⟩
  have hunread := h.notMem_unread row hrow s hs
  exact ⟨fun hm => hunread _ hm (by decide), fun hm => hunread _ hm (by decide)⟩

/-- What a character set writes of a string of a script is read as that string again. -/
theorem decode?_encode_plain {cs : Charset} {s : Text} (hs : ∀ c ∈ s, c ∉ Charset.unread) {bytes : Bytes}
    (h : ((Typesetter.plain cs).encode s).1 = .ok bytes) : cs.decode? bytes = some s ∧ 0 ∉ bytes := by
  have hguillemets : '«' ∉ s ∧ '»' ∉ s := ⟨fun hm => hs _ hm (by decide), fun hm => hs _ hm (by decide)⟩
  rw [Typesetter.encode, Typesetter.set_plain, Prose.replaceGuillemets_eq hguillemets] at h
  have hdecode := Charset.decode?_of_encode h fun _ => hs
  exact ⟨hdecode, Charset.zero_notMem_of_decode? hdecode fun hm => hs _ hm (by decide)⟩

theorem map_mapStrings_id (rows : List Row) : rows.map (Row.mapStrings id) = rows := by
  have hid : Row.mapStrings id = id := by
    funext row
    rw [Row.mapStrings, List.map_id, id]
  rw [hid, List.map_id]

end Reading

/-- A dump that assembles comes back when the script is disassembled, provided that no string has a line feed, that none
but the last of a line has the sign that closes it, and that none ends its line with a carriage return. -/
theorem disassemble_of_assemble {name : String} {bytes bytes' : Bytes} {preferred : Charset} {dump : Disassembly}
    {row : Row} {w : Reading.Walked} (h : (disassemble name bytes preferred).1 = .ok dump)
    (hwalks : Reading.Walks ⟨name, bytes, dump.charset⟩ row w) (hends : Reading.EndsSafely (isRecordFile name) w)
    (hfeed : ∀ row ∈ w.rows, ∀ s ∈ row.strings, '\n' ∉ s)
    (hsign : ∀ row ∈ w.rows, ∀ s ∈ row.strings.dropLast, '§' ∉ s)
    (hreturn : ∀ row ∈ w.rows, ∀ s ∈ row.strings.getLast?, s.getLast? ≠ some '\r')
    (hlength : bytes.length < Text.numberBound)
    (hassemble : (assemble name dump.text (.plain dump.charset)).1 = .ok bytes') :
    (disassemble name bytes' dump.charset).1 = .ok dump := by
  have htext := text_of_walks h hwalks
  rw [htext] at hassemble
  obtain ⟨content, gap, t, rows, parts, hrelaid⟩ :=
    Reading.exists_relaid hwalks (hwalks.writable hfeed hsign hreturn) hlength hassemble
  have hread : Reading.rows ⟨name, bytes', dump.charset⟩ =
      .ok (Reading.scriptRows content (rows.map (Row.mapStrings id)) gap t) :=
    hrelaid.rows_eq (Or.inl hends) fun row hrow s hs _ hencode =>
      Reading.decode?_encode_plain (hwalks.notMem_unread row hrow s hs) hencode
  rw [Reading.map_mapStrings_id] at hread
  have hshow : showRows (Reading.scriptRows content rows gap t) = dump.text := by
    rw [Reading.scriptRows_alike hrelaid.alike, ← hrelaid.script_eq, htext]
  refine disassemble_eq_ok.mpr (Or.inl (dumpIn_eq_ok.mpr ⟨_, hread, ?_⟩))
  rw [hshow]

/-- Two messages with one string, which is written twice. -/
theorem disassemble_of_assemble_shared :
    let bytes : Bytes := [1, 0x18, 8, 0, 0, 0, 0, 19, 0, 0x18, 8, 0, 0, 0, 0, 19, 0, 0x0D, 2, 0x48, 0x69, 0, 0xFF]
    let dump : Disassembly := ⟨"header.1\nmessage.8 00-00-00-00-S @Hi\nmessage.8 00-00-00-00-S @Hi\nret2.2\ntrailer.1 FF".toList,
      .big5⟩
    ∃ bytes', bytes' ≠ bytes ∧ (disassemble "SC01" bytes .big5).1 = .ok dump ∧
      (assemble "SC01" dump.text (.plain .big5)).1 = .ok bytes' ∧ (disassemble "SC01" bytes' .big5).1 = .ok dump := by
  intro bytes dump
  let bytes' : Bytes :=
    [1, 0x18, 8, 0, 0, 0, 0, 19, 0, 0x18, 8, 0, 0, 0, 0, 22, 0, 0x0D, 2, 0x48, 0x69, 0, 0x48, 0x69, 0, 0xFF]
  let message (start : Nat) : Row :=
    ⟨some start, "message".toList, 8, [.byte 0, .byte 0, .byte 0, .byte 0, .pointer 19], ["Hi".toList]⟩
  let ret2 : Row := ⟨some 17, "ret2".toList, 2, [], []⟩
  let w : Reading.Walked := ⟨[message 1, message 9, ret2], 19, ⟨some 19, 22⟩⟩
  have h : (disassemble "SC01" bytes .big5).1 = .ok dump := by decide +kernel
  have hwalks : Reading.Walks ⟨"SC01", bytes, .big5⟩ (Reading.headerRow []) w :=
    ⟨1, by decide +kernel, by decide +kernel⟩
  have hends : Reading.EndsSafely (isRecordFile "SC01") w := Or.inr (Or.inl ⟨ret2, rfl, rfl⟩)
  have hassemble : (assemble "SC01" dump.text (.plain .big5)).1 = .ok bytes' := by decide +kernel
  exact ⟨bytes', by decide, h, hassemble, disassemble_of_assemble h hwalks hends (by decide +kernel) (by decide +kernel)
    (by decide +kernel) (by decide) hassemble⟩

/-- What follows a line feed in a string is a line of its own, which is skipped when it has no full stop. -/
theorem assemble_split_string :
    let bytes : Bytes := [1, 0x18, 8, 0, 0, 0, 0, 11, 0, 0x0D, 2, 0x48, 0x69, 0x0A, 0x79, 0x6F, 0]
    let dump : Disassembly := ⟨"header.1\nmessage.8 00-00-00-00-S @Hi\nyo\nret2.2\ntrailer.0".toList, .big5⟩
    let bytes' : Bytes := [1, 0x18, 8, 0, 0, 0, 0, 11, 0, 0x0D, 2, 0x48, 0x69, 0]
    let dump' : Disassembly := ⟨"header.1\nmessage.8 00-00-00-00-S @Hi\nret2.2\ntrailer.0".toList, .big5⟩
    (disassemble "SC01" bytes .big5).1 = .ok dump ∧ (assemble "SC01" dump.text (.plain .big5)).1 = .ok bytes' ∧
      (disassemble "SC01" bytes' .big5).1 = .ok dump' ∧ dump' ≠ dump := by
  decide +kernel

end SceneScript
