import Mathlib
import SceneScript.Proofs.Prose.Typesetter
import SceneScript.Proofs.Script.Anatomy
import SceneScript.Script.Assembly
import SceneScript.Script.Disassembly
/-!
# Disassembling and assembling again

The dump of a script whose pool is laid out as an assembler lays it out assembles to that script, byte for byte.
-/
namespace SceneScript

/-- Whether the strings of a row can stand in its line and are not changed on their way into the pool. -/
structure Row.Writable (row : Row) : Prop where
  noFeed : ∀ s ∈ row.strings, '\n' ∉ s
  noGuillemet : ∀ s ∈ row.strings, '«' ∉ s ∧ '»' ∉ s
  inner_noSign : ∀ s ∈ row.strings.dropLast, '§' ∉ s
  last_noReturn : ∀ s ∈ row.strings.getLast?, s.getLast? ≠ some '\r'

theorem part?_plain {cs : Charset} {s : PoolString} {bytes : Bytes} (h : '«' ∉ s.content ∧ '»' ∉ s.content)
    (hencode : cs.encode s.content = .ok bytes) :
    PoolString.part? (.plain cs) s = some (bytes ++ (s.suffix ++ [0])) := by
  rw [PoolString.part?, Typesetter.encode, Typesetter.set_plain, Prose.replaceGuillemets_eq h]
  change (cs.encode s.content).toOption.map _ = _
  rw [hencode]
  rfl

namespace Reading

/-- The rows of a script. -/
def scriptRows (content : Bytes) (body : List Row) (gap t : Bytes) : List Row :=
  headerRow content :: (body ++ (paddingRows gap ++ [Row.trailer t]))

/-- The bytes of a script. -/
def scriptBytes (inRecords : Bool) (content : Bytes) (body : List Row) (gap pool t : Bytes) : Bytes :=
  UInt8.ofNat (content.length + 1) :: (content ++ (body.flatMap (Row.bytes inRecords) ++ (gap ++ (pool ++ t))))

theorem labelledOffsets_eq (rows : List Row) :
    labelledOffsets rows = (rows.flatMap fun row => row.operands.filterMap Operand.jump?).filter
      (rows.filterMap Row.start?).contains := rfl

/-- Labels depend on where rows start and where they jump to. -/
theorem labelledOffsets_congr {rows rows' : List Row} (h : List.Forall₂ (fun row row' => row'.start? = row.start? ∧
    row'.operands.filterMap Operand.jump? = row.operands.filterMap Operand.jump?) rows rows') :
    labelledOffsets rows' = labelledOffsets rows := by
  have hparts : rows'.filterMap Row.start? = rows.filterMap Row.start? ∧
      (rows'.flatMap fun row => row.operands.filterMap Operand.jump?) =
        rows.flatMap fun row => row.operands.filterMap Operand.jump? := by
    induction h with
    | nil => exact ⟨rfl, rfl⟩
    | cons hrow _ ih =>
      rw [List.filterMap_cons, List.filterMap_cons, List.flatMap_cons, List.flatMap_cons, ih.1, ih.2, hrow.1, hrow.2]
      exact ⟨rfl, rfl⟩
  rw [labelledOffsets_eq, labelledOffsets_eq, hparts.1, hparts.2]

theorem jump?_raw (name : Text) (length : Nat) (content : Bytes) :
    (Row.raw name length content).operands.filterMap Operand.jump? = [] := by
  rw [List.filterMap_eq_nil_iff]
  intro op hop
  obtain ⟨b, -, rfl⟩ := List.mem_map.mp hop
  rfl

private theorem oneLine_raw {name : Text} (hname : Row.isName name = true) (length : Nat) (content : Bytes) :
    (Row.raw name length content).OneLine :=
  ⟨hname, by simp [Row.raw], by simp [Row.raw]⟩

theorem isName_of_rowsFit {inRecords : Bool} {offset : Nat} {rows : List Row}
    (h : rowsFit inRecords offset rows) : ∀ row ∈ rows, Row.isName row.name = true := by
  induction rows generalizing offset with
  | nil => simp
  | cons row more ih =>
    rw [List.forall_mem_cons]
    exact ⟨h.1.legible.isName, ih h.2⟩

theorem paddingRows_cases (gap : Bytes) : ∀ row ∈ paddingRows gap, row = Row.raw "data".toList gap.length gap := by
  intro row hrow
  rw [paddingRows] at hrow
  split_ifs at hrow
  · simp at hrow
  · exact List.mem_singleton.mp hrow

private theorem scriptRows_eq (content : Bytes) (body : List Row) (gap t : Bytes) :
    scriptRows content body gap t = (headerRow content :: (body ++ paddingRows gap)) ++ [Row.trailer t] := by
  simp [scriptRows]

/-- The rows of a script in front of its trailer: they fit, each on a line of its own, and their strings are those of the
body. -/
private theorem front_scriptRows {name : String} {content gap : Bytes} {body : List Row} (hcontent : content.length < 255)
    (hbody : Body (isRecordFile name) (content.length + 1) body)
    (hcount : ∀ row ∈ body, row.strings.length = row.pointers.length) (hwritable : ∀ row ∈ body, row.Writable)
    (hgap : gap.length < Text.numberBound) :
    let front := headerRow content :: (body ++ paddingRows gap)
    rowsFit (isRecordFile name) 0 front ∧ (∀ row ∈ front, row.OneLine) ∧
      (front.flatMap fun row => Row.poolStrings row.name row.strings) = stringsOf body ∧
      rowsLength front = content.length + 1 + rowsLength body + gap.length := by
  have hfitBody := hbody.rowsFit hcount fun row hrow => (hwritable row hrow).inner_noSign
  refine ⟨⟨fitsAt_headerRow _ hcontent, ?_⟩, ?_, ?_, ?_⟩
  · rw [Nat.zero_add, rowsFit_append]
    exact ⟨hfitBody, rowsFit_paddingRows _ _ hgap⟩
  · intro row hrow
    rcases List.mem_cons.mp hrow with rfl | hrow
    · exact oneLine_raw (by decide) _ _
    rcases List.mem_append.mp hrow with hrow | hrow
    · have h := hwritable row hrow
      exact ⟨isName_of_rowsFit hfitBody row hrow, h.noFeed, h.last_noReturn⟩
    · rw [paddingRows_cases gap row hrow]
      exact oneLine_raw (by decide) _ _
  · have hnone : ((paddingRows gap).flatMap fun row => Row.poolStrings row.name row.strings) = [] := by
      rw [List.flatMap_eq_nil_iff]
      intro row hrow
      rw [paddingRows_cases gap row hrow]
      rfl
    rw [List.flatMap_cons, List.flatMap_append, hnone, List.append_nil]
    rfl
  · have hgapLength := rowsLength_paddingRows gap
    simp only [rowsLength, List.map_cons, List.map_append, List.sum_cons, List.sum_append] at hgapLength ⊢
    rw [hgapLength, ← Nat.add_assoc]
    rfl

/-- The rows of a script assemble to its bytes when its pointers lead to where the pool puts the strings. -/
theorem assemble_scriptRows {name : String} {ts : Typesetter} {content gap t : Bytes} {body : List Row}
    {parts : List Bytes} (hcontent : content.length < 255)
    (hbody : Body (isRecordFile name) (content.length + 1) body)
    (hcount : ∀ row ∈ body, row.strings.length = row.pointers.length) (hwritable : ∀ row ∈ body, row.Writable)
    (hgap : gap.length < Text.numberBound) (ht : t.length < Text.numberBound)
    (hparts : List.Forall₂ (fun s part => PoolString.part? ts s = some part) (stringsOf body) parts)
    (hpointers : body.flatMap Row.pointers =
      poolOffsets (content.length + 1 + rowsLength body + gap.length) parts) :
    (assemble name (showRows (scriptRows content body gap t)) ts).1 =
      .ok (scriptBytes (isRecordFile name) content body gap parts.flatten t) := by
  obtain ⟨hfit, hline, hstrings, hlength⟩ := front_scriptRows hcontent hbody hcount hwritable hgap
  have hjumps : ∀ n ∈ labelledOffsets (headerRow content :: (body ++ paddingRows gap)), n ≤ lastOffset := by
    intro n hn
    rw [labelledOffsets_eq] at hn
    obtain ⟨row, hrow, hn⟩ := List.mem_flatMap.mp (List.mem_filter.mp hn).1
    rcases List.mem_cons.mp hrow with rfl | hrow
    · simp [headerRow, jump?_raw] at hn
    rcases List.mem_append.mp hrow with hrow | hrow
    · exact hbody.words.2 n (List.mem_flatMap.mpr ⟨row, hrow, hn⟩)
    · rw [paddingRows_cases gap row hrow, jump?_raw] at hn
      simp at hn
  have hpadding : (paddingRows gap).flatMap Row.pointers = [] := by
    rw [List.flatMap_eq_nil_iff]
    intro row hrow
    rw [paddingRows_cases gap row hrow, Row.pointers_raw]
  have hall : (headerRow content :: (body ++ paddingRows gap)).flatMap Row.pointers = body.flatMap Row.pointers := by
    rw [List.flatMap_cons, List.flatMap_append, hpadding, headerRow, Row.pointers_raw, List.append_nil, List.nil_append]
  have h := assemble_showRows ts hfit hline ht hjumps (by rwa [hstrings]) (by rwa [hall, hlength])
    (by rw [hall]; exact hbody.words.1)
  rw [scriptRows_eq, h, List.flatMap_cons, List.flatMap_append, flatMap_bytes_paddingRows, bytes_headerRow, scriptBytes]
  simp

/-- The rows of a script assemble only if their strings can be written and put within reach. -/
theorem exists_parts_of_assemble {name : String} {ts : Typesetter} {content gap t out : Bytes} {body : List Row}
    (hcontent : content.length < 255) (hbody : Body (isRecordFile name) (content.length + 1) body)
    (hcount : ∀ row ∈ body, row.strings.length = row.pointers.length) (hwritable : ∀ row ∈ body, row.Writable)
    (hgap : gap.length < Text.numberBound) (ht : t.length < Text.numberBound)
    (h : (assemble name (showRows (scriptRows content body gap t)) ts).1 = .ok out) :
    ∃ parts, List.Forall₂ (fun s part => PoolString.part? ts s = some part) (stringsOf body) parts ∧
      ∀ start ∈ poolOffsets (content.length + 1 + rowsLength body + gap.length) parts, start ≤ lastOffset := by
  obtain ⟨hfit, hline, hstrings, hlength⟩ := front_scriptRows hcontent hbody hcount hwritable hgap
  rw [scriptRows_eq] at h
  rw [← hstrings, ← hlength]
  exact exists_parts_of_assemble_showRows hfit hline ht h

/-! ## Canonical pools -/

/-- The bytes of the string at an offset, up to the first zero. -/
def contentAt (r : Reading) (start : Nat) : Bytes := (r.bytes.drop start).takeWhile (· != 0)

/-- The pointers of rows in order, each with its string. -/
def poolCells (rows : List Row) : List (Nat × PoolString) := (rows.flatMap Row.pointers).zip (stringsOf rows)

/-- Whether the strings of a script stand where an assembler puts them: after the walk, in the order of their pointers,
one directly after the other, and with the closing bytes of a route where a route ends. -/
structure Canonical (r : Reading) (w : Walked) : Prop where
  first : ∀ cell ∈ (poolCells w.rows).head?, w.stop ≤ cell.1
  next : (poolCells w.rows).IsChain fun cell cell' =>
    cell'.1 = cell.1 + ((r.contentAt cell.1).length + cell.2.suffix.length + 1)
  closed : ∀ cell ∈ poolCells w.rows,
    cell.2.suffix ++ [0] <+: r.bytes.drop (cell.1 + (r.contentAt cell.1).length)

/-- Whether the strings of rows are encoded to the bytes they were read from. -/
def Reencodes (r : Reading) (rows : List Row) : Prop :=
  ∀ row ∈ rows, List.Forall₂ (fun p t => r.charset.encode t = .ok (r.contentAt p)) row.pointers row.strings

/-- The strings of a script as they stand in it. -/
def segmentsOf (r : Reading) (cells : List (Nat × PoolString)) : List PoolSegment :=
  cells.map fun cell => ⟨r.contentAt cell.1, cell.2.suffix⟩

/-- Strings that stand one directly after the other are the parts of a pool. -/
private theorem canonical_parts {r : Reading} {cells : List (Nat × PoolString)}
    (hnext : cells.IsChain fun cell cell' =>
      cell'.1 = cell.1 + ((r.contentAt cell.1).length + cell.2.suffix.length + 1))
    (hclosed : ∀ cell ∈ cells, cell.2.suffix ++ [0] <+: r.bytes.drop (cell.1 + (r.contentAt cell.1).length))
    {p : Nat} (hp : ∀ cell ∈ cells.head?, cell.1 = p) :
    cells.map Prod.fst = poolOffsets p (PoolSegment.parts (r.segmentsOf cells)) ∧
      ∃ after, r.bytes.drop p = (PoolSegment.parts (r.segmentsOf cells)).flatten ++ after := by
  induction cells generalizing p with
  | nil => exact ⟨rfl, _, rfl⟩
  | cons cell more ih =>
    obtain rfl := hp cell rfl
    rw [List.forall_mem_cons] at hclosed
    obtain ⟨⟨rest, hrest⟩, hclosed⟩ := hclosed
    have hlength : (PoolSegment.part ⟨r.contentAt cell.1, cell.2.suffix⟩).length =
        (r.contentAt cell.1).length + cell.2.suffix.length + 1 := by
      simp [PoolSegment.part, Nat.add_assoc]
    have hpart : r.bytes.drop cell.1 = PoolSegment.part ⟨r.contentAt cell.1, cell.2.suffix⟩ ++ rest := by
      obtain ⟨after, hafter⟩ : r.contentAt cell.1 <+: r.bytes.drop cell.1 := List.takeWhile_prefix _
      have hdrop : (r.bytes.drop cell.1).drop (r.contentAt cell.1).length = after := by
        rw [← hafter, List.drop_left]
      rw [List.drop_drop] at hdrop
      rw [← hafter, ← hdrop, ← hrest]
      simp [PoolSegment.part]
    rw [segmentsOf, List.map_cons, PoolSegment.parts, List.map_cons, List.map_cons, poolOffsets, List.flatten_cons]
    cases more with
    | nil => exact ⟨rfl, rest, by rw [hpart]; simp⟩
    | cons cell' more =>
      rw [List.isChain_cons_cons] at hnext
      have hhead : ∀ c ∈ (cell' :: more).head?,
          c.1 = cell.1 + (PoolSegment.part ⟨r.contentAt cell.1, cell.2.suffix⟩).length := by
        rintro c ⟨rfl⟩
        rw [hlength, hnext.1]
      obtain ⟨hoffsets, after, hafter⟩ := ih hnext.2 hclosed hhead
      rw [← List.drop_drop, hpart, List.drop_left] at hafter
      refine ⟨by rw [hoffsets]; rfl, after, ?_⟩
      rw [hpart, hafter, List.append_assoc]
      rfl

theorem length_stringsOf {rows : List Row} (hcount : ∀ row ∈ rows, row.strings.length = row.pointers.length) :
    (rows.flatMap Row.pointers).length = (stringsOf rows).length := by
  induction rows with
  | nil => rfl
  | cons row more ih =>
    rw [List.forall_mem_cons] at hcount
    have hmore := ih hcount.2
    rw [stringsOf] at hmore
    rw [stringsOf, List.flatMap_cons, List.flatMap_cons, List.length_append, List.length_append, hmore,
      Row.length_poolStrings, hcount.1]

theorem map_fst_poolCells {rows : List Row} (hcount : ∀ row ∈ rows, row.strings.length = row.pointers.length) :
    (poolCells rows).map Prod.fst = rows.flatMap Row.pointers :=
  List.map_fst_zip (length_stringsOf hcount).le

theorem map_snd_poolCells {rows : List Row} (hcount : ∀ row ∈ rows, row.strings.length = row.pointers.length) :
    (poolCells rows).map Prod.snd = stringsOf rows :=
  List.map_snd_zip (length_stringsOf hcount).ge

/-- The strings of a canonical script take up the stretch from the first pointer to the trailer. -/
private theorem canonical_pool {r : Reading} {w : Walked} {inRecords : Bool} {start : Nat}
    (hcanonical : r.Canonical w) (hbody : Body inRecords start w.rows)
    (hcount : ∀ row ∈ w.rows, row.strings.length = row.pointers.length) {cell : Nat × PoolString}
    (hcell : (poolCells w.rows).head? = some cell) :
    let parts := PoolSegment.parts (r.segmentsOf (poolCells w.rows))
    w.rows.flatMap Row.pointers = poolOffsets cell.1 parts ∧
      r.extent {} (w.rows.flatMap Row.pointers) = ⟨some cell.1, cell.1 + parts.flatten.length⟩ ∧
      r.bytes.drop cell.1 = parts.flatten ++ r.bytes.drop (cell.1 + parts.flatten.length) := by
  intro parts
  have hhead : ∀ c ∈ (poolCells w.rows).head?, c.1 = cell.1 := by
    intro c hc
    rw [Option.some.inj (hcell.symm.trans hc)]
  obtain ⟨hoffsets, after, hafter⟩ := canonical_parts hcanonical.next hcanonical.closed hhead
  rw [map_fst_poolCells hcount] at hoffsets
  refine ⟨hoffsets, ?_, ?_⟩
  · rw [hoffsets]
    apply extent_parts {} hafter
    · intro s hs
      obtain ⟨c, hc, rfl⟩ := List.mem_map.mp hs
      have hmem : c.2 ∈ stringsOf w.rows := by
        rw [← map_snd_poolCells hcount]
        exact List.mem_map_of_mem hc
      obtain ⟨row, -, hrow⟩ := List.mem_flatMap.mp hmem
      refine ⟨fun hzero => ?_, ?_⟩
      · simpa using List.all_eq_true.mp List.all_takeWhile _ hzero
      · rcases suffix_of_mem_poolStrings hrow with hs | ⟨hs, -⟩ <;> rw [hs] <;> rfl
    · intro s hs
      rw [segmentsOf, List.getLast?_map] at hs
      obtain ⟨c, hc, rfl⟩ := Option.map_eq_some_iff.mp hs
      refine hbody.last_suffix hcount c.2 ?_
      rw [← map_snd_poolCells hcount, List.getLast?_map, hc]
      rfl
    · intro hnil
      rw [segmentsOf, List.map_eq_nil_iff] at hnil
      rw [hnil] at hcell
      cases hcell
    · simp
    · exact Nat.zero_le _
  · rw [← List.drop_drop, hafter, List.drop_left]

private theorem parts_of_reencodes {r : Reading} {rows : List Row}
    (hcount : ∀ row ∈ rows, row.strings.length = row.pointers.length) (hencode : r.Reencodes rows)
    (hwritable : ∀ row ∈ rows, row.Writable) :
    List.Forall₂ (fun s part => PoolString.part? (.plain r.charset) s = some part) (stringsOf rows)
      (PoolSegment.parts (r.segmentsOf (poolCells rows))) := by
  have hall := (forall₂_stringsOf hcount).mp hencode
  rw [← map_snd_poolCells hcount, PoolSegment.parts, segmentsOf, List.map_map, List.forall₂_map_left_iff,
    List.forall₂_map_right_iff, List.forall₂_same]
  intro cell hcell
  rw [List.forall₂_iff_zip] at hall
  have hmem : cell.2 ∈ stringsOf rows := by
    rw [← map_snd_poolCells hcount]
    exact List.mem_map_of_mem hcell
  obtain ⟨row, hrow, hs⟩ := List.mem_flatMap.mp hmem
  have hcontent : cell.2.content ∈ row.strings := by
    rw [← map_content_poolStrings row.name row.strings]
    exact List.mem_map_of_mem hs
  exact part?_plain ((hwritable row hrow).noGuillemet _ hcontent) (hall.2 hcell)

/-- The rows of a canonical script are those of its header, its walk, its padding and its trailer, and its bytes are
theirs and the pool's. -/
private theorem canonical_script {r : Reading} {row : Row} {w : Walked} (hwalks : r.Walks row w)
    (hcanonical : r.Canonical w) :
    ∃ content gap t, content.length < 255 ∧ Body (isRecordFile r.name) (content.length + 1) w.rows ∧
      r.ResolvesAll w.rows ∧
      row :: (w.rows ++ (r.padding w ++ [r.trailer w])) = scriptRows content w.rows gap t ∧
      r.bytes = scriptBytes (isRecordFile r.name) content w.rows gap
        (PoolSegment.parts (r.segmentsOf (poolCells w.rows))).flatten t ∧
      w.rows.flatMap Row.pointers = poolOffsets (content.length + 1 + rowsLength w.rows + gap.length)
        (PoolSegment.parts (r.segmentsOf (poolCells w.rows))) := by
  obtain ⟨content, tail, rfl, hcontent, hbody, hresolves, hstop, hpool, hbytes⟩ := hwalks.dissect
  have hcount := hresolves.count
  have hfront : r.bytes.drop w.stop = tail := by
    have hlength : (UInt8.ofNat (content.length + 1) :: (content ++
        w.rows.flatMap (Row.bytes (isRecordFile r.name)))).length = w.stop := by
      rw [hstop, List.length_cons, List.length_append, hbody.length_bytes]
      omega
    rw [hbytes, ← List.append_assoc, ← List.cons_append, List.drop_left' hlength]
  cases hcells : (poolCells w.rows).head? with
  | none =>
    rw [List.head?_eq_none_iff] at hcells
    have hpointers := map_fst_poolCells hcount
    rw [hcells, List.map_nil] at hpointers
    rw [← hpointers] at hpool
    refine ⟨content, [], tail, hcontent, hbody, hresolves, ?_, ?_, ?_⟩
    · have hpadding : r.padding w = [] := by
        rw [padding, hpool]
        rfl
      have htrailer : r.trailer w = Row.trailer tail := by
        rw [trailer, hpool, ← hfront, Row.trailer, show (r.extent {} []).stop = 0 from rfl, Nat.max_zero]
      rw [hpadding, htrailer]
      rfl
    · rw [hbytes, hcells]
      rfl
    · rw [← hpointers, hcells]
      rfl
  | some cell =>
    obtain ⟨hoffsets, hextent, hdrop⟩ := canonical_pool hcanonical hbody hcount hcells
    have hle : w.stop ≤ cell.1 := hcanonical.first cell hcells
    rw [hextent] at hpool
    have hlt : cell.1 < r.bytes.length := by
      by_contra hge
      rw [List.drop_eq_nil_of_le (Nat.le_of_not_lt hge), eq_comm, List.append_eq_nil_iff] at hdrop
      obtain ⟨more, hmore⟩ := List.head?_eq_some_iff.mp hcells
      rw [hmore] at hdrop
      simp [segmentsOf, PoolSegment.parts, PoolSegment.part] at hdrop
    have hgap : tail = (r.bytes.take cell.1).drop w.stop ++ r.bytes.drop cell.1 := by
      rw [← hfront]
      conv_lhs => rw [← List.take_append_drop cell.1 r.bytes]
      rw [List.drop_append_of_le_length]
      rw [List.length_take]
      omega
    have hgapLength : ((r.bytes.take cell.1).drop w.stop).length = cell.1 - w.stop := by
      rw [List.length_drop, List.length_take]
      omega
    refine ⟨content, (r.bytes.take cell.1).drop w.stop,
      r.bytes.drop (cell.1 + (PoolSegment.parts (r.segmentsOf (poolCells w.rows))).flatten.length), hcontent, hbody,
      hresolves, ?_, ?_, ?_⟩
    · have htrailer : r.trailer w = Row.trailer
          (r.bytes.drop (cell.1 + (PoolSegment.parts (r.segmentsOf (poolCells w.rows))).flatten.length)) := by
        rw [trailer, hpool, Row.trailer, Nat.max_eq_right (by dsimp only; omega)]
      rw [padding_eq (by rw [hpool]) hlt.le, htrailer]
      rfl
    · rw [scriptBytes, ← hdrop, ← hgap, ← hbytes]
    · rw [hoffsets, hgapLength, ← hstop, Nat.add_sub_cancel' hle]

end Reading

theorem dumpIn_eq_ok {name : String} {bytes : Bytes} {cs : Charset} {dump : Disassembly} :
    dumpIn name bytes cs = .ok dump ↔ ∃ rows, Reading.rows ⟨name, bytes, cs⟩ = .ok rows ∧ dump = ⟨showRows rows, cs⟩ := by
  rw [dumpIn]
  cases Reading.rows ⟨name, bytes, cs⟩ with
  | error e => simp [Except.map]
  | ok rows => simp [Except.map, eq_comm]

theorem disassemble_eq_ok {name : String} {bytes : Bytes} {cs : Charset} {dump : Disassembly} :
    (disassemble name bytes cs).1 = .ok dump ↔ dumpIn name bytes cs = .ok dump ∨
      dumpIn name bytes cs = .error .undecodable ∧ dumpIn name bytes cs.flipped = .ok dump := by
  rw [disassemble]
  rcases dumpIn name bytes cs with (_ | e) | d
  · rcases dumpIn name bytes cs.flipped with (_ | e) | d <;> simp
  · simp
  · simp

theorem rows_of_disassemble {name : String} {bytes : Bytes} {preferred : Charset} {dump : Disassembly}
    (h : (disassemble name bytes preferred).1 = .ok dump) :
    ∃ rows, Reading.rows ⟨name, bytes, dump.charset⟩ = .ok rows ∧ dump.text = showRows rows := by
  rcases disassemble_eq_ok.mp h with h | ⟨-, h⟩
  · obtain ⟨rows, hrows, rfl⟩ := dumpIn_eq_ok.mp h
    exact ⟨rows, hrows, rfl⟩
  · obtain ⟨rows, hrows, rfl⟩ := dumpIn_eq_ok.mp h
    exact ⟨rows, hrows, rfl⟩

/-- The dump of a script is the rows of its walk. -/
theorem exists_walks_of_disassemble {name : String} {bytes : Bytes} {preferred : Charset} {dump : Disassembly}
    (h : (disassemble name bytes preferred).1 = .ok dump) :
    let r : Reading := ⟨name, bytes, dump.charset⟩
    ∃ row w, r.Walks row w ∧ dump.text = showRows (row :: (w.rows ++ (r.padding w ++ [r.trailer w]))) := by
  obtain ⟨rows, hrows, htext⟩ := rows_of_disassemble h
  obtain ⟨row, w, hwalks, rfl⟩ := Reading.rows_eq_ok.mp hrows
  exact ⟨row, w, hwalks, htext⟩

theorem text_of_walks {name : String} {bytes : Bytes} {preferred : Charset} {dump : Disassembly} {row : Row}
    {w : Reading.Walked} (h : (disassemble name bytes preferred).1 = .ok dump)
    (hwalks : Reading.Walks ⟨name, bytes, dump.charset⟩ row w) :
    let r : Reading := ⟨name, bytes, dump.charset⟩
    dump.text = showRows (row :: (w.rows ++ (r.padding w ++ [r.trailer w]))) := by
  obtain ⟨row', w', hwalks', htext⟩ := exists_walks_of_disassemble h
  obtain ⟨rfl, rfl⟩ := hwalks.unique hwalks'
  exact htext

/-- A script with a canonical pool comes back byte for byte when its dump is assembled. -/
theorem assemble_disassemble {name : String} {bytes : Bytes} {preferred : Charset} {dump : Disassembly} {row : Row}
    {w : Reading.Walked} (h : (disassemble name bytes preferred).1 = .ok dump)
    (hwalks : Reading.Walks ⟨name, bytes, dump.charset⟩ row w)
    (hcanonical : Reading.Canonical ⟨name, bytes, dump.charset⟩ w)
    (hencode : Reading.Reencodes ⟨name, bytes, dump.charset⟩ w.rows)
    (hwritable : ∀ row ∈ w.rows, row.Writable) (hlength : bytes.length < Text.numberBound) :
    (assemble name dump.text (.plain dump.charset)).1 = .ok bytes := by
  obtain ⟨rows, hrows, htext⟩ := rows_of_disassemble h
  obtain ⟨row', w', hwalks', rfl⟩ := Reading.rows_eq_ok.mp hrows
  obtain ⟨rfl, rfl⟩ := hwalks.unique hwalks'
  obtain ⟨content, gap, t, hcontent, hbody, hresolves, hscript, hbytes, hpointers⟩ :=
    Reading.canonical_script hwalks hcanonical
  have hparts := Reading.parts_of_reencodes hresolves.count hencode hwritable
  have hlengths := congrArg List.length hbytes
  simp only [Reading.scriptBytes, List.length_cons, List.length_append] at hlengths
  rw [htext, hscript, Reading.assemble_scriptRows hcontent hbody hresolves.count hwritable (by omega) (by omega) hparts
    hpointers, ← hbytes]

/-- A message whose string stands right after the instruction that ends the script. -/
theorem assemble_disassemble_message :
    let bytes : Bytes := [1, 0x18, 8, 0, 0, 0, 0, 11, 0, 0x0D, 2, 0x48, 0x69, 0, 0xFF]
    let dump : Disassembly :=
      ⟨"header.1\nmessage.8 00-00-00-00-S @Hi\nret2.2\ntrailer.1 FF".toList, .big5⟩
    (disassemble "SC01" bytes .big5).1 = .ok dump ∧ (assemble "SC01" dump.text (.plain .big5)).1 = .ok bytes := by
  intro bytes dump
  let r : Reading := ⟨"SC01", bytes, .big5⟩
  let message : Row :=
    ⟨some 1, "message".toList, 8, [.byte 0, .byte 0, .byte 0, .byte 0, .pointer 11], ["Hi".toList]⟩
  let ret2 : Row := ⟨some 9, "ret2".toList, 2, [], []⟩
  have h : (disassemble "SC01" bytes .big5).1 = .ok dump := by decide +kernel
  have hwalks : r.Walks (Reading.headerRow []) ⟨[message, ret2], 11, ⟨some 11, 14⟩⟩ :=
    ⟨1, by decide +kernel, by decide +kernel⟩
  have hcells : Reading.poolCells [message, ret2] = [(11, ⟨"Hi".toList, []⟩)] := by decide +kernel
  have hcanonical : r.Canonical ⟨[message, ret2], 11, ⟨some 11, 14⟩⟩ := by
    constructor
    · rw [hcells]
      rintro cell ⟨rfl⟩
      decide
    · rw [hcells]
      exact List.isChain_singleton _
    · rw [hcells, List.forall_mem_singleton]
      exact ⟨[0xFF], by decide +kernel⟩
  have hencode : r.Reencodes [message, ret2] := by
    rw [Reading.Reencodes, List.forall_mem_cons, List.forall_mem_singleton]
    exact ⟨.cons (by decide +kernel) .nil, .nil⟩
  have hwritable : ∀ row ∈ [message, ret2], row.Writable := by
    rw [List.forall_mem_cons, List.forall_mem_singleton]
    exact ⟨⟨by decide, by decide, by decide, by decide⟩, ⟨by decide, by decide, by decide, by decide⟩⟩
  exact ⟨h, assemble_disassemble h hwalks hcanonical hencode hwritable (by decide)⟩

end SceneScript
