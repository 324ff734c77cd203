import Mathlib
import SceneScript.Proofs.Correspondence
import SceneScript.Proofs.Script.Reassembly
import SceneScript.Proofs.Script.Walk
/-!
# The parts of a script

The rows of a script are its header, what a walk reads, the padding in front of the first string and the trailer. They
are found exactly in the bytes they stand for.
-/
namespace SceneScript

/-- The bytes of a string in a script and those between them and the closing zero. -/
structure PoolSegment where
  content : Bytes
  suffix : Bytes

namespace PoolSegment

/-- All bytes of a string in the pool. -/
def part (s : PoolSegment) : Bytes := s.content ++ (s.suffix ++ [0])

/-- The bytes of strings in the pool. -/
def parts (segments : List PoolSegment) : List Bytes := segments.map part

end PoolSegment

namespace Reading

/-- The end of a string that stands in front of other bytes. -/
private theorem stringEnd_segment {r : Reading} {p : Nat} {s : PoolSegment} {after : Bytes}
    (hdrop : r.bytes.drop p = s.part ++ after) (hzero : 0 ∉ s.content) (hsuffix : s.suffix.head?.getD 0 = 0) :
    r.stringEnd p = p + s.content.length + 1 := by
  match hs : s.suffix with
  | [] =>
    have hclosed : r.bytes.drop p = s.content ++ 0 :: after := by
      rw [hdrop, PoolSegment.part, hs]
      simp
    exact stringEnd_eq hclosed hzero
  | b :: suffix =>
    rw [hs] at hsuffix
    obtain rfl : b = 0 := by simpa using hsuffix
    have hclosed : r.bytes.drop p = s.content ++ 0 :: (suffix ++ 0 :: after) := by
      rw [hdrop, PoolSegment.part, hs]
      simp
    exact stringEnd_eq hclosed hzero

/-- Strings that stand one after the other take up the stretch from the first to the end of the last. -/
theorem extent_parts {r : Reading} {p : Nat} {segments : List PoolSegment} (pool : PoolExtent) {after : Bytes}
    (hdrop : r.bytes.drop p = (PoolSegment.parts segments).flatten ++ after)
    (hzero : ∀ s ∈ segments, 0 ∉ s.content ∧ s.suffix.head?.getD 0 = 0) (hlast : ∀ s ∈ segments.getLast?, s.suffix = [])
    (hne : segments ≠ []) (hlowest : ∀ l ∈ pool.lowest?, l ≤ p) (hstop : pool.stop ≤ p) :
    r.extent pool (poolOffsets p (PoolSegment.parts segments)) =
      ⟨some (pool.lowest?.getD p), p + (PoolSegment.parts segments).flatten.length⟩ := by
  induction segments generalizing p pool with
  | nil => exact absurd rfl hne
  | cons s more ih =>
    rw [List.forall_mem_cons] at hzero
    rw [PoolSegment.parts, List.map_cons, List.flatten_cons, List.append_assoc] at hdrop
    have hend := stringEnd_segment hdrop hzero.1.1 hzero.1.2
    have hadd : pool.add p (r.stringEnd p) = ⟨some (pool.lowest?.getD p), p + s.content.length + 1⟩ := by
      rw [hend, PoolExtent.add]
      congr 1
      · cases h : pool.lowest? with
        | none => rfl
        | some l => simpa using hlowest l h
      · omega
    rw [PoolSegment.parts, List.map_cons, poolOffsets, extent, List.foldl_cons, hadd]
    cases more with
    | nil =>
      simp [PoolSegment.part, poolOffsets, hlast s rfl, Nat.add_assoc]
    | cons s' more =>
      have hlength : s.part.length = s.content.length + s.suffix.length + 1 := by
        simp [PoolSegment.part, Nat.add_assoc]
      have hnext : r.bytes.drop (p + s.part.length) = (PoolSegment.parts (s' :: more)).flatten ++ after := by
        rw [← List.drop_drop, hdrop, List.drop_left]
        rfl
      have hle : pool.lowest?.getD p ≤ p := by
        cases h : pool.lowest? with
        | none => exact Nat.le_refl p
        | some l => exact hlowest l h
      have hrest := ih ⟨some (pool.lowest?.getD p), p + s.content.length + 1⟩ hnext hzero.2 hlast
        (List.cons_ne_nil _ _) (by rintro l ⟨rfl⟩; omega) (by dsimp only; omega)
      rw [extent] at hrest
      rw [PoolSegment.parts] at hrest
      rw [hrest]
      simp [Nat.add_assoc]

/-! ## The walk -/

/-- What a walk reads when it starts at an offset. -/
def Body (inRecords : Bool) (start : Nat) (rows : List Row) : Prop :=
  if inRecords then List.Forall₂ RecordOf records rows else Instructions start rows

theorem ResolvesAll.count {r : Reading} {rows : List Row} (h : r.ResolvesAll rows) :
    ∀ row ∈ rows, row.strings.length = row.pointers.length :=
  fun row hrow => (h row hrow).length_eq.symm

private theorem records_unreserved : ∀ s ∈ records, s.name ∉ Row.reserved :=
  fun _ hs => (of_mem_records hs).2.1

theorem Body.length_bytes {inRecords : Bool} {start : Nat} {rows : List Row} (h : Body inRecords start rows) :
    (rows.flatMap (Row.bytes inRecords)).length = rowsLength rows := by
  rw [Body] at h
  cases inRecords with
  | true => exact length_bytes_records records_unreserved h
  | false => exact length_bytes_instructions h

/-- Whether a walk over instructions ends of itself or where its strings begin. -/
def EndsSafely (inRecords : Bool) (w : Walked) : Prop :=
  inRecords = true ∨ (∃ row ∈ w.rows.getLast?, row.name = Opcode.ret2Name) ∨ w.pool.reached w.stop = true

theorem walkBody_ok {r : Reading} {start : Nat} {w : Walked} (h : r.walkBody start = .ok w) :
    ∃ tail, Body (isRecordFile r.name) start w.rows ∧ r.ResolvesAll w.rows ∧
      r.bytes.drop start = w.rows.flatMap (Row.bytes (isRecordFile r.name)) ++ tail ∧
      w.stop = start + rowsLength w.rows ∧ w.pool = r.extent {} (w.rows.flatMap Row.pointers) ∧
      (EndsSafely (isRecordFile r.name) w ∨ Stalls tail) := by
  rw [walkBody] at h
  rw [Body]
  split_ifs at h ⊢ with hrecords
  · obtain ⟨rows, tail, hrows, hresolves, hbytes, rfl⟩ := walkRecords_ok records_unreserved h
    rw [hrecords]
    exact ⟨tail, hrows, hresolves, hbytes, rfl, rfl, Or.inl (Or.inl rfl)⟩
  · obtain ⟨rows, tail, hrows, hresolves, hbytes, rfl, hends⟩ := walkInstructions_ok h
    rw [Bool.not_eq_true] at hrecords
    rw [hrecords]
    refine ⟨tail, hrows, hresolves, hbytes, rfl, rfl, ?_⟩
    rcases hends with hret2 | hreached | hstalls
    · exact Or.inl (Or.inr (Or.inl hret2))
    · exact Or.inl (Or.inr (Or.inr hreached))
    · exact Or.inr hstalls

theorem walkBody_eq {r : Reading} {start : Nat} {rows : List Row} {tail : Bytes}
    (hrows : Body (isRecordFile r.name) start rows) (hresolves : r.ResolvesAll rows)
    (hbytes : r.bytes.drop start = rows.flatMap (Row.bytes (isRecordFile r.name)) ++ tail)
    (hpointers : ∀ p ∈ rows.flatMap Row.pointers, start + rowsLength rows ≤ p)
    (hends : EndsSafely (isRecordFile r.name)
      ⟨rows, start + rowsLength rows, r.extent {} (rows.flatMap Row.pointers)⟩ ∨ Stalls tail) :
    r.walkBody start = .ok ⟨rows, start + rowsLength rows, r.extent {} (rows.flatMap Row.pointers)⟩ := by
  rw [walkBody]
  rw [Body] at hrows
  split_ifs at hrows ⊢ with hrecords
  · rw [hrecords] at hbytes
    rw [hbytes, walkRecords_eq records_unreserved hrows hresolves]
    rfl
  · rw [Bool.not_eq_true] at hrecords
    rw [hrecords] at hbytes hends
    rw [hbytes, walkInstructions_eq hrows hresolves rfl (by simp) hpointers]
    · rfl
    · rcases hends with (h | h | h) | h
      · cases h
      · exact Or.inl h
      · exact Or.inr (Or.inl h)
      · exact Or.inr (Or.inr h)

private theorem fitsAt_instruction {position : Nat} {row : Row} (h : InstructionAt position row)
    (hcount : row.strings.length = row.pointers.length) (hinner : ∀ s ∈ row.strings.dropLast, '§' ∉ s) :
    row.FitsAt false position := by
  obtain ⟨opcode, hname, hstart, hsize, hsize', -, hlength⟩ := h
  have hkind : row.kind false = .instruction opcode := by
    rw [Row.kind, kind_of_name? hname]
    rfl
  have hbound : 255 < Text.numberBound := by decide
  refine ⟨⟨?_, (of_name? hname).1, by omega, hcount.le, hinner, ?_⟩, ?_, ?_, ?_, ?_, hcount⟩
  · rw [hkind, kind_of_name? hname]
  · rw [hkind]
    exact fun h => by cases h
  · rw [hkind]
    exact fun h => by cases h
  · rw [hkind]
    exact hsize'
  · rw [hkind, hlength]
    simp only [LineKind.head, List.length_cons, List.length_nil]
    omega
  · intro start hs
    rw [hstart] at hs
    cases hs
    exact ⟨rfl, by omega⟩

private theorem fitsAt_record {position : Nat} {s : Section} {row : Row} (hs : s ∈ records)
    (h : RecordOf s row) (hcount : row.strings.length = row.pointers.length)
    (hinner : ∀ s ∈ row.strings.dropLast, '§' ∉ s) : row.FitsAt true position := by
  obtain ⟨hstart, hname, hlength, -, hbytes⟩ := h
  obtain ⟨hisName, hreserved, hbound⟩ := of_mem_records hs
  rw [← hname] at hisName hreserved
  have hkind : row.kind true = .raw := by
    rw [Row.kind, kind_of_notMem_reserved hreserved]
    rfl
  refine ⟨⟨?_, hisName, by omega, hcount.le, hinner, ?_⟩, ?_, ?_, ?_, ?_, hcount⟩
  · rw [hkind, kind_of_notMem_reserved hreserved]
  · rw [hkind]
    exact fun h => by cases h
  · rw [hkind]
    exact fun h => by cases h
  · rw [hkind]
    trivial
  · rw [hkind, hbytes]
    exact Nat.zero_add _
  · intro start hs
    rw [hstart] at hs
    cases hs

private theorem rowsFit_instructions {position : Nat} {rows : List Row} (h : Instructions position rows)
    (hcount : ∀ row ∈ rows, row.strings.length = row.pointers.length) (hinner : ∀ row ∈ rows, ∀ s ∈ row.strings.dropLast, '§' ∉ s) :
    rowsFit false position rows := by
  induction rows generalizing position with
  | nil => trivial
  | cons row more ih =>
    rw [List.forall_mem_cons] at hcount hinner
    exact ⟨fitsAt_instruction h.1 hcount.1 hinner.1, ih h.2.2 hcount.2 hinner.2⟩

private theorem rowsFit_records {position : Nat} {sections : List Section} {rows : List Row}
    (hsections : ∀ s ∈ sections, s ∈ records) (h : List.Forall₂ RecordOf sections rows)
    (hcount : ∀ row ∈ rows, row.strings.length = row.pointers.length)
    (hinner : ∀ row ∈ rows, ∀ s ∈ row.strings.dropLast, '§' ∉ s) : rowsFit true position rows := by
  induction h generalizing position with
  | nil => trivial
  | @cons s row sections rows hrow hrows ih =>
    rw [List.forall_mem_cons] at hsections hcount hinner
    exact ⟨fitsAt_record hsections.1 hrow hcount.1 hinner.1, ih hsections.2 hcount.2 hinner.2⟩

/-- What a walk reads can be put back into the stream where it was. -/
theorem Body.rowsFit {inRecords : Bool} {start : Nat} {rows : List Row} (h : Body inRecords start rows)
    (hcount : ∀ row ∈ rows, row.strings.length = row.pointers.length)
    (hinner : ∀ row ∈ rows, ∀ s ∈ row.strings.dropLast, '§' ∉ s) :
    rowsFit inRecords start rows := by
  rw [Body] at h
  cases inRecords with
  | true => exact rowsFit_records (fun _ hs => hs) h hcount hinner
  | false => exact rowsFit_instructions h hcount hinner

private theorem words_of_shape {cells : List Nat} {jump? : Option Nat} {position : Nat} {ops : List Operand}
    (h : Shape cells jump? position ops) :
    (∀ n ∈ ops.filterMap Operand.pointer?, n ≤ lastOffset) ∧ ∀ n ∈ ops.filterMap Operand.jump?, n ≤ lastOffset := by
  induction ops generalizing position with
  | nil => simp
  | cons op more ih =>
    cases op with
    | byte b => exact ih h.2
    | pointer target =>
      obtain ⟨hpointers, hjumps⟩ := ih h.2.2
      refine ⟨?_, hjumps⟩
      rw [List.filterMap_cons_some (Operand.pointer?_pointer target), List.forall_mem_cons]
      exact ⟨Nat.le_of_lt_succ h.2.1, hpointers⟩
    | jump target =>
      obtain ⟨hpointers, hjumps⟩ := ih h.2.2.2
      refine ⟨hpointers, ?_⟩
      rw [List.filterMap_cons_some (show (Operand.jump target).jump? = some target from rfl), List.forall_mem_cons]
      exact ⟨Nat.le_of_lt_succ h.2.2.1, hjumps⟩

private theorem shape_of_instructions {position : Nat} {rows : List Row} (h : Instructions position rows) :
    ∀ row ∈ rows, ∃ cells jump?, Shape cells jump? 0 row.operands := by
  induction rows generalizing position with
  | nil => simp
  | cons row more ih =>
    rw [List.forall_mem_cons]
    obtain ⟨opcode, -, -, -, -, hshape, -⟩ := h.1
    exact ⟨⟨_, _, hshape⟩, ih h.2.2⟩

private theorem shape_of_records {sections : List Section} {rows : List Row} (h : List.Forall₂ RecordOf sections rows) :
    ∀ row ∈ rows, ∃ cells jump?, Shape cells jump? 0 row.operands := by
  induction h with
  | nil => simp
  | cons hrow _ ih =>
    rw [List.forall_mem_cons]
    exact ⟨⟨_, _, hrow.2.2.2.1⟩, ih⟩

/-- The pointers and jump targets of a walk are words. -/
theorem Body.words {inRecords : Bool} {start : Nat} {rows : List Row} (h : Body inRecords start rows) :
    (∀ n ∈ rows.flatMap Row.pointers, n ≤ lastOffset) ∧
      ∀ n ∈ rows.flatMap fun row => row.operands.filterMap Operand.jump?, n ≤ lastOffset := by
  have hshape : ∀ row ∈ rows, ∃ cells jump?, Shape cells jump? 0 row.operands := by
    rw [Body] at h
    split_ifs at h
    · exact shape_of_records h
    · exact shape_of_instructions h
  constructor
  · intro n hn
    obtain ⟨row, hrow, hn⟩ := List.mem_flatMap.mp hn
    obtain ⟨cells, jump?, hs⟩ := hshape row hrow
    exact (words_of_shape hs).1 n hn
  · intro n hn
    obtain ⟨row, hrow, hn⟩ := List.mem_flatMap.mp hn
    obtain ⟨cells, jump?, hs⟩ := hshape row hrow
    exact (words_of_shape hs).2 n hn

/-! ## The strings of a walk -/

/-- The strings of rows as they are put into the pool. -/
def stringsOf (rows : List Row) : List PoolString := rows.flatMap fun row => Row.poolStrings row.name row.strings

theorem suffix_of_mem_poolStrings {name : Text} {strings : List Text} {s : PoolString}
    (h : s ∈ Row.poolStrings name strings) : s.suffix = [] ∨ s.suffix = routeSuffix ∧ name = "route".toList := by
  fun_induction Row.poolStrings name strings with
  | case1 => simp at h
  | case2 t =>
    obtain rfl := List.mem_singleton.mp h
    dsimp only
    split_ifs with hroute
    · exact Or.inr ⟨rfl, hroute⟩
    · exact Or.inl rfl
  | case3 t more hmore ih =>
    rcases List.mem_cons.mp h with rfl | h
    · exact Or.inl rfl
    · exact ih h

/-- Operands behind all cells hold no pointers. -/
theorem pointers_eq_nil {cells : List Nat} {jump? : Option Nat} {position : Nat} {ops : List Operand}
    (hcells : ∀ cell ∈ cells, cell < position) (h : Shape cells jump? position ops) : ops.filterMap Operand.pointer? = [] := by
  induction ops generalizing position with
  | nil => rfl
  | cons op more ih =>
    cases op with
    | byte b =>
      rw [List.filterMap_cons_none (Operand.pointer?_byte b)]
      exact ih (fun cell hcell => Nat.lt_succ_of_lt (hcells cell hcell)) h.2
    | pointer target => exact absurd (hcells position h.1) (Nat.lt_irrefl position)
    | jump target =>
      rw [List.filterMap_cons_none (Operand.pointer?_jump target)]
      exact ih (fun cell hcell => Nat.lt_add_right 2 (hcells cell hcell)) h.2.2.2

private theorem pointers_ne_nil {row : Row} (h : Shape [0] none 0 row.operands)
    (hlength : 1 < (row.operands.flatMap Operand.bytes).length) : row.pointers ≠ [] := by
  rw [Row.pointers]
  cases hops : row.operands with
  | nil => simp [hops] at hlength
  | cons op more =>
    rw [hops] at h hlength
    cases op with
    | byte b =>
      have hmore : more ≠ [] := by
        rintro rfl
        simp [Operand.bytes] at hlength
      exact absurd List.mem_cons_self (h.1 hmore).1
    | pointer target => simp
    | jump target => simp [Shape] at h

/-- The last tables of a record file: one with strings, then one without. -/
private theorem records_split : ∃ front : List Section, records =
    front ++ [⟨"string".toList, 2, 4, [0]⟩, ⟨"footer".toList, 1, 0x14, []⟩] := by
  let each : Section → List Section := fun s => List.replicate s.count s
  have hlast : (recordSections.drop 12).flatMap each =
      [⟨"string".toList, 2, 4, [0]⟩] ++ [⟨"string".toList, 2, 4, [0]⟩, ⟨"footer".toList, 1, 0x14, []⟩] := rfl
  refine ⟨(recordSections.take 12).flatMap each ++ [⟨"string".toList, 2, 4, [0]⟩], ?_⟩
  rw [List.append_assoc, ← hlast, ← List.flatMap_append, List.take_append_drop]
  rfl

private theorem suffix_eq_nil {name : Text} (hname : name ≠ "route".toList) (strings : List Text) :
    ∀ s ∈ Row.poolStrings name strings, s.suffix = [] := by
  intro s hs
  rcases suffix_of_mem_poolStrings hs with h | ⟨-, h⟩
  · exact h
  · exact absurd h hname

private theorem name_of_mem_instructions {position : Nat} {rows : List Row} (h : Instructions position rows) :
    ∀ row ∈ rows, row.name ≠ "route".toList := by
  induction rows generalizing position with
  | nil => simp
  | cons row more ih =>
    rw [List.forall_mem_cons]
    obtain ⟨opcode, hname, -⟩ := h.1
    exact ⟨(of_name? hname).2.2, ih h.2.2⟩

/-- The last string of a script is never the last of a route. -/
theorem Body.last_suffix {inRecords : Bool} {start : Nat} {rows : List Row} (h : Body inRecords start rows)
    (hcount : ∀ row ∈ rows, row.strings.length = row.pointers.length) : ∀ s ∈ (stringsOf rows).getLast?, s.suffix = [] := by
  intro s hs
  rw [Body] at h
  cases inRecords with
  | false =>
    obtain ⟨row, hrow, hs⟩ := List.mem_flatMap.mp (List.mem_of_getLast? hs)
    exact suffix_eq_nil (name_of_mem_instructions h row hrow) _ s hs
  | true =>
    obtain ⟨front, hfront⟩ := records_split
    rw [if_pos rfl, hfront] at h
    obtain ⟨before, after, rfl, -, hafter⟩ := forall₂_append_left h
    obtain ⟨row, rest, hrow, hrest, rfl⟩ := List.forall₂_cons_left_iff.mp hafter
    obtain ⟨footer, rest, hfooter, hnil, rfl⟩ := List.forall₂_cons_left_iff.mp hrest
    rw [List.forall₂_nil_left_iff] at hnil
    subst hnil
    obtain ⟨-, hname, hlength, hshape, hbytes⟩ := hrow
    have hfooterStrings : footer.strings = [] := by
      have hnone := hcount footer (by simp)
      rw [Row.pointers, pointers_eq_nil (by simp) hfooter.2.2.2.1, List.length_nil] at hnone
      exact List.length_eq_zero_iff.mp hnone
    have hrowStrings : Row.poolStrings row.name row.strings ≠ [] := by
      have hpointers := pointers_ne_nil hshape (by rw [hbytes, hlength]; decide)
      intro hnil
      have hlengths := congrArg List.length hnil
      rw [Row.length_poolStrings, hcount row (by simp), List.length_nil] at hlengths
      exact hpointers (List.length_eq_zero_iff.mp hlengths)
    have hstrings : stringsOf (before ++ [row, footer]) =
        stringsOf before ++ Row.poolStrings row.name row.strings := by
      simp [stringsOf, hfooterStrings, Row.poolStrings]
    rw [hstrings, List.getLast?_append_of_ne_nil _ hrowStrings] at hs
    exact suffix_eq_nil (by rw [hname]; decide) _ s (List.mem_of_getLast? hs)

theorem map_content_poolStrings (name : Text) (strings : List Text) :
    (Row.poolStrings name strings).map PoolString.content = strings := by
  fun_induction Row.poolStrings name strings with
  | case1 => rfl
  | case2 => rfl
  | case3 s more hmore ih => rw [List.map_cons, ih]

/-- What holds of the pointers and strings of each row holds of those of all rows together. -/
theorem forall₂_stringsOf {R : Nat → Text → Prop} {rows : List Row}
    (hcount : ∀ row ∈ rows, row.strings.length = row.pointers.length) :
    (∀ row ∈ rows, List.Forall₂ R row.pointers row.strings) ↔
      List.Forall₂ (fun p s => R p s.content) (rows.flatMap Row.pointers) (stringsOf rows) := by
  induction rows with
  | nil => simp [stringsOf]
  | cons row more ih =>
    rw [List.forall_mem_cons] at hcount
    have hrow : List.Forall₂ R row.pointers row.strings ↔
        List.Forall₂ (fun p s => R p s.content) row.pointers (Row.poolStrings row.name row.strings) := by
      conv_lhs => rw [← map_content_poolStrings row.name row.strings]
      rw [List.forall₂_map_right_iff]
    have hlength : (Row.poolStrings row.name row.strings).length = row.pointers.length := by
      rw [Row.length_poolStrings, hcount.1]
    rw [List.forall_mem_cons, ih hcount.2, hrow, stringsOf, stringsOf, List.flatMap_cons, List.flatMap_cons]
    constructor
    · rintro ⟨h₁, h₂⟩
      exact List.rel_append h₁ h₂
    · intro h
      have htake := List.forall₂_take row.pointers.length h
      have hdrop := List.forall₂_drop row.pointers.length h
      rw [List.take_left, List.take_left' hlength] at htake
      rw [List.drop_left, List.drop_left' hlength] at hdrop
      exact ⟨htake, hdrop⟩

/-! ## Header, padding and trailer -/

/-- The row of the header with some bytes after its length. -/
def headerRow (content : Bytes) : Row := Row.raw "header".toList (content.length + 1) content

/-- The row of the bytes in front of the first string, if there are any. -/
def paddingRows (gap : Bytes) : List Row := if gap = [] then [] else [Row.raw "data".toList gap.length gap]

theorem header_eq_ok {r : Reading} {row : Row} {start : Nat} :
    r.header = .ok (row, start) ↔ ∃ content tail, row = headerRow content ∧ start = content.length + 1 ∧
      content.length < 255 ∧ r.bytes = UInt8.ofNat (content.length + 1) :: (content ++ tail) := by
  rw [header]
  cases hbytes : r.bytes with
  | nil => simp
  | cons b rest =>
    have hb := b.toNat_lt
    rw [List.headD_cons]
    constructor
    · intro h
      split_ifs at h with hbad
      rw [not_or, List.length_cons] at hbad
      cases h
      have hlength : (rest.take (b.toNat - 1)).length + 1 = b.toNat := by
        rw [List.length_take]
        omega
      have htake : ((b :: rest).take b.toNat).drop 1 = rest.take (b.toNat - 1) := by
        rw [List.take_cons (by omega), List.drop_one, List.tail_cons]
      refine ⟨rest.take (b.toNat - 1), rest.drop (b.toNat - 1), ?_, hlength.symm, by omega, ?_⟩
      · rw [htake, headerRow, hlength]
      · rw [hlength, List.take_append_drop, UInt8.ofNat_toNat]
    · rintro ⟨content, tail, rfl, rfl, hlt, heq⟩
      rw [List.cons.injEq] at heq
      obtain ⟨rfl, rfl⟩ := heq
      have htoNat : (UInt8.ofNat (content.length + 1)).toNat = content.length + 1 := by
        rw [UInt8.toNat_ofNat']
        omega
      rw [htoNat, if_neg, List.take_succ_cons, List.take_left, List.drop_one, List.tail_cons, headerRow]
      rw [not_or]
      simp

theorem padding_eq {r : Reading} {w : Walked} {lowest : Nat} (h : w.pool.lowest? = some lowest)
    (hle : lowest ≤ r.bytes.length) : r.padding w = paddingRows ((r.bytes.take lowest).drop w.stop) := by
  have hlength : ((r.bytes.take lowest).drop w.stop).length = lowest - w.stop := by
    rw [List.length_drop, List.length_take]
    omega
  rw [padding, h, paddingRows]
  dsimp only
  split_ifs with hlt hgap hgap
  · rw [hgap, List.length_nil] at hlength
    omega
  · rw [hlength]
  · rfl
  · refine absurd (List.length_eq_zero_iff.mp ?_) hgap
    omega

/-- Whether a script has a header, shown by a row, and a walk over the rest of it. -/
def Walks (r : Reading) (row : Row) (w : Walked) : Prop :=
  ∃ start, r.header = .ok (row, start) ∧ r.walkBody start = .ok w

theorem rows_eq_ok {r : Reading} {rows : List Row} :
    r.rows = .ok rows ↔ ∃ row w, r.Walks row w ∧ rows = row :: (w.rows ++ (r.padding w ++ [r.trailer w])) := by
  rw [Reading.rows]
  constructor
  · intro h
    cases hheader : r.header with
    | error e => simp [hheader, bind, Except.bind] at h
    | ok p =>
      obtain ⟨row, start⟩ := p
      cases hwalk : r.walkBody start with
      | error e => simp [hheader, hwalk, bind, Except.bind] at h
      | ok w =>
        simp only [hheader, hwalk, bind, Except.bind, Except.ok.injEq] at h
        exact ⟨row, w, ⟨start, hheader, hwalk⟩, h.symm⟩
  · rintro ⟨row, w, ⟨start, hheader, hwalk⟩, rfl⟩
    rw [hheader]
    change (r.walkBody start >>= fun w => .ok (row :: (w.rows ++ (r.padding w ++ [r.trailer w])))) = _
    rw [hwalk]
    rfl

theorem Walks.unique {r : Reading} {row row' : Row} {w w' : Walked} (h : r.Walks row w) (h' : r.Walks row' w') :
    row = row' ∧ w = w' := by
  obtain ⟨start, hheader, hwalk⟩ := h
  obtain ⟨start', hheader', hwalk'⟩ := h'
  rw [hheader, Except.ok.injEq, Prod.mk.injEq] at hheader'
  obtain ⟨rfl, rfl⟩ := hheader'
  exact ⟨rfl, Except.ok.inj (hwalk.symm.trans hwalk')⟩

/-- The bytes of a script are its header, what the walk reads and the rest. -/
theorem Walks.dissect {r : Reading} {row : Row} {w : Walked} (h : r.Walks row w) :
    ∃ content tail, row = headerRow content ∧ content.length < 255 ∧
      Body (isRecordFile r.name) (content.length + 1) w.rows ∧ r.ResolvesAll w.rows ∧
      w.stop = content.length + 1 + rowsLength w.rows ∧ w.pool = r.extent {} (w.rows.flatMap Row.pointers) ∧
      r.bytes = UInt8.ofNat (content.length + 1) ::
        (content ++ (w.rows.flatMap (Row.bytes (isRecordFile r.name)) ++ tail)) := by
  obtain ⟨start, hheader, hwalk⟩ := h
  obtain ⟨content, rest, rfl, rfl, hcontent, hbytes⟩ := header_eq_ok.mp hheader
  obtain ⟨tail, hbody, hresolves, htail, hstop, hpool, -⟩ := walkBody_ok hwalk
  have hrest : r.bytes.drop (content.length + 1) = rest := by
    rw [hbytes, List.drop_succ_cons, List.drop_left]
  rw [hrest] at htail
  exact ⟨content, tail, rfl, hcontent, hbody, hresolves, hstop, hpool, by rw [hbytes, htail]⟩

/-- A walk ends safely or because no instruction begins where it ends. -/
theorem Walks.ends {r : Reading} {row : Row} {w : Walked} (h : r.Walks row w) :
    EndsSafely (isRecordFile r.name) w ∨ Stalls (r.bytes.drop w.stop) := by
  obtain ⟨start, -, hwalk⟩ := h
  obtain ⟨tail, hbody, -, hbytes, hstop, -, hends⟩ := walkBody_ok hwalk
  have htail : r.bytes.drop w.stop = tail := by
    rw [hstop, ← List.drop_drop, hbytes, List.drop_left' hbody.length_bytes]
  rwa [htail]

theorem rowsFit_append {inRecords : Bool} {offset : Nat} {rows more : List Row} :
    rowsFit inRecords offset (rows ++ more) ↔
      rowsFit inRecords offset rows ∧ rowsFit inRecords (offset + rowsLength rows) more := by
  induction rows generalizing offset with
  | nil => simp [SceneScript.rowsFit, rowsLength]
  | cons row rows ih =>
    simp only [List.cons_append, SceneScript.rowsFit, ih, and_assoc]
    simp [rowsLength, Nat.add_assoc]

theorem fitsAt_headerRow (inRecords : Bool) {content : Bytes} (h : content.length < 255) :
    (headerRow content).FitsAt inRecords 0 := by
  have hbound : 255 < Text.numberBound := by decide
  apply Row.fitsAt_raw .header rfl (fun h => by cases h) (by decide) (by omega) ⟨rfl, h⟩
  rw [LineKind.head, List.length_singleton, Nat.add_comm]

theorem rowsFit_paddingRows (inRecords : Bool) (offset : Nat) {gap : Bytes} (h : gap.length < Text.numberBound) :
    rowsFit inRecords offset (paddingRows gap) := by
  rw [paddingRows]
  split_ifs with hgap
  · trivial
  · refine ⟨Row.fitsAt_raw .raw ?_ (fun h => by cases h) (by decide) h trivial (Nat.zero_add _), trivial⟩
    cases inRecords <;> rfl

theorem bytes_headerRow (inRecords : Bool) (content : Bytes) :
    (headerRow content).bytes inRecords = UInt8.ofNat (content.length + 1) :: content := by
  rw [headerRow, Row.bytes, Row.flatMap_bytes_raw]
  rfl

theorem flatMap_bytes_paddingRows (inRecords : Bool) (gap : Bytes) :
    (paddingRows gap).flatMap (Row.bytes inRecords) = gap := by
  rw [paddingRows]
  split_ifs with hgap
  · exact hgap.symm
  · rw [List.flatMap_singleton, Row.bytes, Row.flatMap_bytes_raw]
    cases inRecords <;> rfl

theorem rowsLength_paddingRows (gap : Bytes) : rowsLength (paddingRows gap) = gap.length := by
  rw [paddingRows]
  split_ifs with hgap
  · rw [hgap]
    rfl
  · simp [rowsLength, Row.raw]

end Reading
end SceneScript
