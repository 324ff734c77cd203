import SceneScript.Proofs.Script.Editing
import SceneScript.Script.Disassembly
/-!
# What a dump covers

The lines of a dump show a script from its first byte on, each byte once, up to the end of the walk and on to the first
string, and then from behind the last string to its last byte.
-/
namespace SceneScript

/-! ## Operands that are shown -/

private theorem intercalate_append {sep : Text} {ts ts' : List Text} (h : ts ≠ []) (h' : ts' ≠ []) :
    sep.intercalate (ts ++ ts') = sep.intercalate ts ++ (sep ++ sep.intercalate ts') := by
  induction ts with
  | nil => exact absurd rfl h
  | cons t ts ih =>
    cases ts with
    | nil =>
      obtain ⟨t', ts', rfl⟩ := List.exists_cons_of_ne_nil h'
      rw [List.singleton_append, List.intercalate_cons_cons, List.intercalate_singleton, List.append_assoc]
    | cons u ts =>
      rw [List.cons_append, List.cons_append, List.intercalate_cons_cons, ← List.cons_append, ih (List.cons_ne_nil _ _),
        List.intercalate_cons_cons]
      simp only [List.append_assoc]

namespace Operand

/-- What is shown of an operand: a jump that leads to no label is shown by its two bytes. -/
def spread (labelled : Nat → Bool) : Operand → List Operand
  | jump target => if labelled target then [.jump target] else (Bytes.word16 target).map .byte
  | op => [op]

variable (labelled : Nat → Bool)

theorem spread_ne_nil (op : Operand) : op.spread labelled ≠ [] := by
  cases op with
  | jump target =>
    rw [spread]
    split_ifs <;> exact List.cons_ne_nil _ _
  | byte | pointer => exact List.cons_ne_nil _ _

private theorem intercalate_spread (op : Operand) :
    ['-'].intercalate ((op.spread labelled).map (render labelled)) = op.render labelled := by
  cases op with
  | byte | pointer => exact List.intercalate_singleton ..
  | jump target =>
    rw [spread, render]
    split_ifs with h
    · rw [List.map_singleton, List.intercalate_singleton, render, if_pos h]
    · rw [Bytes.hex, List.map_map]
      rfl

theorem showOperands_spread (ops : List Operand) :
    showOperands labelled (ops.flatMap (spread labelled)) = showOperands labelled ops := by
  have hall : ['-'].intercalate ((ops.flatMap (spread labelled)).map (render labelled)) =
      ['-'].intercalate (ops.map (render labelled)) := by
    induction ops with
    | nil => rfl
    | cons op more ih =>
      rw [List.flatMap_cons, List.map_append, List.map_cons]
      cases more with
      | nil => rw [List.flatMap_nil, List.map_nil, List.append_nil, intercalate_spread, List.intercalate_singleton]
      | cons op' more =>
        have hne : ((op' :: more).flatMap (spread labelled)).map (render labelled) ≠ [] := by
          rw [List.flatMap_cons, List.map_append]
          exact List.append_ne_nil_of_left_ne_nil (mt List.map_eq_nil_iff.mp (spread_ne_nil labelled op')) _
        rw [intercalate_append (mt List.map_eq_nil_iff.mp (spread_ne_nil labelled op)) hne, ih, intercalate_spread,
          List.map_cons, List.intercalate_cons_cons, List.append_assoc]
  cases ops with
  | nil => rfl
  | cons op more =>
    obtain ⟨shown, rest, hshown⟩ := List.exists_cons_of_ne_nil (spread_ne_nil labelled op)
    rw [List.flatMap_cons, hshown] at hall ⊢
    exact congrArg (' ' :: ·) hall

theorem bytes_spread (ops : List Operand) : (ops.flatMap (spread labelled)).flatMap bytes = ops.flatMap bytes := by
  rw [List.flatMap_assoc]
  refine List.flatMap_congr fun op _ => ?_
  cases op with
  | byte | pointer => rfl
  | jump target =>
    rw [spread]
    split_ifs <;> rfl

theorem pointers_spread (ops : List Operand) :
    (ops.flatMap (spread labelled)).filterMap pointer? = ops.filterMap pointer? := by
  induction ops with
  | nil => rfl
  | cons op more ih =>
    rw [List.flatMap_cons, List.filterMap_append, ih]
    cases op with
    | byte | pointer => rfl
    | jump target =>
      rw [spread]
      split_ifs <;> rfl

theorem mem_jumps_spread {ops : List Operand} {target : Nat}
    (h : target ∈ (ops.flatMap (spread labelled)).filterMap jump?) :
    target ∈ ops.filterMap jump? ∧ labelled target = true := by
  obtain ⟨shown, hshown, htarget⟩ := List.mem_filterMap.mp h
  obtain ⟨op, hop, hshown⟩ := List.mem_flatMap.mp hshown
  cases op with
  | byte | pointer =>
    obtain rfl := List.mem_singleton.mp hshown
    cases htarget
  | jump target' =>
    rw [spread] at hshown
    split_ifs at hshown with hlabelled
    · obtain rfl := List.mem_singleton.mp hshown
      obtain rfl := Option.some.inj htarget
      exact ⟨List.mem_filterMap.mpr ⟨_, hop, rfl⟩, hlabelled⟩
    · obtain ⟨b, -, rfl⟩ := List.mem_map.mp hshown
      cases htarget

end Operand

/-! ## Stretches -/

/-- A line of a dump and the stretch of a script that it stands for. The head of the line stands for some bytes, and each of
its operands for one or two. -/
structure Stretch where
  start : Nat
  stop : Nat
  label : Text
  name : Text
  head : Bytes
  operands : List Operand
  strings : List Text

namespace Stretch

def line (labels : List Nat) (s : Stretch) : Text :=
  s.label ++ (s.name ++ '.' :: (Text.decimal (s.stop - s.start) ++
    (showOperands labels.contains s.operands ++ showStrings s.strings)))

/-- Where the pointers that a line shows lead to. -/
def pointers (s : Stretch) : List Nat := s.operands.filterMap Operand.pointer?

/-- Whether a line shows each byte of its stretch once: as a hexadecimal pair, or with another one as a pointer to a string or
as a jump to a labelled line. -/
structure Covers (r : Reading) (labels : List Nat) (s : Stretch) : Prop where
  start_le : s.start ≤ s.stop
  stop_le : s.stop ≤ r.bytes.length
  bytes_eq : s.head ++ s.operands.flatMap Operand.bytes = (r.bytes.take s.stop).drop s.start
  words : ∀ n ∈ s.pointers ++ s.operands.filterMap Operand.jump?, n ≤ lastOffset
  labelled : ∀ n ∈ s.operands.filterMap Operand.jump?, n ∈ labels
  resolves : List.Forall₂ r.Resolves s.pointers s.strings

/-- How a line begins. -/
def Begins (label name : Text) (head : Bytes) (s : Stretch) : Prop := s.label = label ∧ s.name = name ∧ s.head = head

/-- Whether stretches follow each other from one place to another. -/
def Tiles : Nat → List Stretch → Nat → Prop
  | start, [], stop => start = stop
  | start, s :: more, stop => s.start = start ∧ Tiles s.stop more stop

end Stretch

namespace Reading

open Stretch (Tiles)

/-- Whether a row stands for as many bytes as its length says, with words for its pointers and jumps. -/
structure Fills (r : Reading) (inRecords : Bool) (row : Row) : Prop where
  length_eq : (row.bytes inRecords).length = row.length
  words : ∀ n ∈ row.pointers ++ row.operands.filterMap Operand.jump?, n ≤ lastOffset
  resolves : List.Forall₂ r.Resolves row.pointers row.strings

/-- The stretch of a row that stands for the bytes from a place on. -/
def stretchOf (inRecords : Bool) (labels : List Nat) (start : Nat) (row : Row) : Stretch where
  start := start
  stop := start + row.length
  label := row.showLabel labels.contains
  name := row.name
  head := ((LineKind.ofName? inRecords row.name).map (LineKind.head row.length)).getD []
  operands := row.operands.flatMap (Operand.spread labels.contains)
  strings := row.strings

def stretches (inRecords : Bool) (labels : List Nat) : Nat → List Row → List Stretch
  | _, [] => []
  | start, row :: more => stretchOf inRecords labels start row :: stretches inRecords labels (start + row.length) more

section

variable {r : Reading} {inRecords : Bool} {labels : List Nat}

theorem line_stretchOf (start : Nat) (row : Row) :
    (stretchOf inRecords labels start row).line labels = row.render labels.contains := by
  rw [Stretch.line, stretchOf, Row.render]
  dsimp only
  rw [Operand.showOperands_spread, Nat.add_sub_cancel_left]

theorem map_line_stretches (start : Nat) (rows : List Row) :
    (stretches inRecords labels start rows).map (Stretch.line labels) = rows.map (Row.render labels.contains) := by
  induction rows generalizing start with
  | nil => rfl
  | cons row more ih => rw [stretches, List.map_cons, List.map_cons, line_stretchOf, ih]

theorem pointers_stretchOf (start : Nat) (row : Row) : (stretchOf inRecords labels start row).pointers = row.pointers :=
  Operand.pointers_spread labels.contains row.operands

theorem pointers_stretches (start : Nat) (rows : List Row) :
    (stretches inRecords labels start rows).flatMap Stretch.pointers = rows.flatMap Row.pointers := by
  induction rows generalizing start with
  | nil => rfl
  | cons row more ih =>
    rw [stretches, List.flatMap_cons, List.flatMap_cons, ih, pointers_stretchOf]

theorem tiles_stretches (start : Nat) (rows : List Row) :
    Tiles start (stretches inRecords labels start rows) (start + rowsLength rows) := by
  induction rows generalizing start with
  | nil => rfl
  | cons row more ih =>
    have hlength : start + rowsLength (row :: more) = start + row.length + rowsLength more := by
      rw [rowsLength, rowsLength, List.map_cons, List.sum_cons, Nat.add_assoc]
    rw [hlength]
    exact ⟨rfl, ih (start + row.length)⟩

theorem stretches_append (start : Nat) (rows more : List Row) :
    stretches inRecords labels start (rows ++ more) =
      stretches inRecords labels start rows ++ stretches inRecords labels (start + rowsLength rows) more := by
  induction rows generalizing start with
  | nil => rfl
  | cons row rows ih =>
    rw [List.cons_append, stretches, stretches, ih, List.cons_append, rowsLength, rowsLength, List.map_cons, List.sum_cons,
      Nat.add_assoc]

private theorem covers_stretchOf (labels : List Nat) {before tail : Bytes} {row : Row}
    (hbytes : r.bytes = before ++ (row.bytes inRecords ++ tail)) (hrow : r.Fills inRecords row) :
    (stretchOf inRecords labels before.length row).Covers r labels where
  start_le := Nat.le_add_right _ _
  stop_le := by
    rw [hbytes, List.length_append, List.length_append, hrow.length_eq, ← Nat.add_assoc]
    exact Nat.le_add_right _ _
  bytes_eq := by
    have htake : (r.bytes.take (before.length + row.length)).drop before.length = row.bytes inRecords := by
      rw [hbytes, List.take_length_add_append, List.drop_left, ← hrow.length_eq, List.take_left]
    refine Eq.trans ?_ htake.symm
    rw [stretchOf, Row.bytes]
    exact congrArg (_ ++ ·) (Operand.bytes_spread labels.contains row.operands)
  words := by
    rw [pointers_stretchOf]
    intro n hn
    refine hrow.words n (List.mem_append.mpr ((List.mem_append.mp hn).imp_right fun h => ?_))
    exact (Operand.mem_jumps_spread labels.contains h).1
  labelled n hn := List.contains_iff_mem.mp (Operand.mem_jumps_spread labels.contains hn).2
  resolves := by
    rw [pointers_stretchOf]
    exact hrow.resolves

/-- The lines of rows cover the bytes for which the rows stand. -/
theorem covers_stretches (labels : List Nat) (before : Bytes) {tail : Bytes} {rows : List Row}
    (hbytes : r.bytes = before ++ (rows.flatMap (Row.bytes inRecords) ++ tail)) (hrows : ∀ row ∈ rows, r.Fills inRecords row) :
    ∀ s ∈ stretches inRecords labels before.length rows, s.Covers r labels := by
  induction rows generalizing before with
  | nil => simp [stretches]
  | cons row more ih =>
    rw [List.forall_mem_cons] at hrows
    rw [List.flatMap_cons, List.append_assoc] at hbytes
    rw [stretches, List.forall_mem_cons]
    refine ⟨covers_stretchOf labels hbytes hrows.1, ?_⟩
    have hmore := ih (before ++ row.bytes inRecords) (by rw [hbytes, List.append_assoc]) hrows.2
    rwa [List.length_append, hrows.1.length_eq] at hmore

/-! ## Where strings begin and end -/

theorem stringEnd_le {p : Nat} {t : Text} (h : r.Resolves p t) : r.stringEnd p ≤ r.bytes.length := by
  obtain ⟨content, after, hdrop, hzero, -⟩ := h
  have hlength := congrArg List.length hdrop
  rw [List.length_drop, List.length_append, List.length_cons] at hlength
  rw [stringEnd_eq hdrop hzero]
  omega

private theorem extent_eq_of (pool : PoolExtent) (pointers : List Nat) :
    r.extent pool pointers = ⟨(pool.lowest?.toList ++ pointers).min?, (pool.stop :: pointers.map r.stringEnd).max?.getD 0⟩ := by
  induction pointers generalizing pool with
  | nil => cases pool with | mk lowest? stop => cases lowest? <;> rfl
  | cons p more ih =>
    rw [extent, List.foldl_cons, ← extent, ih, PoolExtent.add]
    cases pool.lowest? <;> rfl

/-- The strings of a walk reach from the lowest of its pointers to the highest of their ends. -/
theorem extent_eq (pointers : List Nat) :
    r.extent {} pointers = ⟨pointers.min?, (pointers.map r.stringEnd).max?.getD 0⟩ := by
  rw [extent_eq_of]
  cases pointers with
  | nil => rfl
  | cons p more => simp [List.max?_cons]

theorem stop_extent_le {pointers : List Nat} (h : ∀ p ∈ pointers, ∃ t, r.Resolves p t) :
    (r.extent {} pointers).stop ≤ r.bytes.length := by
  rw [extent_eq]
  dsimp only
  cases hmax : (pointers.map r.stringEnd).max? with
  | none => exact Nat.zero_le _
  | some stop =>
    obtain ⟨p, hp, rfl⟩ := List.mem_map.mp (List.max?_mem hmax)
    obtain ⟨t, ht⟩ := h p hp
    exact stringEnd_le ht

/-! ## The lines of each part -/

theorem fills_raw (kind : LineKind) {name : Text} {content : Bytes} {length : Nat}
    (hkind : LineKind.ofName? inRecords name = some kind) (hlength : (kind.head length).length + content.length = length) :
    r.Fills inRecords (Row.raw name length content) where
  length_eq := by
    have hname : (Row.raw name length content).name = name := rfl
    rw [Row.bytes, hname, hkind, Row.flatMap_bytes_raw, List.length_append]
    exact hlength
  words := by
    rw [Row.pointers_raw, jump?_raw]
    exact fun n hn => absurd hn List.not_mem_nil
  resolves := by
    rw [Row.pointers_raw]
    exact .nil

theorem Body.fills {start : Nat} {rows : List Row} (h : Body inRecords start rows) (hresolves : r.ResolvesAll rows) :
    ∀ row ∈ rows, r.Fills inRecords row := by
  have hlength : ∀ row ∈ rows, (row.bytes inRecords).length = row.length := by
    rw [Body] at h
    cases inRecords with
    | true =>
      intro row hrow
      obtain ⟨table, htable, -, hname, -, -, hbytes⟩ := exists_of_forall₂ h hrow
      rw [bytes_record (hname ▸ (of_mem_records htable).2.1), hbytes]
    | false =>
      clear hresolves
      induction rows generalizing start with
      | nil => simp
      | cons row more ih =>
        obtain ⟨⟨opcode, hname, -, hle, -, -, hbytes⟩, -, hmore⟩ := h
        rw [List.forall_mem_cons, bytes_instruction hname, List.length_cons, List.length_cons, hbytes]
        exact ⟨by omega, ih hmore⟩
  intro row hrow
  refine ⟨hlength row hrow, fun n hn => ?_, hresolves row hrow⟩
  rcases List.mem_append.mp hn with hn | hn
  · exact h.words.1 n (List.mem_flatMap.mpr ⟨row, hrow, hn⟩)
  · exact h.words.2 n (List.mem_flatMap.mpr ⟨row, hrow, hn⟩)

theorem begins_instructions {start : Nat} {rows : List Row} (h : Instructions start rows) :
    ∀ s ∈ stretches false labels start rows, ∃ opcode size name, Opcode.name? opcode = some name ∧
      size.toNat = s.stop - s.start ∧
      s.Begins (if labels.contains s.start then '&' :: (labelName s.start ++ [':', ' ']) else []) name [opcode, size] := by
  induction rows generalizing start with
  | nil => simp [stretches]
  | cons row more ih =>
    obtain ⟨⟨opcode, hname, hstart, -, hle, -⟩, -, hmore⟩ := h
    rw [stretches, List.forall_mem_cons]
    refine ⟨⟨opcode, UInt8.ofNat row.length, row.name, hname, ?_, ?_, rfl, ?_⟩, ih hmore⟩
    · rw [UInt8.toNat_ofNat', stretchOf, Nat.add_sub_cancel_left]
      omega
    · rw [stretchOf, Row.showLabel, hstart]
    · rw [stretchOf, kind_of_name? hname]
      rfl

theorem begins_records {start : Nat} {tables : List Section} {rows : List Row} (hnames : ∀ s ∈ tables, s.name ∉ Row.reserved)
    (h : List.Forall₂ RecordOf tables rows) :
    List.Forall₂ (fun table s => s.stop = s.start + table.recordLength ∧ s.Begins [] table.name []) tables
      (stretches true labels start rows) := by
  induction h generalizing start with
  | nil => exact .nil
  | @cons table row tables rows hrow _ ih =>
    obtain ⟨hstart, hname, hlength, -⟩ := hrow
    rw [List.forall_mem_cons] at hnames
    refine .cons ⟨by rw [stretchOf, hlength], ?_, hname, ?_⟩ (ih hnames.2)
    · rw [stretchOf, Row.showLabel, hstart]
    · rw [stretchOf, kind_of_notMem_reserved (hname ▸ hnames.1)]
      rfl

end

/-- How the lines of a dump share out the bytes of a script among them, given what its walk has read. -/
structure Accounts (r : Reading) (w : Walked) (labels : List Nat) (header : Stretch) (body data : List Stretch)
    (trailer : Stretch) : Prop where
  covers : ∀ s ∈ header :: (body ++ (data ++ [trailer])), s.Covers r labels
  header_eq : header.start = 0 ∧ header.stop = (r.bytes.headD 0).toNat ∧
    header.Begins [] "header".toList (r.bytes.take 1)
  tiles : Tiles header.stop body w.stop
  body_eq : if isRecordFile r.name then
      List.Forall₂ (fun table s => s.stop = s.start + table.recordLength ∧ s.Begins [] table.name []) records body
    else ∀ s ∈ body, ∃ opcode size name, Opcode.name? opcode = some name ∧ size.toNat = s.stop - s.start ∧
      s.Begins (if labels.contains s.start then '&' :: (labelName s.start ++ [':', ' ']) else []) name [opcode, size]
  lowest_eq : w.pool.lowest? = (body.flatMap Stretch.pointers).min?
  stop_eq : w.pool.stop = ((body.flatMap Stretch.pointers).map r.stringEnd).max?.getD 0
  data_eq : (data = [] ∧ ∀ lowest ∈ w.pool.lowest?, lowest ≤ w.stop) ∨
    ∃ lowest s, w.pool.lowest? = some lowest ∧ w.stop < lowest ∧ data = [s] ∧ s.start = w.stop ∧ s.stop = lowest ∧
      s.Begins [] "data".toList []
  trailer_eq : trailer.start = max w.stop w.pool.stop ∧ trailer.stop = r.bytes.length ∧
    trailer.Begins [] "trailer".toList []

theorem Walks.max_stop_le {r : Reading} {row : Row} {w : Walked} (h : r.Walks row w) :
    max w.stop w.pool.stop ≤ r.bytes.length := by
  obtain ⟨content, tail, -, -, hbody, hresolves, hstop, hpool, hbytes⟩ := h.dissect
  refine max_le ?_ ?_
  · have hlength := congrArg List.length hbytes
    rw [List.length_cons, List.length_append, List.length_append, hbody.length_bytes] at hlength
    omega
  · rw [hpool]
    refine stop_extent_le fun p hp => ?_
    obtain ⟨row, hrow, hp⟩ := List.mem_flatMap.mp hp
    obtain ⟨t, -, ht⟩ := exists_of_forall₂_left (hresolves row hrow) hp
    exact ⟨t, ht⟩

/-- The lines of the header, of what the walk reads and of the padding cover the script from its first byte on. -/
theorem Walks.covers_front {r : Reading} {row : Row} {w : Walked} (h : r.Walks row w) (labels : List Nat) :
    ∀ s ∈ stretches (isRecordFile r.name) labels 0 (row :: (w.rows ++ r.padding w)), s.Covers r labels := by
  obtain ⟨content, gap, rest, t, rfl, -, hbody, hresolves, -, hpadding, -, hbytes, -⟩ := dissect_padding h
  refine @covers_stretches r _ labels [] rest _ ?_ ?_
  · rw [List.nil_append, List.flatMap_cons, List.flatMap_append, bytes_headerRow, hpadding, flatMap_bytes_paddingRows, hbytes]
    simp only [List.cons_append, List.append_assoc]
  · rw [List.forall_mem_cons, List.forall_mem_append]
    refine ⟨fills_raw .header rfl (Nat.add_comm _ _), hbody.fills hresolves, fun row hrow => ?_⟩
    rw [hpadding, paddingRows] at hrow
    split_ifs at hrow with hnil
    · cases hrow
    · obtain rfl := List.mem_singleton.mp hrow
      exact fills_raw .raw (by cases isRecordFile r.name <;> rfl) (Nat.zero_add _)

theorem Walks.covers_trailer {r : Reading} {row : Row} {w : Walked} (h : r.Walks row w) (labels : List Nat) :
    (stretchOf (isRecordFile r.name) labels (max w.stop w.pool.stop) (r.trailer w)).Covers r labels := by
  have hbefore : (r.bytes.take (max w.stop w.pool.stop)).length = max w.stop w.pool.stop := by
    rw [List.length_take, min_eq_left h.max_stop_le]
  have hbytes : r.bytes = r.bytes.take (max w.stop w.pool.stop) ++ ((r.trailer w).bytes (isRecordFile r.name) ++ []) := by
    rw [List.append_nil, trailer, Row.bytes, Row.flatMap_bytes_raw]
    exact (List.take_append_drop _ _).symm
  have hcovers := covers_stretchOf labels hbytes (fills_raw .trailer rfl (Nat.zero_add _))
  rwa [hbefore] at hcovers

theorem stretches_padding (r : Reading) (w : Walked) (labels : List Nat) :
    (stretches (isRecordFile r.name) labels w.stop (r.padding w) = [] ∧ ∀ lowest ∈ w.pool.lowest?, lowest ≤ w.stop) ∨
    ∃ lowest s, w.pool.lowest? = some lowest ∧ w.stop < lowest ∧
      stretches (isRecordFile r.name) labels w.stop (r.padding w) = [s] ∧ s.start = w.stop ∧ s.stop = lowest ∧
      s.Begins [] "data".toList [] := by
  rw [padding]
  cases hlowest : w.pool.lowest? with
  | none =>
    refine .inl ⟨rfl, fun lowest hlowest => ?_⟩
    cases hlowest
  | some lowest =>
    dsimp only
    split_ifs with hlt
    · refine .inr ⟨lowest, _, rfl, hlt, rfl, rfl, Nat.add_sub_of_le hlt.le, rfl, rfl, ?_⟩
      cases isRecordFile r.name <;> rfl
    · refine .inl ⟨rfl, ?_⟩
      rintro _ ⟨rfl⟩
      exact Nat.le_of_not_lt hlt

/-- The stretches of the rows of a script share out its bytes. -/
theorem Walks.accounts {r : Reading} {row : Row} {w : Walked} (h : r.Walks row w) (labels : List Nat) :
    ∃ header body data trailer, r.Accounts w labels header body data trailer ∧
      (header :: (body ++ (data ++ [trailer]))).map (Stretch.line labels) =
        (row :: (w.rows ++ (r.padding w ++ [r.trailer w]))).map (Row.render labels.contains) := by
  have hfront := h.covers_front labels
  have hback := h.covers_trailer labels
  have hmax := h.max_stop_le
  obtain ⟨content, tail, rfl, hcontent, hbody, -, hstop, hpool, hbytes⟩ := h.dissect
  let inRecords := isRecordFile r.name
  have hheader : (headerRow content).length = content.length + 1 := rfl
  rw [stretches, Nat.zero_add, hheader, stretches_append, ← hstop, List.forall_mem_cons] at hfront
  refine ⟨stretchOf inRecords labels 0 (headerRow content), stretches inRecords labels (content.length + 1) w.rows,
    stretches inRecords labels w.stop (r.padding w), stretchOf inRecords labels (max w.stop w.pool.stop) (r.trailer w),
    ⟨?_, ⟨rfl, ?_, rfl, rfl, ?_⟩, ?_, ?_, ?_, ?_, stretches_padding r w labels, ⟨rfl, ?_, rfl, rfl, rfl⟩⟩, ?_⟩
  · rw [List.forall_mem_cons, ← List.append_assoc, List.forall_mem_append, List.forall_mem_singleton]
    exact ⟨hfront.1, hfront.2, hback⟩
  · rw [hbytes, List.headD_cons, UInt8.toNat_ofNat', Nat.mod_eq_of_lt (Nat.succ_lt_succ hcontent)]
    exact Nat.zero_add _
  · rw [hbytes]
    rfl
  · have htiles : Tiles _ (stretches inRecords labels (content.length + 1) w.rows) _ := tiles_stretches _ w.rows
    rw [← hstop] at htiles
    rwa [stretchOf, hheader, Nat.zero_add]
  · rw [Body] at hbody
    dsimp only [inRecords]
    split_ifs at hbody ⊢ with hrecords
    · rw [hrecords]
      exact begins_records (fun _ htable => (of_mem_records htable).2.1) hbody
    · rw [Bool.eq_false_iff.mpr hrecords]
      exact begins_instructions hbody
  · rw [pointers_stretches, hpool, extent_eq]
  · rw [pointers_stretches, hpool, extent_eq]
  · rw [stretchOf, trailer, Row.raw, List.length_drop]
    exact Nat.add_sub_of_le hmax
  · rw [List.map_cons, List.map_append, List.map_append, List.map_singleton, List.map_cons, List.map_append, List.map_append,
      List.map_singleton, line_stretchOf, line_stretchOf, map_line_stretches, map_line_stretches]

end Reading

/-- A dump accounts for every byte of its script: each of its lines shows the bytes of one stretch, and together the stretches
are the header, what the walk reads, what lies in front of the first string if that begins behind it, and what lies behind the
walk and the last string. -/
theorem accounts_of_dumpIn {name : String} {bytes : Bytes} {cs : Charset} {dump : Disassembly}
    (h : dumpIn name bytes cs = .ok dump) :
    ∃ row w labels header body data trailer, Reading.Walks ⟨name, bytes, cs⟩ row w ∧
      Reading.Accounts ⟨name, bytes, cs⟩ w labels header body data trailer ∧
      dump.text = Text.joinLines ((header :: (body ++ (data ++ [trailer]))).map (Stretch.line labels)) := by
  obtain ⟨rows, hrows, rfl⟩ := dumpIn_eq_ok.mp h
  obtain ⟨row, w, hwalks, rfl⟩ := Reading.rows_eq_ok.mp hrows
  obtain ⟨header, body, data, trailer, haccounts, hlines⟩ := hwalks.accounts (labelledOffsets _)
  exact ⟨row, w, _, header, body, data, trailer, hwalks, haccounts, congrArg Text.joinLines hlines.symm⟩

/-- A message whose pointer leads into the message itself. -/
theorem accounts_of_dumpIn_overlapping :
    let r : Reading := ⟨"SC01", [1, 0x18, 8, 0, 0, 0, 0, 5, 0, 0x0D, 2], .big5⟩
    let dump : Disassembly := ⟨"header.1\nmessage.8 00-00-00-00-S @\ntrailer.2 0D-02".toList, .big5⟩
    dumpIn r.name r.bytes r.charset = .ok dump ∧
      ∃ row w labels header body data trailer, r.Walks row w ∧ r.Accounts w labels header body data trailer ∧
        dump.text = Text.joinLines ((header :: (body ++ (data ++ [trailer]))).map (Stretch.line labels)) := by
  intro r dump
  have h : dumpIn r.name r.bytes r.charset = .ok dump := by decide +kernel
  exact ⟨h, accounts_of_dumpIn h⟩

end SceneScript
