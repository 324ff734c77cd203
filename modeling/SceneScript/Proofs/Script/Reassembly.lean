import Mathlib
import SceneScript.Proofs.Dump.Row
import SceneScript.Proofs.Script.Image
/-!
# Assembling the dump of rows

Rows whose pointers lead to where the pool will put their strings assemble to the bytes they stand for, then the pool,
then the trailer.
-/
namespace SceneScript

namespace Token

variable {labelled : Nat → Bool} {labelAt : Text → Nat}

theorem bytes_operands (hlabels : ∀ n, labelled n = true → labelAt (labelName n) = n) (ops : List Operand)
    (offsets : List Nat) (more : List Token) :
    bytes labelAt (ops.filterMap Operand.pointer? ++ offsets) (ops.flatMap (Operand.tokens labelled) ++ more) =
      ops.flatMap Operand.bytes ++ bytes labelAt offsets more := by
  induction ops with
  | nil => rfl
  | cons op ops ih =>
    cases op with
    | byte b =>
      rw [List.filterMap_cons_none (Operand.pointer?_byte b), List.flatMap_cons, List.flatMap_cons, List.append_assoc,
        List.append_assoc, ← ih]
      rfl
    | pointer target =>
      rw [List.filterMap_cons_some (Operand.pointer?_pointer target), List.flatMap_cons, List.flatMap_cons,
        List.append_assoc, List.append_assoc, ← ih]
      rfl
    | jump target =>
      rw [List.filterMap_cons_none (Operand.pointer?_jump target), List.flatMap_cons, List.flatMap_cons,
        List.append_assoc, List.append_assoc, ← ih, Operand.tokens]
      split_ifs with h
      · rw [List.cons_append, List.nil_append, bytes, hlabels target h]
        rfl
      · rw [bytes_map_byte]
        rfl

theorem bytes_stringTokens (labelAt : Text → Nat) (offsets : List Nat) (strings : List Text) :
    bytes labelAt offsets (Row.stringTokens strings) = [] := by
  fun_induction Row.stringTokens strings with
  | case1 => rfl
  | case2 => rfl
  | case3 s more hmore ih => rw [bytes, ih]

end Token

namespace Row

variable {inRecords : Bool} {labelled : Nat → Bool}

/-- The kind of a row by its name. -/
def kind (inRecords : Bool) (row : Row) : LineKind := (LineKind.ofName? inRecords row.name).getD .raw

/-- Whether a row can stand at an offset of the stream. -/
structure FitsAt (inRecords : Bool) (offset : Nat) (row : Row) : Prop where
  legible : row.Legible inRecords (row.kind inRecords)
  not_trailer : row.kind inRecords ≠ .trailer
  opens : (row.kind inRecords).Opens offset row.length
  length_eq : ((row.kind inRecords).head row.length).length + (row.operands.flatMap Operand.bytes).length = row.length
  start_eq : ∀ start ∈ row.start?, start = offset ∧ 0 < row.length
  strings_eq : row.strings.length = row.pointers.length

theorem fitsAt_raw {offset length : Nat} {name : Text} {content : Bytes} (kind : LineKind)
    (hkind : LineKind.ofName? inRecords name = some kind) (hne : kind ≠ .trailer) (hname : isName name = true)
    (hbound : length < Text.numberBound) (hopens : kind.Opens offset length)
    (hlength : (kind.head length).length + content.length = length) :
    (raw name length content).FitsAt inRecords offset := by
  have hkind' : (raw name length content).kind inRecords = kind := by
    rw [Row.kind, show (raw name length content).name = name from rfl, hkind]
    rfl
  refine ⟨⟨?_, hname, hbound, Nat.zero_le _, by simp [raw], ?_⟩, ?_, ?_, ?_, by simp [raw], ?_⟩
  · rw [hkind']
    exact hkind
  · rw [hkind']
    exact fun h => absurd h hne
  · rwa [hkind']
  · rwa [hkind']
  · rwa [hkind', flatMap_bytes_raw]
  · rw [pointers_raw]
    rfl

private theorem pooled?_operand (op : Operand) (name : Text) :
    (op.tokens labelled).filterMap (Token.pooled? name) = [] := by
  cases op with
  | byte b => rfl
  | pointer target => rfl
  | jump target =>
    rw [Operand.tokens]
    split_ifs <;> rfl

private theorem pooled?_stringTokens (name : Text) (strings : List Text) :
    (stringTokens strings).filterMap (Token.pooled? name) = poolStrings name strings := by
  fun_induction stringTokens strings with
  | case1 => rfl
  | case2 s => simp [Token.pooled?, poolStrings]
  | case3 s more hmore ih =>
    have hs : (Token.string s false).pooled? name = some ⟨s, []⟩ := by simp [Token.pooled?]
    rw [List.filterMap_cons_some hs, ih, poolStrings]
    exact hmore

theorem size_operands (ops : List Operand) :
    ((ops.flatMap (Operand.tokens labelled)).map Token.size).sum = (ops.flatMap Operand.bytes).length := by
  induction ops with
  | nil => rfl
  | cons op ops ih =>
    rw [List.flatMap_cons, List.flatMap_cons, List.map_append, List.sum_append, List.length_append, ih]
    congr 1
    cases op with
    | byte b => rfl
    | pointer target => rfl
    | jump target =>
      rw [Operand.tokens]
      split_ifs <;> rfl

theorem size_stringTokens (strings : List Text) : ((stringTokens strings).map Token.size).sum = 0 := by
  fun_induction stringTokens strings with
  | case1 => rfl
  | case2 => rfl
  | case3 s more hmore ih => rw [List.map_cons, List.sum_cons, ih, Token.size]

theorem written?_statement {row : Row} {kind : LineKind} (h : kind ≠ .trailer) :
    (row.statement labelled kind).written? = some ⟨kind, row.name, row.length, row.tokens labelled⟩ := by
  rw [statement, Statement.written?, Option.filter_some_pos (by simpa using h)]

theorem strings_statement {row : Row} {kind : LineKind} (h : kind ≠ .trailer) :
    (row.statement labelled kind).strings = poolStrings row.name row.strings := by
  have hoperands : (row.operands.flatMap (Operand.tokens labelled)).filterMap (Token.pooled? row.name) = [] := by
    rw [List.filterMap_flatMap, List.flatMap_eq_nil_iff]
    exact fun op _ => pooled?_operand op row.name
  rw [Statement.strings, written?_statement h, Option.map_some, Option.getD_some, Content.strings, tokens,
    List.filterMap_append, hoperands, pooled?_stringTokens, List.nil_append]

theorem length_poolStrings (name : Text) (strings : List Text) : (poolStrings name strings).length = strings.length := by
  fun_induction poolStrings name strings with
  | case1 => rfl
  | case2 => rfl
  | case3 s more hmore ih => rw [List.length_cons, ih, List.length_cons]

theorem size_statement {row : Row} {kind : LineKind} (h : kind ≠ .trailer) :
    (row.statement labelled kind).size = row.length := by
  rw [Statement.size, written?_statement h]
  rfl

theorem bytes_statement {labelAt : Text → Nat} (hlabels : ∀ n, labelled n = true → labelAt (labelName n) = n)
    {offset : Nat} {row : Row} (h : row.FitsAt inRecords offset) :
    (row.statement labelled (row.kind inRecords)).bytes labelAt row.pointers = row.bytes inRecords := by
  have htokens := Token.bytes_operands hlabels row.operands [] (stringTokens row.strings)
  rw [List.append_nil, Token.bytes_stringTokens, List.append_nil] at htokens
  rw [Statement.bytes, written?_statement h.not_trailer, Option.map_some, Option.getD_some, Content.bytes, tokens,
    pointers, htokens, bytes, h.legible.kind_eq]
  rfl

theorem fitsAt_statement (hlabelled : ∀ n, labelled n = true → n ≤ lastOffset) {offset : Nat} {row : Row}
    (h : row.FitsAt inRecords offset) : (row.statement labelled (row.kind inRecords)).FitsAt offset := by
  constructor
  · intro hne
    rw [statement, labels] at hne
    cases hstart : row.start? with
    | none => simp [hstart] at hne
    | some start =>
      simp only [hstart] at hne
      split_ifs at hne with hl
      · rw [← (h.start_eq start hstart).1]
        exact hlabelled start hl
      · simp at hne
  · rintro c ⟨rfl⟩
    refine ⟨h.opens, ?_⟩
    rw [if_neg h.not_trailer, tokens, List.map_append, List.sum_append, size_operands, size_stringTokens]
    exact h.length_eq

theorem targets_statement {row : Row} {kind : LineKind} (h : kind ≠ .trailer) :
    (row.statement labelled kind).targets =
      ((row.operands.filterMap Operand.jump?).filter labelled).map labelName := by
  have hstrings : (stringTokens row.strings).filterMap Token.target? = [] := by
    fun_induction stringTokens row.strings with
    | case1 => rfl
    | case2 => rfl
    | case3 s more hmore ih => rw [List.filterMap_cons_none rfl, ih]
  rw [Statement.targets, written?_statement h, Option.map_some, Option.getD_some, Content.targets, tokens,
    List.filterMap_append, hstrings, List.append_nil]
  induction row.operands with
  | nil => rfl
  | cons op ops ih =>
    rw [List.flatMap_cons, List.filterMap_append, ih]
    cases op with
    | byte b => rfl
    | pointer target => rfl
    | jump target =>
      rw [Operand.tokens, List.filterMap_cons_some (show (Operand.jump target).jump? = some target from rfl)]
      split_ifs with hl
      · rw [List.filter_cons_of_pos hl]
        rfl
      · rw [List.filter_cons_of_neg hl]
        rfl

end Row

/-! ## All rows -/

/-- Whether rows can stand in the stream one after the other, the first at an offset. -/
def rowsFit (inRecords : Bool) : Nat → List Row → Prop
  | _, [] => True
  | offset, row :: more => row.FitsAt inRecords offset ∧ rowsFit inRecords (offset + row.length) more

/-- The statements of rows. -/
def rowListing (inRecords : Bool) (labelled : Nat → Bool) (rows : List Row) : Listing :=
  rows.map fun row => row.statement labelled (row.kind inRecords)

section Rows

variable {inRecords : Bool} {labelled : Nat → Bool} {offset : Nat} {rows : List Row}

private theorem size_rowListing (h : rowsFit inRecords offset rows) :
    (rowListing inRecords labelled rows).size = rowsLength rows := by
  induction rows generalizing offset with
  | nil => rfl
  | cons row more ih =>
    have htail : (rowListing inRecords labelled more).size = rowsLength more := ih h.2
    rw [rowListing, List.map_cons, Listing.size_cons, Row.size_statement h.1.not_trailer]
    rw [rowListing] at htail
    rw [htail]
    simp [rowsLength]

private theorem strings_rowListing (h : rowsFit inRecords offset rows) :
    (rowListing inRecords labelled rows).strings = rows.flatMap fun row => Row.poolStrings row.name row.strings := by
  induction rows generalizing offset with
  | nil => rfl
  | cons row more ih =>
    rw [List.flatMap_cons, ← ih h.2, ← Row.strings_statement h.1.not_trailer]
    rfl

private theorem fitsAt_rowListing (hlabelled : ∀ n, labelled n = true → n ≤ lastOffset)
    (h : rowsFit inRecords offset rows) : (rowListing inRecords labelled rows).FitsAt offset := by
  induction rows generalizing offset with
  | nil => trivial
  | cons row more ih =>
    refine ⟨Row.fitsAt_statement hlabelled h.1, ?_⟩
    rw [Row.size_statement h.1.not_trailer]
    exact ih h.2

private theorem bytes_rowListing {labelAt : Text → Nat} (hlabels : ∀ n, labelled n = true → labelAt (labelName n) = n)
    (h : rowsFit inRecords offset rows) :
    (rowListing inRecords labelled rows).bytes labelAt (rows.flatMap Row.pointers) =
      rows.flatMap (Row.bytes inRecords) := by
  induction rows generalizing offset with
  | nil => rfl
  | cons row more ih =>
    have hlength : (row.statement labelled (row.kind inRecords)).strings.length = row.pointers.length := by
      rw [Row.strings_statement h.1.not_trailer, Row.length_poolStrings, h.1.strings_eq]
    rw [List.flatMap_cons, List.flatMap_cons, ← ih h.2, rowListing, List.map_cons, Listing.bytes,
      List.take_left' hlength.symm, List.drop_left' hlength.symm, Row.bytes_statement hlabels h.1]
    rfl

private theorem mem_labels_rowListing {label : Text} :
    label ∈ (rowListing inRecords labelled rows).labels ↔
      ∃ n ∈ rows.filterMap Row.start?, labelled n = true ∧ label = labelName n := by
  induction rows with
  | nil => simp [rowListing]
  | cons row more ih =>
    rw [rowListing] at ih ⊢
    rw [List.map_cons, Listing.labels_cons, List.mem_append, ih, Row.statement, Row.labels]
    cases hstart : row.start? with
    | none => simp [hstart]
    | some start =>
      simp only [List.filterMap_cons, hstart, List.mem_cons, exists_eq_or_imp]
      split_ifs with hl <;> simp [hl]

private theorem le_of_mem_starts (h : rowsFit inRecords offset rows) {n : Nat}
    (hn : n ∈ rows.filterMap Row.start?) : offset ≤ n := by
  induction rows generalizing offset with
  | nil => simp at hn
  | cons row more ih =>
    rw [List.mem_filterMap] at hn
    obtain ⟨row', hrow, hstart⟩ := hn
    rcases List.mem_cons.mp hrow with rfl | hrow
    · exact (h.1.start_eq n hstart).1.ge
    · have := ih h.2 (List.mem_filterMap.mpr ⟨row', hrow, hstart⟩)
      omega

private theorem mem_labelTable_rowListing (h : rowsFit inRecords offset rows) {n : Nat}
    (hn : n ∈ rows.filterMap Row.start?) (hl : labelled n = true) :
    (labelName n, n) ∈ (rowListing inRecords labelled rows).labelTable offset := by
  induction rows generalizing offset with
  | nil => simp at hn
  | cons row more ih =>
    rw [List.mem_filterMap] at hn
    obtain ⟨row', hrow, hstart⟩ := hn
    rw [rowListing, List.map_cons, Listing.labelTable, Row.size_statement h.1.not_trailer, List.mem_append]
    rcases List.mem_cons.mp hrow with rfl | hrow
    · left
      obtain ⟨rfl, -⟩ := h.1.start_eq n hstart
      simp [Row.statement, Row.labels, hstart, hl]
    · right
      exact ih h.2 (List.mem_filterMap.mpr ⟨row', hrow, hstart⟩)

private theorem nodup_labels_rowListing (h : rowsFit inRecords offset rows) :
    (rowListing inRecords labelled rows).labels.Nodup := by
  induction rows generalizing offset with
  | nil => exact List.nodup_nil
  | cons row more ih =>
    rw [rowListing, List.map_cons, Listing.labels_cons, List.nodup_append]
    refine ⟨?_, ih h.2, ?_⟩
    · rw [Row.statement, Row.labels]
      dsimp only
      split
      · split_ifs <;> simp
      · simp
    · intro label hlabel label' hlabel' heq
      obtain ⟨n, hn, -, rfl⟩ := mem_labels_rowListing.mp hlabel'
      subst heq
      have hle := le_of_mem_starts h.2 hn
      rw [Row.statement, Row.labels] at hlabel
      cases hstart : row.start? with
      | none => simp [hstart] at hlabel
      | some start =>
        obtain ⟨rfl, hpos⟩ := h.1.start_eq start hstart
        simp only [hstart] at hlabel
        split_ifs at hlabel
        · have := labelName_injective (List.mem_singleton.mp hlabel)
          omega
        · simp at hlabel

private theorem mem_targets_rowListing (h : rowsFit inRecords offset rows) {label : Text}
    (hlabel : label ∈ (rowListing inRecords labelled rows).targets) :
    ∃ n, labelled n = true ∧ label = labelName n := by
  induction rows generalizing offset with
  | nil => simp [rowListing] at hlabel
  | cons row more ih =>
    rw [rowListing, List.map_cons, Listing.targets_cons, Row.targets_statement h.1.not_trailer, List.mem_append] at hlabel
    rcases hlabel with hlabel | hlabel
    · obtain ⟨n, hn, rfl⟩ := List.mem_map.mp hlabel
      exact ⟨n, (List.mem_filter.mp hn).2, rfl⟩
    · exact ih h.2 hlabel

end Rows

/-- The row of the trailer. -/
def Row.trailer (content : Bytes) : Row := Row.raw "trailer".toList content.length content

theorem Row.legible_trailer (inRecords : Bool) {content : Bytes} (h : content.length < Text.numberBound) :
    (Row.trailer content).Legible inRecords .trailer where
  kind_eq := rfl
  isName := show isName "trailer".toList = true by decide
  length_lt := h
  strings_le := Nat.zero_le _
  inner_noSign := by simp [Row.trailer, Row.raw]
  trailer_bytes := by simp [Row.trailer, Row.raw]

theorem Row.written?_trailer (labelled : Nat → Bool) (content : Bytes) :
    ((Row.trailer content).statement labelled .trailer).written? = none := rfl

private theorem tokens_trailer (labelled : Nat → Bool) (content : Bytes) :
    ((Row.trailer content).tokens labelled).filterMap Token.byte? = content := by
  rw [Row.tokens, List.filterMap_append]
  induction content with
  | nil => rfl
  | cons b content ih => exact congrArg (b :: ·) ih

theorem Row.trailer?_trailer (labelled : Nat → Bool) (content : Bytes) :
    ((Row.trailer content).statement labelled .trailer).trailer? = some content := by
  rw [Statement.trailer?, statement, Option.filter_some_pos rfl, Option.map_some, tokens_trailer]

theorem Row.fitsAt_trailer (labelled : Nat → Bool) (content : Bytes) (offset : Nat) :
    ((Row.trailer content).statement labelled .trailer).FitsAt offset := by
  refine ⟨fun h => absurd rfl h, ?_⟩
  rintro c ⟨rfl⟩
  refine ⟨trivial, ?_⟩
  rw [if_pos rfl, tokens_trailer]
  rfl

private theorem read?_rows {inRecords : Bool} {offset : Nat} {rows : List Row} (labelled : Nat → Bool)
    (h : rowsFit inRecords offset rows) {t : Bytes} (ht : t.length < Text.numberBound) :
    Listing.read? inRecords ((rows ++ [Row.trailer t]).map (Row.render labelled)) =
      some (rowListing inRecords labelled rows ++ [(Row.trailer t).statement labelled .trailer]) := by
  induction rows generalizing offset with
  | nil => simp [Listing.read?, Row.read?_render (Row.legible_trailer inRecords ht), rowListing]
  | cons row more ih =>
    rw [List.cons_append, List.map_cons, Listing.read?, Row.read?_render h.1.legible, ih h.2]
    rfl

private theorem labelledOffsets_trailer (rows : List Row) (t : Bytes) :
    labelledOffsets (rows ++ [Row.trailer t]) = labelledOffsets rows := by
  simp [labelledOffsets, Row.trailer, Row.raw, List.filterMap_map]

/-- The listing of a dump of rows. -/
private theorem read?_showRows {name : String} {rows : List Row} {t : Bytes} (hfit : rowsFit (isRecordFile name) 0 rows)
    (hline : ∀ row ∈ rows, row.OneLine) (ht : t.length < Text.numberBound) :
    let labelled := (labelledOffsets rows).contains
    let sts := rowListing (isRecordFile name) labelled rows ++ [(Row.trailer t).statement labelled .trailer]
    Listing.read? (isRecordFile name) (Text.lines (showRows (rows ++ [Row.trailer t]))) = some sts ∧ sts.labels.Nodup ∧
      sts.size = rowsLength rows ∧ sts.strings = rows.flatMap fun row => Row.poolStrings row.name row.strings := by
  intro labelled sts
  have hlined : ∀ row ∈ rows ++ [Row.trailer t], row.OneLine := by
    intro row hrow
    rcases List.mem_append.mp hrow with hrow | hrow
    · exact hline row hrow
    · rw [List.mem_singleton.mp hrow]
      exact ⟨show Row.isName "trailer".toList = true by decide, by simp [Row.trailer, Row.raw],
        by simp [Row.trailer, Row.raw]⟩
  refine ⟨?_, ?_, ?_, ?_⟩
  · rw [lines_showRows (by simp) hlined, labelledOffsets_trailer]
    exact read?_rows labelled hfit ht
  · rw [Listing.labels_append, show Listing.labels [(Row.trailer t).statement labelled .trailer] = [] from rfl,
      List.append_nil]
    exact nodup_labels_rowListing hfit
  · rw [Listing.size_append, size_rowListing hfit]
    rfl
  · rw [Listing.strings_append, strings_rowListing hfit]
    exact List.append_nil _

/-- Rows with a trailer assemble to the bytes they stand for when their pointers lead to where the pool puts their
strings. -/
theorem assemble_showRows {name : String} {rows : List Row} {t : Bytes} (ts : Typesetter) {parts : List Bytes}
    (hfit : rowsFit (isRecordFile name) 0 rows) (hline : ∀ row ∈ rows, row.OneLine)
    (ht : t.length < Text.numberBound) (hjumps : ∀ n ∈ labelledOffsets rows, n ≤ lastOffset)
    (hparts : List.Forall₂ (fun s part => PoolString.part? ts s = some part)
      (rows.flatMap fun row => Row.poolStrings row.name row.strings) parts)
    (hpointers : rows.flatMap Row.pointers = poolOffsets (rowsLength rows) parts)
    (hreach : ∀ p ∈ rows.flatMap Row.pointers, p ≤ lastOffset) :
    (assemble name (showRows (rows ++ [Row.trailer t])) ts).1 =
      .ok (rows.flatMap (Row.bytes (isRecordFile name)) ++ (parts.flatten ++ t)) := by
  let labelled := (labelledOffsets rows).contains
  let last := (Row.trailer t).statement labelled .trailer
  obtain ⟨hread, hnodup, hsize, hstrings⟩ := read?_showRows hfit hline ht
  have hlabelled : ∀ n, labelled n = true → n ∈ labelledOffsets rows := fun n h => by simpa [labelled] using h
  have hstarts : ∀ n, labelled n = true → n ∈ rows.filterMap Row.start? := by
    intro n h
    simpa using (List.mem_filter.mp (hlabelled n h)).2
  have hat : ∀ n, labelled n = true →
      (rowListing (isRecordFile name) labelled rows ++ [last]).labelOffset (labelName n) = n := by
    intro n h
    apply Listing.labelOffset_eq hnodup
    rw [Listing.labelTable_append]
    exact List.mem_append_left _ (mem_labelTable_rowListing hfit (hstarts n h) h)
  refine (assemble_ok_iff hread hnodup).mpr ⟨parts, t, ⟨?_, ?_, ?_, ?_, ?_⟩, ?_⟩
  · rw [Listing.fitsAt_append]
    exact ⟨fitsAt_rowListing (fun n h => hjumps n (hlabelled n h)) hfit, Row.fitsAt_trailer .., trivial⟩
  · intro label hlabel
    rw [Listing.targets_append, show Listing.targets [last] = [] from rfl, List.append_nil] at hlabel
    obtain ⟨n, hl, rfl⟩ := mem_targets_rowListing hfit hlabel
    rw [Listing.labels_append]
    exact List.mem_append_left _ (mem_labels_rowListing.mpr ⟨n, hstarts n hl, hl, rfl⟩)
  · rwa [hstrings]
  · rw [hsize, ← hpointers]
    exact hreach
  · rw [Listing.trailer?_append, Listing.trailer?, Row.trailer?_trailer]
    rfl
  · have hcount : (rows.flatMap fun row => Row.poolStrings row.name row.strings).length =
        (rows.flatMap Row.pointers).length := by
      rw [hparts.length_eq, hpointers, length_poolOffsets]
    rw [Listing.image, hsize, ← hpointers, Listing.bytes_append, strings_rowListing hfit, hcount, List.take_length,
      bytes_rowListing hat hfit]
    simp [Listing.bytes, Statement.bytes, Row.written?_trailer]

/-- Rows with a trailer assemble only if their strings can be written and put within reach. -/
theorem exists_parts_of_assemble_showRows {name : String} {rows : List Row} {t : Bytes} {ts : Typesetter} {out : Bytes}
    (hfit : rowsFit (isRecordFile name) 0 rows) (hline : ∀ row ∈ rows, row.OneLine) (ht : t.length < Text.numberBound)
    (h : (assemble name (showRows (rows ++ [Row.trailer t])) ts).1 = .ok out) :
    ∃ parts, List.Forall₂ (fun s part => PoolString.part? ts s = some part)
        (rows.flatMap fun row => Row.poolStrings row.name row.strings) parts ∧
      ∀ start ∈ poolOffsets (rowsLength rows) parts, start ≤ lastOffset := by
  obtain ⟨hread, hnodup, hsize, hstrings⟩ := read?_showRows hfit hline ht
  obtain ⟨parts, _, hassembles, _⟩ := (assemble_ok_iff hread hnodup).mp h
  have hparts := hassembles.parts_eq
  have hreach := hassembles.inReach
  rw [hstrings] at hparts
  rw [hsize] at hreach
  exact ⟨parts, hparts, hreach⟩

end SceneScript
