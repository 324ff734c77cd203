import Mathlib
import SceneScript.Proofs.Charset
import SceneScript.Proofs.Correspondence
import SceneScript.Proofs.Script.Placement
import SceneScript.Proofs.Script.RoundTrip
/-!
# Editing the strings of a script

When only the strings of a dump are replaced, the assembled script is the old one up to its pool and its pointers, and it
is read back as the edited dump.
-/
namespace SceneScript

/-! ## Rows that differ in their pointers -/

/-- Whether operands are the same, up to where pointers lead. -/
def Operand.Alike : Operand → Operand → Prop
  | .pointer _, .pointer target => target ≤ lastOffset
  | .pointer _, _ => False
  | op, op' => op = op'

/-- Whether rows are the same, up to their strings and where their pointers lead. -/
structure Row.Alike (row row' : Row) : Prop where
  start_eq : row'.start? = row.start?
  name_eq : row'.name = row.name
  length_eq : row'.length = row.length
  operands : List.Forall₂ Operand.Alike row.operands row'.operands

namespace Operand

theorem Alike.length_bytes {op op' : Operand} (h : op.Alike op') : op'.bytes.length = op.bytes.length := by
  cases op with
  | pointer target =>
    cases op' with
    | pointer target' => rfl
    | byte | jump => cases h
  | byte | jump =>
    cases h
    rfl

theorem length_bytes_alike {ops ops' : List Operand} (h : List.Forall₂ Alike ops ops') :
    (ops'.flatMap bytes).length = (ops.flatMap bytes).length := by
  induction h with
  | nil => rfl
  | cons hop _ ih => rw [List.flatMap_cons, List.flatMap_cons, List.length_append, List.length_append, ih, hop.length_bytes]

theorem shape_alike {cells : List Nat} {jump? : Option Nat} {position : Nat} {ops ops' : List Operand}
    (h : List.Forall₂ Alike ops ops') (hshape : Reading.Shape cells jump? position ops) :
    Reading.Shape cells jump? position ops' := by
  induction h generalizing position with
  | nil => trivial
  | @cons op op' more more' hop hmore ih =>
    cases op with
    | byte b =>
      cases hop
      refine ⟨fun hne => hshape.1 ?_, ih hshape.2⟩
      rintro rfl
      cases hmore
      exact hne rfl
    | pointer target =>
      cases op' with
      | pointer target' => exact ⟨hshape.1, Nat.lt_succ_of_le hop, ih hshape.2.2⟩
      | byte | jump => cases hop
    | jump target =>
      cases hop
      exact ⟨hshape.1, hshape.2.1, hshape.2.2.1, ih hshape.2.2.2⟩

theorem length_pointers_alike {ops ops' : List Operand} (h : List.Forall₂ Alike ops ops') :
    (ops'.filterMap pointer?).length = (ops.filterMap pointer?).length := by
  induction h with
  | nil => rfl
  | @cons op op' more more' hop _ ih =>
    cases op with
    | pointer target =>
      cases op' with
      | pointer target' => simpa using ih
      | byte | jump => cases hop
    | byte b =>
      cases hop
      simpa [List.filterMap_cons] using ih
    | jump target =>
      cases hop
      simpa [List.filterMap_cons] using ih

/-- Pointers may be given any targets. -/
theorem exists_alike (ops : List Operand) {offsets : List Nat} (hlength : offsets.length = (ops.filterMap pointer?).length)
    (hreach : ∀ offset ∈ offsets, offset ≤ lastOffset) :
    ∃ ops', List.Forall₂ Alike ops ops' ∧ ops'.filterMap pointer? = offsets := by
  induction ops generalizing offsets with
  | nil => exact ⟨[], .nil, (List.length_eq_zero_iff.mp hlength).symm⟩
  | cons op more ih =>
    cases op with
    | pointer target =>
      match offsets with
      | [] => simp at hlength
      | offset :: offsets =>
        rw [List.forall_mem_cons] at hreach
        obtain ⟨ops', halike, hoffsets⟩ := ih (by simpa [List.filterMap_cons] using hlength) hreach.2
        exact ⟨.pointer offset :: ops', .cons hreach.1 halike, by simp [hoffsets]⟩
    | byte b =>
      obtain ⟨ops', halike, hoffsets⟩ := ih (by simpa [List.filterMap_cons] using hlength) hreach
      exact ⟨.byte b :: ops', .cons rfl halike, by simp [List.filterMap_cons, hoffsets]⟩
    | jump target =>
      obtain ⟨ops', halike, hoffsets⟩ := ih (by simpa [List.filterMap_cons] using hlength) hreach
      exact ⟨.jump target :: ops', .cons rfl halike, by simp [List.filterMap_cons, hoffsets]⟩

end Operand

namespace Reading

private theorem instructions_alike {position : Nat} {rows rows' : List Row} (h : List.Forall₂ Row.Alike rows rows')
    (hrows : Instructions position rows) : Instructions position rows' := by
  induction h generalizing position with
  | nil => trivial
  | @cons row row' more more' hrow hmore ih =>
    obtain ⟨⟨opcode, hname, hstart, hsize, hsize', hshape, hlength⟩, hret2, hrest⟩ := hrows
    refine ⟨⟨opcode, ?_, ?_, ?_, ?_, ?_, ?_⟩, ?_, ?_⟩
    · rw [hrow.name_eq, hname]
    · rw [hrow.start_eq, hstart]
    · rwa [hrow.length_eq]
    · rwa [hrow.length_eq]
    · rw [hrow.length_eq]
      exact Operand.shape_alike hrow.operands hshape
    · rw [Operand.length_bytes_alike hrow.operands, hlength, hrow.length_eq]
    · intro hname
      rw [hrow.name_eq] at hname
      rw [hret2 hname] at hmore
      exact List.forall₂_nil_left_iff.mp hmore
    · rw [hrow.length_eq]
      exact ih hrest

private theorem records_alike {sections : List Section} {rows rows' : List Row} (h : List.Forall₂ Row.Alike rows rows')
    (hrows : List.Forall₂ RecordOf sections rows) : List.Forall₂ RecordOf sections rows' := by
  induction h generalizing sections with
  | nil =>
    rw [List.forall₂_nil_right_iff] at hrows
    rw [hrows]
    exact .nil
  | @cons row row' more more' hrow hmore ih =>
    obtain ⟨s, sections, ⟨hstart, hname, hlength, hshape, hbytes⟩, hrest, rfl⟩ := List.forall₂_cons_right_iff.mp hrows
    refine .cons ⟨?_, ?_, ?_, ?_, ?_⟩ (ih hrest)
    · rw [hrow.start_eq, hstart]
    · rw [hrow.name_eq, hname]
    · rw [hrow.length_eq, hlength]
    · exact Operand.shape_alike hrow.operands hshape
    · rw [Operand.length_bytes_alike hrow.operands, hbytes, hrow.length_eq]

theorem body_alike {inRecords : Bool} {start : Nat} {rows rows' : List Row} (h : List.Forall₂ Row.Alike rows rows')
    (hbody : Body inRecords start rows) : Body inRecords start rows' := by
  rw [Body] at hbody ⊢
  split_ifs at hbody ⊢
  · exact records_alike h hbody
  · exact instructions_alike h hbody

theorem rowsLength_alike {rows rows' : List Row} (h : List.Forall₂ Row.Alike rows rows') :
    rowsLength rows' = rowsLength rows := by
  induction h with
  | nil => rfl
  | cons hrow _ ih =>
    rw [rowsLength] at ih
    rw [rowsLength, rowsLength, List.map_cons, List.map_cons, List.sum_cons, List.sum_cons, hrow.length_eq, ih]
    rfl

theorem exists_rows_alike (rows : List Row) {offsets : List Nat}
    (hlength : offsets.length = (rows.flatMap Row.pointers).length) (hreach : ∀ offset ∈ offsets, offset ≤ lastOffset) :
    ∃ rows', List.Forall₂ (fun row row' => row.Alike row' ∧ row'.strings = row.strings) rows rows' ∧
      rows'.flatMap Row.pointers = offsets := by
  induction rows generalizing offsets with
  | nil => exact ⟨[], .nil, (List.length_eq_zero_iff.mp hlength).symm⟩
  | cons row more ih =>
    rw [List.flatMap_cons, List.length_append] at hlength
    have htake : (offsets.take row.pointers.length).length = row.pointers.length := by
      rw [List.length_take]
      omega
    have hdrop : (offsets.drop row.pointers.length).length = (more.flatMap Row.pointers).length := by
      rw [List.length_drop]
      omega
    obtain ⟨ops, halike, hops⟩ := Operand.exists_alike row.operands htake
      fun offset h => hreach offset (List.mem_of_mem_take h)
    obtain ⟨rows', hrows, hpointers⟩ := ih hdrop fun offset h => hreach offset (List.mem_of_mem_drop h)
    refine ⟨{ row with operands := ops } :: rows', .cons ⟨⟨rfl, rfl, rfl, halike⟩, rfl⟩ hrows, ?_⟩
    rw [List.flatMap_cons, hpointers, Row.pointers, hops, List.take_append_drop]

end Reading

/-! ## The dump does not show where pointers lead -/

namespace Operand

private theorem Alike.shown {op op' : Operand} (h : op.Alike op') :
    (∀ labelled, op'.render labelled = op.render labelled) ∧ op'.jump? = op.jump? := by
  cases op with
  | pointer target =>
    cases op' with
    | pointer target' => exact ⟨fun _ => rfl, rfl⟩
    | byte | jump => cases h
  | byte | jump =>
    cases h
    exact ⟨fun _ => rfl, rfl⟩

private theorem showOperands_alike {ops ops' : List Operand} (h : List.Forall₂ Alike ops ops') (labelled : Nat → Bool) :
    showOperands labelled ops' = showOperands labelled ops := by
  have hmap : ops'.map (render labelled) = ops.map (render labelled) := by
    induction h with
    | nil => rfl
    | cons hop _ ih => rw [List.map_cons, List.map_cons, ih, hop.shown.1]
  cases h with
  | nil => rfl
  | cons => rw [showOperands, showOperands, hmap] <;> simp

private theorem jumps_alike {ops ops' : List Operand} (h : List.Forall₂ Alike ops ops') :
    ops'.filterMap jump? = ops.filterMap jump? := by
  induction h with
  | nil => rfl
  | cons hop _ ih => rw [List.filterMap_cons, List.filterMap_cons, ih, hop.shown.2]

end Operand

theorem Row.render_alike {row row' : Row} (h : row.Alike row') (hstrings : row'.strings = row.strings)
    (labelled : Nat → Bool) : row'.render labelled = row.render labelled := by
  rw [render, render, showLabel, showLabel, h.start_eq, h.name_eq, h.length_eq,
    Operand.showOperands_alike h.operands, hstrings]

theorem showRows_alike {rows rows' : List Row}
    (h : List.Forall₂ (fun row row' => row.Alike row' ∧ row'.strings = row.strings) rows rows') :
    showRows rows' = showRows rows := by
  have hlabels := Reading.labelledOffsets_congr
    (h.imp fun _ _ hrow => ⟨hrow.1.start_eq, Operand.jumps_alike hrow.1.operands⟩)
  have hmap : ∀ labelled, rows'.map (Row.render labelled) = rows.map (Row.render labelled) := by
    intro labelled
    clear hlabels
    induction h with
    | nil => rfl
    | cons hrow _ ih => rw [List.map_cons, List.map_cons, ih, Row.render_alike hrow.1 hrow.2]
  rw [showRows, showRows, hlabels, hmap]

/-! ## Agreement outside the cells -/

namespace Operand

/-- Where the pointers among operands stand, the first operand at an offset. -/
def cellOffsets : Nat → List Operand → List Nat
  | _, [] => []
  | offset, .pointer _ :: more => offset :: cellOffsets (offset + 2) more
  | offset, op :: more => cellOffsets (offset + op.bytes.length) more

theorem agreesOutside_alike {ops ops' : List Operand} (h : List.Forall₂ Alike ops ops') (offset : Nat) :
    AgreesOutside (cellOffsets offset ops) offset (ops.flatMap bytes) (ops'.flatMap bytes) := by
  induction h generalizing offset with
  | nil => exact .refl ..
  | @cons op op' more more' hop hmore ih =>
    rw [List.flatMap_cons, List.flatMap_cons]
    cases op with
    | pointer target =>
      cases op' with
      | pointer target' =>
        exact (AgreesOutside.word16 offset target target').append (ih (offset + 2))
      | byte | jump => cases hop
    | byte b =>
      cases hop
      exact (AgreesOutside.refl [] ..).append (ih _)
    | jump target =>
      cases hop
      exact (AgreesOutside.refl [] ..).append (ih _)

end Operand

namespace Reading

/-- Where the string cells of rows stand, the first row at an offset. -/
def rowCells (inRecords : Bool) : Nat → List Row → List Nat
  | _, [] => []
  | offset, row :: more =>
    Operand.cellOffsets (offset + ((row.kind inRecords).head row.length).length) row.operands ++
      rowCells inRecords (offset + row.length) more

theorem agreesOutside_rows {inRecords : Bool} {offset : Nat} {rows rows' : List Row}
    (h : List.Forall₂ Row.Alike rows rows') (hfit : rowsFit inRecords offset rows) :
    AgreesOutside (rowCells inRecords offset rows) offset (rows.flatMap (Row.bytes inRecords))
      (rows'.flatMap (Row.bytes inRecords)) := by
  induction h generalizing offset with
  | nil => exact .refl ..
  | @cons row row' more more' hrow hmore ih =>
    have hbytes : row.bytes inRecords =
        (row.kind inRecords).head row.length ++ row.operands.flatMap Operand.bytes := by
      rw [Row.bytes, hfit.1.legible.kind_eq]
      rfl
    have hbytes' : row'.bytes inRecords =
        (row.kind inRecords).head row.length ++ row'.operands.flatMap Operand.bytes := by
      rw [Row.bytes, hrow.name_eq, hrow.length_eq, hfit.1.legible.kind_eq]
      rfl
    have hlength : (row.bytes inRecords).length = row.length := by
      rw [hbytes, List.length_append, hfit.1.length_eq]
    rw [List.flatMap_cons, List.flatMap_cons, rowCells]
    refine AgreesOutside.append ?_ (by rw [hlength]; exact ih hfit.2)
    rw [hbytes, hbytes']
    exact (AgreesOutside.refl [] ..).append (Operand.agreesOutside_alike hrow.operands _)

/-! ## Reading a script back -/

/-- Whether a string of the pool is read as a text and closed like a string of a row. -/
def Reads (cs : Charset) (s : PoolString) (segment : PoolSegment) : Prop :=
  cs.decode? segment.content = some s.content ∧ 0 ∉ segment.content ∧ segment.suffix = s.suffix

private theorem resolves_of_reads {r : Reading} {p : Nat} {s : PoolString} {segment : PoolSegment} {after : Bytes}
    (hdrop : r.bytes.drop p = segment.part ++ after) (hreads : Reads r.charset s segment)
    (hsuffix : s.suffix = [] ∨ s.suffix = routeSuffix) : r.Resolves p s.content := by
  obtain ⟨hdecode, hzero, hsegment⟩ := hreads
  rw [PoolSegment.part, hsegment] at hdrop
  rcases hsuffix with h | h
  · exact ⟨segment.content, after, by rw [hdrop, h]; simp, hzero, hdecode⟩
  · exact ⟨segment.content, [0x25, 0x54, 0x32, 0] ++ after, by rw [hdrop, h]; simp [routeSuffix], hzero, hdecode⟩

theorem suffix_of_mem_stringsOf {rows : List Row} {s : PoolString} (h : s ∈ stringsOf rows) :
    s.suffix = [] ∨ s.suffix = routeSuffix := by
  obtain ⟨row, -, hs⟩ := List.mem_flatMap.mp h
  exact (suffix_of_mem_poolStrings hs).imp_right And.left

theorem forall₂_through {α β γ : Type} {P : α → γ → Prop} {Q : β → γ → Prop} {R : α → β → Prop}
    {as : List α} {bs : List β} {cs : List γ} (hP : List.Forall₂ P as cs) (hQ : List.Forall₂ Q bs cs)
    (h : ∀ a, ∀ b ∈ bs, ∀ c, P a c → Q b c → R a b) : List.Forall₂ R as bs := by
  induction hQ generalizing as with
  | nil =>
    rw [List.forall₂_nil_right_iff] at hP
    rw [hP]
    exact .nil
  | @cons b c bs cs hb hbs ih =>
    obtain ⟨a, as, ha, has, rfl⟩ := List.forall₂_cons_right_iff.mp hP
    exact .cons (h a b List.mem_cons_self c ha hb) (ih has fun a b hm => h a b (List.mem_cons_of_mem _ hm))

theorem forall₂_getLast? {α β : Type} {R : α → β → Prop} {as : List α} {bs : List β} (h : List.Forall₂ R as bs)
    {b : β} (hb : b ∈ bs.getLast?) : ∃ a ∈ as.getLast?, R a b := by
  have hreverse := List.forall₂_reverse_iff.mpr h
  rw [← List.head?_reverse] at hb ⊢
  generalize as.reverse = as' at hreverse ⊢
  generalize bs.reverse = bs' at hreverse hb
  cases hreverse with
  | nil => simp at hb
  | @cons a b' _ _ hab =>
    obtain rfl : b' = b := by simpa using hb
    exact ⟨a, rfl, hab⟩

theorem length_scriptBytes {inRecords : Bool} {start : Nat} {content gap pool t : Bytes} {body : List Row}
    (hbody : Body inRecords start body) : (scriptBytes inRecords content body gap pool t).length =
      content.length + 1 + rowsLength body + gap.length + pool.length + t.length := by
  simp only [scriptBytes, List.length_cons, List.length_append, hbody.length_bytes]
  omega

/-- The pool of a script stands behind the padding. -/
theorem drop_scriptBytes {inRecords : Bool} {start : Nat} {content gap pool t : Bytes} {body : List Row}
    (hbody : Body inRecords start body) : (scriptBytes inRecords content body gap pool t).drop
      (content.length + 1 + rowsLength body + gap.length) = pool ++ t := by
  have hfront : (content ++ (body.flatMap (Row.bytes inRecords) ++ gap)).length =
      content.length + rowsLength body + gap.length := by
    simp only [List.length_append, hbody.length_bytes]
    omega
  rw [show content.length + 1 + rowsLength body + gap.length = content.length + rowsLength body + gap.length + 1 by omega,
    scriptBytes, List.drop_succ_cons, ← List.append_assoc, ← List.append_assoc, List.append_assoc content,
    List.drop_left' hfront]

/-- The pointers of a script lead to its strings when the pool is laid out in their order. -/
theorem resolvesAll_scriptBytes {name : String} {cs : Charset} {content gap t : Bytes} {body : List Row}
    {segments : List PoolSegment} (hbody : Body (isRecordFile name) (content.length + 1) body)
    (hcount : ∀ row ∈ body, row.strings.length = row.pointers.length)
    (hpointers : body.flatMap Row.pointers =
      poolOffsets (content.length + 1 + rowsLength body + gap.length) (PoolSegment.parts segments))
    (hreads : List.Forall₂ (Reads cs) (stringsOf body) segments) :
    ResolvesAll ⟨name, scriptBytes (isRecordFile name) content body gap (PoolSegment.parts segments).flatten t, cs⟩ body := by
  have hpool : (scriptBytes (isRecordFile name) content body gap (PoolSegment.parts segments).flatten t).drop
      (content.length + 1 + rowsLength body + gap.length) = (PoolSegment.parts segments).flatten ++ t :=
    drop_scriptBytes hbody
  apply (forall₂_stringsOf hcount).mpr
  rw [hpointers]
  have hparts := drop_poolOffsets hpool
  rw [PoolSegment.parts, List.forall₂_map_right_iff] at hparts
  apply forall₂_through hparts hreads
  rintro p s hs segment ⟨after, hdrop⟩ hsegment
  exact resolves_of_reads hdrop hsegment (suffix_of_mem_stringsOf hs)

/-- A script is walked along its rows when its pointers lead to its strings. -/
theorem walks_scriptBytes {name : String} {cs : Charset} {content gap t : Bytes} {body : List Row}
    {segments : List PoolSegment} (hcontent : content.length < 255)
    (hbody : Body (isRecordFile name) (content.length + 1) body)
    (hcount : ∀ row ∈ body, row.strings.length = row.pointers.length)
    (hpointers : body.flatMap Row.pointers =
      poolOffsets (content.length + 1 + rowsLength body + gap.length) (PoolSegment.parts segments))
    (hreads : List.Forall₂ (Reads cs) (stringsOf body) segments) (hgap : segments = [] → gap = [])
    (hends : isRecordFile name = true ∨ (∃ row ∈ body.getLast?, row.name = Opcode.ret2Name) ∨
      (gap = [] ∧ segments ≠ []) ∨ Stalls (gap ++ ((PoolSegment.parts segments).flatten ++ t))) :
    let r : Reading :=
      ⟨name, scriptBytes (isRecordFile name) content body gap (PoolSegment.parts segments).flatten t, cs⟩
    ∃ w, r.Walks (headerRow content) w ∧ w.rows = body ∧ r.padding w = paddingRows gap ∧ r.trailer w = Row.trailer t := by
  intro r
  let pool := (PoolSegment.parts segments).flatten
  let stop := content.length + 1 + rowsLength body
  have hbytes : r.bytes = UInt8.ofNat (content.length + 1) ::
      (content ++ (body.flatMap (Row.bytes (isRecordFile name)) ++ (gap ++ (pool ++ t)))) := rfl
  have hstart : r.bytes.drop (content.length + 1) =
      body.flatMap (Row.bytes (isRecordFile name)) ++ (gap ++ (pool ++ t)) := by
    rw [hbytes, List.drop_succ_cons, List.drop_left]
  have hstop : r.bytes.drop stop = gap ++ (pool ++ t) := by
    rw [← List.drop_drop, hstart, List.drop_left' hbody.length_bytes]
  have hpool : r.bytes.drop (stop + gap.length) = pool ++ t := drop_scriptBytes hbody
  have hresolves : r.ResolvesAll body := resolvesAll_scriptBytes hbody hcount hpointers hreads
  have hreach : ∀ p ∈ body.flatMap Row.pointers, stop ≤ p := by
    intro p hp
    rw [hpointers, poolOffsets_eq] at hp
    obtain ⟨k, -, rfl⟩ := List.mem_map.mp hp
    omega
  have hextent : r.extent {} (body.flatMap Row.pointers) =
      if segments = [] then {} else ⟨some (stop + gap.length), stop + gap.length + pool.length⟩ := by
    rw [hpointers]
    split_ifs with hnil
    · rw [hnil]
      rfl
    · apply extent_parts {} hpool _ _ hnil (by simp) (Nat.zero_le _)
      · intro segment hsegment
        obtain ⟨s, hs, -, hzero, hsuffix⟩ := exists_of_forall₂ hreads hsegment
        refine ⟨hzero, ?_⟩
        rcases suffix_of_mem_stringsOf hs with h | h <;> rw [hsuffix, h] <;> rfl
      · intro segment hsegment
        obtain ⟨s, hs, -, -, hsuffix⟩ := forall₂_getLast? hreads hsegment
        rw [hsuffix, hbody.last_suffix hcount s hs]
  have hwalk : r.walkBody (content.length + 1) =
      .ok ⟨body, stop, r.extent {} (body.flatMap Row.pointers)⟩ := by
    apply walkBody_eq hbody hresolves hstart hreach
    rcases hends with h | h | ⟨hnone, hne⟩ | h
    · exact Or.inl (Or.inl h)
    · exact Or.inl (Or.inr (Or.inl h))
    · refine Or.inl (Or.inr (Or.inr ?_))
      rw [hextent, if_neg hne, hnone, PoolExtent.reached]
      simp [stop]
    · exact Or.inr h
  have hwalks : r.Walks (headerRow content) ⟨body, stop, r.extent {} (body.flatMap Row.pointers)⟩ :=
    ⟨content.length + 1, header_eq_ok.mpr ⟨content, _, rfl, rfl, hcontent, hbytes⟩, hwalk⟩
  refine ⟨_, hwalks, rfl, ?_⟩
  rw [hextent]
  split_ifs with hnil
  · have hpoolNil : pool = [] := by
      simp only [pool, hnil]
      rfl
    have htrailer : r.trailer ⟨body, stop, {}⟩ = Row.trailer t := by
      have hdrop : r.bytes.drop (max stop 0) = t := by
        rw [Nat.max_zero, hstop, hgap hnil, hpoolNil]
        rfl
      rw [trailer, hdrop, Row.trailer]
    rw [hgap hnil]
    exact ⟨rfl, htrailer⟩
  · have hle : stop + gap.length ≤ r.bytes.length := by
      obtain ⟨segment, more, hsegments⟩ := List.exists_cons_of_ne_nil hnil
      by_contra hgt
      rw [List.drop_eq_nil_of_le (by omega), eq_comm, List.append_eq_nil_iff] at hpool
      simp [pool, hsegments, PoolSegment.parts, PoolSegment.part] at hpool
    have htake : (r.bytes.take (stop + gap.length)).drop stop = gap := by
      rw [List.drop_take, Nat.add_sub_cancel_left, hstop, List.take_left]
    have htrailer : r.trailer ⟨body, stop, ⟨some (stop + gap.length), stop + gap.length + pool.length⟩⟩ =
        Row.trailer t := by
      have hdrop : r.bytes.drop (max stop (stop + gap.length + pool.length)) = t := by
        rw [Nat.max_eq_right (by omega), ← List.drop_drop, hpool, List.drop_left]
      rw [trailer, hdrop, Row.trailer]
    exact ⟨by rw [padding_eq rfl hle, htake], htrailer⟩

/-- The rows of a script are read from its bytes when its pointers lead to its strings. -/
theorem rows_scriptBytes {name : String} {cs : Charset} {content gap t : Bytes} {body : List Row}
    {segments : List PoolSegment} (hcontent : content.length < 255)
    (hbody : Body (isRecordFile name) (content.length + 1) body)
    (hcount : ∀ row ∈ body, row.strings.length = row.pointers.length)
    (hpointers : body.flatMap Row.pointers =
      poolOffsets (content.length + 1 + rowsLength body + gap.length) (PoolSegment.parts segments))
    (hreads : List.Forall₂ (Reads cs) (stringsOf body) segments) (hgap : segments = [] → gap = [])
    (hends : isRecordFile name = true ∨ (∃ row ∈ body.getLast?, row.name = Opcode.ret2Name) ∨
      (gap = [] ∧ segments ≠ []) ∨ Stalls (gap ++ ((PoolSegment.parts segments).flatten ++ t))) :
    Reading.rows ⟨name, scriptBytes (isRecordFile name) content body gap (PoolSegment.parts segments).flatten t, cs⟩ =
      .ok (scriptRows content body gap t) := by
  obtain ⟨w, hwalks, rfl, hpadding, htrailer⟩ := walks_scriptBytes hcontent hbody hcount hpointers hreads hgap hends
  rw [rows_eq_ok]
  refine ⟨_, _, hwalks, ?_⟩
  rw [hpadding, htrailer, scriptRows]

private theorem lowest?_mem {r : Reading} {pool : PoolExtent} {pointers : List Nat} {lowest : Nat}
    (h : (r.extent pool pointers).lowest? = some lowest) : pool.lowest? = some lowest ∨ lowest ∈ pointers := by
  induction pointers generalizing pool with
  | nil => exact Or.inl h
  | cons p more ih =>
    rcases ih h with h | h
    · dsimp only [PoolExtent.add] at h
      cases hlowest : pool.lowest? with
      | none =>
        simp only [hlowest, Option.some.injEq] at h
        rw [← h]
        exact Or.inr List.mem_cons_self
      | some l =>
        simp only [hlowest, Option.some.injEq] at h
        rcases Nat.le_total l p with hle | hle
        · rw [Nat.min_eq_left hle] at h
          exact Or.inl (congrArg some h)
        · rw [Nat.min_eq_right hle] at h
          rw [← h]
          exact Or.inr List.mem_cons_self
    · exact Or.inr (List.mem_cons_of_mem _ h)

private theorem lt_length_of_mem {r : Reading} {rows : List Row} (h : r.ResolvesAll rows) {p : Nat}
    (hp : p ∈ rows.flatMap Row.pointers) : p < r.bytes.length := by
  obtain ⟨row, hrow, hp⟩ := List.mem_flatMap.mp hp
  have hflip := (h row hrow).flip
  obtain ⟨t, -, content, after, hdrop, -, -⟩ := exists_of_forall₂ hflip hp
  by_contra hge
  rw [List.drop_eq_nil_of_le (Nat.le_of_not_lt hge)] at hdrop
  simp at hdrop

/-- The padding of a script stands right behind its walk; there is none when the walk ends at the first string. -/
private theorem padding_of_walk {r : Reading} {w : Walked} {tail : Bytes} (hresolves : r.ResolvesAll w.rows)
    (hpool : w.pool = r.extent {} (w.rows.flatMap Row.pointers)) (htail : r.bytes.drop w.stop = tail) :
    ∃ gap rest, r.padding w = paddingRows gap ∧ tail = gap ++ rest ∧
      (w.pool.reached w.stop = true → gap = []) ∧ (w.rows.flatMap Row.pointers = [] → gap = []) ∧
      ∀ lowest ∈ w.pool.lowest?, gap.length = lowest - w.stop := by
  cases hlowest : w.pool.lowest? with
  | none =>
    refine ⟨[], tail, ?_, rfl, fun _ => rfl, fun _ => rfl, by simp⟩
    rw [padding, hlowest]
    rfl
  | some lowest =>
    have hmem : lowest ∈ w.rows.flatMap Row.pointers := by
      rw [hpool] at hlowest
      rcases lowest?_mem hlowest with h | h
      · cases h
      · exact h
    have hlt := lt_length_of_mem hresolves hmem
    refine ⟨(r.bytes.take lowest).drop w.stop, tail.drop (lowest - w.stop), padding_eq hlowest hlt.le, ?_, ?_, ?_, ?_⟩
    · rw [List.drop_take, htail, List.take_append_drop]
    · intro hreached
      rw [PoolExtent.reached, hlowest] at hreached
      apply List.drop_eq_nil_of_le
      rw [List.length_take]
      have := of_decide_eq_true hreached
      omega
    · intro hnil
      rw [hnil] at hmem
      simp at hmem
    · rintro _ ⟨rfl⟩
      rw [List.length_drop, List.length_take, min_eq_left hlt.le]

/-- Where a walk ended because no instruction begins there, none begins after the pool was laid out anew, unless the first
string began one byte behind the end of the walk. -/
private theorem stalls_of_walk {r : Reading} {w : Walked} {gap rest pool : Bytes}
    (hpool : w.pool = r.extent {} (w.rows.flatMap Row.pointers)) (htail : r.bytes.drop w.stop = gap ++ rest)
    (hlength : ∀ lowest ∈ w.pool.lowest?, gap.length = lowest - w.stop) (hstalls : Stalls (gap ++ rest))
    (hreached : w.pool.reached w.stop = false) (hlowest : w.pool.lowest? ≠ some (w.stop + 1))
    (hnil : w.rows.flatMap Row.pointers = [] → gap = [] ∧ pool = []) :
    Stalls (gap ++ (pool ++ r.bytes.drop (max w.stop w.pool.stop))) := by
  cases hsome : w.pool.lowest? with
  | none =>
    have hpointers : w.rows.flatMap Row.pointers = [] := by
      rcases List.eq_nil_or_concat (w.rows.flatMap Row.pointers) with hpointers | ⟨front, last, hpointers⟩
      · exact hpointers
      · rw [hpool, hpointers, List.concat_eq_append, extent, List.foldl_concat] at hsome
        cases hsome
    obtain ⟨rfl, rfl⟩ := hnil hpointers
    rw [hpool, hpointers]
    simpa [extent, htail] using hstalls
  | some lowest =>
    rw [PoolExtent.reached, hsome, decide_eq_false_iff_not, Nat.not_le] at hreached
    rw [hsome, ne_eq, Option.some.injEq] at hlowest
    have hgap := hlength lowest hsome
    rcases hstalls with hshort | hzero
    · rw [List.length_append] at hshort
      omega
    · rw [List.getElem?_append_left (by omega)] at hzero
      refine Or.inr ?_
      rwa [List.getElem?_append_left (by omega)]

end Reading

/-- Whether a row is another with different strings, as many as before. -/
def Row.Refilled (row row' : Row) : Prop :=
  ∃ strings : List Text, strings.length = row.strings.length ∧ row' = { row with strings := strings }

/-- Whether a text can be written in a character set and is the same when it is read again. -/
structure Charset.Keeps (cs : Charset) (t : Text) : Prop where
  read_eq : ∃ bytes, cs.encode t = .ok bytes ∧ cs.decode? bytes = some t
  noNull : '\x00' ∉ t

namespace Reading

theorem alike_self {ops : List Operand} (h : ∀ n ∈ ops.filterMap Operand.pointer?, n ≤ lastOffset) :
    List.Forall₂ Operand.Alike ops ops := by
  rw [List.forall₂_same]
  intro op hop
  cases op with
  | pointer target => exact h target (List.mem_filterMap.mpr ⟨_, hop, rfl⟩)
  | byte | jump => rfl

theorem refilled_alike {rows rows' : List Row} (h : List.Forall₂ Row.Refilled rows rows')
    (hreach : ∀ n ∈ rows.flatMap Row.pointers, n ≤ lastOffset) : List.Forall₂ Row.Alike rows rows' := by
  induction h with
  | nil => exact .nil
  | @cons row row' more more' hrow _ ih =>
    rw [List.flatMap_cons, List.forall_mem_append] at hreach
    obtain ⟨strings, -, rfl⟩ := hrow
    exact .cons ⟨rfl, rfl, rfl, alike_self hreach.1⟩ (ih hreach.2)

/-- Refilling leaves bytes, pointers and cells as they are. -/
theorem refilled_eq {rows rows' : List Row} (h : List.Forall₂ Row.Refilled rows rows') (inRecords : Bool) :
    rows'.flatMap (Row.bytes inRecords) = rows.flatMap (Row.bytes inRecords) ∧
      rows'.flatMap Row.pointers = rows.flatMap Row.pointers ∧
      ∀ offset, rowCells inRecords offset rows' = rowCells inRecords offset rows := by
  induction h with
  | nil => exact ⟨rfl, rfl, fun _ => rfl⟩
  | @cons row row' more more' hrow _ ih =>
    obtain ⟨strings, -, rfl⟩ := hrow
    obtain ⟨hbytes, hpointers, hcells⟩ := ih
    refine ⟨?_, ?_, ?_⟩
    · rw [List.flatMap_cons, List.flatMap_cons, hbytes]
      rfl
    · rw [List.flatMap_cons, List.flatMap_cons, hpointers]
      rfl
    · intro offset
      rw [rowCells, rowCells, hcells]
      rfl

theorem refilled_count {rows rows' : List Row} (h : List.Forall₂ Row.Refilled rows rows')
    (hcount : ∀ row ∈ rows, row.strings.length = row.pointers.length) :
    ∀ row ∈ rows', row.strings.length = row.pointers.length := by
  induction h with
  | nil => simp
  | @cons row row' more more' hrow _ ih =>
    rw [List.forall_mem_cons] at hcount ⊢
    obtain ⟨strings, hlength, rfl⟩ := hrow
    exact ⟨hlength.trans hcount.1, ih hcount.2⟩

private theorem exists_segments {cs : Charset} {rows : List Row} (h : ∀ row ∈ rows, ∀ t ∈ row.strings, cs.Keeps t) :
    ∃ segments, List.Forall₂ (fun s segment => cs.encode s.content = .ok segment.content ∧ Reads cs s segment)
      (stringsOf rows) segments := by
  have hall : ∀ s ∈ stringsOf rows, cs.Keeps s.content := by
    intro s hs
    obtain ⟨row, hrow, hs⟩ := List.mem_flatMap.mp hs
    apply h row hrow
    rw [← map_content_poolStrings row.name row.strings]
    exact List.mem_map_of_mem hs
  generalize stringsOf rows = strings at hall ⊢
  induction strings with
  | nil => exact ⟨[], .nil⟩
  | cons s more ih =>
    rw [List.forall_mem_cons] at hall
    obtain ⟨segments, hsegments⟩ := ih hall.2
    obtain ⟨bytes, hencode, hdecode⟩ := hall.1.read_eq
    have hzero := Charset.zero_notMem_of_decode? hdecode hall.1.noNull
    exact ⟨⟨bytes, s.suffix⟩ :: segments, .cons ⟨hencode, hdecode, hzero, rfl⟩ hsegments⟩

private theorem parts_of_segments {cs : Charset} {rows : List Row} {segments : List PoolSegment}
    (h : List.Forall₂ (fun s segment => cs.encode s.content = .ok segment.content ∧ Reads cs s segment)
      (stringsOf rows) segments) (hwritable : ∀ row ∈ rows, row.Writable) :
    List.Forall₂ (fun s part => PoolString.part? (.plain cs) s = some part) (stringsOf rows)
      (PoolSegment.parts segments) := by
  have hall : ∀ s ∈ stringsOf rows, '«' ∉ s.content ∧ '»' ∉ s.content := by
    intro s hs
    obtain ⟨row, hrow, hs⟩ := List.mem_flatMap.mp hs
    apply (hwritable row hrow).noGuillemet
    rw [← map_content_poolStrings row.name row.strings]
    exact List.mem_map_of_mem hs
  rw [PoolSegment.parts, List.forall₂_map_right_iff]
  generalize stringsOf rows = strings at h hall ⊢
  induction h with
  | nil => exact .nil
  | @cons s segment strings segments hs _ ih =>
    rw [List.forall_mem_cons] at hall
    refine .cons ?_ (ih hall.2)
    rw [part?_plain hall.1 hs.1, ← hs.2.2.2]
    rfl

/-- The bytes of a script in front of its pool do not change outside the cells when pointers and strings do. -/
private theorem agreesOutside_script {inRecords : Bool} {content gap rest rest' : Bytes} {rows rows' : List Row}
    (hrows : List.Forall₂ Row.Alike rows rows') (hfit : rowsFit inRecords (content.length + 1) rows)
    (hlength : (rows.flatMap (Row.bytes inRecords)).length = rowsLength rows) {i : Nat}
    (hi : i < content.length + 1 + rowsLength rows + gap.length)
    (hcells : ∀ cell ∈ rowCells inRecords (content.length + 1) rows, i ≠ cell ∧ i ≠ cell + 1) :
    (UInt8.ofNat (content.length + 1) :: (content ++ (rows'.flatMap (Row.bytes inRecords) ++ (gap ++ rest'))))[i]? =
      (UInt8.ofNat (content.length + 1) :: (content ++ (rows.flatMap (Row.bytes inRecords) ++ (gap ++ rest))))[i]? := by
  let head := UInt8.ofNat (content.length + 1) :: content
  have hhead : 0 + head.length = content.length + 1 := by simp [head]
  have hagrees : AgreesOutside ([] ++ (rowCells inRecords (content.length + 1) rows ++ [])) 0
      (head ++ (rows.flatMap (Row.bytes inRecords) ++ gap)) (head ++ (rows'.flatMap (Row.bytes inRecords) ++ gap)) := by
    apply AgreesOutside.append (.refl ..)
    rw [hhead]
    exact AgreesOutside.append (agreesOutside_rows hrows hfit) (.refl ..)
  have hfront : i < (head ++ (rows.flatMap (Row.bytes inRecords) ++ gap)).length := by
    rw [List.length_append, List.length_append, hlength]
    omega
  have hsplit : ∀ (rows : List Row) (rest : Bytes),
      UInt8.ofNat (content.length + 1) :: (content ++ (rows.flatMap (Row.bytes inRecords) ++ (gap ++ rest))) =
        (head ++ (rows.flatMap (Row.bytes inRecords) ++ gap)) ++ rest := by
    intro rows rest
    simp [head]
  rw [hsplit, hsplit, List.getElem?_append_left hfront, List.getElem?_append_left (by rwa [hagrees.1])]
  apply hagrees.2
  simpa using hcells

/-- What a script consists of when its pool is taken as it is. -/
theorem dissect_padding {r : Reading} {row : Row} {w : Walked} (hwalks : r.Walks row w) :
    ∃ content gap rest t, row = headerRow content ∧ content.length < 255 ∧
      Body (isRecordFile r.name) (content.length + 1) w.rows ∧ r.ResolvesAll w.rows ∧
      w.stop = content.length + 1 + rowsLength w.rows ∧ r.padding w = paddingRows gap ∧ r.trailer w = Row.trailer t ∧
      r.bytes = UInt8.ofNat (content.length + 1) ::
        (content ++ (w.rows.flatMap (Row.bytes (isRecordFile r.name)) ++ (gap ++ rest))) ∧
      t.length ≤ r.bytes.length ∧ (w.pool.reached w.stop = true → gap = [] ∧ w.rows.flatMap Row.pointers ≠ []) ∧
      (w.rows.flatMap Row.pointers = [] → gap = []) ∧
      (EndsSafely (isRecordFile r.name) w ∨ w.pool.lowest? = some (w.stop + 1) ∨
        ∀ pool, (w.rows.flatMap Row.pointers = [] → pool = []) → Stalls (gap ++ (pool ++ t))) := by
  obtain ⟨content, tail, hrow, hcontent, hbody, hresolves, hstop, hpool, hbytes⟩ := hwalks.dissect
  have htail : r.bytes.drop w.stop = tail := by
    have hlength : (UInt8.ofNat (content.length + 1) :: (content ++
        w.rows.flatMap (Row.bytes (isRecordFile r.name)))).length = w.stop := by
      rw [hstop, List.length_cons, List.length_append, hbody.length_bytes]
      omega
    rw [hbytes, ← List.append_assoc, ← List.cons_append, List.drop_left' hlength]
  obtain ⟨gap, rest, hpadding, rfl, hreached, hnil, hgap⟩ := padding_of_walk hresolves hpool htail
  refine ⟨content, gap, rest, r.bytes.drop (max w.stop w.pool.stop), hrow, hcontent, hbody, hresolves, hstop, hpadding,
    rfl, hbytes, (List.drop_sublist _ _).length_le, ?_, hnil, ?_⟩
  · intro h
    refine ⟨hreached h, fun hnone => ?_⟩
    rw [hpool, hnone] at h
    cases h
  · by_cases hends : EndsSafely (isRecordFile r.name) w
    · exact Or.inl hends
    · refine Or.inr (or_iff_not_imp_left.mpr fun hlowest pool hnone => ?_)
      have hstalls := hwalks.ends.resolve_left hends
      rw [htail] at hstalls
      refine stalls_of_walk hpool htail hgap hstalls ?_ hlowest fun hpointers => ⟨hnil hpointers, hnone hpointers⟩
      exact Bool.eq_false_iff.mpr fun hreached => hends (Or.inr (Or.inr hreached))

theorem stringsOf_alike {rows rows' : List Row}
    (h : List.Forall₂ (fun row row' => row.Alike row' ∧ row'.strings = row.strings) rows rows') :
    stringsOf rows' = stringsOf rows := by
  induction h with
  | nil => rfl
  | cons hrow _ ih =>
    rw [stringsOf] at ih ⊢
    rw [List.flatMap_cons, hrow.1.name_eq, hrow.2, ih]
    rfl

theorem count_alike {rows rows' : List Row}
    (h : List.Forall₂ (fun row row' => row.Alike row' ∧ row'.strings = row.strings) rows rows')
    (hcount : ∀ row ∈ rows, row.strings.length = row.pointers.length) :
    ∀ row ∈ rows', row.strings.length = row.pointers.length := by
  intro row' hrow'
  obtain ⟨row, hrow, halike, hstrings⟩ := exists_of_forall₂ h hrow'
  rw [hstrings, hcount row hrow, Row.pointers, Row.pointers, Operand.length_pointers_alike halike.operands]

theorem writable_alike {rows rows' : List Row}
    (h : List.Forall₂ (fun row row' => row.Alike row' ∧ row'.strings = row.strings) rows rows')
    (hwritable : ∀ row ∈ rows, row.Writable) : ∀ row ∈ rows', row.Writable := by
  intro row' hrow'
  obtain ⟨row, hrow, -, hstrings⟩ := exists_of_forall₂ h hrow'
  obtain ⟨hnoFeed, hnoGuillemet, hinner, hlast⟩ := hwritable row hrow
  rw [← hstrings] at hnoFeed hnoGuillemet hinner hlast
  exact ⟨hnoFeed, hnoGuillemet, hinner, hlast⟩

private theorem alike_raw (name : Text) (length : Nat) (content : Bytes) :
    (Row.raw name length content).Alike (Row.raw name length content) := by
  refine ⟨rfl, rfl, rfl, alike_self ?_⟩
  rw [show (Row.raw name length content).operands.filterMap Operand.pointer? = [] from Row.pointers_raw ..]
  simp

theorem scriptRows_alike {content gap t : Bytes} {rows rows' : List Row}
    (h : List.Forall₂ (fun row row' => row.Alike row' ∧ row'.strings = row.strings) rows rows') :
    showRows (scriptRows content rows' gap t) = showRows (scriptRows content rows gap t) := by
  apply showRows_alike
  rw [scriptRows, scriptRows]
  refine .cons ⟨alike_raw .., rfl⟩ (List.rel_append h (List.rel_append ?_ (.cons ⟨alike_raw .., rfl⟩ .nil)))
  rw [paddingRows]
  split_ifs
  · exact .nil
  · exact .cons ⟨alike_raw .., rfl⟩ .nil

/-- Rows that assemble give the bytes of a script with the same rows, whose pointers lead to where the pool puts the strings. -/
theorem exists_of_assemble_scriptRows {name : String} {ts : Typesetter} {content gap t out : Bytes} {body : List Row}
    (hcontent : content.length < 255) (hbody : Body (isRecordFile name) (content.length + 1) body)
    (hcount : ∀ row ∈ body, row.strings.length = row.pointers.length) (hwritable : ∀ row ∈ body, row.Writable)
    (hgap : gap.length < Text.numberBound) (ht : t.length < Text.numberBound)
    (h : (assemble name (showRows (scriptRows content body gap t)) ts).1 = .ok out) :
    ∃ rows parts, List.Forall₂ (fun row row' => row.Alike row' ∧ row'.strings = row.strings) body rows ∧
      List.Forall₂ (fun s part => PoolString.part? ts s = some part) (stringsOf rows) parts ∧
      rows.flatMap Row.pointers = poolOffsets (content.length + 1 + rowsLength rows + gap.length) parts ∧
      out = scriptBytes (isRecordFile name) content rows gap parts.flatten t := by
  obtain ⟨parts, hparts, hstarts⟩ := exists_parts_of_assemble hcontent hbody hcount hwritable hgap ht h
  have hlength : (poolOffsets (content.length + 1 + rowsLength body + gap.length) parts).length =
      (body.flatMap Row.pointers).length := by
    rw [length_poolOffsets, ← hparts.length_eq, length_stringsOf hcount]
  obtain ⟨rows, halike, hpointers⟩ := exists_rows_alike body hlength hstarts
  have halike' := halike.imp fun _ _ hrow => hrow.1
  rw [← rowsLength_alike halike'] at hpointers
  rw [← stringsOf_alike halike] at hparts
  have hassemble := assemble_scriptRows hcontent (body_alike halike' hbody) (count_alike halike hcount)
    (writable_alike halike hwritable) hgap ht hparts hpointers
  rw [scriptRows_alike halike, h] at hassemble
  exact ⟨rows, parts, halike, hparts, hpointers, Except.ok.inj hassemble⟩

end Reading

/-- Replacing the strings of a dump changes the assembled script only in its string cells, its pool and its trailer's
place, and the edited dump comes back when that script is disassembled. -/
theorem disassemble_refilled {name : String} {bytes : Bytes} {preferred : Charset} {dump : Disassembly} {row : Row}
    {w : Reading.Walked} {rows : List Row} (h : (disassemble name bytes preferred).1 = .ok dump)
    (hwalks : Reading.Walks ⟨name, bytes, dump.charset⟩ row w)
    (hends : Reading.EndsSafely (isRecordFile name) w) (hrefilled : List.Forall₂ Row.Refilled w.rows rows)
    (hwritable : ∀ row ∈ rows, row.Writable) (hkeeps : ∀ row ∈ rows, ∀ t ∈ row.strings, dump.charset.Keeps t)
    (hreach : ∀ parts, List.Forall₂ (fun s part => PoolString.part? (.plain dump.charset) s = some part)
        (Reading.stringsOf rows) parts →
      ∀ start ∈ poolOffsets (w.stop + rowsLength (Reading.padding ⟨name, bytes, dump.charset⟩ w)) parts,
        start ≤ lastOffset)
    (hlength : bytes.length < Text.numberBound) :
    let r : Reading := ⟨name, bytes, dump.charset⟩
    let edited (rows : List Row) : Text := showRows (row :: (rows ++ (r.padding w ++ [r.trailer w])))
    dump.text = edited w.rows ∧
      ∃ bytes', (assemble name (edited rows) (.plain dump.charset)).1 = .ok bytes' ∧
        (∀ i < w.stop + rowsLength (r.padding w),
          (∀ cell ∈ Reading.rowCells (isRecordFile name) row.length w.rows, i ≠ cell ∧ i ≠ cell + 1) →
            bytes'[i]? = bytes[i]?) ∧
        (disassemble name bytes' dump.charset).1 = .ok ⟨edited rows, dump.charset⟩ := by
  intro r edited
  obtain ⟨all, hall, htext⟩ := rows_of_disassemble h
  obtain ⟨row', w', hwalks', rfl⟩ := Reading.rows_eq_ok.mp hall
  obtain ⟨rfl, rfl⟩ := hwalks.unique hwalks'
  refine ⟨htext, ?_⟩
  obtain ⟨content, gap, rest, t, rfl, hcontent, hbody, hresolves, hstop, hpadding, htrailer, hbytes, ht, hreached,
    hnone, -⟩ := Reading.dissect_padding hwalks
  have hgapLength : rowsLength (r.padding w) = gap.length := by
    rw [hpadding, Reading.rowsLength_paddingRows]
  have hlengths : gap.length ≤ bytes.length := by
    have hlengths := congrArg List.length hbytes
    simp only [List.length_cons, List.length_append] at hlengths
    omega
  have ht' : t.length ≤ bytes.length := ht
  obtain ⟨hbytesEq, hpointersEq, hcellsEq⟩ := Reading.refilled_eq hrefilled (isRecordFile name)
  have halike := Reading.refilled_alike hrefilled hbody.words.1
  have hbody' := Reading.body_alike halike hbody
  have hcount := Reading.refilled_count hrefilled hresolves.count
  obtain ⟨segments, hsegments⟩ := Reading.exists_segments hkeeps
  have hsegmentsLength : segments.length = (w.rows.flatMap Row.pointers).length := by
    rw [← hpointersEq, Reading.length_stringsOf hcount, hsegments.length_eq]
  have hsegmentsNil : segments = [] ↔ w.rows.flatMap Row.pointers = [] := by
    rw [← List.length_eq_zero_iff, hsegmentsLength, List.length_eq_zero_iff]
  have hparts := Reading.parts_of_segments hsegments hwritable
  have hstarts := hreach _ hparts
  rw [hgapLength, hstop] at hstarts
  have hoffsets : (poolOffsets (content.length + 1 + rowsLength w.rows + gap.length)
      (PoolSegment.parts segments)).length = (rows.flatMap Row.pointers).length := by
    rw [length_poolOffsets, PoolSegment.parts, List.length_map, hsegmentsLength, hpointersEq]
  obtain ⟨rows', hrows, hpointers⟩ := Reading.exists_rows_alike rows hoffsets hstarts
  have halike' := hrows.imp fun _ _ hrow => hrow.1
  have hrowsLength : rowsLength rows' = rowsLength w.rows := by
    rw [Reading.rowsLength_alike halike', Reading.rowsLength_alike halike]
  have hbody'' := Reading.body_alike halike' hbody'
  have hcount' := Reading.count_alike hrows hcount
  rw [← hrowsLength] at hpointers
  rw [← Reading.stringsOf_alike hrows] at hparts hsegments
  have hedited : edited rows = showRows (Reading.scriptRows content rows' gap t) := by
    rw [Reading.scriptRows_alike hrows, Reading.scriptRows, ← hpadding, ← htrailer]
  have hassemble := Reading.assemble_scriptRows (t := t) hcontent hbody'' hcount'
    (Reading.writable_alike hrows hwritable) (by omega) (by omega) hparts hpointers
  have hends' : isRecordFile name = true ∨ (∃ row ∈ rows'.getLast?, row.name = Opcode.ret2Name) ∨
      (gap = [] ∧ segments ≠ []) ∨ Reading.Stalls (gap ++ ((PoolSegment.parts segments).flatten ++ t)) := by
    rcases hends with hrecords | ⟨row, hlast, hname⟩ | hreached'
    · exact Or.inl hrecords
    · obtain ⟨row₁, hlast₁, hrow₁⟩ := Reading.forall₂_getLast? halike.flip hlast
      obtain ⟨row₂, hlast₂, hrow₂⟩ := Reading.forall₂_getLast? halike'.flip hlast₁
      refine Or.inr (Or.inl ⟨row₂, hlast₂, ?_⟩)
      rw [hrow₂.name_eq, hrow₁.name_eq, hname]
    · obtain ⟨hgap, hne⟩ := hreached hreached'
      exact Or.inr (Or.inr (Or.inl ⟨hgap, fun hnil => hne (hsegmentsNil.mp hnil)⟩))
  have hread := Reading.rows_scriptBytes (t := t) hcontent hbody'' hcount' hpointers
    (hsegments.imp fun _ _ hs => hs.2) (fun hnil => hnone (hsegmentsNil.mp hnil)) hends'
  refine ⟨_, hedited ▸ hassemble, ?_, ?_⟩
  · intro i hi hcells
    have hfit := hbody'.rowsFit hcount fun row hrow => (hwritable row hrow).inner_noSign
    have hrowsBytes := hbody'.length_bytes
    rw [hgapLength, hstop] at hi
    rw [show bytes = _ from hbytes, ← hbytesEq]
    apply Reading.agreesOutside_script halike' hfit hrowsBytes
    · rwa [Reading.rowsLength_alike halike]
    · rw [hcellsEq]
      simpa [Reading.headerRow, Row.raw] using hcells
  · rw [disassemble, dumpIn, hread, hedited]
    rfl

/-- A message that becomes longer. -/
theorem disassemble_refilled_message :
    let bytes : Bytes := [1, 0x18, 8, 0, 0, 0, 0, 11, 0, 0x0D, 2, 0x48, 0x69, 0, 0xFF]
    let dump : Disassembly :=
      ⟨"header.1\nmessage.8 00-00-00-00-S @Hi\nret2.2\ntrailer.1 FF".toList, .big5⟩
    let edited : Disassembly :=
      ⟨"header.1\nmessage.8 00-00-00-00-S @Hello\nret2.2\ntrailer.1 FF".toList, .big5⟩
    (disassemble "SC01" bytes .big5).1 = .ok dump ∧
      ∃ bytes', (assemble "SC01" edited.text (.plain .big5)).1 = .ok bytes' ∧
        (∀ i < 11, i ≠ 7 ∧ i ≠ 8 → bytes'[i]? = bytes[i]?) ∧ (disassemble "SC01" bytes' .big5).1 = .ok edited := by
  intro bytes dump edited
  let r : Reading := ⟨"SC01", bytes, .big5⟩
  let message (t : Text) : Row := ⟨some 1, "message".toList, 8, [.byte 0, .byte 0, .byte 0, .byte 0, .pointer 11], [t]⟩
  let ret2 : Row := ⟨some 9, "ret2".toList, 2, [], []⟩
  let w : Reading.Walked := ⟨[message "Hi".toList, ret2], 11, ⟨some 11, 14⟩⟩
  have h : (disassemble "SC01" bytes .big5).1 = .ok dump := by decide +kernel
  have hwalks : r.Walks (Reading.headerRow []) w := ⟨1, by decide +kernel, by decide +kernel⟩
  have hends : Reading.EndsSafely (isRecordFile "SC01") w := Or.inr (Or.inl ⟨ret2, rfl, rfl⟩)
  have hrefilled : List.Forall₂ Row.Refilled w.rows [message "Hello".toList, ret2] :=
    .cons ⟨["Hello".toList], rfl, rfl⟩ (.cons ⟨[], rfl, rfl⟩ .nil)
  have hwritable : ∀ row ∈ [message "Hello".toList, ret2], row.Writable := by
    rw [List.forall_mem_cons, List.forall_mem_singleton]
    exact ⟨⟨by decide, by decide, by decide, by decide⟩, ⟨by decide, by decide, by decide, by decide⟩⟩
  have hkeeps : ∀ row ∈ [message "Hello".toList, ret2], ∀ t ∈ row.strings, Charset.big5.Keeps t := by
    rw [List.forall_mem_cons, List.forall_mem_singleton, List.forall_mem_singleton]
    exact ⟨⟨⟨[0x48, 0x65, 0x6C, 0x6C, 0x6F], by decide +kernel, by decide +kernel⟩, by decide⟩, by simp [ret2]⟩
  have hpadding : rowsLength (r.padding w) = 0 := by decide +kernel
  have hstrings : Reading.stringsOf [message "Hello".toList, ret2] = [⟨"Hello".toList, []⟩] := by decide +kernel
  have hreach : ∀ parts, List.Forall₂ (fun s part => PoolString.part? (.plain .big5) s = some part)
      (Reading.stringsOf [message "Hello".toList, ret2]) parts →
      ∀ start ∈ poolOffsets (w.stop + rowsLength (r.padding w)) parts, start ≤ lastOffset := by
    intro parts hparts start hstart
    rw [hstrings] at hparts
    obtain ⟨part, rest, -, hnil, rfl⟩ := List.forall₂_cons_left_iff.mp hparts
    rw [List.forall₂_nil_left_iff] at hnil
    rw [hnil, hpadding, poolOffsets, poolOffsets, List.mem_singleton] at hstart
    rw [hstart]
    decide
  obtain ⟨-, bytes', hassemble, hsame, hread⟩ :=
    disassemble_refilled h hwalks hends hrefilled hwritable hkeeps hreach (by decide)
  have hedited : showRows (Reading.headerRow [] :: ([message "Hello".toList, ret2] ++ (r.padding w ++ [r.trailer w]))) =
      edited.text := by decide +kernel
  have hcells : Reading.rowCells (isRecordFile "SC01") (Reading.headerRow []).length w.rows = [7] := by decide +kernel
  refine ⟨h, bytes', ?_, ?_, ?_⟩
  · rw [← hedited]
    exact hassemble
  · intro i hi hne
    apply hsame i
    · rw [hpadding]
      exact hi
    · rw [hcells, List.forall_mem_singleton]
      exact hne
  · rw [hread, Except.ok.injEq, Disassembly.mk.injEq]
    exact ⟨hedited, rfl⟩

end SceneScript
