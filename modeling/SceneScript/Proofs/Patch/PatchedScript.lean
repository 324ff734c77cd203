import Mathlib
import SceneScript.Proofs.Patch.Reapplication
import SceneScript.Proofs.Script.Rereading
/-!
# Patched scripts

The script that a patched dump assembles to has an instruction for each one of the original, where it was and as long as it
was, with a jump in each slot. The blocks of the patches follow the instructions, and all strings stand behind the blocks.
-/
namespace SceneScript

/-! ## Lines of rows -/

section Lines

variable {row : Row} (hname : Row.isName row.name = true) (labelled : Nat → Bool)
include hname

theorem afterLabels_render : ∃ rest, afterLabels (row.render labelled) = row.name ++ '.' :: rest := by
  refine ⟨Text.decimal row.length ++ (showOperands labelled row.operands ++ showStrings row.strings), ?_⟩
  rw [Row.render, Row.showLabel]
  have hself : ∀ rest, afterLabels (row.name ++ '.' :: rest) = row.name ++ '.' :: rest :=
    fun rest => afterLabels_self (head?_name hname rest (by decide))
  cases row.start? with
  | none => exact hself _
  | some start =>
    dsimp only
    split_ifs
    · have hdefining : '&' :: (labelName start ++ [':', ' ']) = defining (labelName start) := rfl
      rw [hdefining, afterLabels_defining_append fun c hc => isLabelChar_of_mem_labelName hc, hself, trimStart_name hname]
    · exact hself _

theorem lineName?_afterLabels_render : lineName? (afterLabels (row.render labelled)) = some row.name := by
  obtain ⟨rest, hrest⟩ := afterLabels_render hname labelled
  rw [hrest, lineName?_name hname]

end Lines
/-! ## What a redirected instruction writes -/

namespace Reading

private theorem word16_mod (n : Nat) : Bytes.word16 (n % 65536) = Bytes.word16 n := by
  have hlow : UInt8.ofNat (n % 65536) = UInt8.ofNat n := by
    apply UInt8.toNat_inj.mp
    rw [UInt8.toNat_ofNat', UInt8.toNat_ofNat']
    omega
  have hhigh : UInt8.ofNat (n % 65536 / 256) = UInt8.ofNat (n / 256) := by
    apply UInt8.toNat_inj.mp
    rw [UInt8.toNat_ofNat', UInt8.toNat_ofNat']
    omega
  rw [Bytes.word16, Bytes.word16, hlow, hhigh]

/-- The operands of a row are written as operands of the same shape, wherever its strings and its labels stand. -/
private theorem exists_operands {cells : List Nat} {jump? : Option Nat} {position : Nat} {ops : List Operand}
    (hshape : Shape cells jump? position ops) (labelled : Nat → Bool) (labelAt : Text → Nat) {offsets : List Nat}
    (hlength : offsets.length = (ops.filterMap Operand.pointer?).length) (hreach : ∀ offset ∈ offsets, offset ≤ lastOffset)
    (strings : List Text) :
    ∃ ops', Shape cells jump? position ops' ∧ (ops = [] → ops' = []) ∧ ops'.filterMap Operand.pointer? = offsets ∧
      ∀ ops'', List.Forall₂ Operand.Alike ops' ops'' →
        Token.bytes labelAt (ops''.filterMap Operand.pointer?)
          (ops.flatMap (Operand.tokens labelled) ++ Row.stringTokens strings) = ops''.flatMap Operand.bytes := by
  induction ops generalizing position offsets with
  | nil =>
    rw [List.filterMap_nil, List.length_nil, List.length_eq_zero_iff] at hlength
    subst hlength
    refine ⟨[], trivial, fun _ => rfl, rfl, fun ops'' halike => ?_⟩
    cases halike
    exact Token.bytes_stringTokens ..
  | cons op more ih =>
    rw [List.flatMap_cons, List.append_assoc]
    cases op with
    | byte b =>
      obtain ⟨ops', hshape', hnil, hpointers, hbytes⟩ := ih hshape.2 hlength hreach
      refine ⟨.byte b :: ops', ⟨fun hne => hshape.1 fun h => hne (hnil h), hshape'⟩, fun h => absurd h (List.cons_ne_nil _ _),
        hpointers, fun ops'' halike => ?_⟩
      obtain ⟨_, ops'', rfl, hops, rfl⟩ := List.forall₂_cons_left_iff.mp halike
      rw [List.flatMap_cons, List.filterMap_cons_none (Operand.pointer?_byte b), ← hbytes ops'' hops]
      rfl
    | pointer target =>
      obtain ⟨hcell, hlt, hmore⟩ := hshape
      match offsets with
      | [] => cases hlength
      | offset :: offsets =>
        rw [List.forall_mem_cons] at hreach
        obtain ⟨ops', hshape', hnil, hpointers, hbytes⟩ := ih hmore (Nat.succ.inj hlength) hreach.2
        refine ⟨.pointer offset :: ops', ⟨hcell, Nat.lt_succ_of_le hreach.1, hshape'⟩, fun h => absurd h (List.cons_ne_nil _ _),
          by rw [List.filterMap_cons_some (Operand.pointer?_pointer offset), hpointers], fun ops'' halike => ?_⟩
        obtain ⟨op'', ops'', hop, hops, rfl⟩ := List.forall₂_cons_left_iff.mp halike
        cases op'' with
        | pointer target'' =>
          rw [List.flatMap_cons, List.filterMap_cons_some (Operand.pointer?_pointer target''), ← hbytes ops'' hops]
          rfl
        | byte | jump => cases hop
    | jump target =>
      obtain ⟨hcell, hjump, hlt, hmore⟩ := hshape
      obtain ⟨ops', hshape', hnil, hpointers, hbytes⟩ := ih hmore hlength hreach
      by_cases hlabelled : labelled target = true
      · refine ⟨.jump (labelAt (labelName target) % 65536) :: ops', ⟨hcell, hjump, Nat.mod_lt _ (by decide), hshape'⟩,
          fun h => absurd h (List.cons_ne_nil _ _), hpointers, fun ops'' halike => ?_⟩
        obtain ⟨_, ops'', rfl, hops, rfl⟩ := List.forall₂_cons_left_iff.mp halike
        rw [List.flatMap_cons, List.filterMap_cons_none (Operand.pointer?_jump _), ← hbytes ops'' hops, Operand.bytes,
          word16_mod, Operand.tokens, if_pos hlabelled]
        rfl
      · refine ⟨.jump target :: ops', ⟨hcell, hjump, hlt, hshape'⟩, fun h => absurd h (List.cons_ne_nil _ _), hpointers,
          fun ops'' halike => ?_⟩
        obtain ⟨_, ops'', rfl, hops, rfl⟩ := List.forall₂_cons_left_iff.mp halike
        rw [List.flatMap_cons, List.filterMap_cons_none (Operand.pointer?_jump _), ← hbytes ops'' hops, Operand.tokens,
          if_neg hlabelled, Token.bytes_map_byte]
        rfl

end Reading

/-- Whether a line is written as a row, wherever the pointers of the row lead. -/
structure Statement.WritesRow (labelAt : Text → Nat) (st : Statement) (row : Row) : Prop where
  strings_eq : st.strings = Row.poolStrings row.name row.strings
  bytes_eq : ∀ row', row.Alike row' → st.bytes labelAt row'.pointers = row'.bytes false

namespace Reading

/-- An instruction whose strings and labels stand elsewhere is written as an instruction of its length. -/
private theorem exists_kept {position : Nat} {row : Row} {opcode : UInt8} (hname : Opcode.name? opcode = some row.name)
    (hrow : InstructionAt position row) (hcount : row.strings.length = row.pointers.length) (labelled : Nat → Bool)
    (labelAt : Text → Nat) {offsets : List Nat} (hlength : offsets.length = row.strings.length)
    (hreach : ∀ offset ∈ offsets, offset ≤ lastOffset) :
    ∃ ops, let row' : Row := { row with operands := ops }
      InstructionAt position row' ∧ row'.pointers = offsets ∧ ∀ row'', row'.Alike row'' →
        [opcode, UInt8.ofNat row.length] ++ Token.bytes labelAt row''.pointers (row.tokens labelled) =
          row''.bytes false := by
  obtain ⟨opcode', hname', hstart, hsize, hsize', hshape, hbytes⟩ := hrow
  obtain ⟨ops, hshape', -, hpointers, hwritten⟩ :=
    exists_operands hshape labelled labelAt (hlength.trans hcount) hreach row.strings
  have hlengths : (ops.flatMap Operand.bytes).length = row.length - 2 := by
    rw [← hwritten ops (alike_self (hpointers.symm ▸ hreach)), Token.length_bytes, List.map_append, List.sum_append,
      Row.size_operands, Row.size_stringTokens, Nat.add_zero, hbytes]
  refine ⟨ops, ⟨opcode', hname', hstart, hsize, hsize', hshape', hlengths⟩, hpointers, fun row'' halike => ?_⟩
  have hname'' : Opcode.name? opcode = some row''.name := by rw [halike.name_eq, hname]
  rw [bytes_instruction hname'', halike.length_eq, Row.tokens, Row.pointers,
    hwritten row''.operands halike.operands]
  rfl

private theorem shape_replicate {position : Nat} {jump? : Option Nat} (h : ∀ n, position ≤ n → jump? ≠ some n)
    (count : Nat) : Shape [] jump? position (List.replicate count (.byte 0)) := by
  induction count generalizing position with
  | zero => trivial
  | succ count ih =>
    exact ⟨fun _ => ⟨List.not_mem_nil, h position (Nat.le_refl _)⟩, ih fun n hn => h n (Nat.le_of_succ_le hn)⟩

private theorem flatMap_bytes_replicate (count : Nat) :
    (List.replicate count (Operand.byte 0)).flatMap Operand.bytes = List.replicate count 0 := by
  simp [List.flatMap_replicate, Operand.bytes]

private theorem pointer?_of_mem_replicate {count : Nat} {op : Operand} (h : op ∈ List.replicate count (.byte 0)) :
    op.pointer? = none := by
  rw [List.eq_of_mem_replicate h]
  rfl

/-- A row without pointers is the only one like it. -/
private theorem operands_eq_of_alike {row row' : Row} (h : row.Alike row') (hops : ∀ op ∈ row.operands, op.pointer? = none) :
    row'.operands = row.operands := by
  have hsame : List.Forall₂ (· = ·) row.operands row'.operands := by
    refine forall₂_imp_mem h.operands fun op hop op' hlike => ?_
    cases op with
    | pointer target => exact absurd (hops _ hop) (Option.some_ne_none target)
    | byte | jump => exact hlike
  rw [List.forall₂_eq_eq_eq] at hsame
  exact hsame.symm

/-- What an instruction that patches may have redirected becomes: an instruction in its place and of its length that the
line writes, the same one if it is too short for a slot. -/
structure Redirection (position : Nat) (row : Row) (labelAt : Text → Nat) (st : Statement) (offsets : List Nat) (row' : Row) :
    Prop where
  instruction : InstructionAt position row'
  length_eq : row'.length = row.length
  pointers_eq : row'.pointers = offsets
  writes : st.WritesRow labelAt row'
  ends : row'.name = Opcode.ret2Name → row.name = Opcode.ret2Name
  kept : row.length < minSlotLength → row'.name = row.name
  name_eq : ∀ c, st.content? = some c → row'.name = c.name
  subset : st.strings ⊆ Row.poolStrings row.name row.strings

/-- What patches put into a slot has no strings and no pointers. -/
private theorem exists_filled {row : Row} {st : Statement} {c : Content} {opcode : UInt8} {ops : List Operand}
    {labelAt : Text → Nat} (hc : st.content? = some c) (hkind : c.kind = .instruction opcode)
    (hname : Opcode.name? opcode = some c.name) (hret2 : c.name ≠ Opcode.ret2Name) (hlong : minSlotLength ≤ row.length)
    (hshort : row.length ≤ 255) (hshape : Shape (cellsOf opcode row.length) (jumpOf opcode) 0 ops)
    (hlength : (ops.flatMap Operand.bytes).length = row.length - 2) (hops : ∀ op ∈ ops, op.pointer? = none)
    (hbytes : c.bytes labelAt [] = [opcode, UInt8.ofNat row.length] ++ ops.flatMap Operand.bytes)
    (hstrings : c.strings = []) (position : Nat) :
    st.strings = [] ∧ ∃ row', Redirection position row labelAt st [] row' := by
  have hwritten : st.written? = some c := Statement.written?_eq hc (by simp [hkind])
  have hnone : st.strings = [] := by
    rw [Statement.strings, hwritten]
    exact hstrings
  have hpointers : ops.filterMap Operand.pointer? = [] := List.filterMap_eq_nil_iff.mpr hops
  refine ⟨hnone, ⟨some position, c.name, row.length, ops, []⟩, ?_⟩
  constructor
  case instruction => exact ⟨opcode, hname, rfl, Nat.le_trans (by decide) hlong, hshort, hshape, hlength⟩
  case length_eq => rfl
  case pointers_eq => exact hpointers
  case writes =>
    refine ⟨hnone, fun row' halike => ?_⟩
    have hsameOps := operands_eq_of_alike halike hops
    have hname' : Opcode.name? opcode = some row'.name := by rw [halike.name_eq, hname]
    rw [bytes_instruction hname', halike.length_eq, hsameOps, Row.pointers,
      hsameOps, hpointers, Statement.bytes, hwritten]
    exact hbytes
  case ends => exact fun h => absurd h hret2
  case kept => exact fun h => absurd hlong (Nat.not_le_of_lt h)
  case name_eq =>
    intro c' hc'
    obtain rfl := Option.some.inj (hc.symm.trans hc')
    rfl
  case subset =>
    rw [hnone]
    exact List.nil_subset _

private theorem exists_jumped {row : Row} {st : Statement} {label : Text} (hlong : minSlotLength ≤ row.length)
    (hshort : row.length ≤ 255) (h : st.content? = some (jumpContent label row.length)) (labelAt : Text → Nat)
    (position : Nat) : st.strings = [] ∧ ∃ row', Redirection position row labelAt st [] row' := by
  let ops : List Operand := .jump (labelAt label % 65536) :: List.replicate (row.length - 4) (.byte 0)
  have hname : Opcode.name? Opcode.loopCond = some Opcode.loopCondName := by decide
  have hfour : 4 ≤ row.length := Nat.le_trans (by decide) hlong
  have hshape : Shape [] (some 0) 0 ops := by
    refine ⟨List.not_mem_nil, rfl, Nat.mod_lt _ (by decide), shape_replicate (fun n hn heq => ?_) _⟩
    obtain rfl := Option.some.inj heq
    omega
  have hlength : (ops.flatMap Operand.bytes).length = row.length - 2 := by
    rw [List.flatMap_cons, List.length_append, flatMap_bytes_replicate, List.length_replicate]
    change 2 + (row.length - 4) = row.length - 2
    omega
  have hops : ∀ op ∈ ops, op.pointer? = none := by
    rw [List.forall_mem_cons]
    exact ⟨rfl, fun op => pointer?_of_mem_replicate⟩
  have hret2 : Opcode.loopCondName ≠ Opcode.ret2Name := by decide
  refine exists_filled h rfl hname hret2 hlong hshort hshape hlength hops ?_ (strings_jumpContent label _) position
  rw [bytes_jumpContent, List.flatMap_cons, flatMap_bytes_replicate, Operand.bytes, word16_mod]

private theorem exists_erased {row : Row} {st : Statement} (hlong : minSlotLength ≤ row.length)
    (hshort : row.length ≤ 255) (h : st.content? = some (nopContent row.length)) (labelAt : Text → Nat) (position : Nat) :
    st.strings = [] ∧ ∃ row', Redirection position row labelAt st [] row' := by
  let ops : List Operand := List.replicate (row.length - 2) (.byte 0)
  have hname : Opcode.name? 0 = some Opcode.nopName := by decide
  have hlength : (ops.flatMap Operand.bytes).length = row.length - 2 := by
    rw [flatMap_bytes_replicate, List.length_replicate]
  have hret2 : Opcode.nopName ≠ Opcode.ret2Name := by decide
  refine exists_filled h rfl hname hret2 hlong hshort (shape_replicate (by simp [jumpOf, Opcode.loopCond]) _)
    hlength (fun op => pointer?_of_mem_replicate) ?_ (strings_nopContent _) position
  rw [bytes_nopContent, flatMap_bytes_replicate]

/-- The step: what a line writes that patches may have redirected is an instruction of the length of the original. -/
private theorem exists_instruction {position : Nat} {row : Row} (hrow : InstructionAt position row)
    (hcount : row.strings.length = row.pointers.length) {labelled : Nat → Bool} {st : Statement}
    (hst : (row.statement labelled (row.kind false)).Redirected st) (labelAt : Text → Nat) {offsets : List Nat}
    (hlength : offsets.length = st.strings.length) (hreach : ∀ offset ∈ offsets, offset ≤ lastOffset) :
    ∃ row', Redirection position row labelAt st offsets row' := by
  obtain ⟨opcode, hname, -, -, hshort, -⟩ := id hrow
  have hkind : row.kind false = .instruction opcode := by
    rw [Row.kind, kind_of_name? hname]
    rfl
  have hne : row.kind false ≠ .trailer := by simp [hkind]
  -- A line without strings takes no offsets.
  have hfilled (h : st.strings = [] ∧ ∃ row', Redirection position row labelAt st [] row') :
      ∃ row', Redirection position row labelAt st offsets row' := by
    rw [h.1, List.length_nil, List.length_eq_zero_iff] at hlength
    rw [hlength]
    exact h.2
  cases hst with
  | kept hkept =>
    have hwritten : st.written? = (row.statement labelled (row.kind false)).written? := by
      rw [Statement.written?, Statement.written?, hkept]
    have hstrings : st.strings = Row.poolStrings row.name row.strings := by
      have hsame : (row.statement labelled (row.kind false)).strings = _ := Row.strings_statement hne
      rw [← hsame, Statement.strings, Statement.strings, hwritten]
    rw [hstrings, Row.length_poolStrings] at hlength
    obtain ⟨ops, hrow', hpointers, hbytes⟩ := exists_kept hname hrow hcount labelled labelAt hlength hreach
    refine ⟨_, hrow', rfl, hpointers, ⟨hstrings, fun row'' halike => ?_⟩, id, fun _ => rfl, ?_,
      hstrings ▸ List.Subset.refl _⟩
    · rw [← hbytes row'' halike, Statement.bytes, hwritten, Row.written?_statement hne, hkind]
      rfl
    · intro c hc
      obtain rfl := Option.some.inj (hkept.symm.trans hc)
      rfl
  | @jumped c opcode label hc hinstruction hlong hjumped =>
    obtain rfl := Option.some.inj hc
    exact hfilled (exists_jumped hlong hshort hjumped labelAt position)
  | @erased c opcode hc hinstruction hlong herased =>
    obtain rfl := Option.some.inj hc
    exact hfilled (exists_erased hlong hshort herased labelAt position)

/-- What the instructions of a script that patches may have redirected become, and the lines write. -/
structure Redirections (position : Nat) (rows : List Row) (sts : Listing) (offsets : List Nat) (out : Bytes) (rows' : List Row) :
    Prop where
  instructions : Instructions position rows'
  count : ∀ row ∈ rows', row.strings.length = row.pointers.length
  pointers_eq : rows'.flatMap Row.pointers = offsets
  strings_eq : sts.strings = stringsOf rows'
  out_eq : out = rows'.flatMap (Row.bytes false)
  writes : ∀ rows'', List.Forall₂ Row.Alike rows' rows'' →
    sts.Writes (rows''.flatMap Row.pointers) (rows''.flatMap (Row.bytes false))
  kept : List.Forall₂ (fun row row' => row.length < minSlotLength → row'.name = row.name) rows rows'
  name_eq : List.Forall₂ (fun st row' => ∀ c, st.content? = some c → row'.name = c.name) sts rows'
  subset : sts.strings ⊆ stringsOf rows

private theorem Redirections.nil (position : Nat) : Redirections position [] [] [] [] [] where
  instructions := trivial
  count := List.forall_mem_nil _
  pointers_eq := rfl
  strings_eq := rfl
  out_eq := rfl
  writes := by
    intro rows'' halike
    cases halike
    exact .nil _
  kept := .nil
  name_eq := .nil
  subset := List.nil_subset _

private theorem Redirections.cons {position : Nat} {row row' : Row} {labelAt : Text → Nat} {st : Statement}
    {offsets moreOffsets : List Nat} {more rows' : List Row} {sts : Listing} {out : Bytes}
    (h : Redirection position row labelAt st offsets row') (hlength : offsets.length = st.strings.length)
    (hreach : ∀ offset ∈ offsets, offset ≤ lastOffset) (hret2 : row.name = Opcode.ret2Name → more = [])
    (hmore : Redirections (position + row.length) more sts moreOffsets out rows') :
    Redirections position (row :: more) (st :: sts) (offsets ++ moreOffsets) (st.bytes labelAt offsets ++ out)
      (row' :: rows') where
  instructions := by
    refine ⟨h.instruction, fun hends => ?_, h.length_eq ▸ hmore.instructions⟩
    have hkept := hmore.kept
    rw [hret2 (h.ends hends)] at hkept
    exact List.forall₂_nil_left_iff.mp hkept
  count := by
    rw [List.forall_mem_cons, h.pointers_eq, hlength, h.writes.strings_eq, Row.length_poolStrings]
    exact ⟨rfl, hmore.count⟩
  pointers_eq := by rw [List.flatMap_cons, h.pointers_eq, hmore.pointers_eq]
  strings_eq := by
    rw [Listing.strings_cons, h.writes.strings_eq, hmore.strings_eq]
    rfl
  out_eq := by
    have hown : ∀ offset ∈ row'.pointers, offset ≤ lastOffset := h.pointers_eq.symm ▸ hreach
    have hself : row'.Alike row' := ⟨rfl, rfl, rfl, alike_self hown⟩
    rw [List.flatMap_cons, ← h.writes.bytes_eq row' hself, h.pointers_eq, hmore.out_eq]
  writes := by
    intro rows'' halike
    obtain ⟨row'', rows'', hrow'', hrows'', rfl⟩ := List.forall₂_cons_left_iff.mp halike
    have hlength'' : row''.pointers.length = st.strings.length := by
      rw [← hlength, ← h.pointers_eq]
      exact Operand.length_pointers_alike hrow''.operands
    rw [List.flatMap_cons, List.flatMap_cons, ← h.writes.bytes_eq row'' hrow'']
    exact Listing.writes_cons hlength'' labelAt (hmore.writes rows'' hrows'')
  kept := .cons h.kept hmore.kept
  name_eq := .cons h.name_eq hmore.name_eq
  subset := by
    rw [Listing.strings_cons, stringsOf, List.flatMap_cons]
    exact List.append_subset.mpr ⟨fun s hs => List.mem_append_left _ (h.subset hs),
      fun s hs => List.mem_append_right _ (hmore.subset hs)⟩

/-- The run: what the lines of a script write that patches may have redirected are instructions that stand where the
original ones stood. -/
private theorem exists_instructions {position : Nat} {rows : List Row} (hrows : Instructions position rows)
    (hcount : ∀ row ∈ rows, row.strings.length = row.pointers.length) {labelled : Nat → Bool} {sts : Listing}
    (hsts : List.Forall₂ Statement.Redirected (rowListing false labelled rows) sts) {offsets : List Nat} {out : Bytes}
    (hwrites : sts.Writes offsets out) (hlength : offsets.length = sts.strings.length)
    (hreach : ∀ offset ∈ offsets, offset ≤ lastOffset) : ∃ rows', Redirections position rows sts offsets out rows' := by
  induction rows generalizing position sts offsets out with
  | nil =>
    cases hsts
    cases hwrites
    rw [Listing.strings_nil, List.length_nil, List.length_eq_zero_iff] at hlength
    rw [hlength]
    exact ⟨[], .nil position⟩
  | cons row more ih =>
    obtain ⟨hrow, hret2, hmore⟩ := hrows
    rw [List.forall_mem_cons] at hcount
    rw [rowListing, List.map_cons] at hsts
    cases hsts with
    | @cons _ st _ sts hst hsts =>
      cases hwrites with
      | cons labelAt hwrites =>
        rw [Listing.strings_cons, List.length_append] at hlength
        have htake : (offsets.take st.strings.length).length = st.strings.length := by
          rw [List.length_take]
          omega
        have hdrop : (offsets.drop st.strings.length).length = (Listing.strings sts).length := by
          rw [List.length_drop]
          omega
        have hreach' : ∀ offset ∈ offsets.take st.strings.length, offset ≤ lastOffset :=
          fun offset hoffset => hreach offset (List.mem_of_mem_take hoffset)
        obtain ⟨row', hredirection⟩ := exists_instruction hrow hcount.1 hst labelAt htake hreach'
        obtain ⟨rows', hredirections⟩ :=
          ih hmore hcount.2 hsts hwrites hdrop fun offset hoffset => hreach offset (List.mem_of_mem_drop hoffset)
        have hcons := hredirections.cons hredirection htake hreach' hret2
        rw [List.take_append_drop] at hcons
        exact ⟨row' :: rows', hcons⟩

/-! ## The dump of a script as a listing -/

theorem exists_of_mem_instructions {position : Nat} {rows : List Row} (h : Instructions position rows) :
    ∀ row ∈ rows, ∃ position', InstructionAt position' row := by
  induction rows generalizing position with
  | nil => exact List.forall_mem_nil _
  | cons row more ih =>
    rw [List.forall_mem_cons]
    exact ⟨⟨position, h.1⟩, ih h.2.2⟩

private theorem closed_alike {rows : List Row} (h : ∀ n ∈ rows.flatMap Row.pointers, n ≤ lastOffset) :
    List.Forall₂ Row.Alike rows (rows.map Row.closed) := by
  refine refilled_alike ?_ h
  rw [List.forall₂_map_right_iff, List.forall₂_same]
  exact fun row _ => ⟨Row.closeStrings row.strings, Row.length_closeStrings _, rfl⟩

/-- The lines of rows in front of a trailer, each of which a line feed ends, are read as the rows with their strings
closed. -/
private theorem readAs_render {rows : List Row} {offset : Nat} (hfit : rowsFit false offset (rows.map Row.closed))
    (hfeed : ∀ row ∈ rows, ∀ s ∈ row.strings, '\n' ∉ s) (labelled : Nat → Bool) :
    ReadAs (rows.map (Row.render labelled)) (rowListing false labelled (rows.map Row.closed)) := by
  have hlegible : ∀ row ∈ rows, row.closed.Legible false (row.closed.kind false) := by
    clear hfeed
    induction rows generalizing offset with
    | nil => exact List.forall_mem_nil _
    | cons row more ih =>
      rw [List.map_cons] at hfit
      rw [List.forall_mem_cons]
      exact ⟨hfit.1.legible, ih hfit.2⟩
  constructor
  · rw [rowListing, List.map_map, List.map_map, List.map_map]
    refine List.map_congr_left fun row hrow => ?_
    have hname : Row.isName row.name = true := (hlegible row hrow).isName
    exact (congrArg (Statement.read? false) (Row.withoutReturn_render hname labelled)).trans
      (Row.read?_render (hlegible row hrow) labelled)
  · intro t ht
    obtain ⟨row, hrow, rfl⟩ := List.mem_map.mp ht
    have hname : Row.isName row.name = true := (hlegible row hrow).isName
    exact Row.notMem_feed_render hname (hfeed row hrow) labelled

/-- The rows of a script in front of its trailer. -/
def frontRows (content : Bytes) (body : List Row) (gap : Bytes) : List Row :=
  headerRow content :: (body ++ paddingRows gap)

private theorem map_closed_frontRows (content : Bytes) (body : List Row) (gap : Bytes) :
    (frontRows content body gap).map Row.closed = frontRows content (body.map Row.closed) gap := by
  have hpadding : (paddingRows gap).map Row.closed = paddingRows gap := by
    rw [paddingRows]
    split_ifs <;> rfl
  rw [frontRows, List.map_cons, List.map_append, hpadding]
  rfl

/-- The dump of a script is the lines of its rows in front of the trailer, which are read as the rows with their strings
closed, and the line of the trailer. -/
private theorem exists_front {r : Reading} {header : Row} {w : Walked} (hwalks : r.Walks header w)
    (hrecords : isRecordFile r.name = false) (hfeed : ∀ row ∈ w.rows, ∀ s ∈ row.strings, '\n' ∉ s)
    (hsign : ∀ row ∈ w.rows, ∀ s ∈ row.strings.dropLast, '§' ∉ s) (hlength : r.bytes.length < Text.numberBound) :
    ∃ content gap trailer labelled, content.length < 255 ∧ Instructions (content.length + 1) (w.rows.map Row.closed) ∧
      (∀ row ∈ w.rows.map Row.closed, row.strings.length = row.pointers.length) ∧
      (showRows (header :: (w.rows ++ (r.padding w ++ [r.trailer w])))).splitOn '\n' =
        (frontRows content w.rows gap).map (Row.render labelled) ++ [trailer] ∧ isTrailer trailer = true ∧
      ReadAs ((frontRows content w.rows gap).map (Row.render labelled))
        (rowListing false labelled (frontRows content (w.rows.map Row.closed) gap)) := by
  obtain ⟨content, gap, rest, t, rfl, hcontent, hbody, hresolves, -, hpadding, htrailer, hbytes, -, -, -⟩ :=
    dissect_padding hwalks
  have hgap : gap.length < Text.numberBound := by
    have hlengths := congrArg List.length hbytes
    simp only [List.length_cons, List.length_append] at hlengths
    omega
  have hclosed := closed_alike hbody.words.1
  rw [hrecords] at hbody
  have hbody' := body_alike hclosed hbody
  have hcount : ∀ row ∈ w.rows.map Row.closed, row.strings.length = row.pointers.length := by
    intro _ hrow
    obtain ⟨row, hmem, rfl⟩ := List.mem_map.mp hrow
    exact (Row.length_closeStrings _).trans (hresolves.count row hmem)
  have hfitBody := hbody'.rowsFit hcount fun _ hrow => by
    obtain ⟨row, hmem, rfl⟩ := List.mem_map.mp hrow
    intro s hs
    rw [Row.closed, Row.dropLast_closeStrings] at hs
    exact hsign row hmem s hs
  have hfit : rowsFit false 0 ((frontRows content w.rows gap).map Row.closed) := by
    rw [map_closed_frontRows]
    refine ⟨fitsAt_headerRow _ hcontent, ?_⟩
    rw [Nat.zero_add, rowsFit_append]
    exact ⟨hfitBody, rowsFit_paddingRows _ _ hgap⟩
  have hfeedFront : ∀ row ∈ frontRows content w.rows gap, ∀ s ∈ row.strings, '\n' ∉ s := by
    intro row hrow
    rcases List.mem_cons.mp hrow with rfl | hrow
    · exact List.forall_mem_nil _
    rcases List.mem_append.mp hrow with hrow | hrow
    · exact hfeed row hrow
    · rw [paddingRows_cases gap row hrow]
      exact List.forall_mem_nil _
  have hscript : headerRow content :: (w.rows ++ (r.padding w ++ [r.trailer w])) =
      frontRows content w.rows gap ++ [Row.trailer t] := by
    rw [hpadding, htrailer, frontRows, List.cons_append, List.append_assoc]
  let labelled := (labelledOffsets (frontRows content w.rows gap ++ [Row.trailer t])).contains
  have hreads := readAs_render hfit hfeedFront labelled
  rw [map_closed_frontRows] at hreads
  have hname : Row.isName "trailer".toList = true := by decide
  obtain ⟨more, hmore⟩ : ∃ rest, afterLabels ((Row.trailer t).render labelled) = _ := afterLabels_render hname labelled
  have hlast : '\n' ∉ (Row.trailer t).render labelled :=
    Row.notMem_feed_render hname (List.forall_mem_nil _) labelled
  refine ⟨content, gap, (Row.trailer t).render labelled, labelled, hcontent, ?_, hcount, ?_, ?_, hreads⟩
  · simpa [Body] using hbody'
  · rw [hscript, showRows]
    change (Text.joinLines ((frontRows content w.rows gap ++ [Row.trailer t]).map (Row.render labelled))).splitOn '\n' = _
    rw [List.map_append, Text.splitOn_joinLines_append hreads.noFeed (by simp), List.map_singleton, Text.joinLines,
      List.intercalate_singleton, List.splitOn_eq_singleton hlast]
  · rw [isTrailer, splitLabels, hmore]
    exact List.isPrefixOf_iff_prefix.mpr ⟨more, rfl⟩

/-! ## The patched script -/

/-- The header is not redirected, as it is no instruction. -/
private theorem redirected_header {content : Bytes} {labelled : Nat → Bool} {st : Statement}
    (h : ((headerRow content).statement labelled ((headerRow content).kind false)).Redirected st) :
    st.strings = [] ∧ ∀ labelAt offsets, st.bytes labelAt offsets = UInt8.ofNat (content.length + 1) :: content := by
  have htokens : (headerRow content).tokens labelled = content.map .byte := by
    simp [Row.tokens, headerRow, Row.raw, Row.stringTokens, List.flatMap_map, Operand.tokens, ← List.map_eq_flatMap]
  have hwritten : st.written? = some ⟨.header, "header".toList, content.length + 1, content.map .byte⟩ := by
    rw [← htokens]
    cases h with
    | kept hkept => exact Statement.written?_eq hkept (by simp)
    | jumped hc hkind | erased hc hkind =>
      obtain rfl := Option.some.inj hc
      cases hkind
  constructor
  · rw [Statement.strings, hwritten, Option.map_some, Option.getD_some, Content.strings, List.filterMap_map,
      List.filterMap_eq_nil_iff]
    exact fun _ _ => rfl
  · intro labelAt offsets
    have hbytes := Token.bytes_map_byte labelAt offsets content []
    rw [List.append_nil, Token.bytes, List.append_nil] at hbytes
    rw [Statement.bytes, hwritten, Option.map_some, Option.getD_some, Content.bytes, hbytes]
    rfl

/-- What a script consists of that is assembled from lines which write a header and instructions and from further lines: the
header, the instructions, what the further lines write, the strings of both and the trailer. -/
structure PatchedImage (ts : Typesetter) (content : Bytes) (front blocks : Listing) (rows : List Row) (own more : List Bytes)
    (rest trailer out : Bytes) : Prop where
  instructions : Instructions (content.length + 1) rows
  count : ∀ row ∈ rows, row.strings.length = row.pointers.length
  length_eq : front.length = rows.length + 1
  strings_eq : front.strings = stringsOf rows
  front_size : front.size = content.length + 1 + rowsLength rows
  blocks_size : blocks.size = rest.length
  own_eq : List.Forall₂ (fun s part => PoolString.part? ts s = some part) (stringsOf rows) own
  more_eq : List.Forall₂ (fun s part => PoolString.part? ts s = some part) blocks.strings more
  pointers_eq : rows.flatMap Row.pointers = poolOffsets (content.length + 1 + rowsLength rows + rest.length) own
  inReach : ∀ offset ∈ poolOffsets (content.length + 1 + rowsLength rows + rest.length) (own ++ more), offset ≤ lastOffset
  front_writes : ∀ rows', List.Forall₂ Row.Alike rows rows' → front.Writes (rows'.flatMap Row.pointers)
    (UInt8.ofNat (content.length + 1) :: (content ++ rows'.flatMap (Row.bytes false)))
  blocks_writes :
    blocks.Writes (poolOffsets (content.length + 1 + rowsLength rows + rest.length + own.flatten.length) more) rest
  out_eq : out = scriptBytes false content rows rest own.flatten (more.flatten ++ trailer)

/-- A script that is assembled from the lines of another, redirected, and further lines consists of instructions where those
of the other stood, with strings of the other, and what the further lines write. -/
theorem exists_patchedImage {ts : Typesetter} {content gap : Bytes} {body : List Row}
    (hbody : Instructions (content.length + 1) body)
    (hcount : ∀ row ∈ body, row.strings.length = row.pointers.length) {labelled : Nat → Bool} {sts back : Listing}
    (hsts : List.Forall₂ Statement.Redirected (rowListing false labelled (frontRows content body gap)) sts)
    {parts : List Bytes} {stream trailer out : Bytes} (h : Listing.Written ts (sts ++ back) parts stream trailer out) :
    ∃ front padding rows own more rest, sts = front ++ padding ∧
      PatchedImage ts content front (padding ++ back) rows own more rest trailer out ∧
      List.Forall₂ (fun row row' => row.length < minSlotLength → row'.name = row.name) body rows ∧
      (∀ i c, sts.contentAt? (i + 1) = some c → ∀ row, rows[i]? = some row → row.name = c.name) ∧
      stringsOf rows ⊆ stringsOf body := by
  rw [frontRows, rowListing, List.map_cons, List.map_append] at hsts
  obtain ⟨first, sts', hfirst, hmore, rfl⟩ := List.forall₂_cons_left_iff.mp hsts
  obtain ⟨lines, padding, rfl, hlines, -⟩ := forall₂_append_left hmore
  obtain ⟨hnone, hfirstBytes⟩ := redirected_header hfirst
  let front : Listing := first :: lines
  have hlisting : first :: (lines ++ padding) ++ back = front ++ (padding ++ back) := by
    simp [front]
  rw [hlisting] at h
  have hfrontStrings : front.strings = Listing.strings lines := by
    rw [Listing.strings_cons, hnone, List.nil_append]
  have hfits := Listing.fitsAt_append.mp h.fits
  have hparts := h.parts_eq
  rw [Listing.strings_append] at hparts
  obtain ⟨own, more, rfl, hown, hmoreParts⟩ := forall₂_append_left hparts
  obtain ⟨before, rest, rfl, hfrontWrites, hblocks⟩ := h.writes.append
  have hsize : Listing.size (front ++ (padding ++ back)) = before.length + rest.length := by
    rw [Listing.size_append, hfrontWrites.length_eq hfits.1, hblocks.length_eq hfits.2]
  have hinReach := h.inReach
  have hownLength : (poolOffsets (before.length + rest.length) own).length = front.strings.length := by
    rw [length_poolOffsets, hown.length_eq]
  rw [hsize, poolOffsets_append] at hfrontWrites hblocks
  rw [List.take_left' hownLength] at hfrontWrites
  rw [List.drop_left' hownLength] at hblocks
  rw [hsize] at hinReach
  obtain ⟨labelAt, after, hbefore, hlinesWrites⟩ := hfrontWrites.uncons
  rw [hfirstBytes] at hbefore
  rw [hnone, List.length_nil, List.drop_zero] at hlinesWrites
  have hreach : ∀ offset ∈ poolOffsets (before.length + rest.length) own, offset ≤ lastOffset := by
    intro offset hoffset
    refine hinReach offset ?_
    rw [poolOffsets_append]
    exact List.mem_append_left _ hoffset
  obtain ⟨rows, hrows, hcounts, hpointers, hstrings, rfl, hwrites, hkept, hnames, hsubset⟩ :=
    exists_instructions hbody hcount hlines hlinesWrites (hfrontStrings ▸ hownLength) hreach
  have hbeforeLength : before.length = content.length + 1 + rowsLength rows := by
    rw [hbefore, List.length_append, List.length_cons, length_bytes_instructions hrows]
  rw [hbeforeLength] at hpointers hblocks hinReach
  rw [hstrings] at hfrontStrings hsubset
  rw [hfrontStrings] at hown
  have hout : out = scriptBytes false content rows rest own.flatten (more.flatten ++ trailer) := by
    rw [h.out_eq, hbefore, scriptBytes]
    simp
  refine ⟨front, padding, rows, own, more, rest, rfl, ?_, hkept, ?_, hsubset⟩
  · exact {
      instructions := hrows
      count := hcounts
      length_eq := by rw [List.length_cons, hnames.length_eq]
      strings_eq := hfrontStrings
      front_size := by rw [← hbeforeLength, hfrontWrites.length_eq hfits.1]
      blocks_size := (hblocks.length_eq hfits.2).symm
      own_eq := hown
      more_eq := hmoreParts
      pointers_eq := hpointers
      inReach := hinReach
      front_writes := by
        intro rows' halike
        have hcons : Listing.Writes ([] ++ rows'.flatMap Row.pointers) front
            (first.bytes labelAt [] ++ rows'.flatMap (Row.bytes false)) :=
          Listing.writes_cons (by rw [hnone]; rfl) labelAt (hwrites rows' halike)
        rwa [hfirstBytes] at hcons
      blocks_writes := hblocks
      out_eq := hout }
  · intro i c hc row hrow
    rw [Listing.contentAt?, List.getElem?_cons_succ] at hc
    obtain ⟨st, hst, hcontent⟩ := Option.bind_eq_some_iff.mp hc
    have hi : i < lines.length := hnames.length_eq ▸ (List.getElem?_eq_some_iff.mp hrow).1
    rw [List.getElem?_append_left hi] at hst
    exact of_forall₂_getElem? hnames hst hrow c hcontent

/-! ## The walk of a patched script -/

/-- A walk of a script that begins with instructions in front of all strings reads them. -/
private theorem exists_rows_of_walks {r : Reading} {header : Row} {w : Walked} {content tail : Bytes} {rows : List Row}
    (hrecords : isRecordFile r.name = false) (hcontent : content.length < 255)
    (hrows : Instructions (content.length + 1) rows)
    (hbytes : r.bytes = UInt8.ofNat (content.length + 1) :: (content ++ (rows.flatMap (Row.bytes false) ++ tail)))
    (hpointers : ∀ p ∈ rows.flatMap Row.pointers, content.length + 1 + rowsLength rows ≤ p) (hwalks : r.Walks header w) :
    header = headerRow content ∧ ∃ rows' more, w.rows = rows' ++ more ∧
      List.Forall₂ (fun row row' => row' = { row with strings := row'.strings } ∧
        List.Forall₂ r.Resolves row.pointers row'.strings) rows rows' := by
  obtain ⟨start, hheader, hwalk⟩ := hwalks
  have hheader' := header_eq_ok.mpr ⟨content, _, rfl, rfl, hcontent, hbytes⟩
  rw [hheader', Except.ok.injEq, Prod.mk.injEq] at hheader
  obtain ⟨rfl, rfl⟩ := hheader
  refine ⟨rfl, ?_⟩
  rw [walkBody, hrecords, if_neg Bool.false_ne_true, hbytes, List.drop_succ_cons, List.drop_left] at hwalk
  exact exists_of_walkInstructions hrows (Nat.le_refl _) (by simp) hpointers hwalk

/-- The strings of a script whose strings were closed are parts of its own. -/
private theorem exists_string_of_mem_closed {rows : List Row} {s : PoolString} (hs : s ∈ stringsOf (rows.map Row.closed)) :
    ∃ row ∈ rows, ∃ t ∈ row.strings, s.content ⊆ t := by
  obtain ⟨_, hclosed, hmem⟩ := List.mem_flatMap.mp hs
  obtain ⟨row, hrow, rfl⟩ := List.mem_map.mp hclosed
  have hcontent : s.content ∈ row.closed.strings := by
    rw [← map_content_poolStrings row.closed.name row.closed.strings]
    exact List.mem_map_of_mem hmem
  obtain ⟨t, ht, hsubset⟩ := Row.subset_of_mem_closeStrings hcontent
  exact ⟨row, hrow, t, ht, hsubset⟩

/-- No string whose characters are of a script that was read has a character that is not read. -/
theorem Walks.notMem_unread_of_subset {r : Reading} {header : Row} {w : Walked} (hwalks : r.Walks header w)
    {strings : List PoolString} (h : ∀ s ∈ strings, ∃ row ∈ w.rows, ∃ t ∈ row.strings, s.content ⊆ t) :
    ∀ s ∈ strings, ∀ c ∈ s.content, c ∉ Charset.unread := by
  intro s hs c hc
  obtain ⟨row, hrow, t, ht, hsubset⟩ := h s hs
  exact hwalks.notMem_unread row hrow t ht c (hsubset hc)

namespace PatchedImage

variable {name : String} {cs : Charset} {content rest trailer out : Bytes} {front blocks : Listing} {rows : List Row}
  {own more : List Bytes}

theorem exists_segments (h : PatchedImage (.plain cs) content front blocks rows own more rest trailer out)
    (hunread : ∀ s ∈ stringsOf rows, ∀ c ∈ s.content, c ∉ Charset.unread) :
    ∃ segments, PoolSegment.parts segments = own ∧ List.Forall₂ (Reads cs) (stringsOf rows) segments := by
  obtain ⟨segments, hparts, hreads⟩ := Relaid.exists_segments_of_parts (f := id) h.own_eq
    fun s hs _ hencode => decode?_encode_plain (hunread s hs) hencode
  refine ⟨segments, hparts, ?_⟩
  rwa [show (fun s : PoolString => (⟨id s.content, s.suffix⟩ : PoolString)) = id from rfl, List.map_id] at hreads

/-- A walk of the script begins with its instructions and their strings. -/
theorem rows_of_walks (h : PatchedImage (.plain cs) content front blocks rows own more rest trailer out)
    (hrecords : isRecordFile name = false) (hcontent : content.length < 255)
    (hunread : ∀ s ∈ stringsOf rows, ∀ c ∈ s.content, c ∉ Charset.unread) {header : Row} {w : Walked}
    (hwalks : Walks ⟨name, out, cs⟩ header w) : header = headerRow content ∧ ∃ rows', w.rows = rows ++ rows' := by
  obtain ⟨segments, rfl, hreads⟩ := h.exists_segments hunread
  have hpointers : ∀ p ∈ rows.flatMap Row.pointers, content.length + 1 + rowsLength rows ≤ p := by
    rw [h.pointers_eq, poolOffsets_eq]
    intro p hp
    obtain ⟨k, -, rfl⟩ := List.mem_map.mp hp
    omega
  have hbody : Body (isRecordFile name) (content.length + 1) rows := by
    rw [hrecords]
    exact h.instructions
  have hresolves : ResolvesAll ⟨name, out, cs⟩ rows := by
    have hall := resolvesAll_scriptBytes (t := more.flatten ++ trailer) hbody h.count h.pointers_eq hreads
    rw [hrecords] at hall
    rw [h.out_eq]
    exact hall
  obtain ⟨hheader, rows', rows'', hrows, hreread⟩ :=
    exists_rows_of_walks hrecords hcontent h.instructions h.out_eq hpointers hwalks
  refine ⟨hheader, rows'', ?_⟩
  have hsame : List.Forall₂ (· = ·) rows rows' := by
    refine forall₂_imp_mem hreread fun row hrow row' ⟨heq, hstrings⟩ => ?_
    have hright : Relator.RightUnique (Resolves ⟨name, out, cs⟩) := fun _ _ _ => Resolves.unique
    have hunique := List.right_unique_forall₂' hright (hresolves row hrow) hstrings
    rw [heq, ← hunique]
  rw [List.forall₂_eq_eq_eq] at hsame
  rw [hrows, hsame]

end PatchedImage

/-- The lines of the instructions of a script say what instructions say. -/
private theorem contentAt?_instruction {content : Bytes} {body : List Row} (hbody : Instructions (content.length + 1) body)
    (gap : Bytes) (labelled : Nat → Bool) {i : Nat} (hi : i < body.length) :
    ∃ c opcode, (rowListing false labelled (frontRows content body gap)).contentAt? (i + 1) = some c ∧
      c.kind = .instruction opcode ∧ c.length < Text.numberBound := by
  obtain ⟨position, opcode, hname, -, -, hlength, -⟩ := exists_of_mem_instructions hbody _ (List.getElem_mem hi)
  have hkind : body[i].kind false = .instruction opcode := by
    rw [Row.kind, kind_of_name? hname]
    rfl
  refine ⟨⟨body[i].kind false, body[i].name, body[i].length, body[i].tokens labelled⟩, opcode, ?_, hkind,
    Nat.lt_of_le_of_lt hlength (by decide)⟩
  rw [Listing.contentAt?, frontRows, rowListing, List.map_cons, List.getElem?_cons_succ, List.map_append,
    List.getElem?_append_left (by rwa [List.length_map]), List.getElem?_map, List.getElem?_eq_getElem hi]
  rfl

end Reading

/-- The script that a patched dump assembles to has an instruction for each one of the original, with its strings; a patch
with a payload leaves a jump in its slot. -/
theorem exists_patchedImage_of_applyPatches {name entry : String} {bytes bytes' : Bytes} {preferred : Charset}
    {dump : Disassembly} {patched : Text} {row : Row} {w : Reading.Walked} {patches : List Patch}
    (h : (disassemble name bytes preferred).1 = .ok dump) (hrecords : isRecordFile name = false)
    (hwalks : Reading.Walks ⟨name, bytes, dump.charset⟩ row w)
    (hfeed : ∀ row ∈ w.rows, ∀ s ∈ row.strings, '\n' ∉ s)
    (hsign : ∀ row ∈ w.rows, ∀ s ∈ row.strings.dropLast, '§' ∉ s) (hlength : bytes.length < Text.numberBound)
    (hlines : ∀ p ∈ patches, 2 ≤ p.line ∧ p.line ≤ w.rows.length + 1)
    (hpatch : (applyPatches entry dump.text patches).1 = .ok patched)
    (hassemble : (assemble name patched (.plain dump.charset)).1 = .ok bytes') :
    ∃ content front blocks rows own more rest trailer, content.length < 255 ∧
      Listing.read? false (Text.lines patched) = some (front ++ blocks) ∧
      Reading.PatchedImage (.plain dump.charset) content front blocks rows own more rest trailer bytes' ∧
      List.Forall₂ (fun row row' => row.length < minSlotLength → row'.name = row.name) w.rows rows ∧
      (∀ s ∈ Reading.stringsOf rows, ∃ row ∈ w.rows, ∃ t ∈ row.strings, s.content ⊆ t) ∧
      ((∀ p ∈ patches, p.payload? ≠ none) →
        ∀ p ∈ patches, ∃ row, rows[p.line - 2]? = some row ∧ row.name = Opcode.loopCondName) := by
  obtain ⟨content, gap, trailer, labelled, hcontent, hbody, hcount, hsplit, htrailer, hreads⟩ :=
    Reading.exists_front hwalks hrecords hfeed hsign hlength
  rw [← text_of_walks h hwalks] at hsplit
  obtain ⟨s, hrun, hpatched⟩ := exists_applyAll_of_applyPatches hpatch
  -- Each patch targets an instruction.
  have htargets : ∀ p ∈ patches, p.line ≠ 0 ∧ ∃ c opcode, (rowListing false labelled
      (Reading.frontRows content (w.rows.map Row.closed) gap)).contentAt? (p.line - 1) = some c ∧
        c.kind = .instruction opcode ∧ c.length < Text.numberBound := by
    intro p hp
    have hle := hlines p hp
    have hi : p.line - 2 < (w.rows.map Row.closed).length := by
      rw [List.length_map]
      omega
    have htarget := Reading.contentAt?_instruction hbody gap labelled hi
    rw [show p.line - 2 + 1 = p.line - 1 by omega] at htarget
    exact ⟨by omega, htarget⟩
  obtain ⟨open', sts, hopen, hreads', hredirected, hjumps⟩ :=
    Patching.redirected_applyAll hsplit htrailer hreads htargets hrun
  obtain ⟨all, parts, stream, last, hread, hwritten⟩ := exists_written_of_assemble hassemble
  have hread' := hread
  rw [hrecords, hpatched open' trailer [] hopen htrailer (List.forall_mem_nil _),
    Text.lines_joinLines_append open' (by simp), Text.flatMap_closedLines hreads'.noFeed] at hread'
  obtain ⟨front, back, hfront, -, rfl⟩ := Listing.read?_append.mp hread'
  obtain rfl : sts = front := by
    rw [Listing.read?_eq_some, List.map_map] at hfront
    exact List.map_injective_iff.mpr (Option.some_injective _) (hreads'.read_eq.symm.trans hfront)
  obtain ⟨front, padding, rows, own, more, rest, rfl, himage, hkept, hnames, hsubset⟩ :=
    Reading.exists_patchedImage hbody hcount hredirected hwritten
  rw [hrecords, List.append_assoc] at hread
  rw [List.forall₂_map_left_iff] at hkept
  refine ⟨content, front, padding ++ back, rows, own, more, rest, last, hcontent, hread, himage, hkept,
    fun s hs => Reading.exists_string_of_mem_closed (hsubset hs), fun hpayload p hp => ?_⟩
  obtain ⟨c, hc, hname⟩ := (hjumps hpayload).1 p hp
  have hle := hlines p hp
  have hi : p.line - 2 < rows.length := by
    rw [← hkept.length_eq]
    omega
  rw [show p.line - 1 = p.line - 2 + 1 by omega] at hc
  exact ⟨rows[p.line - 2], List.getElem?_eq_getElem hi, (hnames _ c hc _ (List.getElem?_eq_getElem hi)).trans hname⟩

end SceneScript
