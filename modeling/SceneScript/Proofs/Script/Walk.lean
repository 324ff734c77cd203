import Mathlib
import SceneScript.Proofs.Dump.Row
import SceneScript.Script.Walk
/-!
# What a walk reads

The rows of a walk without its state: which operands stand where, that the rows are the bytes walked over, and where the
pointers lead. A walk succeeds exactly on the bytes of such rows.
-/
namespace SceneScript

theorem Bytes.word16_value (low high : UInt8) : word16 (value [low, high]) = [low, high] := by
  have hlow := low.toNat_lt
  have hhigh := high.toNat_lt
  have hdiv : (low.toNat + 256 * high.toNat) / 256 = high.toNat := by omega
  have hmod : UInt8.ofNat (low.toNat + 256 * high.toNat) = low := by
    apply UInt8.toNat_inj.mp
    rw [UInt8.toNat_ofNat']
    omega
  rw [word16, value, value, value, Nat.mul_zero, Nat.add_zero, hdiv, hmod, UInt8.ofNat_toNat]

theorem Bytes.value_lt (low high : UInt8) : value [low, high] < 65536 := by
  have hlow := low.toNat_lt
  have hhigh := high.toNat_lt
  rw [value, value, value]
  omega

namespace Reading

/-- Whether a pointer leads to a text. -/
def Resolves (r : Reading) (pointer : Nat) (t : Text) : Prop :=
  ∃ content after, r.bytes.drop pointer = content ++ 0 :: after ∧ 0 ∉ content ∧ r.charset.decode? content = some t

/-- The end of the string at an offset, its closing zero included. -/
def stringEnd (r : Reading) (start : Nat) : Nat := start + ((r.bytes.drop start).takeWhile (· != 0)).length + 1

/-- The extent of the pool with the strings that pointers lead to. -/
def extent (r : Reading) (pool : PoolExtent) (pointers : List Nat) : PoolExtent :=
  pointers.foldl (fun pool pointer => pool.add pointer (r.stringEnd pointer)) pool

theorem takeWhile_closed {content after : Bytes} (h : 0 ∉ content) :
    (content ++ 0 :: after).takeWhile (· != 0) = content := by
  have hcontent : ∀ b ∈ content, (b != 0) = true := by
    intro b hb
    rw [bne_iff_ne]
    rintro rfl
    exact h hb
  rw [List.takeWhile_append_of_pos hcontent]
  simp

theorem Resolves.unique {r : Reading} {p : Nat} {t t' : Text} (h : r.Resolves p t) (h' : r.Resolves p t') : t = t' := by
  obtain ⟨content, after, hdrop, hzero, hdecode⟩ := h
  obtain ⟨content', after', hdrop', hzero', hdecode'⟩ := h'
  obtain rfl : content = content' := by
    rw [← takeWhile_closed hzero, ← hdrop, hdrop', takeWhile_closed hzero']
  exact Option.some.inj (hdecode.symm.trans hdecode')

theorem stringEnd_eq {r : Reading} {start : Nat} {content after : Bytes}
    (h : r.bytes.drop start = content ++ 0 :: after) (hzero : 0 ∉ content) :
    r.stringEnd start = start + content.length + 1 := by
  rw [stringEnd, h, takeWhile_closed hzero]

theorem stringAt_eq_ok {r : Reading} {start : Nat} {pool pool' : PoolExtent} {t : Text} :
    r.stringAt start pool = .ok (t, pool') ↔ r.Resolves start t ∧ pool' = pool.add start (r.stringEnd start) := by
  rw [stringAt]
  dsimp only
  constructor
  · intro h
    split_ifs at h with hempty hzero
    split at h
    · rename_i t' hdecode
      cases h
      rw [Bool.not_eq_true, Bool.not_eq_false', List.contains_iff_mem] at hzero
      have hmem : (r.bytes.drop start).dropWhile (· != 0) ≠ [] := by
        intro hnil
        have hall := List.dropWhile_eq_nil_iff.mp hnil 0 hzero
        simp at hall
      obtain ⟨b, after, hafter⟩ := List.exists_cons_of_ne_nil hmem
      obtain rfl : b = 0 := by
        have hhead := List.head?_dropWhile_not (· != 0) (r.bytes.drop start)
        rw [hafter] at hhead
        simpa using hhead
      have hsplit : r.bytes.drop start = (r.bytes.drop start).takeWhile (· != 0) ++ 0 :: after := by
        rw [← hafter, List.takeWhile_append_dropWhile]
      have hnot : 0 ∉ (r.bytes.drop start).takeWhile (· != 0) := by
        intro hm
        simpa using List.all_eq_true.mp List.all_takeWhile _ hm
      exact ⟨⟨_, after, hsplit, hnot, hdecode⟩, rfl⟩
    · cases h
  · rintro ⟨⟨content, after, hsplit, hzero, hdecode⟩, rfl⟩
    rw [stringEnd_eq hsplit hzero, hsplit, takeWhile_closed hzero, hdecode]
    simp

/-- Which operands a payload is taken apart into: pointers in the cells, a jump target in its place, bytes elsewhere.
A last byte is always shown on its own. -/
def Shape (cells : List Nat) (jump? : Option Nat) : Nat → List Operand → Prop
  | _, [] => True
  | position, .byte _ :: more =>
    (more ≠ [] → position ∉ cells ∧ jump? ≠ some position) ∧ Shape cells jump? (position + 1) more
  | position, .pointer target :: more =>
    position ∈ cells ∧ target < 65536 ∧ Shape cells jump? (position + 2) more
  | position, .jump target :: more =>
    position ∉ cells ∧ jump? = some position ∧ target < 65536 ∧ Shape cells jump? (position + 2) more

private theorem bytes_ne_nil {more : List Operand} (h : more ≠ []) : more.flatMap Operand.bytes ≠ [] := by
  match more with
  | [] => exact absurd rfl h
  | op :: more => cases op <;> simp [Operand.bytes, Bytes.word16]

private theorem of_go {r : Reading} {cells : List Nat} {jump? : Option Nat} {position : Nat}
    {done ops : List Operand} {strings texts : List Text} {pool pool' : PoolExtent} {payload : Bytes}
    (h : operands.go r cells jump? position done strings pool payload = .ok (ops, texts, pool')) :
    ∃ ops' texts', ops = done.reverse ++ ops' ∧ texts = strings.reverse ++ texts' ∧
      Shape cells jump? position ops' ∧ payload = ops'.flatMap Operand.bytes ∧
      List.Forall₂ r.Resolves (ops'.filterMap Operand.pointer?) texts' ∧
      pool' = r.extent pool (ops'.filterMap Operand.pointer?) := by
  fun_induction operands.go r cells jump? position done strings pool payload with
  | case1 position done strings pool =>
    cases h
    exact ⟨[], [], by simp, by simp, trivial, rfl, .nil, rfl⟩
  | case2 position done strings pool b =>
    cases h
    exact ⟨[.byte b], [], by simp, by simp, by simp [Shape], by simp [Operand.bytes], .nil, rfl⟩
  | case3 position done strings pool low high rest word hcell e he => cases h
  | case4 position done strings pool low high rest word hcell s pool₁ hs ih =>
    obtain ⟨hresolves, rfl⟩ := stringAt_eq_ok.mp hs
    obtain ⟨ops', texts', rfl, rfl, hshape, rfl, htexts, rfl⟩ := ih h
    refine ⟨.pointer word :: ops', s :: texts', by simp, by simp, ?_, ?_, .cons hresolves htexts, rfl⟩
    · exact ⟨by simpa using hcell, Bytes.value_lt low high, hshape⟩
    · rw [List.flatMap_cons, Operand.bytes, Bytes.word16_value]
      rfl
  | case5 position done strings pool low high rest word hcell hjump ih =>
    obtain ⟨ops', texts', rfl, rfl, hshape, rfl, htexts, rfl⟩ := ih h
    refine ⟨.jump word :: ops', texts', by simp, rfl, ?_, ?_, htexts, rfl⟩
    · exact ⟨by simpa using hcell, hjump, Bytes.value_lt low high, hshape⟩
    · rw [List.flatMap_cons, Operand.bytes, Bytes.word16_value]
      rfl
  | case6 position done strings pool low high rest hcell hjump ih =>
    obtain ⟨ops', texts', rfl, rfl, hshape, hpayload, htexts, rfl⟩ := ih h
    refine ⟨.byte low :: ops', texts', by simp, rfl, ?_, ?_, htexts, rfl⟩
    · exact ⟨fun _ => ⟨by simpa using hcell, hjump⟩, hshape⟩
    · rw [List.flatMap_cons, ← hpayload]
      rfl

private theorem go_of {r : Reading} {cells : List Nat} {jump? : Option Nat} {position : Nat}
    {done ops : List Operand} {strings texts : List Text} {pool : PoolExtent} (hshape : Shape cells jump? position ops)
    (htexts : List.Forall₂ r.Resolves (ops.filterMap Operand.pointer?) texts) :
    operands.go r cells jump? position done strings pool (ops.flatMap Operand.bytes) =
      .ok (done.reverse ++ ops, strings.reverse ++ texts, r.extent pool (ops.filterMap Operand.pointer?)) := by
  induction ops generalizing position done strings texts pool with
  | nil =>
    cases htexts
    simp [operands.go, extent]
  | cons op more ih =>
    cases op with
    | byte b =>
      rw [List.flatMap_cons, Operand.bytes, List.cons_append, List.nil_append]
      cases hrest : more.flatMap Operand.bytes with
      | nil =>
        obtain rfl : more = [] := by
          by_contra hmore
          exact bytes_ne_nil hmore hrest
        cases htexts
        simp [operands.go, extent, List.filterMap_cons]
      | cons high rest =>
        have hmore : more ≠ [] := by
          rintro rfl
          simp at hrest
        obtain ⟨hcell, hjump⟩ := hshape.1 hmore
        have hcontains : cells.contains position = false := by simpa using hcell
        rw [operands.go, hcontains, if_neg Bool.false_ne_true, if_neg hjump, ← hrest, ih hshape.2 htexts]
        simp [List.filterMap_cons]
    | pointer target =>
      obtain ⟨hcell, hlt, hmore⟩ := hshape
      have hcontains : cells.contains position = true := by simpa using hcell
      rw [List.filterMap_cons_some (Operand.pointer?_pointer target)] at htexts
      obtain ⟨s, texts, hs, hmoreTexts, rfl⟩ := List.forall₂_cons_left_iff.mp htexts
      have hstring : r.stringAt target pool = .ok (s, pool.add target (r.stringEnd target)) :=
        stringAt_eq_ok.mpr ⟨hs, rfl⟩
      rw [List.flatMap_cons, Operand.bytes, Bytes.word16, List.cons_append, List.cons_append, List.nil_append,
        operands.go, ← Bytes.word16, Bytes.value_word16 hlt, hcontains]
      simp only [if_true, hstring]
      rw [ih hmore hmoreTexts, List.filterMap_cons_some (Operand.pointer?_pointer target)]
      simp [extent]
    | jump target =>
      obtain ⟨hcell, hjump, hlt, hmore⟩ := hshape
      have hcontains : cells.contains position = false := by simpa using hcell
      rw [List.flatMap_cons, Operand.bytes, Bytes.word16, List.cons_append, List.cons_append, List.nil_append,
        operands.go, ← Bytes.word16, Bytes.value_word16 hlt, hcontains, if_neg Bool.false_ne_true, if_pos hjump,
        ih hmore htexts]
      simp [List.filterMap_cons]

/-- A payload is taken apart exactly into operands of its shape, with the texts its pointers lead to. -/
theorem operands_eq_ok {r : Reading} {cells : List Nat} {jump? : Option Nat} {pool pool' : PoolExtent}
    {payload : Bytes} {ops : List Operand} {texts : List Text} :
    r.operands cells jump? pool payload = .ok (ops, texts, pool') ↔
      Shape cells jump? 0 ops ∧ payload = ops.flatMap Operand.bytes ∧
        List.Forall₂ r.Resolves (ops.filterMap Operand.pointer?) texts ∧
        pool' = r.extent pool (ops.filterMap Operand.pointer?) := by
  constructor
  · intro h
    obtain ⟨ops', texts', rfl, rfl, hshape, rfl, htexts, rfl⟩ := of_go h
    exact ⟨hshape, rfl, htexts, rfl⟩
  · rintro ⟨hshape, rfl, htexts, rfl⟩
    exact go_of hshape htexts

/-! ## Instructions -/

/-- The row of an instruction at an offset. -/
def InstructionAt (position : Nat) (row : Row) : Prop :=
  ∃ opcode, Opcode.name? opcode = some row.name ∧ row.start? = some position ∧ 2 ≤ row.length ∧ row.length ≤ 255 ∧
    Shape (cellsOf opcode row.length) (jumpOf opcode) 0 row.operands ∧
    (row.operands.flatMap Operand.bytes).length = row.length - 2

/-- Rows of instructions from an offset on; none follows the one that ends a script. -/
def Instructions : Nat → List Row → Prop
  | _, [] => True
  | position, row :: more =>
    InstructionAt position row ∧ (row.name = Opcode.ret2Name → more = []) ∧ Instructions (position + row.length) more

/-- Whether the pointers of rows lead to their strings. -/
def ResolvesAll (r : Reading) (rows : List Row) : Prop :=
  ∀ row ∈ rows, List.Forall₂ r.Resolves row.pointers row.strings

theorem of_name? {opcode : UInt8} {name : Text} (h : Opcode.name? opcode = some name) :
    Row.isName name = true ∧ name ∉ Row.reserved ∧ name ≠ "route".toList := by
  have hall : ∀ p ∈ Opcode.names, Row.isName p.2 = true ∧ p.2 ∉ Row.reserved ∧ p.2 ≠ "route".toList := by
    decide +kernel
  exact hall _ (Opcode.mem_names_of_name? h)

theorem kind_of_name? {opcode : UInt8} {name : Text} (h : Opcode.name? opcode = some name) :
    LineKind.ofName? false name = some (.instruction opcode) := by
  obtain ⟨-, hreserved, -⟩ := of_name? h
  simp only [Row.reserved, List.mem_cons, List.not_mem_nil, or_false, not_or] at hreserved
  obtain ⟨hheader, htrailer, hdata⟩ := hreserved
  rw [LineKind.ofName?, if_neg hheader, if_neg htrailer, if_neg hdata, if_neg Bool.false_ne_true,
    Opcode.ofName?_of_name? h]
  rfl

theorem bytes_instruction {opcode : UInt8} {row : Row} (h : Opcode.name? opcode = some row.name) :
    row.bytes false = opcode :: UInt8.ofNat row.length :: row.operands.flatMap Operand.bytes := by
  rw [Row.bytes, kind_of_name? h]
  rfl

private theorem name?_eq_ret2Name {opcode : UInt8} {name : Text} (h : Opcode.name? opcode = some name) :
    opcode = Opcode.ret2 ↔ name = Opcode.ret2Name := by
  constructor
  · rintro rfl
    exact Option.some.inj (h.symm.trans Opcode.name?_ret2)
  · rintro rfl
    exact Option.some.inj ((Opcode.ofName?_of_name? h).symm.trans (Opcode.ofName?_of_name? Opcode.name?_ret2))

/-- One instruction of a walk. -/
private theorem instruction_read {r : Reading} (position : Nat) {pool pool' : PoolExtent} {opcode size : UInt8}
    {tail : Bytes} {name : Text} {ops : List Operand} {texts : List Text} (hname : Opcode.name? opcode = some name)
    (hsize : ¬ size.toNat < 2) (hlength : ¬ (tail.take (size.toNat - 2)).length < size.toNat - 2)
    (hops : r.operands (cellsOf opcode size.toNat) (jumpOf opcode) pool (tail.take (size.toNat - 2)) =
      .ok (ops, texts, pool')) :
    let row : Row := ⟨some position, name, size.toNat, ops, texts⟩
    InstructionAt position row ∧ List.Forall₂ r.Resolves row.pointers row.strings ∧
      opcode :: size :: tail = row.bytes false ++ tail.drop (size.toNat - 2) ∧
      pool' = r.extent pool row.pointers := by
  intro row
  obtain ⟨hshape, hpayload, htexts, hpool⟩ := operands_eq_ok.mp hops
  have hlt := size.toNat_lt
  have hbytes : (row.operands.flatMap Operand.bytes).length = row.length - 2 := by
    rw [← hpayload, List.length_take] at *
    change min (size.toNat - 2) tail.length = size.toNat - 2
    omega
  refine ⟨⟨opcode, hname, rfl, Nat.le_of_not_lt hsize, Nat.le_of_lt_succ hlt, hshape, hbytes⟩, htexts, ?_, hpool⟩
  rw [bytes_instruction hname]
  change opcode :: size :: tail = opcode :: UInt8.ofNat size.toNat :: (ops.flatMap Operand.bytes ++ _)
  rw [← hpayload, List.take_append_drop, UInt8.ofNat_toNat]

private theorem extent_append (r : Reading) (pool : PoolExtent) (pointers more : List Nat) :
    r.extent pool (pointers ++ more) = r.extent (r.extent pool pointers) more := List.foldl_append ..

theorem length_bytes_instructions {position : Nat} {rows : List Row} (h : Instructions position rows) :
    (rows.flatMap (Row.bytes false)).length = rowsLength rows := by
  induction rows generalizing position with
  | nil => rfl
  | cons row more ih =>
    obtain ⟨⟨opcode, hname, -, hsize, -, -, hlength⟩, -, hmore⟩ := h
    rw [List.flatMap_cons, List.length_append, ih hmore, bytes_instruction hname, List.length_cons, List.length_cons,
      hlength, rowsLength, rowsLength, List.map_cons, List.sum_cons]
    omega

/-- Whether no instruction begins with these bytes: there is no second one, or the length that it gives is zero. -/
def Stalls (tail : Bytes) : Prop := tail.length < 2 ∨ tail[1]? = some 0

/-- Why a walk over instructions ends where it does. -/
def Ends (pool : PoolExtent) (stop : Nat) (rows : List Row) (tail : Bytes) : Prop :=
  (∃ row ∈ rows.getLast?, row.name = Opcode.ret2Name) ∨ pool.reached stop = true ∨ Stalls tail

private theorem Ends.cons {pool : PoolExtent} {stop : Nat} {rows : List Row} {tail : Bytes} (row : Row)
    (h : Ends pool stop rows tail) : Ends pool stop (row :: rows) tail := by
  refine h.imp_left ?_
  rintro ⟨last, hlast, hname⟩
  refine ⟨last, ?_, hname⟩
  rw [List.getLast?_cons, Option.mem_def.mp hlast]
  rfl

/-- A walk over instructions reads rows that stand for the bytes it walks over. -/
theorem walkInstructions_ok {r : Reading} {position : Nat} {done : List Row} {pool : PoolExtent} {rest : Bytes}
    {w : Walked} (h : r.walkInstructions position done pool rest = .ok w) :
    ∃ rows tail, Instructions position rows ∧ r.ResolvesAll rows ∧ rest = rows.flatMap (Row.bytes false) ++ tail ∧
      w = ⟨done.reverse ++ rows, position + rowsLength rows, r.extent pool (rows.flatMap Row.pointers)⟩ ∧
      Ends w.pool w.stop rows tail := by
  have hstop : ∀ (position : Nat) (done : List Row) (pool : PoolExtent) (rest : Bytes),
      pool.reached position = true ∨ Stalls rest → ∃ rows tail,
      Instructions position rows ∧ r.ResolvesAll rows ∧ rest = rows.flatMap (Row.bytes false) ++ tail ∧
        (⟨done.reverse, position, pool⟩ : Walked) =
          ⟨done.reverse ++ rows, position + rowsLength rows, r.extent pool (rows.flatMap Row.pointers)⟩ ∧
        Ends pool position rows tail := by
    intro position done pool rest hends
    exact ⟨[], rest, trivial, by simp [ResolvesAll], rfl, by simp [rowsLength, extent], Or.inr hends⟩
  fun_induction walkInstructions r position done pool rest with
  | case1 position done pool opcode size tail hreached =>
    cases h
    apply hstop
    rw [Bool.or_eq_true, beq_iff_eq] at hreached
    exact hreached.imp_right fun hsize => Or.inr (congrArg some hsize)
  | case2 | case3 | case4 | case5 => cases h
  | case6 position done pool size tail hreached hsize name payload next hlength ops texts pool' done' hname hops =>
    cases h
    obtain ⟨hrow, htexts, hbytes, rfl⟩ := instruction_read position hname hsize hlength hops
    refine ⟨[⟨some position, name, size.toNat, ops, texts⟩], tail.drop (size.toNat - 2), ?_, ?_, ?_, ?_, ?_⟩
    · exact ⟨hrow, fun _ => rfl, trivial⟩
    · simpa [ResolvesAll] using htexts
    · rw [hbytes]
      simp
    · simp [done', next, rowsLength]
    · exact Or.inl ⟨_, rfl, (name?_eq_ret2Name hname).mp rfl⟩
  | case7 position done pool opcode size tail hreached hsize name hname payload next hlength ops texts pool' hops done'
      hne ih =>
    obtain ⟨hrow, htexts, hbytes, rfl⟩ := instruction_read position hname hsize hlength hops
    obtain ⟨rows, after, hrows, hresolves, hafter, rfl, hends⟩ := ih h
    refine ⟨⟨some position, name, size.toNat, ops, texts⟩ :: rows, after, ?_, ?_, ?_, ?_, hends.cons _⟩
    · exact ⟨hrow, fun he => absurd ((name?_eq_ret2Name hname).mpr he) hne, hrows⟩
    · rw [ResolvesAll, List.forall_mem_cons]
      exact ⟨htexts, hresolves⟩
    · rw [hbytes, hafter]
      simp
    · rw [List.flatMap_cons, extent_append]
      simp [done', next, rowsLength, Nat.add_assoc]
  | case8 position done pool rest hrest =>
    cases h
    apply hstop
    match rest, hrest with
    | [], _ => exact Or.inr (Or.inl (by decide))
    | [b], _ => exact Or.inr (Or.inl (Nat.lt_succ_self 1))
    | opcode :: size :: tail, hrest => exact absurd rfl (hrest opcode size tail)

private theorem operands_row {r : Reading} {cells : List Nat} {jump? : Option Nat} {row : Row} {pool : PoolExtent}
    (hshape : Shape cells jump? 0 row.operands) (htexts : List.Forall₂ r.Resolves row.pointers row.strings) :
    r.operands cells jump? pool (row.operands.flatMap Operand.bytes) =
      .ok (row.operands, row.strings, r.extent pool row.pointers) :=
  operands_eq_ok.mpr ⟨hshape, rfl, htexts, rfl⟩

private theorem lowest?_extent {r : Reading} {pool : PoolExtent} {pointers : List Nat} {bound : Nat}
    (hpool : ∀ l ∈ pool.lowest?, bound ≤ l) (hpointers : ∀ p ∈ pointers, bound ≤ p) :
    ∀ l ∈ (r.extent pool pointers).lowest?, bound ≤ l := by
  induction pointers generalizing pool with
  | nil => exact hpool
  | cons p more ih =>
    rw [List.forall_mem_cons] at hpointers
    apply ih _ hpointers.2
    rintro l ⟨rfl⟩
    cases h : pool.lowest? with
    | none => exact hpointers.1
    | some lowest => exact le_min (hpool lowest h) hpointers.1

private theorem reached_eq_false {pool : PoolExtent} {position bound : Nat} (hpool : ∀ l ∈ pool.lowest?, bound ≤ l)
    (hlt : position < bound) : pool.reached position = false := by
  rw [PoolExtent.reached]
  split
  · rename_i lowest h
    have := hpool lowest h
    simp only [decide_eq_false_iff_not]
    omega
  · rfl

/-- The step: an instruction in front of all strings is read and the walk goes on behind it, unless it ends the script. -/
private theorem walkInstructions_cons (r : Reading) {position : Nat} (done : List Row) {pool : PoolExtent} {row : Row}
    (hrow : InstructionAt position row) (hnot : pool.reached position = false) (tail : Bytes) :
    ∃ cells jump?, Shape cells jump? 0 row.operands ∧ r.walkInstructions position done pool (row.bytes false ++ tail) =
      match r.operands cells jump? pool (row.operands.flatMap Operand.bytes) with
      | .error e => .error e
      | .ok (ops, texts, pool) =>
        let done := { row with operands := ops, strings := texts } :: done
        if row.name = Opcode.ret2Name then .ok ⟨done.reverse, position + row.length, pool⟩
        else r.walkInstructions (position + row.length) done pool tail := by
  obtain ⟨opcode, hname, hstart, hsize, hsize', hshape, hlength⟩ := hrow
  have htoNat : (UInt8.ofNat row.length).toNat = row.length := by
    rw [UInt8.toNat_ofNat']
    omega
  have hzero : (UInt8.ofNat row.length == 0) = false := by
    rw [beq_eq_false_iff_ne]
    intro h
    rw [h] at htoNat
    simp at htoNat
    omega
  refine ⟨_, _, hshape, ?_⟩
  rw [bytes_instruction hname, List.cons_append, List.cons_append, walkInstructions.eq_def]
  dsimp only
  rw [hnot, hzero, Bool.or_self, if_neg Bool.false_ne_true, htoNat, if_neg (by omega), hname]
  dsimp only
  rw [List.take_left' hlength, List.drop_left' hlength, if_neg (by omega), ← hstart]
  cases r.operands (cellsOf opcode row.length) (jumpOf opcode) pool (row.operands.flatMap Operand.bytes) with
  | error e => rfl
  | ok read => exact if_congr (name?_eq_ret2Name hname) rfl rfl

/-- Instructions are walked over when no string begins before their end, and the walk ends there. -/
theorem walkInstructions_eq {r : Reading} {position stop : Nat} {done rows : List Row} {pool : PoolExtent} {tail : Bytes}
    (hrows : Instructions position rows) (hresolves : r.ResolvesAll rows) (hstop : stop = position + rowsLength rows)
    (hpool : ∀ l ∈ pool.lowest?, stop ≤ l) (hpointers : ∀ p ∈ rows.flatMap Row.pointers, stop ≤ p)
    (hends : Ends (r.extent pool (rows.flatMap Row.pointers)) stop rows tail) :
    r.walkInstructions position done pool (rows.flatMap (Row.bytes false) ++ tail) =
      .ok ⟨done.reverse ++ rows, stop, r.extent pool (rows.flatMap Row.pointers)⟩ := by
  induction rows generalizing position done pool with
  | nil =>
    obtain rfl : stop = position := by simpa [rowsLength] using hstop
    rw [List.flatMap_nil, List.nil_append, List.append_nil, walkInstructions.eq_def]
    rcases hends with ⟨row, hrow, -⟩ | hends
    · simp at hrow
    · rcases tail with _ | ⟨opcode, _ | ⟨size, rest⟩⟩
      · rfl
      · rfl
      · dsimp only
        rw [if_pos]
        · rfl
        · rw [Bool.or_eq_true, beq_iff_eq]
          refine hends.imp_right ?_
          rintro (hshort | hsize)
          · simp at hshort
          · exact Option.some.inj hsize
  | cons row more ih =>
    obtain ⟨hrow, hret2, hmore⟩ := hrows
    rw [ResolvesAll, List.forall_mem_cons] at hresolves
    rw [List.flatMap_cons, List.forall_mem_append] at hpointers
    have hrest : rowsLength (row :: more) = row.length + rowsLength more := by simp [rowsLength]
    have hlt : position < stop := by
      obtain ⟨-, -, -, hsize, -⟩ := hrow
      omega
    have hnext : stop = position + row.length + rowsLength more := by omega
    obtain ⟨cells, jump?, hshape, hstep⟩ := walkInstructions_cons r done hrow (reached_eq_false hpool hlt)
      (more.flatMap (Row.bytes false) ++ tail)
    rw [List.flatMap_cons, List.append_assoc, hstep, operands_row hshape hresolves.1]
    dsimp only
    rw [List.flatMap_cons, extent_append]
    rw [List.flatMap_cons, extent_append] at hends
    split_ifs with hname
    · obtain rfl := hret2 hname
      simp [hstop, rowsLength, extent]
    · rw [ih hmore hresolves.2 hnext (lowest?_extent hpool hpointers.1) hpointers.2]
      · simp
      · refine hends.imp_left ?_
        rintro ⟨last, hlast, hlastName⟩
        rw [List.getLast?_cons] at hlast
        cases hmoreLast : more.getLast? with
        | none =>
          rw [hmoreLast] at hlast
          obtain rfl : row = last := by simpa using hlast
          exact absurd hlastName hname
        | some last' =>
          rw [hmoreLast] at hlast
          obtain rfl : last' = last := by simpa using hlast
          exact ⟨last', rfl, hlastName⟩

/-- Operands of one shape are told apart by their bytes. -/
theorem shape_injective {cells : List Nat} {jump? : Option Nat} {position : Nat} {ops ops' : List Operand}
    (h : Shape cells jump? position ops) (h' : Shape cells jump? position ops')
    (hbytes : ops.flatMap Operand.bytes = ops'.flatMap Operand.bytes) : ops = ops' := by
  have hword : ∀ {m n : Nat}, m < 65536 → n < 65536 → Bytes.word16 m = Bytes.word16 n → m = n := by
    intro m n hm hn heq
    rw [← Bytes.value_word16 hm, heq, Bytes.value_word16 hn]
  -- A byte stands in a cell or in the place of a jump only if it is the last one.
  have hlone : ∀ {b : UInt8} {more : List Operand} {target : Nat} {rest : Bytes},
      ([b] ++ more.flatMap Operand.bytes) = Bytes.word16 target ++ rest → more ≠ [] := by
    rintro b more target rest heq rfl
    simp [Bytes.word16] at heq
  induction ops generalizing position ops' with
  | nil =>
    by_contra hne
    exact bytes_ne_nil (Ne.symm hne) hbytes.symm
  | cons op more ih =>
    cases ops' with
    | nil => exact absurd hbytes (bytes_ne_nil (List.cons_ne_nil _ _))
    | cons op' more' =>
      rw [List.flatMap_cons, List.flatMap_cons] at hbytes
      cases op with
      | byte b =>
        cases op' with
        | byte b' =>
          obtain ⟨hb, hmore⟩ := List.append_inj hbytes rfl
          rw [ih h.2 h'.2 hmore, List.singleton_inj.mp hb]
        | pointer target => exact absurd h'.1 (h.1 (hlone hbytes)).1
        | jump target => exact absurd h'.2.1 (h.1 (hlone hbytes)).2
      | pointer target =>
        cases op' with
        | byte b => exact absurd h.1 (h'.1 (hlone hbytes.symm)).1
        | pointer target' =>
          obtain ⟨hb, hmore⟩ := List.append_inj hbytes rfl
          rw [ih h.2.2 h'.2.2 hmore, hword h.2.1 h'.2.1 hb]
        | jump target' => exact absurd h.1 h'.1
      | jump target =>
        cases op' with
        | byte b => exact absurd h.2.1 (h'.1 (hlone hbytes.symm)).2
        | pointer target' => exact absurd h'.1 h.1
        | jump target' =>
          obtain ⟨hb, hmore⟩ := List.append_inj hbytes rfl
          rw [ih h.2.2.2 h'.2.2.2 hmore, hword h.2.2.1 h'.2.2.1 hb]

/-- A walk that succeeds has read the instructions in front of all strings, whatever follows them. -/
theorem exists_of_walkInstructions {r : Reading} {position bound : Nat} {done rows : List Row} {pool : PoolExtent}
    {tail : Bytes} {w : Walked} (hrows : Instructions position rows) (hbound : position + rowsLength rows ≤ bound)
    (hpool : ∀ l ∈ pool.lowest?, bound ≤ l) (hpointers : ∀ p ∈ rows.flatMap Row.pointers, bound ≤ p)
    (h : r.walkInstructions position done pool (rows.flatMap (Row.bytes false) ++ tail) = .ok w) :
    ∃ rows' more, w.rows = done.reverse ++ (rows' ++ more) ∧
      List.Forall₂ (fun row row' => row' = { row with strings := row'.strings } ∧
        List.Forall₂ r.Resolves row.pointers row'.strings) rows rows' := by
  induction rows generalizing position done pool with
  | nil =>
    obtain ⟨rows, -, -, -, -, rfl, -⟩ := walkInstructions_ok h
    exact ⟨[], rows, rfl, .nil⟩
  | cons row more ih =>
    obtain ⟨hrow, hret2, hmore⟩ := hrows
    rw [List.flatMap_cons, List.forall_mem_append] at hpointers
    have hrest : rowsLength (row :: more) = row.length + rowsLength more := by simp [rowsLength]
    have hlt : position < bound := by
      obtain ⟨-, -, -, hsize, -⟩ := hrow
      omega
    obtain ⟨cells, jump?, hshape, hstep⟩ := walkInstructions_cons r done hrow (reached_eq_false hpool hlt)
      (more.flatMap (Row.bytes false) ++ tail)
    rw [List.flatMap_cons, List.append_assoc, hstep] at h
    split at h
    · cases h
    rename_i ops texts pool' hops
    obtain ⟨hshape', hbytes, htexts, rfl⟩ := operands_eq_ok.mp hops
    obtain rfl := shape_injective hshape hshape' hbytes
    split_ifs at h with hname
    · obtain rfl := hret2 hname
      cases h
      exact ⟨[{ row with strings := texts }], [], List.reverse_cons, .cons ⟨rfl, htexts⟩ .nil⟩
    · obtain ⟨rows', rest, hw, hrows'⟩ := ih hmore (by omega) (lowest?_extent hpool hpointers.1) hpointers.2 h
      refine ⟨{ row with strings := texts } :: rows', rest, ?_, .cons ⟨rfl, htexts⟩ hrows'⟩
      rw [hw, List.reverse_cons, List.append_assoc]
      rfl

/-! ## Records -/

/-- The row of a record of a table. -/
def RecordOf (s : Section) (row : Row) : Prop :=
  row.start? = none ∧ row.name = s.name ∧ row.length = s.recordLength ∧ Shape s.cells none 0 row.operands ∧
    (row.operands.flatMap Operand.bytes).length = row.length

theorem of_mem_records {s : Section} (h : s ∈ records) :
    Row.isName s.name = true ∧ s.name ∉ Row.reserved ∧ s.recordLength < Text.numberBound := by
  have hall : ∀ s ∈ recordSections,
      Row.isName s.name = true ∧ s.name ∉ Row.reserved ∧ s.recordLength < Text.numberBound := by decide +kernel
  obtain ⟨s', hs', hs⟩ := List.mem_flatMap.mp h
  rw [List.eq_of_mem_replicate hs]
  exact hall s' hs'

theorem kind_of_notMem_reserved {name : Text} (h : name ∉ Row.reserved) : LineKind.ofName? true name = some .raw := by
  simp only [Row.reserved, List.mem_cons, List.not_mem_nil, or_false, not_or] at h
  obtain ⟨hheader, htrailer, hdata⟩ := h
  rw [LineKind.ofName?, if_neg hheader, if_neg htrailer, if_neg hdata, if_pos rfl]

theorem bytes_record {row : Row} (h : row.name ∉ Row.reserved) :
    row.bytes true = row.operands.flatMap Operand.bytes := by
  rw [Row.bytes, kind_of_notMem_reserved h]
  rfl

theorem length_bytes_records {sections : List Section} {rows : List Row}
    (hnames : ∀ s ∈ sections, s.name ∉ Row.reserved) (h : List.Forall₂ RecordOf sections rows) :
    (rows.flatMap (Row.bytes true)).length = rowsLength rows := by
  induction h with
  | nil => rfl
  | @cons s row sections rows hrow hrows ih =>
    rw [List.forall_mem_cons] at hnames
    obtain ⟨-, hname, -, -, hlength⟩ := hrow
    rw [List.flatMap_cons, List.length_append, ih hnames.2, bytes_record (by rw [hname]; exact hnames.1), hlength,
      rowsLength, rowsLength, List.map_cons, List.sum_cons]

/-- A walk over records reads one row for each, and the rows stand for the bytes it walks over. -/
theorem walkRecords_ok {r : Reading} {position : Nat} {done : List Row} {pool : PoolExtent} {rest : Bytes}
    {sections : List Section} {w : Walked} (hnames : ∀ s ∈ sections, s.name ∉ Row.reserved)
    (h : r.walkRecords position done pool rest sections = .ok w) :
    ∃ rows tail, List.Forall₂ RecordOf sections rows ∧ r.ResolvesAll rows ∧
      rest = rows.flatMap (Row.bytes true) ++ tail ∧
      w = ⟨done.reverse ++ rows, position + rowsLength rows, r.extent pool (rows.flatMap Row.pointers)⟩ := by
  induction sections generalizing position done pool rest with
  | nil =>
    cases h
    exact ⟨[], rest, .nil, by simp [ResolvesAll], rfl, by simp [rowsLength, extent]⟩
  | cons s more ih =>
    rw [List.forall_mem_cons] at hnames
    rw [walkRecords] at h
    split_ifs at h with hlength
    split at h
    · cases h
    · rename_i ops texts pool' hops
      obtain ⟨hshape, hpayload, htexts, rfl⟩ := operands_eq_ok.mp hops
      obtain ⟨rows, tail, hrows, hresolves, hrest, rfl⟩ := ih hnames.2 h
      let row : Row := ⟨none, s.name, s.recordLength, ops, texts⟩
      have hbytes : (row.operands.flatMap Operand.bytes).length = row.length := by
        rw [← hpayload, List.length_take] at *
        change min s.recordLength rest.length = s.recordLength
        omega
      refine ⟨row :: rows, tail, .cons ⟨rfl, rfl, rfl, hshape, hbytes⟩ hrows, ?_, ?_, ?_⟩
      · rw [ResolvesAll, List.forall_mem_cons]
        exact ⟨htexts, hresolves⟩
      · have hrecord : row.bytes true = row.operands.flatMap Operand.bytes := bytes_record hnames.1
        rw [List.flatMap_cons, hrecord, List.append_assoc, ← hrest, ← hpayload,
          List.take_append_drop]
      · rw [List.flatMap_cons, extent_append]
        simp [row, rowsLength, Nat.add_assoc, Row.pointers]

/-- Records are walked over. -/
theorem walkRecords_eq {r : Reading} {position : Nat} {done rows : List Row} {pool : PoolExtent} {tail : Bytes}
    {sections : List Section} (hnames : ∀ s ∈ sections, s.name ∉ Row.reserved)
    (hrows : List.Forall₂ RecordOf sections rows) (hresolves : r.ResolvesAll rows) :
    r.walkRecords position done pool (rows.flatMap (Row.bytes true) ++ tail) sections =
      .ok ⟨done.reverse ++ rows, position + rowsLength rows, r.extent pool (rows.flatMap Row.pointers)⟩ := by
  induction hrows generalizing position done pool with
  | nil => simp [walkRecords, rowsLength, extent]
  | @cons s row sections rows hrow hrows ih =>
    rw [List.forall_mem_cons] at hnames
    rw [ResolvesAll, List.forall_mem_cons] at hresolves
    obtain ⟨hstart, hname, hlength, hshape, hbytes⟩ := hrow
    rw [hlength] at hbytes
    have hrow : (⟨none, s.name, s.recordLength, row.operands, row.strings⟩ : Row) = row := by
      rw [← hstart, ← hname, ← hlength]
    have htake : ∀ after : Bytes, (row.operands.flatMap Operand.bytes ++ after).take s.recordLength =
        row.operands.flatMap Operand.bytes := fun after => List.take_left' hbytes
    have hdrop : ∀ after : Bytes, (row.operands.flatMap Operand.bytes ++ after).drop s.recordLength = after :=
      fun after => List.drop_left' hbytes
    rw [List.flatMap_cons, List.append_assoc, bytes_record (by rw [hname]; exact hnames.1), walkRecords]
    rw [htake, hdrop, if_neg (by omega), operands_row hshape hresolves.1]
    dsimp only
    rw [hrow, ih hnames.2 hresolves.2, List.flatMap_cons, extent_append]
    simp [rowsLength, hlength, Nat.add_assoc]

end Reading
end SceneScript
