import Mathlib
import SceneScript.Script.Disassembly
/-!
# Reading a script in either character set

The character set matters to the strings of a script alone. As long as every string that is met decodes, a walk takes
the same way in both, so a script that cannot be read fails alike whichever is tried first.
-/
namespace SceneScript

/-- Whether two walks end alike, unless a string stops one of them. -/
inductive EndsAlike {α : Type} (R : α → α → Prop) : Except WalkFailure α → Except WalkFailure α → Prop where
  | stoppedLeft (y : Except WalkFailure α) : EndsAlike R (.error .undecodable) y
  | stoppedRight (x : Except WalkFailure α) : EndsAlike R x (.error .undecodable)
  | fatal (e : ScriptError) : EndsAlike R (.error (.fatal e)) (.error (.fatal e))
  | ok {a b : α} (h : R a b) : EndsAlike R (.ok a) (.ok b)

/-- Whether two rows are the same but for the texts of their strings. -/
structure Row.SameFrame (row row' : Row) : Prop where
  start_eq : row'.start? = row.start?
  name_eq : row'.name = row.name
  length_eq : row'.length = row.length
  operands_eq : row'.operands = row.operands

theorem Row.SameFrame.refl (row : Row) : row.SameFrame row := ⟨rfl, rfl, rfl, rfl⟩

namespace Reading

variable (name : String) (bytes : Bytes) (cs cs' : Charset)

theorem stringAt_endsAlike (start : Nat) (pool : PoolExtent) :
    EndsAlike (fun x y => x.2 = y.2) (stringAt ⟨name, bytes, cs⟩ start pool) (stringAt ⟨name, bytes, cs'⟩ start pool) := by
  simp only [stringAt, outOfBounds]
  by_cases hempty : (bytes.drop start).isEmpty = true
  · simp only [hempty, if_true]
    exact .fatal _
  by_cases hzero : (bytes.drop start).contains 0 = true
  · simp only [hempty, hzero, Bool.not_true, Bool.false_eq_true, if_false]
    cases cs.decode? ((bytes.drop start).takeWhile (· != 0)) with
    | none => exact .stoppedLeft _
    | some t =>
      cases cs'.decode? ((bytes.drop start).takeWhile (· != 0)) with
      | none => exact .stoppedRight _
      | some t' => exact .ok rfl
  · simp only [hempty, hzero, Bool.not_false, if_true, Bool.false_eq_true, if_false]
    exact .fatal _

private theorem go_endsAlike (cells : List Nat) (jump? : Option Nat) (position : Nat) (done : List Operand)
    (strings strings' : List Text) (pool : PoolExtent) (payload : Bytes) :
    EndsAlike (fun x y => x.1 = y.1 ∧ x.2.2 = y.2.2)
      (operands.go ⟨name, bytes, cs⟩ cells jump? position done strings pool payload)
      (operands.go ⟨name, bytes, cs'⟩ cells jump? position done strings' pool payload) := by
  fun_induction operands.go ⟨name, bytes, cs⟩ cells jump? position done strings pool payload
    generalizing strings' with
  | case1 => exact .ok ⟨rfl, rfl⟩
  | case2 => exact .ok ⟨rfl, rfl⟩
  | case3 position done strings pool low high rest word hcell e he =>
    have hstring := stringAt_endsAlike name bytes cs cs' word pool
    rw [he] at hstring
    rw [operands.go, if_pos hcell]
    generalize hs' : stringAt ⟨name, bytes, cs'⟩ word pool = y at hstring
    cases hstring with
    | stoppedLeft => exact .stoppedLeft _
    | stoppedRight => exact .stoppedRight _
    | fatal e => exact .fatal e
  | case4 position done strings pool low high rest word hcell s pool₁ hs ih =>
    have hstring := stringAt_endsAlike name bytes cs cs' word pool
    rw [hs] at hstring
    rw [operands.go, if_pos hcell]
    generalize hs' : stringAt ⟨name, bytes, cs'⟩ word pool = y at hstring
    cases hstring with
    | stoppedRight => exact .stoppedRight _
    | ok hpool =>
      obtain rfl := hpool
      exact ih _
  | case5 position done strings pool low high rest word hcell hjump ih =>
    rw [operands.go, if_neg hcell, if_pos hjump]
    exact ih _
  | case6 position done strings pool low high rest hcell hjump ih =>
    rw [operands.go, if_neg hcell, if_neg hjump]
    exact ih _

theorem operands_endsAlike (cells : List Nat) (jump? : Option Nat) (pool : PoolExtent) (payload : Bytes) :
    EndsAlike (fun x y => x.1 = y.1 ∧ x.2.2 = y.2.2) (operands ⟨name, bytes, cs⟩ cells jump? pool payload)
      (operands ⟨name, bytes, cs'⟩ cells jump? pool payload) :=
  go_endsAlike name bytes cs cs' cells jump? 0 [] [] [] pool payload

/-- Whatever texts two walks have read, they have come the same way to the same place. -/
structure Abreast (w w' : Walked) : Prop where
  rows : List.Forall₂ Row.SameFrame w.rows w'.rows
  stop_eq : w.stop = w'.stop
  pool_eq : w.pool = w'.pool

private theorem abreast_reverse {done done' : List Row} (h : List.Forall₂ Row.SameFrame done done') (stop : Nat)
    (pool : PoolExtent) : Abreast ⟨done.reverse, stop, pool⟩ ⟨done'.reverse, stop, pool⟩ :=
  ⟨List.rel_reverse h, rfl, rfl⟩

private theorem walkInstructions_endsAlike (position : Nat) {done done' : List Row}
    (hdone : List.Forall₂ Row.SameFrame done done') (pool : PoolExtent) (rest : Bytes) :
    EndsAlike Abreast (walkInstructions ⟨name, bytes, cs⟩ position done pool rest)
      (walkInstructions ⟨name, bytes, cs'⟩ position done' pool rest) := by
  induction hlength : rest.length using Nat.strong_induction_on generalizing position done done' pool rest with
  | h n ih =>
    match rest, hlength with
    | [], _ => simpa only [walkInstructions] using .ok (abreast_reverse hdone position pool)
    | [_], _ => simpa only [walkInstructions] using .ok (abreast_reverse hdone position pool)
    | opcode :: size :: tail, hlength =>
      rw [walkInstructions, walkInstructions]
      by_cases hstop : (pool.reached position || size == 0) = true
      · rw [if_pos hstop, if_pos hstop]
        exact .ok (abreast_reverse hdone position pool)
      by_cases hshort : size.toNat < 2
      · rw [if_neg hstop, if_neg hstop, if_pos hshort, if_pos hshort]
        exact .fatal _
      rw [if_neg hstop, if_neg hstop, if_neg hshort, if_neg hshort]
      cases Opcode.name? opcode with
      | none => exact .fatal _
      | some mnemonic =>
        dsimp only
        by_cases hlong : (tail.take (size.toNat - 2)).length < size.toNat - 2
        · rw [if_pos hlong, if_pos hlong]
          exact .fatal _
        rw [if_neg hlong, if_neg hlong]
        have hoperands := operands_endsAlike name bytes cs cs' (cellsOf opcode size.toNat) (jumpOf opcode) pool
          (tail.take (size.toNat - 2))
        generalize operands ⟨name, bytes, cs⟩ _ _ _ _ = x at hoperands ⊢
        generalize operands ⟨name, bytes, cs'⟩ _ _ _ _ = y at hoperands ⊢
        cases hoperands with
        | stoppedLeft => exact .stoppedLeft _
        | stoppedRight => exact .stoppedRight _
        | fatal e => exact .fatal e
        | @ok a b h =>
          obtain ⟨ops, texts, pool₁⟩ := a
          obtain ⟨ops', texts', pool₂⟩ := b
          obtain ⟨rfl, rfl⟩ : ops = ops' ∧ pool₁ = pool₂ := h
          have hrow : List.Forall₂ Row.SameFrame (⟨some position, mnemonic, size.toNat, ops, texts⟩ :: done)
              (⟨some position, mnemonic, size.toNat, ops, texts'⟩ :: done') := .cons ⟨rfl, rfl, rfl, rfl⟩ hdone
          dsimp only
          by_cases hend : opcode = Opcode.ret2
          · rw [if_pos hend, if_pos hend]
            exact .ok (abreast_reverse hrow _ _)
          · rw [if_neg hend, if_neg hend]
            have hless : (tail.drop (size.toNat - 2)).length < n := by
              rw [← hlength, List.length_drop, List.length_cons, List.length_cons]
              omega
            exact ih _ hless _ hrow _ _ rfl

private theorem walkRecords_endsAlike (position : Nat) {done done' : List Row}
    (hdone : List.Forall₂ Row.SameFrame done done') (pool : PoolExtent) (rest : Bytes) (sections : List Section) :
    EndsAlike Abreast (walkRecords ⟨name, bytes, cs⟩ position done pool rest sections)
      (walkRecords ⟨name, bytes, cs'⟩ position done' pool rest sections) := by
  induction sections generalizing position done done' pool rest with
  | nil => exact .ok (abreast_reverse hdone position pool)
  | cons s more ih =>
    rw [walkRecords, walkRecords]
    by_cases hlong : (rest.take s.recordLength).length < s.recordLength
    · rw [if_pos hlong, if_pos hlong]
      exact .fatal _
    rw [if_neg hlong, if_neg hlong]
    have hoperands := operands_endsAlike name bytes cs cs' s.cells none pool (rest.take s.recordLength)
    generalize operands ⟨name, bytes, cs⟩ _ _ _ _ = x at hoperands ⊢
    generalize operands ⟨name, bytes, cs'⟩ _ _ _ _ = y at hoperands ⊢
    cases hoperands with
    | stoppedLeft => exact .stoppedLeft _
    | stoppedRight => exact .stoppedRight _
    | fatal e => exact .fatal e
    | @ok a b h =>
      obtain ⟨ops, texts, pool₁⟩ := a
      obtain ⟨ops', texts', pool₂⟩ := b
      obtain ⟨rfl, rfl⟩ : ops = ops' ∧ pool₁ = pool₂ := h
      have hrow : List.Forall₂ Row.SameFrame (⟨none, s.name, s.recordLength, ops, texts⟩ :: done)
          (⟨none, s.name, s.recordLength, ops, texts'⟩ :: done') := .cons ⟨rfl, rfl, rfl, rfl⟩ hdone
      exact ih _ hrow _ _

theorem walkBody_endsAlike (start : Nat) :
    EndsAlike Abreast (walkBody ⟨name, bytes, cs⟩ start) (walkBody ⟨name, bytes, cs'⟩ start) := by
  rw [walkBody, walkBody]
  dsimp only
  split_ifs
  · exact walkRecords_endsAlike name bytes cs cs' _ .nil _ _ _
  · exact walkInstructions_endsAlike name bytes cs cs' _ .nil _ _

/-- A script that can be read in both character sets has the same rows in both, but for the texts of its strings. -/
theorem rows_endsAlike :
    EndsAlike (List.Forall₂ Row.SameFrame) (rows ⟨name, bytes, cs⟩) (rows ⟨name, bytes, cs'⟩) := by
  rw [rows, rows]
  have hheader : header ⟨name, bytes, cs'⟩ = header ⟨name, bytes, cs⟩ := rfl
  rw [hheader]
  rcases header ⟨name, bytes, cs⟩ with (_ | e) | ⟨header, start⟩
  · exact .stoppedLeft _
  · exact .fatal e
  have hbody := walkBody_endsAlike name bytes cs cs' start
  change EndsAlike _ ((walkBody ⟨name, bytes, cs⟩ start).bind _) ((walkBody ⟨name, bytes, cs'⟩ start).bind _)
  generalize walkBody ⟨name, bytes, cs⟩ start = x at hbody ⊢
  generalize walkBody ⟨name, bytes, cs'⟩ start = y at hbody ⊢
  cases hbody with
  | stoppedLeft => exact .stoppedLeft _
  | stoppedRight => exact .stoppedRight _
  | fatal e => exact .fatal e
  | @ok w w' h =>
    have hpadding : padding ⟨name, bytes, cs'⟩ w' = padding ⟨name, bytes, cs⟩ w := by
      rw [padding, padding, h.stop_eq, h.pool_eq]
    have htrailer : trailer ⟨name, bytes, cs'⟩ w' = trailer ⟨name, bytes, cs⟩ w := by
      rw [trailer, trailer, h.stop_eq, h.pool_eq]
    refine .ok (.cons (.refl header) (List.rel_append h.rows ?_))
    rw [hpadding, htrailer, List.forall₂_same]
    exact fun row _ => .refl row

end Reading

variable (name : String) (bytes : Bytes) (cs cs' : Charset)

theorem dumpIn_endsAlike : EndsAlike (fun _ _ => True) (dumpIn name bytes cs) (dumpIn name bytes cs') := by
  rw [dumpIn, dumpIn]
  have hrows := Reading.rows_endsAlike name bytes cs cs'
  generalize Reading.rows ⟨name, bytes, cs⟩ = x at hrows ⊢
  generalize Reading.rows ⟨name, bytes, cs'⟩ = y at hrows ⊢
  cases hrows with
  | stoppedLeft => exact .stoppedLeft _
  | stoppedRight => exact .stoppedRight _
  | fatal e => exact .fatal e
  | ok => exact .ok trivial

/-- A script that cannot be read fails alike whichever character set is tried first. -/
theorem disassemble_error {e : ScriptError} (h : (disassemble name bytes cs).1 = .error e) :
    (disassemble name bytes cs').1 = .error e := by
  by_cases hcs : cs' = cs
  · rwa [hcs]
  have hflipped : cs' = cs.flipped := by
    cases cs <;> cases cs' <;> first | rfl | exact absurd rfl hcs
  subst hflipped
  have hends := dumpIn_endsAlike name bytes cs cs.flipped
  rw [disassemble] at h ⊢
  rw [Charset.flipped_flipped]
  generalize dumpIn name bytes cs = x at h hends ⊢
  generalize dumpIn name bytes cs.flipped = y at h hends ⊢
  cases hends with
  | stoppedLeft =>
    rcases y with (_ | e') | dump
    · exact h
    · exact h
    · cases h
  | stoppedRight =>
    rcases x with (_ | e') | dump
    · exact h
    · exact h
    · cases h
  | fatal e' => exact h
  | ok => cases h

end SceneScript
