import Mathlib
import SceneScript.Proofs.Charset
import SceneScript.Proofs.Charset.PairTable
/-!
# Text that was read, and text read again

What a character set can write it reads as the same text, save for three signs that Shift-JIS writes with the code of
another one. Text that was read from a script holds none of them, and no guillemets.
-/
namespace SceneScript.Charset

/-- Characters that no string of a script is read with: the null character, the yen sign, guillemets, the overline and
the minus sign. -/
def unread : List Char := ['\x00', '\u00A5', '«', '»', '\u203E', '\u2212']

/-! ## The characters of the tables -/

/-- Whether no character of `unread` has a code point. -/
private def readable (n : Nat) : Bool :=
  0x3000 ≤ n || (n != 0 && n != 0xA5 && n != 0xAB && n != 0xBB && n != 0x203E && n != 0x2212)

private theorem notMem_unread {c : Char} (h : readable c.toNat = true) : c ∉ unread := by
  intro hc
  simp only [unread, List.mem_cons, List.not_mem_nil, or_false] at hc
  rcases hc with rfl | rfl | rfl | rfl | rfl | rfl <;> revert h <;> decide

set_option maxRecDepth 20000 in
private theorem rowsHold_big5 : RowsHold (fun c => readable c.toNat) big5Rows := by
  rw [big5Rows]
  repeat (apply rowsHold_cons; decide +kernel)
  exact rowsHold_nil _

set_option maxRecDepth 20000 in
private theorem rowsHold_shiftJis : RowsHold (fun c => readable c.toNat) shiftJisRows := by
  rw [shiftJisRows]
  repeat (apply rowsHold_cons; decide +kernel)
  exact rowsHold_nil _

/-! ## Text that was read -/

private theorem single?_readable {cs : Charset} {b : UInt8} {c : Char} (h : cs.single? b = some c) (hb : b ≠ 0) :
    c ∉ unread := by
  have hne : b.toNat ≠ 0 := fun hzero => hb (UInt8.toNat_inj.mp hzero)
  by_cases hlow : b < 0x80
  · rw [single?.eq_def, if_pos hlow] at h
    obtain rfl := Option.some.inj h
    have hlt : b.toNat < 0x80 := hlow
    apply notMem_unread
    rw [Char.toNat_ofNat, if_pos (Or.inl (by omega)), readable]
    simp only [Bool.or_eq_true, Bool.and_eq_true, bne_iff_ne, decide_eq_true_eq]
    omega
  · rw [single?.eq_def, if_neg hlow] at h
    cases cs with
    | big5 => cases h
    | shiftJis =>
      dsimp only at h
      split_ifs at h with hcontrol hkana
      · obtain rfl := Option.some.inj h
        exact notMem_unread rfl
      · obtain rfl := Option.some.inj h
        have hhigh : b.toNat ≤ 0xDF := hkana.2
        apply notMem_unread
        rw [Char.toNat_ofNat, if_pos (Or.inr (by omega)), readable, Bool.or_eq_true]
        exact Or.inl (decide_eq_true (by omega))

private theorem userDefined?_readable {lead trail : UInt8} {c : Char} (h : userDefined? lead trail = some c) :
    c ∉ unread := by
  rw [userDefined?] at h
  split_ifs at h with hlead
  obtain ⟨place, hplace, rfl⟩ := Option.map_eq_some_iff.mp h
  have hlt : place < 188 := TrailRuns.place?_lt hplace
  have hhigh : lead.toNat ≤ 0xF9 := hlead.2
  have hvalid : (0xE000 + 188 * (lead.toNat - 0xF0) + place).isValidChar := Or.inr (by omega)
  apply notMem_unread
  rw [Char.toNat_ofNat, if_pos hvalid, readable, Bool.or_eq_true]
  exact Or.inl (decide_eq_true (by omega))

private theorem big5Marked?_readable {lead trail : UInt8} {t : Text} (h : big5Marked? lead trail = some t) :
    ∀ c ∈ t, c ∉ unread := by
  rw [big5Marked?] at h
  split_ifs at h <;>
  · obtain rfl := Option.some.inj h
    rw [List.forall_mem_cons, List.forall_mem_singleton]
    exact ⟨notMem_unread rfl, notMem_unread rfl⟩

private theorem pair?_readable {cs : Charset} {lead trail : UInt8} {t : Text} (h : cs.pair? lead trail = some t) :
    ∀ c ∈ t, c ∉ unread := by
  have htable : ∀ {rows : List (UInt8 × String)} {table : PairTable}, RowsHold (fun c => readable c.toNat) rows →
      (∃ runs written lastWins, table = PairTable.build runs rows written lastWins) →
        ∀ c, table.char? lead trail = some c → c ∉ unread := by
    rintro rows _ hrows ⟨runs, written, lastWins, rfl⟩ c hc
    obtain ⟨row, hrow, hmem⟩ := PairTable.exists_row_of_char? hc
    exact notMem_unread (hrows row hrow c hmem)
  cases cs with
  | big5 =>
    rcases Option.or_eq_some_iff.mp h with hmarked | ⟨-, h⟩
    · exact big5Marked?_readable hmarked
    · obtain ⟨c, hc, rfl⟩ := Option.map_eq_some_iff.mp h
      rw [List.forall_mem_singleton]
      exact htable rowsHold_big5 ⟨_, _, _, rfl⟩ c hc
  | shiftJis =>
    obtain ⟨c, hc, rfl⟩ := Option.map_eq_some_iff.mp h
    rw [List.forall_mem_singleton]
    rcases Option.or_eq_some_iff.mp hc with huser | ⟨-, hc⟩
    · exact userDefined?_readable huser
    · exact htable rowsHold_shiftJis ⟨_, _, _, rfl⟩ c hc

private theorem go_readable {cs : Charset} {done t : Text} {bytes : Bytes} (h : decode?.go cs done bytes = some t)
    (hzero : 0 ∉ bytes) (hdone : ∀ c ∈ done, c ∉ unread) : ∀ c ∈ t, c ∉ unread := by
  fun_induction decode?.go cs done bytes with
  | case1 done =>
    cases h
    exact fun c hc => hdone c (List.mem_reverse.mp hc)
  | case2 done b =>
    obtain ⟨c, hc, rfl⟩ := Option.map_eq_some_iff.mp h
    have hb : b ≠ 0 := fun heq => hzero (heq ▸ List.mem_cons_self)
    intro c' hc'
    rcases List.mem_cons.mp (List.mem_reverse.mp hc') with rfl | hc'
    · exact single?_readable hc hb
    · exact hdone c' hc'
  | case3 done b trail rest c hc ih =>
    have hb : b ≠ 0 := fun heq => hzero (heq ▸ List.mem_cons_self)
    apply ih h fun hm => hzero (List.mem_cons_of_mem _ hm)
    exact List.forall_mem_cons.mpr ⟨single?_readable hc hb, hdone⟩
  | case4 done b trail rest hb text htext ih =>
    apply ih h fun hm => hzero (List.mem_cons_of_mem _ (List.mem_cons_of_mem _ hm))
    intro c hc
    rcases List.mem_append.mp hc with hc | hc
    · exact pair?_readable htext c (List.mem_reverse.mp hc)
    · exact hdone c hc
  | case5 => cases h

/-- Text that is read from bytes without a zero holds no null character, no guillemets and none of the signs that
Shift-JIS writes as others. -/
theorem notMem_unread_of_decode? {cs : Charset} {bytes : Bytes} {t : Text} (h : cs.decode? bytes = some t)
    (hzero : 0 ∉ bytes) : ∀ c ∈ t, c ∉ unread :=
  go_readable h hzero fun _ hc => absurd hc List.not_mem_nil

/-! ## Text that is read again -/

private theorem leads_big5 : (big5Rows.map fun row => row.1.toNat).IsChain (· < ·) := by decide +kernel

private theorem leads_shiftJis : (shiftJisRows.map fun row => row.1.toNat).IsChain (· < ·) := by decide +kernel

/-- No lead byte of a Shift-JIS row stands alone or begins a user-defined code. -/
private theorem single?_lead {row : UInt8 × String} (h : row ∈ shiftJisRows) :
    shiftJis.single? row.1 = none ∧ ¬(0xF0 ≤ row.1 ∧ row.1 ≤ 0xF9) := by
  have hall : ∀ row ∈ shiftJisRows, 0x80 < row.1.toNat ∧
      (row.1.toNat < 0xA1 ∨ 0xDF < row.1.toNat) ∧ (row.1.toNat < 0xF0 ∨ 0xF9 < row.1.toNat) := by decide +kernel
  obtain ⟨hlow, hkana, huser⟩ := hall row h
  have hlow' : ¬row.1 < 0x80 := fun hlt => absurd (show row.1.toNat < 0x80 from hlt) (by omega)
  have hne : row.1 ≠ 0x80 := by
    intro heq
    rw [heq] at hlow
    exact absurd hlow (by decide)
  have hkana' : ¬(0xA1 ≤ row.1 ∧ row.1 ≤ 0xDF) := fun hle =>
    absurd (show 0xA1 ≤ row.1.toNat ∧ row.1.toNat ≤ 0xDF from hle) (by omega)
  have huser' : ¬(0xF0 ≤ row.1 ∧ row.1 ≤ 0xF9) := fun hle =>
    absurd (show 0xF0 ≤ row.1.toNat ∧ row.1.toNat ≤ 0xF9 from hle) (by omega)
  refine ⟨?_, huser'⟩
  rw [single?.eq_def, if_neg hlow']
  dsimp only
  rw [if_neg hne, if_neg hkana']

private theorem read_big5 {c : Char} {code : Code} (h : big5Table.code? c = some code) :
    big5.single? code.1 = none ∧ big5.pair? code.1 code.2 = some [c] := by
  obtain ⟨hchar, hwritten, -⟩ := PairTable.char?_of_code? (by decide) (by decide) leads_big5 h
  have hlow : (0xA1 : UInt8) ≤ code.1 := of_decide_eq_true hwritten
  have hmarked : big5Marked? code.1 code.2 = none := by
    rw [big5Marked?, if_neg]
    rintro hlead
    rw [hlead] at hlow
    exact absurd hlow (by decide)
  have hsingle : ¬code.1 < 0x80 := by
    intro hlt
    have h1 : 0xA1 ≤ code.1.toNat := hlow
    have h2 : code.1.toNat < 0x80 := hlt
    omega
  refine ⟨by rw [single?.eq_def, if_neg hsingle], ?_⟩
  have htable : big5Table.char? code.1 code.2 = some c := hchar
  rw [pair?, hmarked, htable]
  rfl

private theorem read_shiftJis {c : Char} {code : Code} (h : shiftJisTable.code? c = some code) :
    shiftJis.single? code.1 = none ∧ shiftJis.pair? code.1 code.2 = some [c] := by
  obtain ⟨hchar, -, row, hrow, hlead⟩ := PairTable.char?_of_code? (by decide) (by decide) leads_shiftJis h
  obtain ⟨hsingle, huser⟩ := single?_lead hrow
  rw [hlead] at hsingle huser
  have htable : shiftJisTable.char? code.1 code.2 = some c := hchar
  refine ⟨hsingle, ?_⟩
  rw [pair?, userDefined?, if_neg huser, htable]
  rfl

/-- How a character that is written is read again: from one byte, or from a pair that begins with no single byte. -/
private theorem encodeChar?_cases {cs : Charset} {c : Char} {bytes : Bytes} (h : cs.encodeChar? c = some bytes)
    (hc : cs = shiftJis → c ∉ unread) :
    (∃ b, bytes = [b] ∧ cs.single? b = some c) ∨
      ∃ lead trail, bytes = [lead, trail] ∧ cs.single? lead = none ∧ cs.pair? lead trail = some [c] := by
  by_cases hlow : c.toNat < 0x80
  · rw [encodeChar?.eq_def, if_pos hlow] at h
    refine Or.inl ⟨_, (Option.some.inj h).symm, ?_⟩
    have hb : (UInt8.ofNat c.toNat).toNat = c.toNat := UInt8.toNat_ofNat_of_lt' (by rw [UInt8.size]; omega)
    have hlt : UInt8.ofNat c.toNat < 0x80 := by
      rw [UInt8.lt_iff_toNat_lt, hb]
      exact hlow
    rw [single?.eq_def, if_pos hlt, hb, Char.ofNat_toNat]
  · rw [encodeChar?.eq_def, if_neg hlow] at h
    cases cs with
    | big5 =>
      obtain ⟨code, hcode, rfl⟩ := Option.map_eq_some_iff.mp h
      exact Or.inr ⟨_, _, rfl, read_big5 hcode⟩
    | shiftJis =>
      have hne := hc rfl
      simp only [unread, List.mem_cons, List.not_mem_nil, or_false, not_or] at hne
      obtain ⟨-, hyen, -, -, hoverline, hminus⟩ := hne
      dsimp only at h
      rw [if_neg hyen, if_neg hoverline, if_neg hminus] at h
      split_ifs at h with hcontrol hkana
      · refine Or.inl ⟨_, (Option.some.inj h).symm, ?_⟩
        rw [hcontrol]
        rfl
      · refine Or.inl ⟨_, (Option.some.inj h).symm, ?_⟩
        have hb : (UInt8.ofNat (0xA1 + (c.toNat - 0xFF61))).toNat = 0xA1 + (c.toNat - 0xFF61) :=
          UInt8.toNat_ofNat_of_lt' (by rw [UInt8.size]; omega)
        have hhigh : ¬UInt8.ofNat (0xA1 + (c.toNat - 0xFF61)) < 0x80 := by
          rw [UInt8.lt_iff_toNat_lt, hb, Nat.not_lt]
          exact Nat.le_trans (by decide) (Nat.le_add_right 0xA1 _)
        have hrange : 0xA1 ≤ UInt8.ofNat (0xA1 + (c.toNat - 0xFF61)) ∧
            UInt8.ofNat (0xA1 + (c.toNat - 0xFF61)) ≤ 0xDF := by
          rw [UInt8.le_iff_toNat_le, UInt8.le_iff_toNat_le, hb]
          exact ⟨Nat.le_add_right 0xA1 _, show 0xA1 + (c.toNat - 0xFF61) ≤ 0xDF by omega⟩
        have hne : UInt8.ofNat (0xA1 + (c.toNat - 0xFF61)) ≠ 0x80 := by
          intro heq
          rw [heq] at hrange
          exact absurd hrange.1 (by decide)
        rw [single?.eq_def, if_neg hhigh]
        dsimp only
        rw [if_neg hne, if_pos hrange, hb, Nat.add_sub_cancel_left, Nat.add_sub_cancel' hkana.1, Char.ofNat_toNat]
      · obtain ⟨code, hcode, rfl⟩ := Option.map_eq_some_iff.mp h
        exact Or.inr ⟨_, _, rfl, read_shiftJis hcode⟩

private theorem go_encodeChar? {cs : Charset} {c : Char} {bytes : Bytes} (h : cs.encodeChar? c = some bytes)
    (hc : cs = shiftJis → c ∉ unread) (done : Text) (rest : Bytes) :
    decode?.go cs done (bytes ++ rest) = decode?.go cs (c :: done) rest := by
  rcases encodeChar?_cases h hc with ⟨b, rfl, hb⟩ | ⟨lead, trail, rfl, hlead, hpair⟩
  · cases rest with
    | nil =>
      change (cs.single? b).map (fun c => (c :: done).reverse) = some (c :: done).reverse
      rw [hb, Option.map_some]
    | cons trail rest => rw [List.singleton_append, decode?.go, hb]
  · rw [List.cons_append, List.singleton_append, decode?.go, hlead]
    dsimp only
    rw [hpair]
    rfl

/-- What is written is read as the same text, if it holds none of the signs that Shift-JIS writes as others. -/
theorem decode?_of_encode {cs : Charset} {t : Text} {bytes : Bytes} (h : cs.encode t = .ok bytes)
    (ht : cs = shiftJis → ∀ c ∈ t, c ∉ unread) : cs.decode? bytes = some t := by
  rw [encode] at h
  split at h
  · cases h
  rename_i hnone
  obtain rfl := Except.ok.inj h
  clear h
  rw [List.find?_eq_none] at hnone
  have hgo : ∀ done, decode?.go cs done (t.flatMap fun c => (cs.encodeChar? c).getD []) = some (done.reverse ++ t) := by
    induction t with
    | nil => exact fun done => by rw [List.append_nil]; rfl
    | cons c more ih =>
      intro done
      rw [List.forall_mem_cons] at hnone
      obtain ⟨bytes, hbytes⟩ : ∃ bytes, cs.encodeChar? c = some bytes :=
        Option.isSome_iff_exists.mp (by simpa [Option.isNone_iff_eq_none, Option.isSome_iff_ne_none] using hnone.1)
      have hmore := ih (fun hcs c' hc' => ht hcs c' (List.mem_cons_of_mem _ hc')) hnone.2 (c :: done)
      rw [List.flatMap_cons, hbytes, Option.getD_some, go_encodeChar? hbytes fun hcs => ht hcs c List.mem_cons_self,
        hmore, List.reverse_cons, List.append_assoc, List.singleton_append]
  exact hgo []

end SceneScript.Charset
