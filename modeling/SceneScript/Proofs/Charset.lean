import Mathlib
import SceneScript.Charset
/-!
# Zero bytes in text

In both character sets a zero byte is the null character and nothing else, so a string without it ends at its zero.
-/
namespace SceneScript.Charset

private theorem place?_zero (runs : TrailRuns) (h : ∀ run ∈ runs, run.1 ≠ 0) : runs.place? 0 = none := by
  induction runs with
  | nil => rfl
  | cons run more ih =>
    rw [List.forall_mem_cons] at h
    rw [TrailRuns.place?, if_neg (by omega), ih h.2]
    rfl

private theorem char?_zero {table : PairTable} (h : ∀ run ∈ table.runs, run.1 ≠ 0) (lead : UInt8) :
    table.char? lead 0 = none := by
  rw [PairTable.char?]
  cases table.grid[lead.toNat]? with
  | none => rfl
  | some row =>
    change (table.runs.place? 0 >>= _) = none
    rw [place?_zero _ h]
    rfl

/-- No two-byte code ends with a zero. -/
private theorem pair?_zero (cs : Charset) (lead : UInt8) : cs.pair? lead 0 = none := by
  cases cs with
  | big5 =>
    have hmarked : big5Marked? lead 0 = none := by
      rw [big5Marked?]
      split_ifs <;> simp_all
    have hchar : big5Table.char? lead 0 = none := char?_zero (by decide) lead
    rw [pair?, hmarked, hchar]
    rfl
  | shiftJis =>
    have hchar : shiftJisTable.char? lead 0 = none := char?_zero (by decide) lead
    have huser : userDefined? lead 0 = none := by
      rw [userDefined?]
      split_ifs
      · rw [show (0 : UInt8).toNat = 0 from rfl, place?_zero _ (by decide)]
        rfl
      · rfl
    rw [pair?, hchar, huser]
    rfl

private theorem go_zero {cs : Charset} {done t : Text} {bytes : Bytes} (h : decode?.go cs done bytes = some t) :
    ∃ more, t = done.reverse ++ more ∧ (0 ∈ bytes → '\x00' ∈ more) := by
  have hsingle : cs.single? 0 = some '\x00' := by
    cases cs <;> rfl
  fun_induction decode?.go cs done bytes with
  | case1 done =>
    cases h
    exact ⟨[], by simp, by simp⟩
  | case2 done b =>
    obtain ⟨c, hc, rfl⟩ := Option.map_eq_some_iff.mp h
    refine ⟨[c], by simp, ?_⟩
    intro hzero
    rw [List.mem_singleton] at hzero
    rw [← hzero, hsingle] at hc
    obtain rfl := Option.some.inj hc
    exact List.mem_cons_self
  | case3 done b trail rest c hc ih =>
    obtain ⟨more, rfl, hmore⟩ := ih h
    refine ⟨c :: more, by simp, ?_⟩
    intro hzero
    rcases List.mem_cons.mp hzero with hb | hzero
    · rw [← hb, hsingle] at hc
      obtain rfl := Option.some.inj hc
      exact List.mem_cons_self
    · exact List.mem_cons_of_mem _ (hmore hzero)
  | case4 done b trail rest hb text htext ih =>
    obtain ⟨more, rfl, hmore⟩ := ih h
    refine ⟨text ++ more, by simp, ?_⟩
    intro hzero
    rcases List.mem_cons.mp hzero with hb' | hzero
    · rw [← hb', hsingle] at hb
      cases hb
    rcases List.mem_cons.mp hzero with ht | hzero
    · rw [← ht, pair?_zero] at htext
      cases htext
    · exact List.mem_append_right _ (hmore hzero)
  | case5 => cases h

/-- A text without a null character is not read from bytes with a zero. -/
theorem zero_notMem_of_decode? {cs : Charset} {bytes : Bytes} {t : Text} (h : cs.decode? bytes = some t)
    (ht : '\x00' ∉ t) : 0 ∉ bytes := by
  intro hzero
  obtain ⟨more, rfl, hmore⟩ := go_zero h
  exact ht (by simpa using hmore hzero)

end SceneScript.Charset
