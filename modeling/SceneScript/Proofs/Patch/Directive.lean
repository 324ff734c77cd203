import Mathlib
import SceneScript.Patch.Directive
/-!
# Written directives

A directive that is read gives a patch in normal form, and a patch in normal form is read back from the directive that is
written for it.
-/
namespace SceneScript

namespace Text

private theorem isBlank_of_isDigit {c : Char} (h : c.isDigit = true) : isBlank c = false := by
  simp only [Char.isDigit, Bool.and_eq_true, decide_eq_true_eq, ge_iff_le, UInt32.le_iff_toNat_le] at h
  have hrange : 0x30 ≤ c.toNat ∧ c.toNat ≤ 0x39 := h
  simp only [isBlank, Bool.or_eq_false_iff, Bool.and_eq_false_iff, beq_eq_false_iff_ne, decide_eq_false_iff_not]
  omega

theorem dropEndWhile_eq (p : Char → Bool) (t : Text) : dropEndWhile p t = t.rdropWhile p := rfl

theorem trimEnd_trimEnd (t : Text) : trimEnd (trimEnd t) = trimEnd t := List.rdropWhile_idempotent isBlank t

private theorem trim_decimal (n : Nat) : trim (decimal n) = decimal n := by
  have hblank : ∀ c ∈ decimal n, ¬isBlank c = true := by
    intro c hc
    simp [isBlank_of_isDigit (List.all_eq_true.mp (all_isDigit_decimal n) c hc)]
  have hstart : trimStart (decimal n) = decimal n :=
    List.dropWhile_eq_self_iff.mpr fun h => hblank _ (List.getElem_mem h)
  rw [trim, hstart]
  exact List.rdropWhile_eq_self_iff.mpr fun h => hblank _ (List.getLast_mem h)

private theorem notMem_decimal {c : Char} (h : c.isDigit = false) (n : Nat) : c ∉ decimal n := by
  intro hc
  have hdigit := List.all_eq_true.mp (all_isDigit_decimal n) c hc
  simp [h] at hdigit

/-- A written number is read back, whatever blanks may stand around a number. -/
theorem readNumber?_decimal {n : Nat} (h : n < numberBound) : readNumber? (trim (decimal n)) = some n := by
  have hplus : afterWord? ['+'] (decimal n) = none := by
    obtain ⟨c, more, hc⟩ := List.exists_cons_of_ne_nil (decimal_ne_nil n)
    have hne : '+' ∉ decimal n := notMem_decimal (by decide) n
    rw [hc, List.mem_cons, not_or] at hne
    simp [afterWord?, hc, List.isPrefixOf, hne.1]
  rw [trim_decimal, readNumber?, hplus, Option.getD_none, readDigits?_decimal h]

theorem lt_of_readNumber? {t : Text} {n : Nat} (h : readNumber? t = some n) : n < numberBound := by
  rw [readNumber?, readDigits?] at h
  split_ifs at h with _ hlt
  rw [← Option.some.inj h]
  exact hlt

end Text

theorem PatchMode.ofSign?_eq_some_iff {sign : Char} {mode : PatchMode} : ofSign? sign = some mode ↔ sign = mode.sign := by
  constructor
  · intro h
    rw [ofSign?] at h
    split_ifs at h with hbefore hafter hreplace <;> cases h <;> assumption
  · rintro rfl
    cases mode <;> rfl

namespace Patch

/-- Patches as they are read from directives. An expected text that ends with an asterisk or a carriage return can only be
written with the asterisk of a line that may go on. -/
structure Normal (p : Patch) : Prop where
  line_pos : 0 < p.line
  line_lt : p.line < Text.numberBound
  expected_noFeed : '\n' ∉ p.expected
  expected_end : p.mayGoOn = false → p.expected.getLast? ≠ some '*' ∧ p.expected.getLast? ≠ some '\r'
  payload : ∀ t, p.payload? = some t → t ≠ [] ∧ Text.trimEnd t = t

private theorem normal_payload {t u : Text} (h : payloadOf t = some u) : u ≠ [] ∧ Text.trimEnd u = u := by
  rw [payloadOf] at h
  split_ifs at h with hempty
  rw [← Option.some.inj h]
  exact ⟨by simpa using hempty, Text.trimEnd_trimEnd t⟩

private theorem payloadOf_eq {t : Text} (h : t ≠ [] ∧ Text.trimEnd t = t) : payloadOf t = some t := by
  simp [payloadOf, h]

/-- The expected text as it is written. -/
def pattern (p : Patch) : Text := p.expected ++ if p.mayGoOn then ['*'] else []

theorem pattern_eq {p : Patch} (h : p.mayGoOn = false) : p.pattern = p.expected := by simp [pattern, h]

/-- What stands behind the mode of a directive: a line, and the payload if more follows it. -/
private def Headed (rest setup : Text) (payload? : Option Text) : Prop :=
  (Text.cutAt '\n' rest = none ∧ setup = rest ∧ payload? = none) ∨
    ∃ after, Text.cutAt '\n' rest = some (setup, after) ∧ payload? = payloadOf after

/-- A directive that is read, part by part. -/
private theorem parse_eq_ok {directive : Text} {p : Patch} : parse directive = .ok p ↔
    ∃ rest setup number, directive = ':' :: p.mode.sign :: rest ∧ Headed rest setup p.payload? ∧
      dropReturns setup = number ++ ':' :: p.pattern ∧ ':' ∉ number ∧
      Text.readNumber? (Text.trim number) = some p.line ∧ p.line ≠ 0 ∧
      (p.mayGoOn = false → p.expected.getLast? ≠ some '*') := by
  constructor
  · intro h
    rw [parse.eq_def] at h
    split at h
    · rename_i sign rest
      split at h
      · cases h
      · rename_i mode hmode
        split at h
        rename_i setup payload? hparts
        have hheaded : Headed rest setup payload? := by
          split at hparts <;> rename_i hcut <;> obtain ⟨rfl, rfl⟩ := Prod.mk.inj hparts
          · exact .inr ⟨_, hcut, rfl⟩
          · exact .inl ⟨hcut, rfl, rfl⟩
        split at h
        · cases h
        · rename_i number expected hcut
          obtain ⟨hsetup, hcolon⟩ := Text.cutAt_eq_some hcut
          split at h
          · cases h
          · cases h
          · rename_i line hzero hline
            split at h <;> rename_i hstem <;> obtain rfl := Except.ok.inj h
            · rw [Text.beforeWord?_eq_some_iff] at hstem
              refine ⟨rest, setup, number, ?_, hheaded, ?_, hcolon, hline, hzero, nofun⟩
              · rw [PatchMode.ofSign?_eq_some_iff.mp hmode]
              · rw [hsetup, hstem]
                rfl
            · refine ⟨rest, setup, number, ?_, hheaded, ?_, hcolon, hline, hzero, fun _ hstar => ?_⟩
              · rw [PatchMode.ofSign?_eq_some_iff.mp hmode]
              · rw [hsetup, pattern]
                simp
              · obtain ⟨stem, rfl⟩ := List.getLast?_eq_some_iff.mp hstar
                rw [Text.beforeWord?_eq_some_iff.mpr rfl] at hstem
                cases hstem
    · cases h
    · cases h
  · rintro ⟨rest, setup, number, rfl, hheaded, hsetup, hcolon, hnumber, hline, hstar⟩
    have hcut : Text.cutAt ':' (dropReturns setup) = some (number, p.pattern) := by rw [hsetup, Text.cutAt_append hcolon]
    have hmode := PatchMode.ofSign?_eq_some_iff.mpr (Eq.refl p.mode.sign)
    obtain ⟨line, hsucc⟩ := Nat.exists_eq_succ_of_ne_zero hline
    have hfields : p = ⟨p.mode, p.line, p.expected, p.mayGoOn, p.payload?⟩ := rfl
    rw [hfields]
    cases hgoes : p.mayGoOn with
    | true =>
      have hstem : Text.beforeWord? ['*'] p.pattern = some p.expected :=
        Text.beforeWord?_eq_some_iff.mpr (by simp [pattern, hgoes])
      rcases hheaded with ⟨hrest, rfl, hnone⟩ | ⟨after, hrest, hsome⟩
      · simp [parse, hmode, hrest, hcut, hnumber, hsucc, hstem, hnone]
      · simp [parse, hmode, hrest, hcut, hnumber, hsucc, hstem, hsome]
    | false =>
      have hstem : Text.beforeWord? ['*'] p.expected = none := by
        by_contra hsome
        obtain ⟨stem, hword⟩ := Option.ne_none_iff_exists'.mp hsome
        apply hstar hgoes
        rw [Text.beforeWord?_eq_some_iff.mp hword, List.getLast?_concat]
      rw [pattern_eq hgoes] at hcut
      rcases hheaded with ⟨hrest, rfl, hnone⟩ | ⟨after, hrest, hsome⟩
      · simp [parse, hmode, hrest, hcut, hnumber, hsucc, hstem, hnone]
      · simp [parse, hmode, hrest, hcut, hnumber, hsucc, hstem, hsome]

theorem normal_of_parse {directive : Text} {p : Patch} (h : parse directive = .ok p) : p.Normal := by
  obtain ⟨rest, setup, number, -, hheaded, hsetup, -, hline, hzero, hstar⟩ := parse_eq_ok.mp h
  have hfeed : '\n' ∉ setup := by
    rcases hheaded with ⟨hcut, rfl, -⟩ | ⟨after, hcut, -⟩
    · exact Text.notMem_of_cutAt_eq_none hcut
    · exact (Text.cutAt_eq_some hcut).2
  have hexpected : '\n' ∉ p.expected := by
    intro hm
    apply hfeed
    apply (List.rdropWhile_prefix (· == '\r') setup).subset
    rw [← Text.dropEndWhile_eq, ← dropReturns, hsetup]
    simp [pattern, hm]
  have hreturn : p.mayGoOn = false → p.expected.getLast? ≠ some '\r' := by
    intro hgoes hlast
    rw [pattern_eq hgoes] at hsetup
    obtain ⟨front, hfront⟩ := List.getLast?_eq_some_iff.mp hlast
    rw [hfront, ← List.cons_append, ← List.append_assoc] at hsetup
    have hstable : dropReturns (dropReturns setup) = dropReturns setup := List.rdropWhile_idempotent (· == '\r') setup
    rw [hsetup, dropReturns, Text.dropEndWhile_eq, List.rdropWhile_concat_pos _ _ _ (by decide)] at hstable
    have hlength := congrArg List.length hstable
    have hle := (List.rdropWhile_prefix (· == '\r') (number ++ ':' :: front)).length_le
    simp at hlength hle
    omega
  have hpayload : ∀ t, p.payload? = some t → t ≠ [] ∧ Text.trimEnd t = t := by
    intro t ht
    rcases hheaded with ⟨-, -, hnone⟩ | ⟨after, -, hsome⟩
    · rw [hnone] at ht
      cases ht
    · exact normal_payload (hsome.symm.trans ht)
  exact ⟨Nat.pos_of_ne_zero hzero, Text.lt_of_readNumber? hline, hexpected, fun h => ⟨hstar h, hreturn h⟩, hpayload⟩

/-- A patch in normal form is read back from what is written for it. -/
theorem parse_render {p : Patch} (h : p.Normal) : parse p.render = .ok p := by
  let setup := Text.decimal p.line ++ ':' :: p.pattern
  have hfeed : '\n' ∉ setup := by
    have hdigits := Text.notMem_decimal (c := '\n') (by decide) p.line
    simp [setup, hdigits, pattern, h.expected_noFeed]
  have hlast : setup.getLast? ≠ some '\r' := by
    cases hgoes : p.mayGoOn with
    | true => simp [setup, pattern, hgoes, List.getLast?_append, List.getLast?_cons]
    | false =>
      have hend := (h.expected_end hgoes).2
      cases hexpected : p.expected.getLast? <;>
        simp_all [setup, pattern, List.getLast?_append, List.getLast?_cons]
  have hreturns : dropReturns setup = setup := by
    apply List.rdropWhile_eq_self_iff.mpr
    intro hne
    rw [List.getLast?_eq_getLast_of_ne_nil hne] at hlast
    simpa using hlast
  obtain ⟨rest, hrender, hheaded⟩ : ∃ rest, p.render = ':' :: p.mode.sign :: rest ∧ Headed rest setup p.payload? := by
    cases hpayload : p.payload? with
    | none => exact ⟨setup, by simp [render, setup, pattern, hpayload], .inl ⟨Text.cutAt_eq_none hfeed, rfl, rfl⟩⟩
    | some t =>
      refine ⟨setup ++ '\n' :: t, by simp [render, setup, pattern, hpayload], .inr ⟨t, Text.cutAt_append hfeed t, ?_⟩⟩
      exact (payloadOf_eq (h.payload t hpayload)).symm
  rw [parse_eq_ok]
  exact ⟨rest, setup, Text.decimal p.line, hrender, hheaded, hreturns, Text.notMem_decimal (by decide) _,
    Text.readNumber?_decimal h.line_lt, h.line_pos.ne', fun hgoes => (h.expected_end hgoes).1⟩

/-- The patches that directives stand for are those in normal form. -/
theorem normal_iff {p : Patch} : p.Normal ↔ ∃ directive, parse directive = .ok p :=
  ⟨fun h => ⟨p.render, parse_render h⟩, fun ⟨_, h⟩ => normal_of_parse h⟩

end Patch
end SceneScript
