import Mathlib
import SceneScript.Proofs.Charset.PairTable
import SceneScript.Proofs.Prose.Breaks
import SceneScript.Proofs.Prose.Typesetter
/-!
# Texts that can be written

The typography brings signs into a text that nobody has typed. Big5 has a code for every one of them, and Shift-JIS for
all but the dash that stands for two hyphens. So what can be written can still be written once it is set, unless it is set
in English for Shift-JIS and has two hyphens side by side.
-/
namespace SceneScript

open Text (Apart Respelled)

namespace Charset

/-! ## Texts and their characters -/

/-- The character that is reported stands in the text and has no code. -/
theorem mem_of_encode_eq_error {cs : Charset} {t : Text} {c : Char} (h : cs.encode t = .error c) :
    c ∈ t ∧ cs.encodeChar? c = none := by
  rw [encode] at h
  split at h
  case h_1 c' hfound =>
    obtain rfl := Except.error.inj h
    exact ⟨List.mem_of_find?_eq_some hfound, by simpa using List.find?_some hfound⟩
  case h_2 => cases h

/-- A text is written if its characters are. -/
theorem exists_encode_eq_ok_iff {cs : Charset} {t : Text} :
    (∃ bytes, cs.encode t = .ok bytes) ↔ ∀ c ∈ t, (cs.encodeChar? c).isSome = true := by
  rw [encode]
  split
  case h_1 c hfound =>
    have hnone : cs.encodeChar? c = none := by simpa using List.find?_some hfound
    constructor
    · rintro ⟨bytes, h⟩
      cases h
    · intro h
      have hc := h c (List.mem_of_find?_eq_some hfound)
      simp [hnone] at hc
  case h_2 hnone =>
    constructor
    · intro _ c hc
      simpa [Option.isSome_iff_ne_none] using List.find?_eq_none.mp hnone c hc
    · exact fun _ => ⟨_, rfl⟩

/-! ## Codes of the signs -/

/-- The characters of a row of written codes have codes. -/
private theorem exists_code?_of_row {runs : TrailRuns} {rows : List (UInt8 × String)} {written : UInt8 → Bool}
    {lastWins signs row : List Char} {lead : UInt8} (hrow : (lead, String.ofList row) ∈ rows) (hwritten : written lead = true)
    (hlength : row.length ≤ runs.places)
    (hsigns : signs.all (fun c => c != unassigned && row.contains c) = true) {c : Char} (hc : c ∈ signs) :
    ∃ code, (PairTable.build runs rows written lastWins).code? c = some code := by
  have hsign := List.all_eq_true.mp hsigns c hc
  rw [Bool.and_eq_true, bne_iff_ne, List.contains_iff_mem] at hsign
  apply PairTable.exists_code?_of_mem hrow hwritten
  · rwa [String.toList_ofList]
  · rw [String.toList_ofList]
    exact hsign.2
  · exact hsign.1

private theorem exists_code?_big5 {c : Char} (hc : c ∈ '《' :: '》' :: Prose.englishSigns) :
    ∃ code, big5Table.code? c = some code := by
  -- The letters run on from one row into the next.
  have hsplit : c ∈ ['《', '》', '“', '”', '‘', '’', '—', '…'] ++ (Prose.cyrillic.take 11 ++ Prose.cyrillic.drop 11) := by
    rw [List.take_append_drop]
    exact hc
  rw [List.mem_append, List.mem_append] at hsplit
  rcases hsplit with hc | hc | hc
  · exact exists_code?_of_row (List.mem_of_getElem? (i := 26) rfl) (by decide) (by decide +kernel) (by decide +kernel) hc
  · exact exists_code?_of_row (List.mem_of_getElem? (i := 64) rfl) (by decide) (by decide +kernel) (by decide +kernel) hc
  · exact exists_code?_of_row (List.mem_of_getElem? (i := 65) rfl) (by decide) (by decide +kernel) (by decide +kernel) hc

private theorem exists_code?_shiftJis {c : Char} (hc : c ∈ '《' :: '》' :: Prose.englishSigns) (hdash : c ≠ '—') :
    ∃ code, shiftJisTable.code? c = some code := by
  have hsplit : c ∈ ['《', '》', '“', '”', '‘', '’', '—', '…'] ++ Prose.cyrillic := hc
  rcases List.mem_append.mp hsplit with hc | hc
  · have hc' : c ∈ ['《', '》', '“', '”', '‘', '’', '…'] := by simpa [hdash] using hc
    exact exists_code?_of_row (List.mem_of_getElem? (i := 0) rfl) (by decide) (by decide +kernel) (by decide +kernel) hc'
  · exact exists_code?_of_row (List.mem_of_getElem? (i := 3) rfl) (by decide) (by decide +kernel) (by decide +kernel) hc

theorem isSome_encodeChar?_of_lt {c : Char} (hc : c.toNat < 0x80) (cs : Charset) : (cs.encodeChar? c).isSome = true := by
  rw [encodeChar?.eq_def, if_pos hc]
  rfl

/-- Every character set has the codes of ASCII. -/
theorem isSome_encodeChar?_of_ascii {t : Text} (ht : t.all (fun c => decide (c.toNat < 0x80)) = true) (cs : Charset) :
    ∀ c ∈ t, (cs.encodeChar? c).isSome = true :=
  fun c hc => isSome_encodeChar?_of_lt (of_decide_eq_true (List.all_eq_true.mp ht c hc)) cs

/-- Big5 has a code for every sign of the typography, and Shift-JIS for every one but the dash. -/
theorem isSome_encodeChar?_of_mem_signs {cs : Charset} {c : Char} (hc : c ∈ Typesetter.signs)
    (hdash : cs = shiftJis → c ≠ '—') : (cs.encodeChar? c).isSome = true := by
  by_cases hlow : c.toNat < 0x80
  · exact isSome_encodeChar?_of_lt hlow cs
  have hsign : c ∈ '《' :: '》' :: Prose.englishSigns := by
    have hpercent : c ≠ '%' := by
      rintro rfl
      exact hlow (by decide)
    have hbreak : c ≠ 'N' := by
      rintro rfl
      exact hlow (by decide)
    simpa [Typesetter.signs, hpercent, hbreak] using hc
  rw [encodeChar?.eq_def, if_neg hlow]
  cases cs with
  | big5 =>
    obtain ⟨code, hcode⟩ := exists_code?_big5 hsign
    simp [hcode]
  | shiftJis =>
    have hminus : c ≠ '\u2212' := by
      rintro rfl
      exact absurd hc (by decide +kernel)
    obtain ⟨code, hcode⟩ := exists_code?_shiftJis hsign (hdash rfl)
    dsimp only
    split_ifs <;> simp [hcode]

set_option maxRecDepth 20000 in
private theorem dashless_shiftJis : RowsHold (· != '—') shiftJisRows := by
  rw [shiftJisRows]
  repeat (apply rowsHold_cons; decide +kernel)
  exact rowsHold_nil _

/-- Shift-JIS has no code for the dash. -/
theorem encodeChar?_dash : shiftJis.encodeChar? '—' = none := by
  have hcode : shiftJisTable.code? '—' = none := by
    by_contra hsome
    obtain ⟨code, hcode⟩ := Option.ne_none_iff_exists'.mp hsome
    obtain ⟨row, hrow, hdash⟩ := PairTable.exists_row_of_code? hcode
    exact absurd (dashless_shiftJis row hrow '—' hdash) (by decide)
  rw [encodeChar?.eq_def, if_neg (by decide)]
  simp [hcode]

end Charset

namespace Typesetter

variable {ts : Typesetter}

theorem encode_fst (ts : Typesetter) (t : Text) : (ts.encode t).1 = ts.target.encode (ts.set t).1 := rfl

/-! ## What setting brings in -/

/-- Setting a text brings in none but the signs of the typography. -/
theorem mem_of_mem_set (hspeakers : ts.speakers = .empty) {t : Text} {c : Char} (hc : c ∉ signs) (h : c ∈ (ts.set t).1) :
    c ∈ t := by
  have hguillemets : c ∈ Prose.replaceGuillemets t → c ∈ t :=
    ((Prose.kept_replaceGuillemets t).mono (by decide)).mem c hc
  have henglish : c ∈ Prose.applyEnglish (Prose.replaceGuillemets t) → c ∈ Prose.replaceGuillemets t :=
    Prose.mem_of_mem_applyEnglish fun hm => hc (by simp [signs, hm])
  have hbreak : ['%', 'N'] ⊆ signs := by decide
  rcases set_cases hspeakers with ⟨-, hset⟩ | ⟨-, hset⟩ | ⟨-, -, metrics, hset⟩
  · rw [hset] at h
    exact hguillemets h
  · rw [hset] at h
    exact hguillemets (henglish h)
  · rw [hset] at h
    apply hguillemets
    apply henglish
    apply (Prose.respelled_wrapLines metrics ts.wrap _).mem_of_mem ?_ h
    rintro u v ⟨-, rfl⟩ hm
    exact hc (hbreak hm)

/-- A dash was there before, or was two hyphens of an English text. -/
theorem dash_mem_set (hspeakers : ts.speakers = .empty) (t : Text) :
    '—' ∈ (ts.set t).1 ↔ '—' ∈ t ∨ (ts.english = true ∧ ¬Apart '-' '-' t) := by
  have hspelled := Prose.respelled_replaceGuillemets t
  have hdash : '—' ∈ Prose.replaceGuillemets t ↔ '—' ∈ t := by
    apply hspelled.mem_iff
    rintro u v (_ | _) <;> decide
  have hhyphens : Apart '-' '-' (Prose.replaceGuillemets t) ↔ Apart '-' '-' t := by
    apply hspelled.apart_iff
    rintro u v (_ | _) <;> decide
  have henglish := Prose.dash_mem_applyEnglish (Prose.replaceGuillemets t)
  rw [hdash, hhyphens] at henglish
  rcases set_cases hspeakers with ⟨hplain, hset⟩ | ⟨hplain, hset⟩ | ⟨hplain, -, metrics, hset⟩
  · simp [hset, hdash, hplain]
  · simp [hset, henglish, hplain]
  · have hbreaks := Prose.respelled_wrapLines metrics ts.wrap (Prose.applyEnglish (Prose.replaceGuillemets t))
    rw [hset, hbreaks.mem_iff, henglish]
    · simp [hplain]
    · rintro u v ⟨rfl, rfl⟩
      decide

/-- What has no code once a text is set had none before, or is the dash that Shift-JIS lacks. -/
private theorem notEncodable_of_mem_set (hspeakers : ts.speakers = .empty) {t : Text} {c : Char} (h : c ∈ (ts.set t).1)
    (hcode : ts.target.encodeChar? c = none) :
    c ∈ t ∨ (c = '—' ∧ ts.target = .shiftJis ∧ ts.english = true ∧ ¬Apart '-' '-' t) := by
  by_cases hsign : c ∈ signs
  · by_cases hdash : ts.target = .shiftJis ∧ c = '—'
    · obtain ⟨htarget, rfl⟩ := hdash
      exact ((dash_mem_set hspeakers t).mp h).imp_right fun hnew => ⟨rfl, htarget, hnew⟩
    · have hsome := Charset.isSome_encodeChar?_of_mem_signs hsign fun htarget heq => hdash ⟨htarget, heq⟩
      simp [hcode] at hsome
  · exact .inl (mem_of_mem_set hspeakers hsign h)

/-- The character that is reported when a text is written stands in the text, and a text that can be written can be written
once it is set, but for an English text for Shift-JIS with two hyphens side by side: they become a dash. -/
theorem encode_reports (hspeakers : ts.speakers = .empty) (t : Text) :
    (∀ c, (ts.encode t).1 = .error c →
      c ∈ t ∨ (c = '—' ∧ ts.target = .shiftJis ∧ ts.english = true ∧ ¬Apart '-' '-' t)) ∧
    ((∀ c ∈ t, (ts.target.encodeChar? c).isSome = true) →
      ((∃ bytes, (ts.encode t).1 = .ok bytes) ↔ (ts.target = .shiftJis → ts.english = true → Apart '-' '-' t))) := by
  rw [encode_fst]
  constructor
  · intro c h
    obtain ⟨hc, hcode⟩ := Charset.mem_of_encode_eq_error h
    exact notEncodable_of_mem_set hspeakers hc hcode
  · intro ht
    rw [Charset.exists_encode_eq_ok_iff]
    constructor
    · intro hall htarget henglish
      by_contra hhyphens
      have hdash := hall '—' ((dash_mem_set hspeakers t).mpr (.inr ⟨henglish, hhyphens⟩))
      simp [htarget, Charset.encodeChar?_dash] at hdash
    · intro hapart c hc
      by_contra hcode
      rw [Option.not_isSome_iff_eq_none] at hcode
      rcases notEncodable_of_mem_set hspeakers hc hcode with hc | ⟨-, htarget, henglish, hhyphens⟩
      · simpa [hcode] using ht c hc
      · exact hhyphens (hapart htarget henglish)

/-- Two hyphens, italics, quotes and an ellipsis in an English text for Big5. -/
theorem encode_reports_big5 :
    let ts := { plain .big5 with english := true }
    let t := "*No* -- 'it' is \"so\"...".toList
    ts.speakers = .empty ∧ (∃ bytes, (ts.encode t).1 = .ok bytes) := by
  intro ts t
  have hspeakers : ts.speakers = .empty := rfl
  have ht : ∀ c ∈ t, (ts.target.encodeChar? c).isSome = true := Charset.isSome_encodeChar?_of_ascii (by decide +kernel) _
  exact ⟨hspeakers, ((encode_reports hspeakers t).2 ht).mpr nofun⟩

/-- In an English text for Shift-JIS two hyphens cannot be written. -/
theorem encode_reports_new_dash :
    let ts := { plain .shiftJis with english := true }
    let t := "a--b".toList
    ts.speakers = .empty ∧ (∀ c ∈ t, (ts.target.encodeChar? c).isSome = true) ∧ (ts.encode t).1 = .error '—' ∧ '—' ∉ t := by
  intro ts t
  have hset : (ts.set t).1 = ['a', '—', 'b'] := by decide +kernel
  have htarget : ts.target = .shiftJis := rfl
  have ha : Charset.shiftJis.encodeChar? 'a' = some [0x61] := rfl
  refine ⟨rfl, Charset.isSome_encodeChar?_of_ascii (by decide +kernel) _, ?_, by simp [t]⟩
  rw [encode_fst, hset, htarget, Charset.encode]
  simp [Charset.encodeChar?_dash, ha]

end Typesetter
end SceneScript
