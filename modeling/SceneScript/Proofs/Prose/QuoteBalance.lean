import SceneScript.Proofs.Prose.English
/-!
# Balanced quotes

The English typography turns straight quotes into curly ones in pairs. So in a text that had no curly quotes, opening and
closing ones take turns, and no quote is lost or added.
-/
namespace SceneScript.Prose

open Text (filter_eq_nil)

/-- Pairs of an opening and a closing quote. -/
def quotePairs (opening closing : Char) (n : Nat) : Text := (List.replicate n [opening, closing]).flatten

theorem quotePairs_succ (opening closing : Char) (n : Nat) :
    quotePairs opening closing (n + 1) = opening :: closing :: quotePairs opening closing n := rfl

section Pairing

variable {mark opening closing : Char} {counts : Bool → Option Char → Text → Bool}

/-- Curly quotes come in pairs, each closed before the next one opens. -/
theorem Paired.filter_curly {prev : Option Char} {t out : Text} (h : Paired mark opening closing counts prev t out)
    (hcurly : ∀ c ∈ [opening, closing], c ∉ t) : ∃ n, out.filter (· ∈ [opening, closing]) = quotePairs opening closing n := by
  induction h with
  | nil => exact ⟨0, rfl⟩
  | @keep prev c rest out _ _ ih =>
    obtain ⟨n, hn⟩ := ih fun d hd hm => hcurly d hd (List.mem_cons_of_mem _ hm)
    refine ⟨n, ?_⟩
    rw [List.filter_cons_of_neg, hn]
    simp only [decide_eq_true_eq]
    exact fun hc => hcurly c hc List.mem_cons_self
  | @pair prev inner rest out _ _ ih =>
    obtain ⟨n, hn⟩ := ih fun d hd hm => hcurly d hd (by simp [hm])
    have hinner : inner.filter (· ∈ [opening, closing]) = [] := filter_eq_nil fun d hd hm => hcurly d hd (by simp [hm])
    refine ⟨n + 1, ?_⟩
    rw [List.filter_cons_of_pos (by simp), List.filter_append, hinner, List.nil_append, List.filter_cons_of_pos (by simp), hn,
      quotePairs_succ]
  | straight => exact ⟨0, filter_eq_nil hcurly⟩

/-- There are as many quotes as before. -/
theorem Paired.countP_quotes {prev : Option Char} {t out : Text} (h : Paired mark opening closing counts prev t out) :
    out.countP (· ∈ [mark, opening, closing]) = t.countP (· ∈ [mark, opening, closing]) := by
  refine h.respelled.countP_eq ?_
  rintro u v ⟨rfl, rfl | rfl⟩ <;> simp

/-- Where every mark is a quote, none is passed over in an open quote. -/
theorem Unpaired.notMem_of_always (hcounts : ∀ isOpen prev rest, counts isOpen prev rest = true) {after t : Text}
    {prev : Option Char} (h : Unpaired mark counts after true prev t) : mark ∉ t := by
  generalize hopen : true = isOpen at h
  induction h with
  | nil => exact List.not_mem_nil
  | keep hkeep _ ih =>
    rw [List.mem_cons, not_or]
    exact ⟨fun heq => absurd ((hcounts _ _ _).symm.trans (hkeep heq.symm)) (by decide), ih hopen⟩
  | opens => cases hopen

/-- Where every mark is a quote, the quotes come in pairs, and behind them at most one is left. -/
theorem Paired.filter_quotes (hcounts : ∀ isOpen prev rest, counts isOpen prev rest = true) {prev : Option Char} {t out : Text}
    (h : Paired mark opening closing counts prev t out) (hcurly : ∀ c ∈ [opening, closing], c ∉ t) :
    ∃ n, ∃ k ≤ 1, out.filter (· ∈ [mark, opening, closing]) = quotePairs opening closing n ++ List.replicate k mark := by
  induction h with
  | nil => exact ⟨0, 0, Nat.zero_le 1, rfl⟩
  | @keep prev c rest out hkeep _ ih =>
    obtain ⟨n, k, hk, hn⟩ := ih fun d hd hm => hcurly d hd (List.mem_cons_of_mem _ hm)
    refine ⟨n, k, hk, ?_⟩
    rw [List.filter_cons_of_neg, hn]
    rw [decide_eq_true_eq, List.mem_cons, not_or]
    exact ⟨fun hc => absurd ((hcounts _ _ _).symm.trans (hkeep hc)) (by decide), fun hc => hcurly c hc List.mem_cons_self⟩
  | @pair prev inner rest out hinner _ ih =>
    obtain ⟨n, k, hk, hn⟩ := ih fun d hd hm => hcurly d hd (by simp [hm])
    have hnone : inner.filter (· ∈ [mark, opening, closing]) = [] := by
      refine filter_eq_nil ?_
      rw [List.forall_mem_cons]
      exact ⟨hinner.notMem_of_always hcounts, fun d hd hm => hcurly d hd (by simp [hm])⟩
    refine ⟨n + 1, k, hk, ?_⟩
    rw [List.filter_cons_of_pos (by simp), List.filter_append, hnone, List.nil_append, List.filter_cons_of_pos (by simp), hn,
      quotePairs_succ]
    rfl
  | @straight prev rest hrest =>
    have hnone : rest.filter (· ∈ [mark, opening, closing]) = [] := by
      refine filter_eq_nil ?_
      rw [List.forall_mem_cons]
      exact ⟨hrest.notMem_of_always hcounts, fun d hd hm => hcurly d hd (List.mem_cons_of_mem _ hm)⟩
    refine ⟨0, 1, Nat.le_refl 1, ?_⟩
    rw [List.filter_cons_of_pos (by simp), hnone]
    rfl

end Pairing

/-! ## The stages -/

/-- Straight and curly quotes of both kinds. -/
def quoteSigns : List Char := ['\'', '‘', '’', '"', '“', '”']

private theorem notMem_of_mem_quoteSigns {c : Char} (h : c ∈ quoteSigns) : c ∉ '.' :: '…' :: '*' :: cyrillic := by
  have hall : quoteSigns.all fun c => c ∉ '.' :: '…' :: '*' :: cyrillic := by decide +kernel
  exact of_decide_eq_true (List.all_eq_true.mp hall c h)

private theorem drawn_of_mem_quoteSigns {c : Char} (h : c ∈ quoteSigns) (italic : Bool) : drawn italic c = c := by
  have hall : quoteSigns.all fun c => ∀ italic, drawn italic c = c := by decide +kernel
  exact of_decide_eq_true (List.all_eq_true.mp hall c h) italic

variable {signs : List Char}

/-- Dashes leave all quotes alone. -/
theorem filter_replaceDashes (hsigns : signs ⊆ quoteSigns) (t : Text) :
    (Text.replacePair '-' '-' ['—'] t).filter (· ∈ signs) = t.filter (· ∈ signs) := by
  have hhyphen : '-' ∉ signs := fun hm => absurd (hsigns hm) (by decide)
  have hdash : '—' ∉ signs := fun hm => absurd (hsigns hm) (by decide)
  refine (Text.respelled_replacePair (by decide) (by decide) (by decide) (by decide) t).filter_eq ?_
  rintro u v ⟨rfl, rfl⟩ c hc
  have hne : c ≠ '-' ∧ c ≠ '—' := ⟨fun heq => hhyphen (heq ▸ hc), fun heq => hdash (heq ▸ hc)⟩
  simp [hne]

/-- Pairing quotes of one kind leaves those of the other alone. -/
theorem filter_pairQuotes {mark opening closing : Char} {counts : Bool → Option Char → Text → Bool}
    (hsigns : signs.Disjoint [mark, opening, closing]) (t : Text) :
    (pairQuotes mark opening closing counts t).filter (· ∈ signs) = t.filter (· ∈ signs) := by
  refine (paired_pairQuotes t).respelled.filter_eq ?_
  intro u v hpiece c hc
  have hnot : c ∉ [mark, opening, closing] := hsigns hc
  simp only [List.mem_cons, List.not_mem_nil, or_false, not_or] at hnot
  rcases hpiece with ⟨rfl, rfl | rfl⟩ <;> simp [hnot]

/-- Drawing letters leaves all quotes alone. -/
theorem filter_drawLetters (hsigns : signs ⊆ quoteSigns) (t : Text) :
    (drawLetters t).filter (· ∈ signs) = t.filter (· ∈ signs) :=
  (respelled_drawLetters t).filter_eq fun _ _ hpiece _ hc =>
    hpiece.notMem_of_fixed (notMem_of_mem_quoteSigns (hsigns hc)) (drawn_of_mem_quoteSigns (hsigns hc))

/-- Without corner brackets no speech is found, and quotes are all that is paired. -/
theorem applyEnglish_of_notMem {t : Text} (hopening : '「' ∉ t) (hclosing : '」' ∉ t) : applyEnglish t =
    drawLetters (pairDoubleQuotes (pairSingleQuotes (Text.replacePair '-' '-' ['—'] t))) := by
  have hspeech : Text.Apart '】' '「' t := Text.apart_of_notMem_right hopening
  have hclose : closeSpeech t = t := by
    rw [closeSpeech, Text.hasWord_of_apart hspeech, Bool.false_and, if_neg Bool.false_ne_true]
  rw [applyEnglish, hclose, Text.replacePair_of_apart hspeech, Text.replacePair_of_apart (Text.apart_of_notMem hclosing)]

private theorem notMem_of_filter_eq {t t' : Text} (h : t'.filter (· ∈ signs) = t.filter (· ∈ signs)) (ht : ∀ c ∈ signs, c ∉ t) :
    ∀ c ∈ signs, c ∉ t' := by
  intro c hc hm
  have hkept : c ∈ t'.filter (· ∈ signs) := List.mem_filter.mpr ⟨hm, decide_eq_true hc⟩
  rw [h] at hkept
  exact ht c hc (List.mem_filter.mp hkept).1

private theorem countP_of_filter_eq {t t' : Text} (h : t'.filter (· ∈ signs) = t.filter (· ∈ signs)) :
    t'.countP (· ∈ signs) = t.countP (· ∈ signs) := by
  rw [List.countP_eq_length_filter, h, ← List.countP_eq_length_filter]

/-- The quotes of a text without curly ones are its straight ones. -/
theorem countP_of_straight {mark opening closing : Char} {t : Text} (hcurly : ∀ c ∈ [opening, closing], c ∉ t) :
    t.countP (· ∈ [mark, opening, closing]) = t.count mark := by
  rw [List.count]
  refine List.countP_congr fun c hc => ?_
  have hnot : c ∉ [opening, closing] := fun hm => hcurly c hm hc
  rw [decide_eq_true_eq, List.mem_cons, or_iff_left hnot, beq_iff_eq]

/-- In a text without curly quotes and corner brackets, the typography makes single curly quotes that take turns, each closed
before the next one opens; of the double quotes, taken in order, the curly ones take turns as well, and at most one straight
quote is left behind all of them. Straight and curly quotes of a kind are as many as the straight ones were. -/
theorem quotes_applyEnglish {t : Text} (h : ∀ c ∈ ['‘', '’', '“', '”', '「', '」'], c ∉ t) :
    let t' := applyEnglish t
    (∃ n, t'.filter (· ∈ ['‘', '’']) = quotePairs '‘' '’' n) ∧
      (∃ n, ∃ k ≤ 1, t'.filter (· ∈ ['"', '“', '”']) = quotePairs '“' '”' n ++ List.replicate k '"') ∧
      t'.countP (· ∈ ['\'', '‘', '’']) = t.count '\'' ∧ t'.countP (· ∈ ['"', '“', '”']) = t.count '"' := by
  let dashed := Text.replacePair '-' '-' ['—'] t
  let single := pairSingleQuotes dashed
  let double := pairDoubleQuotes single
  have hwritten : applyEnglish t = drawLetters double := applyEnglish_of_notMem (h _ (by decide)) (h _ (by decide))
  have hcurly : ∀ c ∈ ['‘', '’'], c ∉ t := fun c hc => h c (List.mem_append_left ['“', '”', '「', '」'] hc)
  have hcurly' : ∀ c ∈ ['“', '”'], c ∉ t := fun c hc =>
    h c (List.mem_append_left ['「', '」'] (List.mem_append_right ['‘', '’'] hc))
  have hsingles : ∀ signs ⊆ ['\'', '‘', '’'], (applyEnglish t).filter (· ∈ signs) = single.filter (· ∈ signs) := by
    intro signs hsigns
    have hquotes : signs ⊆ quoteSigns := fun c hc => List.mem_append_left ['"', '“', '”'] (hsigns hc)
    rw [hwritten, filter_drawLetters hquotes]
    exact filter_pairQuotes (List.disjoint_of_subset_left hsigns (by simp)) single
  have hdoubles : ∀ signs ⊆ ['"', '“', '”'], single.filter (· ∈ signs) = t.filter (· ∈ signs) := by
    intro signs hsigns
    have hquotes : signs ⊆ quoteSigns := fun c hc => List.mem_append_right ['\'', '‘', '’'] (hsigns hc)
    have hpaired : single.filter (· ∈ signs) = dashed.filter (· ∈ signs) :=
      filter_pairQuotes (List.disjoint_of_subset_left hsigns (by simp)) dashed
    exact hpaired.trans (filter_replaceDashes hquotes t)
  have hsingle : Paired '\'' '‘' '’' isSingleQuote none dashed single := paired_pairQuotes dashed
  have hdouble : Paired '"' '“' '”' (fun _ _ _ => true) none single double := paired_pairQuotes single
  refine ⟨?_, ?_, ?_, ?_⟩
  · rw [hsingles _ (by decide)]
    exact hsingle.filter_curly (notMem_of_filter_eq (filter_replaceDashes (by decide) t) hcurly)
  · rw [hwritten, filter_drawLetters (by decide)]
    exact hdouble.filter_quotes (fun _ _ _ => rfl) (notMem_of_filter_eq (hdoubles _ (by decide)) hcurly')
  · rw [countP_of_filter_eq (hsingles _ (by decide)), hsingle.countP_quotes, countP_of_filter_eq (filter_replaceDashes (by decide) t),
      countP_of_straight hcurly]
  · rw [hwritten, countP_of_filter_eq (filter_drawLetters (by decide) double), hdouble.countP_quotes,
      countP_of_filter_eq (hdoubles _ (by decide)), countP_of_straight hcurly']

/-- An apostrophe, quotes between quotes, and quotes of either kind that are never closed. -/
theorem quotes_applyEnglish_nested :
    let t := "'tis -- \"don't\" 'a *\"b\"* c' \"d. 'e".toList
    let t' := "‘tis — “don't” ’a “б” c' \"d. 'e".toList
    (∀ c ∈ ['‘', '’', '“', '”', '「', '」'], c ∉ t) ∧ applyEnglish t = t' ∧
      (∃ n, t'.filter (· ∈ ['‘', '’']) = quotePairs '‘' '’' n) ∧
      (∃ n, ∃ k ≤ 1, t'.filter (· ∈ ['"', '“', '”']) = quotePairs '“' '”' n ++ List.replicate k '"') ∧
      t'.countP (· ∈ ['\'', '‘', '’']) = t.count '\'' ∧ t'.countP (· ∈ ['"', '“', '”']) = t.count '"' := by
  intro t t'
  have hall : ['‘', '’', '“', '”', '「', '」'].all fun c => c ∉ t := by decide +kernel
  have hplain : ∀ c ∈ ['‘', '’', '“', '”', '「', '」'], c ∉ t := fun c hc => of_decide_eq_true (List.all_eq_true.mp hall c hc)
  have hwritten : applyEnglish t = t' := by decide +kernel
  have hquotes := quotes_applyEnglish hplain
  rw [hwritten] at hquotes
  exact ⟨hplain, hwritten, hquotes⟩

end SceneScript.Prose
