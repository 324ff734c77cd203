import SceneScript.Prose.Typesetter
import SceneScript.Proofs.Prose.English
import SceneScript.Proofs.Prose.Wrap
/-!
# Texts that were typeset

A text that was typeset is typeset already: guillemets are gone, the English typography is finished, the lines are
wrapped, and what wrapping writes starts none of that again. Two kinds of text are left out: those whose asterisks join
pieces, and those in which a space that may be given up follows a percent sign or a closing corner bracket.
-/
namespace SceneScript

open Text (Respelled SpelledIn Kept Thinned Apart Unjoined)

namespace Prose

/-! ## Breaks in finished text -/

private theorem isPrefixOf_of_breaks {t t' : Text} (h : Respelled BreakPiece t t') {word : Text} (hword : '%' ∉ word)
    (hfront : word.isPrefixOf t' = true) : word.isPrefixOf t = true := by
  induction word generalizing t t' with
  | nil => rfl
  | cons c word ih =>
    rw [List.mem_cons, not_or] at hword
    cases h with
    | nil => exact hfront
    | keep d h =>
      rw [List.isPrefixOf, Bool.and_eq_true] at hfront ⊢
      exact ⟨hfront.1, ih h hword.2 hfront.2⟩
    | piece hpiece _ =>
      obtain ⟨rfl, rfl⟩ := hpiece
      rw [List.cons_append, List.isPrefixOf, Bool.and_eq_true, beq_iff_eq] at hfront
      exact absurd hfront.1.symm hword.1

private theorem hasWord_of_breaks {t t' : Text} (h : Respelled BreakPiece t t') {c : Char} {word : Text}
    (hword : '%' ∉ c :: word) (hc : c ≠ 'N') (hnot : Text.hasWord (c :: word) t = false) :
    Text.hasWord (c :: word) t' = false := by
  induction h with
  | nil => exact hnot
  | @keep d t t' h ih =>
    rw [Text.hasWord, Bool.or_eq_false_iff] at hnot ⊢
    refine ⟨Bool.eq_false_iff.mpr fun hfront => Bool.eq_false_iff.mp hnot.1 ?_, ih hnot.2⟩
    exact isPrefixOf_of_breaks (.keep d h) hword hfront
  | piece hpiece _ ih =>
    obtain ⟨rfl, rfl⟩ := hpiece
    rw [List.cons_append, Text.hasWord, Bool.or_eq_false_iff] at hnot
    rw [List.mem_cons, not_or] at hword
    rw [List.cons_append, List.cons_append, Text.hasWord, Text.hasWord, List.isPrefixOf, List.isPrefixOf,
      beq_eq_false_iff_ne.mpr (Ne.symm hword.1), beq_eq_false_iff_ne.mpr hc, Bool.false_and, Bool.false_and, Bool.false_or,
      Bool.false_or]
    exact ih hnot.2

/-- Breaks leave nothing to do in a finished text, unless one comes to stand behind a closing corner bracket. -/
theorem Finished.of_breaks {t t' : Text} (h : Finished t) (hcorners : Apart '」' ' ' t) (hbreaks : Respelled BreakPiece t t') :
    Finished t' := by
  have hspace : isAlphabetic ' ' = false := by decide +kernel
  have hunmarked : ∀ mark ∉ [' ', '%', 'N'], ∀ u v, BreakPiece u v → Unmarked mark u v := by
    rintro mark hmark u v ⟨rfl, rfl⟩
    rw [List.mem_cons, not_or] at hmark
    exact ⟨by simpa using hmark.1, hmark.2, .of_not hspace _, .of_not hspace _⟩
  refine ⟨?_, ?_, ?_, ?_, ?_, ?_, ?_⟩
  · exact apart_of_breaks hbreaks (by decide) (by decide) (fun hb => absurd hb (by decide)) h.speech
  · exact apart_of_breaks hbreaks (by decide) (by decide) (fun _ => hcorners) h.corners
  · exact apart_of_breaks hbreaks (by decide) (by decide) (fun hb => absurd hb (by decide)) h.dashes
  · exact h.single.respelled sparing_isSingleQuote (hunmarked _ (by decide)) hbreaks id .none .none
  · exact h.double.respelled sparing_always (hunmarked _ (by decide)) hbreaks id .none .none
  · exact hasWord_of_breaks hbreaks (by decide) (by decide) h.drawn.dots
  · intro c hc
    by_cases hnew : c ∈ ['%', 'N']
    · have hall : ∀ c ∈ ['%', 'N'], c ≠ '*' ∧ Prose.drawn false c = c := by simp [Prose.drawn, accented?]
      exact hall c hnew
    · refine h.drawn.letters c (hbreaks.mem_of_mem ?_ hc)
      rintro u v ⟨rfl, rfl⟩
      exact hnew

/-! ## Guillemets -/

theorem replaceGuillemets_eq {t : Text} (h : '«' ∉ t ∧ '»' ∉ t) : replaceGuillemets t = t := by
  rw [replaceGuillemets, List.map_congr_left (g := id), List.map_id]
  intro c hc
  have hopen : c ≠ '«' := fun he => h.1 (he ▸ hc)
  have hclose : c ≠ '»' := fun he => h.2 (he ▸ hc)
  rw [if_neg hopen, if_neg hclose, id]

/-- The spellings of guillemets. -/
inductive GuillemetPiece : Text → Text → Prop
  | opening : GuillemetPiece ['«'] ['《']
  | closing : GuillemetPiece ['»'] ['》']

theorem respelled_replaceGuillemets (t : Text) : Respelled GuillemetPiece t (replaceGuillemets t) := by
  induction t with
  | nil => exact .nil
  | cons c t ih =>
    rw [replaceGuillemets, List.map_cons, ← replaceGuillemets]
    split_ifs with hopen hclose
    · rw [hopen]
      exact .piece .opening ih
    · rw [hclose]
      exact .piece .closing ih
    · exact .keep c ih

theorem kept_replaceGuillemets (t : Text) : Kept ['《', '》'] t (replaceGuillemets t) := by
  apply ((respelled_replaceGuillemets t).mono ?_).kept
  rintro u v (_ | _) <;> simp [SpelledIn]

private theorem notMem_replaceGuillemets (t : Text) : '«' ∉ replaceGuillemets t ∧ '»' ∉ replaceGuillemets t := by
  induction t with
  | nil => exact ⟨List.not_mem_nil, List.not_mem_nil⟩
  | cons c t ih =>
    rw [replaceGuillemets, List.map_cons, ← replaceGuillemets, List.mem_cons, List.mem_cons, not_or, not_or]
    refine ⟨⟨?_, ih.1⟩, ⟨?_, ih.2⟩⟩
    · split_ifs with h h'
      · decide
      · decide
      · exact fun heq => h heq.symm
    · split_ifs with h h'
      · decide
      · decide
      · exact fun heq => h' heq.symm

end Prose

namespace Typesetter

/-- Whether lines are wrapped. -/
def breaksLines (ts : Typesetter) : Bool := ts.english && ts.metrics?.isSome && ts.wraps && ts.target == .big5

/-- Whether no stage of the typography makes of a text what an earlier one would replace, or a last `\r` come last. -/
structure Settles (ts : Typesetter) (t : Text) : Prop where
  joinless : ts.english = true → Prose.Joinless t
  noReturn : ts.english = true → Apart '\r' '*' t
  codes : ts.breaksLines = true → Apart '%' ' ' t ∧ Unjoined '%' ' ' t
  corners : ts.breaksLines = true → Apart '」' ' ' t ∧ Unjoined '」' ' ' t

/-- The characters that the typography writes. -/
def signs : List Char := '《' :: '》' :: '%' :: 'N' :: Prose.englishSigns

/-- What becomes of all texts, without a table of names. -/
theorem set_cases {ts : Typesetter} (hspeakers : ts.speakers = .empty) :
    (ts.english = false ∧ ∀ t, (ts.set t).1 = Prose.replaceGuillemets t) ∨
    (ts.english = true ∧ ∀ t, (ts.set t).1 = Prose.applyEnglish (Prose.replaceGuillemets t)) ∨
    (ts.english = true ∧ ts.breaksLines = true ∧ ∃ metrics, ∀ t, (ts.set t).1 =
      (Prose.wrapLines metrics ts.wrap (Prose.applyEnglish (Prose.replaceGuillemets t))).1) := by
  obtain ⟨target, english, wraps, wrap, metrics?, speakers⟩ := ts
  obtain rfl : speakers = .empty := hspeakers
  have hnames : ∀ t, Speakers.empty.substitute target t = t := Speakers.substitute_empty target
  cases english with
  | false => exact .inl ⟨rfl, fun t => hnames _⟩
  | true =>
    cases metrics? with
    | none => exact .inr (.inl ⟨rfl, fun t => hnames _⟩)
    | some metrics =>
      cases hwraps : wraps && target == .big5 with
      | false =>
        refine .inr (.inl ⟨rfl, fun t => ?_⟩)
        rw [set, if_pos rfl]
        dsimp only
        rw [hwraps, if_neg Bool.false_ne_true, hnames]
      | true =>
        refine .inr (.inr ⟨rfl, ?_, metrics, fun t => ?_⟩)
        · rw [breaksLines, Option.isSome_some, Bool.and_true, Bool.and_assoc]
          exact hwraps
        · rw [set, if_pos rfl]
          dsimp only
          rw [hwraps, if_pos rfl, hnames]

/-- A text that was typeset is typeset already, and has kept its order but for the signs of the typography. -/
theorem set_spec {ts : Typesetter} (hspeakers : ts.speakers = .empty) {t : Text} (h : ts.Settles t) :
    (∀ c ∉ signs, c ∈ (ts.set t).1 → c ∈ t) ∧ ((ts.set t).1.getLast? = some '\r' → t.getLast? = some '\r') ∧
      (ts.set (ts.set t).1).1 = (ts.set t).1 := by
  let plain := Prose.replaceGuillemets t
  have hplain : Kept ['《', '》'] t plain := Prose.kept_replaceGuillemets t
  have hkept : Kept signs t plain := hplain.mono (by decide)
  have hguillemets : '«' ∉ plain ∧ '»' ∉ plain := Prose.notMem_replaceGuillemets t
  have hreturn : '\r' ∉ signs := by decide +kernel
  -- The English typography and the breaks bring no guillemets back.
  have hagain : ∀ {t'}, Thinned signs plain t' → Prose.replaceGuillemets t' = t' := fun hlater =>
    Prose.replaceGuillemets_eq ⟨fun hm => hguillemets.1 (hlater.mem _ (by decide +kernel) hm),
      fun hm => hguillemets.2 (hlater.mem _ (by decide +kernel) hm)⟩
  have hsub : Prose.englishSigns ⊆ signs := fun c hc => by simp [signs, hc]
  have hjoinless : ts.english = true → Prose.Joinless plain := fun henglish =>
    (h.joinless henglish).of_kept hplain (by simp)
  rcases set_cases hspeakers with ⟨-, hset⟩ | ⟨henglish, hset⟩ | ⟨henglish, hbreaks, metrics, hset⟩
  · rw [hset, hset]
    exact ⟨hkept.mem, hkept.last _ hreturn, hagain (Respelled.refl plain).kept.thinned⟩
  · obtain ⟨hlater, hfinished⟩ := Prose.applyEnglish_spec (hjoinless henglish)
    have hlater' := hlater.mono hsub
    have hthinned := hkept.trans_thinned (by decide +kernel) hlater'
    rw [hset, hset, hagain hlater', hfinished.applyEnglish_eq]
    exact ⟨hthinned.mem, hthinned.last _ hreturn (h.noReturn henglish), rfl⟩
  · obtain ⟨hlater, hfinished⟩ := Prose.applyEnglish_spec (hjoinless henglish)
    obtain ⟨hcode, hcode'⟩ := h.codes hbreaks
    obtain ⟨hcorner, hcorner'⟩ := h.corners hbreaks
    have hcodes : Apart '%' ' ' (Prose.applyEnglish plain) :=
      hlater.apart '%' (by decide +kernel) ' ' (by decide +kernel) (hplain.apart '%' (by decide) ' ' (by decide) hcode)
        (hplain.unjoined (by decide) '%' (by decide) ' ' (by decide) hcode')
    have hcorners : Apart '」' ' ' (Prose.applyEnglish plain) :=
      hlater.apart '」' (by decide +kernel) ' ' (by decide +kernel) (hplain.apart '」' (by decide) ' ' (by decide) hcorner)
        (hplain.unjoined (by decide) '」' (by decide) ' ' (by decide) hcorner')
    obtain ⟨hspelled, hwrapped⟩ := Prose.wrapLines_spec metrics ts.wrap hcodes
    have hbroken : Kept signs (Prose.applyEnglish plain) (ts.set t).1 := by
      rw [hset]
      refine (hspelled.mono ?_).kept
      rintro u v ⟨rfl, rfl⟩
      exact ⟨List.cons_ne_nil _ _, by simp [signs]⟩
    have hlater' := (hlater.mono hsub).trans_kept hbroken
    have hthinned := hkept.trans_thinned (by decide +kernel) hlater'
    refine ⟨hthinned.mem, hthinned.last _ hreturn (h.noReturn henglish), ?_⟩
    have hfinal := hagain hlater'
    rw [hset] at hfinal ⊢
    rw [hset, hfinal, (hfinished.of_breaks hcorners hspelled).applyEnglish_eq, hwrapped]

end Typesetter
end SceneScript
