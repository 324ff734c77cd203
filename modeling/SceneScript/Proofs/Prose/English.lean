import SceneScript.Proofs.Prose.Quotes
/-!
# Typography that is done

The stages of the English typography run one after the other, so a later one may make what an earlier one would have
replaced. The asterisks are what does: where they disappear, hyphens, full stops and brackets come together. In a text
in which they join nothing, nothing is left for any stage.
-/
namespace SceneScript.Prose

open Text (Respelled SpelledIn Kept Thinned Apart Unjoined)

/-- The letters from `А` to `я`. -/
def cyrillic : List Char := (List.range 64).map fun n => Char.ofNat (0x410 + n)

/-- The characters that the English typography writes. -/
def englishSigns : List Char := ['“', '”', '‘', '’', '—', '…'] ++ cyrillic

/-! ## Letters -/

/-- The spellings of upright text: an ellipsis, and letters as they are drawn. -/
inductive DrawnPiece : Text → Text → Prop
  | ellipsis : DrawnPiece ['.', '.', '.'] ['…']
  | letter (c : Char) (h : drawn false c ≠ c) : DrawnPiece [c] [drawn false c]

/-- What upright text is drawn with no longer changes. -/
structure Drawn (t : Text) : Prop where
  dots : Text.hasWord ['.', '.', '.'] t = false
  letters : ∀ c ∈ t, c ≠ '*' ∧ drawn false c = c

private theorem drawn_false (c : Char) : drawn false c = (accented? false c).getD c := by
  rw [drawn, Bool.false_and, if_neg Bool.false_ne_true, Bool.false_and, if_neg Bool.false_ne_true]

theorem isAlphabetic_of_mem_cyrillic {c : Char} (h : c ∈ cyrillic) : isAlphabetic c = true := by
  have hall : cyrillic.all isAlphabetic = true := by decide +kernel
  exact List.all_eq_true.mp hall c h

theorem cyrillic_subset : cyrillic ⊆ englishSigns := List.subset_append_right _ _

/-- A character is drawn as it is, or a letter as one of the redrawn letters. -/
theorem drawn_cases (italic : Bool) (c : Char) : drawn italic c = c ∨ drawn italic c ∈ cyrillic := by
  have hmem : ∀ n < 64, Char.ofNat (0x410 + n) ∈ cyrillic := fun n hn => List.mem_map_of_mem (List.mem_range.mpr hn)
  have hle : ∀ m : UInt32, c.val ≤ m → c.toNat ≤ m.toNat := fun m h => UInt32.le_iff_toNat_le.mp h
  have haccent : ∀ d, accented? italic c = some d → d ∈ cyrillic := by
    intro d hd
    have hletters : ['Ъ', 'Э', 'ъ', 'Ю', 'э', 'ю', 'ь', 'я'] ⊆ cyrillic := by decide +kernel
    apply hletters
    unfold accented? at hd
    split at hd
    all_goals first | cases hd; decide | simp_all
  rw [drawn]
  split_ifs with hupper hlower
  · rw [Bool.and_eq_true, Char.isUpper, decide_eq_true_eq] at hupper
    have hz : c.toNat ≤ 90 := hle _ hupper.2.2
    have ha : 'A'.toNat = 65 := rfl
    exact .inr (hmem (c.toNat - 'A'.toNat) (by omega))
  · rw [Bool.and_eq_true, Char.isLower, Bool.and_eq_true, decide_eq_true_eq, decide_eq_true_eq] at hlower
    have hz : c.toNat ≤ 122 := hle _ hlower.2.2
    have ha : 'a'.toNat = 97 := rfl
    have hoffset : 'а'.toNat + (c.toNat - 'a'.toNat) = 0x410 + (32 + (c.toNat - 'a'.toNat)) := by
      rw [← Nat.add_assoc]
      rfl
    rw [hoffset]
    exact .inr (hmem _ (by omega))
  · cases h : accented? italic c with
    | none => exact .inl rfl
    | some d => exact .inr (haccent d h)

private theorem drawn_of_mem {c : Char} (h : c ∈ englishSigns) : drawn false c = c := by
  have hall : englishSigns.all fun c => drawn false c == c := by decide +kernel
  exact beq_iff_eq.mp (List.all_eq_true.mp hall c h)

/-- A character that was drawn stays. -/
theorem drawn_drawn (c : Char) : drawn false (drawn false c) = drawn false c := by
  rcases drawn_cases false c with h | h
  · rw [h, h]
  · exact drawn_of_mem (cyrillic_subset h)

private theorem eq_of_drawn {c d : Char} (hd : d ∉ englishSigns) (h : drawn false c = d) : c = d := by
  rcases drawn_cases false c with hc | hc
  · rwa [hc] at h
  · exact absurd (cyrillic_subset (h ▸ hc)) hd

/-- Upright letters are drawn one by one, and full stops come to stand together nowhere. -/
private theorem go_drawLetters {t : Text} (h : '*' ∉ t) (done : Text) :
    ∃ out, drawLetters.go false done t = done.reverse ++ out ∧ Respelled DrawnPiece t out ∧ Drawn out ∧
      (['.'].isPrefixOf out = true → ['.'].isPrefixOf t = true) ∧
      (['.', '.'].isPrefixOf out = true → ['.', '.'].isPrefixOf t = true) := by
  generalize hfalse : false = italic
  fun_induction drawLetters.go italic done t with
  | case1 italic done =>
    exact ⟨[], (List.append_nil _).symm, .nil, ⟨rfl, fun _ hc => absurd hc List.not_mem_nil⟩, id, id⟩
  | case2 italic done rest ih =>
    obtain ⟨out, hgo, hout, hdrawn, -⟩ := ih (fun hm => h (by simp [hm])) hfalse
    refine ⟨'…' :: out, by rw [hgo, List.reverse_cons, List.append_assoc, List.singleton_append], .piece .ellipsis hout,
      ⟨?_, ?_⟩, nofun, nofun⟩
    · rw [Text.hasWord, hdrawn.dots]
      rfl
    · rw [List.forall_mem_cons]
      exact ⟨by decide +kernel, hdrawn.letters⟩
  | case3 italic done rest hdots ih => exact absurd List.mem_cons_self h
  | case4 italic done c rest hdots hc ih =>
    subst hfalse
    obtain ⟨out, hgo, hout, hdrawn, hone, htwo⟩ := ih (fun hm => h (List.mem_cons_of_mem _ hm)) rfl
    have hdot : '.' = drawn false c → c = '.' := fun heq => eq_of_drawn (by decide +kernel) heq.symm
    have hspelled : Respelled DrawnPiece (c :: rest) (drawn false c :: out) := by
      by_cases heq : drawn false c = c
      · rw [heq]
        exact .keep c hout
      · exact .piece (.letter c heq) hout
    refine ⟨drawn false c :: out, by rw [hgo, List.reverse_cons, List.append_assoc, List.singleton_append], hspelled,
      ⟨?_, ?_⟩, fun hfront => ?_, fun hfront => ?_⟩
    · rw [Text.hasWord, hdrawn.dots, Bool.or_false, ← Bool.not_eq_true, List.isPrefixOf, Bool.and_eq_true, beq_iff_eq]
      rintro ⟨heq, hfront⟩
      obtain ⟨more, rfl⟩ := List.isPrefixOf_iff_prefix.mp (htwo hfront)
      exact hdots more (hdot heq) rfl
    · rw [List.forall_mem_cons]
      exact ⟨⟨fun heq => hc (eq_of_drawn (by decide +kernel) heq), drawn_drawn c⟩, hdrawn.letters⟩
    · rw [List.isPrefixOf, Bool.and_eq_true, beq_iff_eq] at hfront ⊢
      exact ⟨(hdot hfront.1).symm, rfl⟩
    · rw [List.isPrefixOf, Bool.and_eq_true, beq_iff_eq] at hfront ⊢
      exact ⟨(hdot hfront.1).symm, hone hfront.2⟩

theorem drawLetters_spec {t : Text} (h : '*' ∉ t) :
    Respelled DrawnPiece t (drawLetters t) ∧ Drawn (drawLetters t) := by
  obtain ⟨out, hgo, hout, hdrawn, -⟩ := go_drawLetters h []
  rw [drawLetters, hgo]
  exact ⟨hout, hdrawn⟩

theorem Drawn.drawLetters_eq {t : Text} (h : Drawn t) : drawLetters t = t := by
  have hgo : ∀ done, drawLetters.go false done t = done.reverse ++ t := by
    intro done
    generalize hfalse : false = italic
    fun_induction drawLetters.go italic done t with
    | case1 italic done => exact (List.append_nil _).symm
    | case2 italic done rest ih =>
      have hdots := h.dots
      rw [Text.hasWord] at hdots
      cases hdots
    | case3 italic done rest hdots ih => exact absurd rfl (h.letters '*' List.mem_cons_self).1
    | case4 italic done c rest hdots hc ih =>
      subst hfalse
      have hrest : Drawn rest := by
        refine ⟨?_, fun d hd => h.letters d (List.mem_cons_of_mem _ hd)⟩
        have hword := h.dots
        rw [Text.hasWord, Bool.or_eq_false_iff] at hword
        exact hword.2
      rw [ih hrest rfl, (h.letters c List.mem_cons_self).2, List.reverse_cons, List.append_assoc, List.singleton_append]
  exact hgo []

/-! ## Asterisks -/

/-- What becomes of a character between asterisks, and of one that is not. -/
def slanted (italic : Bool) (c : Char) : Char := if italic then drawn true c else c

/-- What becomes of a text when its asterisks disappear. -/
def slant (italic : Bool) : Text → Text
  | [] => []
  | c :: t => if c = '*' then slant (!italic) t else slanted italic c :: slant italic t

/-- A character stays, or is a letter and becomes one of the redrawn letters. -/
theorem slanted_cases (italic : Bool) (c : Char) :
    slanted italic c = c ∨ (slanted italic c ∈ englishSigns ∧ isAlphabetic (slanted italic c) = true) := by
  cases italic with
  | false => exact .inl rfl
  | true => exact (drawn_cases true c).imp_right fun h => ⟨cyrillic_subset h, isAlphabetic_of_mem_cyrillic h⟩

private theorem eq_of_slanted {italic : Bool} {c d : Char} (hd : d ∉ englishSigns) (h : slanted italic c = d) : c = d := by
  rcases slanted_cases italic c with hc | ⟨hc, -⟩
  · rwa [hc] at h
  · exact absurd (h ▸ hc) hd

theorem mem_of_mem_slant {italic : Bool} {t : Text} {c : Char} (hc : c ∉ englishSigns) (h : c ∈ slant italic t) : c ∈ t := by
  induction t generalizing italic with
  | nil => exact h
  | cons d t ih =>
    rw [slant] at h
    split_ifs at h with hd
    · exact List.mem_cons_of_mem _ (ih h)
    · rcases List.mem_cons.mp h with h | h
      · exact List.mem_cons.mpr (.inl (eq_of_slanted hc h.symm).symm)
      · exact List.mem_cons_of_mem _ (ih h)

theorem star_notMem_slant (italic : Bool) (t : Text) : '*' ∉ slant italic t := by
  induction t generalizing italic with
  | nil => exact List.not_mem_nil
  | cons c t ih =>
    rw [slant]
    split_ifs with hc
    · exact ih _
    · rw [List.mem_cons, not_or]
      exact ⟨fun heq => hc (eq_of_slanted (by decide +kernel) heq.symm), ih _⟩

/-- What comes to stand first was first behind the asterisks. -/
private theorem head?_of_slant {italic : Bool} {t : Text} {b : Char} (hb : b ∉ englishSigns)
    (h : (slant italic t).head? = some b) : (t.dropWhile (· = '*')).head? = some b := by
  induction t generalizing italic with
  | nil => exact h
  | cons c t ih =>
    rw [slant] at h
    rw [List.dropWhile_cons]
    split_ifs at h with hc
    · rw [if_pos (decide_eq_true hc)]
      exact ih h
    · rw [if_neg (by simpa using hc)]
      exact congrArg some (eq_of_slanted hb (Option.some.inj h))

/-- Where asterisks join nothing, what comes to stand behind a character stood there before. -/
private theorem head?_of_unjoined {italic : Bool} {t : Text} {a b : Char} (hb : b ∉ englishSigns)
    (hunjoined : Unjoined a b (a :: t)) (h : (slant italic t).head? = some b) : t.head? = some b := by
  have hfirst := head?_of_slant hb h
  cases t with
  | nil => exact h
  | cons c t =>
    rw [List.dropWhile_cons] at hfirst
    split_ifs at hfirst with hc
    · rw [decide_eq_true_eq] at hc
      refine absurd ?_ (hunjoined.1 rfl (congrArg some hc))
      rw [List.dropWhile_cons, if_pos (decide_eq_true hc)]
      exact hfirst
    · exact hfirst

private theorem head?_of_slant_eq_nil {italic : Bool} {t : Text} (h : slant italic t = []) : t = [] ∨ t.head? = some '*' := by
  cases t with
  | nil => exact .inl rfl
  | cons c t =>
    rw [slant] at h
    split_ifs at h with hc
    exact .inr (congrArg some hc)

theorem thinned_slant (italic : Bool) (t : Text) : Thinned englishSigns t (slant italic t) where
  mem := fun _ => mem_of_mem_slant
  last := by
    intro c hc hapart h
    induction t generalizing italic with
    | nil => exact h
    | cons d t ih =>
      rw [Text.apart_cons] at hapart
      rw [slant] at h
      rw [List.getLast?_cons]
      split_ifs at h with hd
      · rw [ih _ hapart.2 h]
        rfl
      · rw [List.getLast?_cons] at h
        cases hlast : (slant italic t).getLast? with
        | some e =>
          rw [hlast] at h
          rw [ih italic hapart.2 (hlast.trans h)]
          rfl
        | none =>
          rw [hlast] at h
          obtain rfl := eq_of_slanted hc (Option.some.inj h)
          rcases head?_of_slant_eq_nil (List.getLast?_eq_none_iff.mp hlast) with rfl | hhead
          · rfl
          · exact absurd hhead (hapart.1 rfl)
  apart := by
    intro a ha b hb hapart hunjoined
    induction t generalizing italic with
    | nil => exact .nil
    | cons c t ih =>
      rw [slant]
      split_ifs with hc
      · exact ih _ (Text.apart_cons.mp hapart).2 hunjoined.2
      · refine Text.apart_cons.mpr ⟨fun hca hhead => ?_, ih _ (Text.apart_cons.mp hapart).2 hunjoined.2⟩
        obtain rfl := eq_of_slanted ha hca
        exact (Text.apart_cons.mp hapart).1 rfl (head?_of_unjoined hb hunjoined hhead)

/-- An italic character is drawn already, but for two accented letters that have no italic form. -/
private theorem drawn_slanted {italic : Bool} {c : Char} (h : italic = true → c ≠ 'ä' ∧ c ≠ 'ö') :
    drawn false (slanted italic c) = drawn italic c := by
  cases italic with
  | false => rfl
  | true =>
    change drawn false (drawn true c) = drawn true c
    rcases drawn_cases true c with hc | hc
    · rw [hc, drawn_false]
      cases haccent : accented? false c with
      | none => rfl
      | some d =>
        have hplain := h rfl
        unfold accented? at haccent
        split at haccent
        all_goals first | exact absurd hc (by decide) | simp_all
    · exact drawn_of_mem (cyrillic_subset hc)

/-- Full stops that come to stand side by side stood there before. -/
private theorem dots_of_slant {italic : Bool} {t more : Text} (hdots : Unjoined '.' '.' ('.' :: t))
    (h : slant italic t = '.' :: '.' :: more) : ∃ more, t = '.' :: '.' :: more := by
  have hdot : '.' ∉ englishSigns := by decide +kernel
  have hfirst : t.head? = some '.' := head?_of_unjoined hdot hdots (congrArg List.head? h)
  obtain ⟨t, rfl⟩ := List.head?_eq_some_iff.mp hfirst
  rw [slant, if_neg (by decide), List.cons.injEq] at h
  have hsecond : t.head? = some '.' := head?_of_unjoined hdot hdots.2 (congrArg List.head? h.2)
  obtain ⟨t, rfl⟩ := List.head?_eq_some_iff.mp hsecond
  exact ⟨t, rfl⟩

private theorem go_drawLetters_slant {italic : Bool} {t : Text} (hdots : Unjoined '.' '.' t)
    (humlauts : italic = true ∨ '*' ∈ t → ∀ c ∈ t, c ≠ 'ä' ∧ c ≠ 'ö') (done : Text) :
    drawLetters.go false done (slant italic t) = drawLetters.go italic done t := by
  fun_induction drawLetters.go italic done t with
  | case1 italic done => rfl
  | case2 italic done rest ih =>
    have hslant : slant italic ('.' :: '.' :: '.' :: rest) = '.' :: '.' :: '.' :: slant italic rest := by
      cases italic <;> rfl
    rw [hslant, drawLetters.go]
    refine ih (hdots.of_append ['.', '.', '.']) fun h d hd => ?_
    exact humlauts (h.imp_right (List.mem_append_right ['.', '.', '.'])) d (List.mem_append_right ['.', '.', '.'] hd)
  | case3 italic done rest _ ih =>
    rw [slant, if_pos rfl]
    exact ih hdots.2 fun _ d hd => humlauts (.inr List.mem_cons_self) d (List.mem_cons_of_mem _ hd)
  | case4 italic done c rest hnot hc ih =>
    have hdot : slanted italic c = '.' → c = '.' := eq_of_slanted (by decide +kernel)
    rw [slant, if_neg hc, drawLetters.go, if_neg fun heq => hc (eq_of_slanted (by decide +kernel) heq), drawn_slanted]
    · exact ih hdots.2 fun h d hd => humlauts (h.imp_right (List.mem_cons_of_mem _)) d (List.mem_cons_of_mem _ hd)
    · exact fun hitalic => humlauts (.inl hitalic) c List.mem_cons_self
    · intro more heq hmore
      obtain rfl := hdot heq
      obtain ⟨more, rfl⟩ := dots_of_slant hdots hmore
      exact hnot more rfl rfl

/-- Between asterisks, letters are drawn as if they had been written in italics. -/
theorem drawLetters_slant {t : Text} (hdots : Unjoined '.' '.' t) (humlauts : '*' ∈ t → ∀ c ∈ t, c ≠ 'ä' ∧ c ≠ 'ö') :
    drawLetters (slant false t) = drawLetters t :=
  go_drawLetters_slant hdots (fun h => humlauts (h.resolve_left Bool.false_ne_true)) []

private theorem any_slanted (italic : Bool) {c : Char} (h : (some c).any isAlphabetic = true) :
    (some (slanted italic c)).any isAlphabetic = true := by
  rcases slanted_cases italic c with hc | ⟨-, hc⟩
  · rw [hc]
    exact h
  · exact hc

private theorem any_head?_slant (italic : Bool) {t : Text} (h : t.head?.any isAlphabetic = true) :
    (slant italic t).head?.any isAlphabetic = true := by
  cases t with
  | nil => cases h
  | cons c t =>
    have hstar : isAlphabetic '*' = false := by decide +kernel
    have hc : c ≠ '*' := by
      rintro rfl
      exact absurd (hstar.symm.trans h) Bool.false_ne_true
    rw [slant, if_neg hc]
    exact any_slanted italic h

section Unpaired

variable {mark : Char} {counts : Bool → Option Char → Text → Bool} {isOpen isOpen' : Bool} {prev prev' : Option Char}

/-- A mark that is no quote behind a letter, or between letters, is none behind or between others. With nothing behind it
the mark may come to open a quote. -/
private theorem Unpaired.keeps (hcounts : Sparing counts) {t t' : Text} (hkeep : counts isOpen prev t = false)
    (hopen : isOpen' = true → isOpen = true) (hprev : prev.any isAlphabetic = true → prev'.any isAlphabetic = true)
    (hhead : t.head?.any isAlphabetic = true → t'.head?.any isAlphabetic = true)
    (h : Unpaired mark counts [] isOpen' (some mark) t') : Unpaired mark counts [] isOpen' prev' (mark :: t') := by
  have hkept : counts isOpen' prev' (t' ++ []) = false → Unpaired mark counts [] isOpen' prev' (mark :: t') :=
    fun hcount => .keep (fun _ => hcount) h
  rw [List.append_nil] at hkept
  cases isOpen with
  | true =>
    have hinside := hcounts.between hprev hhead hkeep
    cases isOpen' with
    | true => exact hkept hinside
    | false => exact hkept (Bool.eq_false_iff.mpr fun hcount => Bool.eq_false_iff.mp hinside (hcounts.of_closed hcount))
  | false =>
    obtain rfl : isOpen' = false := Bool.eq_false_iff.mpr fun ho => absurd (hopen ho) Bool.false_ne_true
    cases t' with
    | cons c t' => exact hkept (hcounts.behind hprev (List.cons_ne_nil _ _) hkeep)
    | nil =>
      cases hcount : counts false prev' [] with
      | true => exact .opens hcount (.nil _ _)
      | false => exact hkept hcount

/-- Asterisks that disappear bring letters together, but nothing that would close a quote. -/
theorem Unpaired.slant (hcounts : Sparing counts) (hmark : mark ∉ '*' :: englishSigns)
    (hslanted : ∀ italic, slanted italic mark = mark) {italic : Bool} {t : Text} (h : Unpaired mark counts [] isOpen prev t)
    (hopen : isOpen' = true → isOpen = true) (hprev : prev.any isAlphabetic = true → prev'.any isAlphabetic = true) :
    Unpaired mark counts [] isOpen' prev' (slant italic t) := by
  induction t generalizing isOpen isOpen' italic prev prev' with
  | nil => exact .nil _ _
  | cons c t ih =>
    rw [List.mem_cons, not_or] at hmark
    rw [Prose.slant]
    split_ifs with hc
    · subst hc
      cases h with
      | opens _ _ => exact absurd rfl hmark.1
      | keep _ h =>
        have hstar : isAlphabetic '*' = false := by decide +kernel
        exact ih h hopen fun hletter => absurd (hstar.symm.trans hletter) Bool.false_ne_true
    · cases h with
      | opens _ h =>
        obtain rfl : isOpen' = false := Bool.eq_false_iff.mpr fun ho => absurd (hopen ho) Bool.false_ne_true
        rw [hslanted]
        cases hcount : counts false prev' (Prose.slant italic t ++ []) with
        | true => exact .opens hcount (ih h (fun _ => rfl) id)
        | false => exact .keep (fun _ => hcount) (ih h (fun _ => rfl) id)
      | keep hkeep h =>
        have hrest : Unpaired mark counts [] isOpen' (some (slanted italic c)) (Prose.slant italic t) :=
          ih h hopen (any_slanted italic)
        by_cases hcm : slanted italic c = mark
        · obtain rfl := eq_of_slanted hmark.2 hcm
          rw [List.append_nil] at hkeep
          rw [hcm] at hrest ⊢
          exact .keeps hcounts (hkeep rfl) hopen hprev (any_head?_slant italic) hrest
        · exact .keep (fun heq => absurd heq hcm) hrest

end Unpaired

/-! ## The stages -/

/-- Whether no stage of the English typography finds anything to do. -/
structure Finished (t : Text) : Prop where
  speech : Apart '】' '「' t
  corners : Apart '」' '%' t
  dashes : Apart '-' '-' t
  single : Unpaired '\'' isSingleQuote [] false none t
  double : Unpaired '"' (fun _ _ _ => true) [] false none t
  drawn : Drawn t

/-- A finished text stays as it is. -/
theorem Finished.applyEnglish_eq {t : Text} (h : Finished t) : applyEnglish t = t := by
  have hclose : closeSpeech t = t := by
    rw [closeSpeech, Text.hasWord_of_apart h.speech, Bool.false_and, if_neg Bool.false_ne_true]
  rw [applyEnglish, hclose, Text.replacePair_of_apart h.speech, Text.replacePair_of_apart h.corners]
  rw [Text.replacePair_of_apart h.dashes, pairSingleQuotes, pairQuotes_of_unpaired h.single, pairDoubleQuotes,
    pairQuotes_of_unpaired h.double, h.drawn.drawLetters_eq]

/-- The spellings of the stages before the letters, dashes apart: corner brackets and straight quotes become curly quotes. -/
inductive CurlyPiece : Text → Text → Prop
  | curl {c d : Char} (hc : c ∈ ['「', '」', '\'', '"']) (hd : d ∈ ['“', '”', '‘', '’']) : CurlyPiece [c] [d]

theorem CurlyPiece.notMem {u v : Text} (h : CurlyPiece u v) {c : Char}
    (hc : c ∉ ['「', '」', '\'', '"', '“', '”', '‘', '’']) : c ∉ u ∧ c ∉ v := by
  cases h with
  | curl ho hn =>
    rw [List.mem_singleton, List.mem_singleton]
    constructor
    · rintro rfl
      exact hc (List.mem_append_left ['“', '”', '‘', '’'] ho)
    · rintro rfl
      exact hc (List.mem_append_right ['「', '」', '\'', '"'] hn)

theorem CurlyPiece.ne_nil {u v : Text} (h : CurlyPiece u v) : u ≠ [] ∧ v ≠ [] := by
  cases h
  exact ⟨List.cons_ne_nil _ _, List.cons_ne_nil _ _⟩

private theorem curly_closeSpeech (t : Text) : Respelled CurlyPiece t (closeSpeech t) := by
  rw [closeSpeech]
  split_ifs with hspeech
  · rw [Bool.and_eq_true, beq_iff_eq] at hspeech
    have hlast : t = t.dropLast ++ ['」'] := (List.dropLast_append_getLast? _ hspeech.2).symm
    have hspelled : Respelled CurlyPiece (t.dropLast ++ ['」']) (t.dropLast ++ ['”']) :=
      (Respelled.refl _).append (.piece (u := ['」']) (v := ['”']) (.curl (by decide) (by decide)) .nil)
    rwa [← hlast] at hspelled
  · exact .refl t

private theorem curly_replaceSpeech (t : Text) : Respelled CurlyPiece t (Text.replacePair '】' '「' ['】', '“'] t) := by
  refine (Text.respelled_replacePair (by decide) (by decide) (by decide) (by decide) t).of_pieces ?_
  rintro u v ⟨rfl, rfl⟩
  exact .keep '】' (.piece (u := ['「']) (v := ['“']) (.curl (by decide) (by decide)) .nil)

private theorem curly_replaceCorners (t : Text) : Respelled CurlyPiece t (Text.replacePair '」' '%' ['”', '%'] t) := by
  refine (Text.respelled_replacePair (by decide) (by decide) (by decide) (by decide) t).of_pieces ?_
  rintro u v ⟨rfl, rfl⟩
  exact .piece (u := ['」']) (v := ['”']) (.curl (by decide) (by decide)) (.keep '%' .nil)

private theorem curly_pairQuotes {mark opening closing : Char} {counts : Bool → Option Char → Text → Bool}
    (hmark : mark ∈ ['「', '」', '\'', '"']) (hopening : opening ∈ ['“', '”', '‘', '’'])
    (hclosing : closing ∈ ['“', '”', '‘', '’']) (t : Text) :
    Respelled CurlyPiece t (pairQuotes mark opening closing counts t) := by
  refine (paired_pairQuotes t).respelled.mono ?_
  rintro u v ⟨rfl, rfl | rfl⟩
  · exact .curl hmark hopening
  · exact .curl hmark hclosing

private theorem curly_pairSingleQuotes (t : Text) : Respelled CurlyPiece t (pairSingleQuotes t) :=
  curly_pairQuotes (by decide) (by decide) (by decide) t

private theorem curly_pairDoubleQuotes (t : Text) : Respelled CurlyPiece t (pairDoubleQuotes t) :=
  curly_pairQuotes (by decide) (by decide) (by decide) t

private theorem spelledIn_sign (u : Text) {c : Char} (hc : c ∈ englishSigns) : SpelledIn englishSigns u [c] :=
  ⟨List.cons_ne_nil _ _, List.forall_mem_singleton.mpr hc⟩

private theorem kept_curly {t t' : Text} (h : Respelled CurlyPiece t t') : Kept englishSigns t t' := by
  refine (h.mono ?_).kept
  rintro u v ⟨-, hd⟩
  have hcurly : ['“', '”', '‘', '’'] ⊆ englishSigns := by decide +kernel
  exact spelledIn_sign _ (hcurly hd)

private theorem respelled_replaceDashes (t : Text) :
    Respelled (fun u v => u = ['-', '-'] ∧ v = ['—']) t (Text.replacePair '-' '-' ['—'] t) :=
  Text.respelled_replacePair (by decide) (by decide) (by decide) (by decide) t

private theorem kept_replaceDashes (t : Text) : Kept englishSigns t (Text.replacePair '-' '-' ['—'] t) := by
  refine ((respelled_replaceDashes t).mono ?_).kept
  rintro u v ⟨rfl, rfl⟩
  exact spelledIn_sign _ (by decide +kernel)

private theorem kept_drawLetters {t : Text} (h : '*' ∉ t) : Kept englishSigns t (drawLetters t) := by
  refine ((drawLetters_spec h).1.mono ?_).kept
  rintro u v (_ | ⟨c, hc⟩)
  · exact spelledIn_sign _ (by decide +kernel)
  · exact spelledIn_sign _ (cyrillic_subset ((drawn_cases false c).resolve_left hc))

/-- Drawing letters touches no quotes. -/
private theorem unmarked_of_drawnPiece {mark : Char} (hmark : mark ∉ '…' :: '.' :: englishSigns) (hdrawn : drawn false mark = mark)
    {u v : Text} (h : DrawnPiece u v) : Unmarked mark u v := by
  rw [List.mem_cons, not_or, List.mem_cons, not_or] at hmark
  cases h with
  | ellipsis =>
    have hdot : isAlphabetic '.' = false := by decide +kernel
    exact ⟨by simp [hmark], by simp [hmark], .of_not hdot _, .of_not hdot _⟩
  | letter c hc =>
    have hletter := (drawn_cases false c).resolve_left hc
    have halpha := isAlphabetic_of_mem_cyrillic hletter
    refine ⟨?_, ?_, .some fun _ => halpha, .some fun _ => halpha⟩
    · rw [List.mem_singleton]
      rintro rfl
      exact hc hdrawn
    · rw [List.mem_singleton]
      intro heq
      exact hmark.2.2 (cyrillic_subset (heq ▸ hletter))

/-- Pairing quotes of one kind leaves those of the other. -/
private theorem unmarked_of_quotePiece {mark mark' opening closing : Char} (hmark : isAlphabetic mark = false)
    (hne : mark' ∉ [mark, opening, closing]) {u v : Text} (h : QuotePiece mark opening closing u v) : Unmarked mark' u v := by
  simp only [List.mem_cons, List.not_mem_nil, or_false, not_or] at hne
  obtain ⟨rfl, rfl | rfl⟩ := h
  · exact ⟨by simpa using hne.1, by simpa using hne.2.1, .of_not hmark _, .of_not hmark _⟩
  · exact ⟨by simpa using hne.1, by simpa using hne.2.2, .of_not hmark _, .of_not hmark _⟩

/-- Whether the asterisks of a text, where they disappear, join nothing that the typography replaces, and whether all the
letters of a text with asterisks have an italic form. -/
structure Joinless (t : Text) : Prop where
  speech : Unjoined '】' '「' t
  corners : Unjoined '」' '%' t
  dashes : Unjoined '-' '-' t
  dots : Unjoined '.' '.' t
  italics : '*' ∈ t → ∀ c ∈ t, c ≠ 'ä' ∧ c ≠ 'ö'

theorem joinless_of_notMem {t : Text} (h : '*' ∉ t) : Joinless t where
  speech := Text.unjoined_of_notMem h
  corners := Text.unjoined_of_notMem h
  dashes := Text.unjoined_of_notMem h
  dots := Text.unjoined_of_notMem h
  italics := fun hstar => absurd hstar h

theorem Joinless.of_kept {signs : List Char} {t t' : Text} (h : Joinless t) (hkept : Kept signs t t')
    (hsigns : ∀ c ∈ ['*', '】', '「', '」', '%', '-', '.', 'ä', 'ö'], c ∉ signs) : Joinless t' where
  speech := hkept.unjoined (hsigns _ (by decide)) _ (hsigns _ (by decide)) _ (hsigns _ (by decide)) h.speech
  corners := hkept.unjoined (hsigns _ (by decide)) _ (hsigns _ (by decide)) _ (hsigns _ (by decide)) h.corners
  dashes := hkept.unjoined (hsigns _ (by decide)) _ (hsigns _ (by decide)) _ (hsigns _ (by decide)) h.dashes
  dots := hkept.unjoined (hsigns _ (by decide)) _ (hsigns _ (by decide)) _ (hsigns _ (by decide)) h.dots
  italics := by
    intro hstar c hc
    have hplain := h.italics (hkept.mem _ (hsigns _ (by decide)) hstar)
    refine ⟨?_, ?_⟩
    · rintro rfl
      exact (hplain _ (hkept.mem _ (hsigns _ (by decide)) hc)).1 rfl
    · rintro rfl
      exact (hplain _ (hkept.mem _ (hsigns _ (by decide)) hc)).2 rfl

private theorem notMem_englishSigns : ∀ c ∈ ['*', '】', '「', '」', '%', '-', '.', 'ä', 'ö'], c ∉ englishSigns := by
  have hnone : ['*', '】', '「', '」', '%', '-', '.', 'ä', 'ö'].all fun c => c ∉ englishSigns := by decide +kernel
  exact fun c hc => of_decide_eq_true (List.all_eq_true.mp hnone c hc)

/-- What the typography makes of a text in which asterisks join nothing is finished, and keeps its order but for the new
signs. -/
theorem applyEnglish_spec {t : Text} (h : Joinless t) :
    Thinned englishSigns t (applyEnglish t) ∧ Finished (applyEnglish t) := by
  let speech := Text.replacePair '】' '「' ['】', '“'] (closeSpeech t)
  let quoted := Text.replacePair '」' '%' ['”', '%'] speech
  let dashed := Text.replacePair '-' '-' ['—'] quoted
  let single := pairSingleQuotes dashed
  let double := pairDoubleQuotes single
  have hspeech : Kept englishSigns t speech := (kept_curly (curly_closeSpeech t)).trans (kept_curly (curly_replaceSpeech _))
  have hquoted : Kept englishSigns speech quoted := kept_curly (curly_replaceCorners _)
  have hdashed : Kept englishSigns quoted dashed := kept_replaceDashes _
  have hsingle : Kept englishSigns dashed single := kept_curly (curly_pairSingleQuotes dashed)
  have hdouble : Kept englishSigns single double := kept_curly (curly_pairDoubleQuotes single)
  have hpaired : Kept englishSigns dashed double := hsingle.trans hdouble
  have hbefore : Kept englishSigns t double := hspeech.trans (hquoted.trans (hdashed.trans hpaired))
  have hjoinless : Joinless double := h.of_kept hbefore notMem_englishSigns
  have hletters : drawLetters (slant false double) = applyEnglish t := drawLetters_slant hjoinless.dots hjoinless.italics
  have hstar := star_notMem_slant false double
  obtain ⟨hspelled, hfinal⟩ := drawLetters_spec hstar
  have hlater : Thinned englishSigns double (applyEnglish t) := by
    rw [← hletters]
    exact (thinned_slant false double).trans_kept (kept_drawLetters hstar)
  rw [hletters] at hspelled hfinal
  have hquote : isAlphabetic '\'' = false := by decide +kernel
  have hquotes : isAlphabetic '"' = false := by decide +kernel
  have hpairless : Unpaired '\'' isSingleQuote [] false none double :=
    ((paired_pairQuotes dashed).unpaired sparing_isSingleQuote hquote (by decide) (by decide) .none).respelled
      sparing_isSingleQuote (fun _ _ => unmarked_of_quotePiece hquotes (by decide)) (paired_pairQuotes single).respelled id
      .none .none
  have hpairless' : Unpaired '"' (fun _ _ _ => true) [] false none double :=
    (paired_pairQuotes single).unpaired sparing_always hquotes (by decide) (by decide) .none
  refine ⟨hbefore.trans_thinned (by decide +kernel) hlater, ?_, ?_, ?_, ?_, ?_, hfinal⟩
  · refine hlater.apart '】' (by decide +kernel) '「' (by decide +kernel) ?_ hjoinless.speech
    exact (hquoted.trans (hdashed.trans hpaired)).apart '】' (by decide +kernel) '「' (by decide +kernel)
      (Text.apart_replacePair (by decide) (by decide) (by decide) (by decide) _)
  · refine hlater.apart '」' (by decide +kernel) '%' (by decide +kernel) ?_ hjoinless.corners
    exact (hdashed.trans hpaired).apart '」' (by decide +kernel) '%' (by decide +kernel)
      (Text.apart_replacePair (by decide) (by decide) (by decide) (by decide) _)
  · refine hlater.apart '-' (by decide +kernel) '-' (by decide +kernel) ?_ hjoinless.dashes
    exact hpaired.apart '-' (by decide +kernel) '-' (by decide +kernel)
      (Text.apart_replacePair (by decide) (by decide) (by decide) (by decide) _)
  · exact (hpairless.slant sparing_isSingleQuote (by decide +kernel) (fun italic => by cases italic <;> rfl) id id).respelled
      sparing_isSingleQuote (fun _ _ => unmarked_of_drawnPiece (by decide +kernel) (by decide)) hspelled id .none .none
  · exact (hpairless'.slant sparing_always (by decide +kernel) (fun italic => by cases italic <;> rfl) id id).respelled
      sparing_always (fun _ _ => unmarked_of_drawnPiece (by decide +kernel) (by decide)) hspelled id .none .none

/-- Where asterisks join nothing, the English typography has nothing to do a second time. -/
theorem applyEnglish_applyEnglish {t : Text} (h : Joinless t) : applyEnglish (applyEnglish t) = applyEnglish t :=
  (applyEnglish_spec h).2.applyEnglish_eq

/-- A text without asterisks is finished once the English typography was applied to it. -/
theorem applyEnglish_idempotent {t : Text} (h : '*' ∉ t) : applyEnglish (applyEnglish t) = applyEnglish t := by
  have hjoinless : Joinless t := joinless_of_notMem h
  exact applyEnglish_applyEnglish hjoinless

/-- Odd runs of hyphens and full stops, an apostrophe, a quote that is never closed, and speech. -/
theorem applyEnglish_idempotent_speech :
    let t := "【A】「'tis ---- don't' -- \"é..... 'a」%N'\"b」".toList
    '*' ∉ t ∧ applyEnglish t = "【A】“‘tis —— don't’ — “э….. ‘a”%N’”b”".toList ∧
      applyEnglish (applyEnglish t) = applyEnglish t := by
  intro t
  have hstar : '*' ∉ t := by decide +kernel
  exact ⟨hstar, by decide +kernel, applyEnglish_idempotent hstar⟩

/-! ## What comes in -/

/-- The spellings of the letters: an ellipsis, asterisks that disappear, and letters as they are drawn. -/
inductive LetterPiece : Text → Text → Prop
  | ellipsis : LetterPiece ['.', '.', '.'] ['…']
  | asterisk : LetterPiece ['*'] []
  | letter (italic : Bool) (c : Char) (h : drawn italic c ≠ c) : LetterPiece [c] [drawn italic c]

private theorem respelled_go (italic : Bool) (done t : Text) :
    ∃ out, drawLetters.go italic done t = done.reverse ++ out ∧ Respelled LetterPiece t out := by
  fun_induction drawLetters.go italic done t with
  | case1 italic done => exact ⟨[], (List.append_nil _).symm, .nil⟩
  | case2 italic done rest ih =>
    obtain ⟨out, hgo, hout⟩ := ih
    exact ⟨'…' :: out, by simp [hgo], .piece .ellipsis hout⟩
  | case3 italic done rest hdots ih =>
    obtain ⟨out, hgo, hout⟩ := ih
    exact ⟨out, hgo, .piece .asterisk hout⟩
  | case4 italic done c rest hdots hc ih =>
    obtain ⟨out, hgo, hout⟩ := ih
    refine ⟨drawn italic c :: out, by simp [hgo], ?_⟩
    by_cases heq : drawn italic c = c
    · rw [heq]
      exact .keep c hout
    · exact .piece (.letter italic c heq) hout

theorem respelled_drawLetters (t : Text) : Respelled LetterPiece t (drawLetters t) := by
  obtain ⟨out, hgo, hout⟩ := respelled_go false [] t
  rw [drawLetters, hgo]
  exact hout

private theorem LetterPiece.notMem {u v : Text} (h : LetterPiece u v) {c : Char} (hc : c ∉ englishSigns) : c ∉ v := by
  intro hm
  cases h with
  | ellipsis =>
    rw [List.mem_singleton] at hm
    exact hc (by rw [hm]; decide +kernel)
  | asterisk => cases hm
  | letter italic d hd =>
    rw [List.mem_singleton] at hm
    exact hc (hm ▸ cyrillic_subset ((drawn_cases italic d).resolve_left hd))

/-- Drawing letters touches no other characters. -/
theorem LetterPiece.notMem_of_fixed {u v : Text} (h : LetterPiece u v) {c : Char} (hc : c ∉ '.' :: '…' :: '*' :: cyrillic)
    (hfixed : ∀ italic, drawn italic c = c) : c ∉ u ∧ c ∉ v := by
  simp only [List.mem_cons, not_or] at hc
  cases h with
  | ellipsis => simp [hc]
  | asterisk => simp [hc]
  | letter italic d hd =>
    rw [List.mem_singleton, List.mem_singleton]
    constructor
    · rintro rfl
      exact hd (hfixed italic)
    · intro heq
      exact hc.2.2.2 (heq ▸ (drawn_cases italic d).resolve_left hd)

/-- The English typography brings in none but its own signs. -/
theorem mem_of_mem_applyEnglish {t : Text} {c : Char} (hc : c ∉ englishSigns) (h : c ∈ applyEnglish t) : c ∈ t := by
  have hletters := (respelled_drawLetters _).mem_of_mem (fun u v hpiece => hpiece.notMem hc) h
  have hdouble := (kept_curly (curly_pairDoubleQuotes _)).mem c hc hletters
  have hsingle := (kept_curly (curly_pairSingleQuotes _)).mem c hc hdouble
  have hdashes := (kept_replaceDashes _).mem c hc hsingle
  have hcorners := (kept_curly (curly_replaceCorners _)).mem c hc hdashes
  have hspeech := (kept_curly (curly_replaceSpeech _)).mem c hc hcorners
  exact (kept_curly (curly_closeSpeech t)).mem c hc hspeech

private theorem dash_mem_replaceDashes (t : Text) :
    '—' ∈ Text.replacePair '-' '-' ['—'] t ↔ '—' ∈ t ∨ ¬Apart '-' '-' t := by
  have hspelled := respelled_replaceDashes t
  by_cases hapart : Apart '-' '-' t
  · rw [Text.replacePair_of_apart hapart]
    simp [hapart]
  · have hdash : '—' ∈ Text.replacePair '-' '-' ['—'] t := by
      by_contra hnone
      have hsame : Text.replacePair '-' '-' ['—'] t = t :=
        hspelled.eq_of_notMem (fun u v hpiece => by simp [hpiece.2]) hnone
      have hdone : Apart '-' '-' (Text.replacePair '-' '-' ['—'] t) :=
        Text.apart_replacePair (by decide) (by decide) (by decide) (by decide) t
      exact hapart (hsame ▸ hdone)
    simp [hapart, hdash]

/-- A dash was there before, or was two hyphens. -/
theorem dash_mem_applyEnglish (t : Text) : '—' ∈ applyEnglish t ↔ '—' ∈ t ∨ ¬Apart '-' '-' t := by
  let quoted := Text.replacePair '」' '%' ['”', '%'] (Text.replacePair '】' '「' ['】', '“'] (closeSpeech t))
  let dashed := Text.replacePair '-' '-' ['—'] quoted
  have hmem : ∀ {s s' : Text}, Respelled CurlyPiece s s' → ('—' ∈ s' ↔ '—' ∈ s) := fun h =>
    h.mem_iff fun u v hpiece => hpiece.notMem (by decide)
  have hhyphens : ∀ {s s' : Text}, Respelled CurlyPiece s s' → (Apart '-' '-' s' ↔ Apart '-' '-' s) := fun h =>
    h.apart_iff fun u v hpiece =>
      have hnone := hpiece.notMem (c := '-') (by decide)
      ⟨⟨hpiece.ne_nil.1, hnone.1, hnone.1⟩, hpiece.ne_nil.2, hnone.2, hnone.2⟩
  calc '—' ∈ applyEnglish t
      ↔ '—' ∈ pairDoubleQuotes (pairSingleQuotes dashed) :=
        (respelled_drawLetters _).mem_iff fun u v hpiece =>
          hpiece.notMem_of_fixed (by decide +kernel) fun italic => by cases italic <;> rfl
    _ ↔ '—' ∈ dashed := by rw [hmem (curly_pairDoubleQuotes _), hmem (curly_pairSingleQuotes _)]
    _ ↔ '—' ∈ quoted ∨ ¬Apart '-' '-' quoted := dash_mem_replaceDashes quoted
    _ ↔ '—' ∈ t ∨ ¬Apart '-' '-' t := by
      rw [hmem (curly_replaceCorners _), hmem (curly_replaceSpeech _), hmem (curly_closeSpeech t),
        hhyphens (curly_replaceCorners _), hhyphens (curly_replaceSpeech _), hhyphens (curly_closeSpeech t)]

end SceneScript.Prose
