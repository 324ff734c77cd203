import Mathlib
import SceneScript.Replacement.Message
import SceneScript.Proofs.Prose.Respelling
/-!
# Merged messages

A message that takes the place of another keeps its speaker and its ending, which is the run of codes behind a narration
and what stands from the last closing bracket on in a speech.
-/
namespace SceneScript.Replacement

/-- A sequence of two-character codes `%X`, where `X` is not `%`. -/
inductive Codes : Text → Prop
  | nil : Codes []
  | code {x : Char} (hx : x ≠ '%') {t : Text} (h : Codes t) : Codes ('%' :: x :: t)

/-- The longest sequence of codes that a text ends with and that is not the whole of it, unless the text is empty. -/
structure Ending (t s : Text) : Prop where
  suffix : s <:+ t
  codes : Codes s
  shorter : t ≠ [] → s.length < t.length
  longest : ∀ s', s' <:+ t → Codes s' → (t ≠ [] → s'.length < t.length) → s'.length ≤ s.length

theorem Codes.even {t : Text} (h : Codes t) : Even t.length := by
  induction h with
  | nil => simp
  | code _ _ ih => simpa [Nat.even_add_one, parity_simps] using ih

/-- In front of a sequence of codes there are whole codes. -/
private theorem Codes.of_append {front t : Text} (h : Codes (front ++ t)) (ht : Codes t) :
    front = [] ∨ ∃ earlier x, front = earlier ++ ['%', x] ∧ x ≠ '%' := by
  match front, h with
  | [], _ => exact .inl rfl
  | [c], h =>
    have heven := h.even
    simp [Nat.even_add_one, ht.even] at heven
  | _ :: x :: front, .code hx h =>
    rcases h.of_append ht with rfl | ⟨earlier, y, rfl, hy⟩
    · exact .inr ⟨[], x, rfl, hx⟩
    · exact .inr ⟨'%' :: x :: earlier, y, rfl, hy⟩

/-- A text has one ending. -/
theorem Ending.unique {t s s' : Text} (h : Ending t s) (h' : Ending t s') : s = s' := by
  have hle := h'.longest s h.suffix h.codes h.shorter
  have hge := h.longest s' h'.suffix h'.codes h'.shorter
  exact (List.suffix_of_suffix_length_le h.suffix h'.suffix hle).eq_of_length (Nat.le_antisymm hle hge)

/-- When no code stands in front of those found, no longer sequence of codes ends the text. -/
private theorem ending_of_stop {front codes : Text} (hcodes : Codes codes) (hfront : front = [] → codes = [])
    (hstop : ∀ earlier c x, front = earlier ++ [c, '%', x] → x = '%') : Ending (front ++ codes) codes := by
  refine ⟨List.suffix_append front codes, hcodes, fun hne => ?_, fun s hs hcodes' hshorter => ?_⟩
  · have hpos : front ≠ [] := fun h => hne (by rw [h, hfront h]; rfl)
    simpa using List.length_pos_of_ne_nil hpos
  · by_contra hlong
    obtain ⟨longer, rfl⟩ := List.suffix_of_suffix_length_le (List.suffix_append front codes) hs (by omega)
    obtain ⟨rest, hrest⟩ := hs
    rw [← List.append_assoc, List.append_left_inj] at hrest
    rcases hcodes'.of_append hcodes with rfl | ⟨earlier, x, rfl, hx⟩
    · simp at hlong
    · have hwhole : rest ++ earlier ≠ [] := by
        intro hnil
        obtain ⟨rfl, rfl⟩ := List.append_eq_nil_iff.mp hnil
        subst hrest
        simp at hshorter
      apply hx
      apply hstop (rest ++ earlier).dropLast ((rest ++ earlier).getLast hwhole)
      rw [← hrest, ← List.append_assoc]
      nth_rewrite 1 [← List.dropLast_concat_getLast hwhole]
      rw [List.append_assoc]
      rfl

/-- Codes are taken off the end until none is left or the next is all that is left. -/
private theorem ending_go (found : Text) (before : Text) (hfound : Codes found) (hbefore : before = [] → found = []) :
    Ending (before.reverse ++ found) (trailingCodes.go found before) := by
  fun_induction trailingCodes.go found before with
  | case1 found c earlier =>
    apply ending_of_stop hfound (by simp)
    intro front d x hfront
    have hlast := congrArg List.reverse hfront
    simp only [List.reverse_reverse, List.reverse_append, List.reverse_cons, List.reverse_nil, List.nil_append,
      List.cons_append, List.cons.injEq] at hlast
    exact hlast.1.symm
  | case2 found code c earlier hcode ih =>
    have hmore := ih (.code hcode hfound) (fun h => absurd h (List.cons_ne_nil c earlier))
    simpa using hmore
  | case3 found before hstop =>
    apply ending_of_stop hfound (by simpa using hbefore)
    intro front d x hfront
    have hlast := congrArg List.reverse hfront
    rw [List.reverse_reverse, List.reverse_append] at hlast
    exact absurd hlast (hstop x d front.reverse)

theorem ending_trailingCodes (t : Text) : Ending t (trailingCodes t) := by
  have hending := ending_go [] t.reverse .nil fun _ => rfl
  rwa [List.reverse_reverse, List.append_nil] at hending

/-! ## The ending that a new message brings -/

/-- What a new message says, and the ending of its own that it brings behind its first `%R`. -/
inductive Marked : Text → Text → Option Text → Prop
  | plain {t : Text} (h : Text.Apart '%' 'R' t) : Marked t t none
  | ended {said : Text} (h : Text.Apart '%' 'R' (said ++ ['%'])) (ending : Text) :
    Marked (said ++ '%' :: 'R' :: ending) said (some ending)

private theorem exists_marked (t : Text) : ∃ said ending?, Marked t said ending? := by
  rcases Text.apart_or_exists '%' 'R' t with h | ⟨said, ending, rfl, h⟩
  · exact ⟨t, none, .plain h⟩
  · exact ⟨said, some ending, .ended h ending⟩

/-- What becomes of an old message when a new one says something and may bring an ending of its own. -/
inductive Merges (old said : Text) (ending? : Option Text) : Option Text → Prop
  /-- Without a speaker, the codes at the end of the old message stay. -/
  | told {codes : Text} (hspeaker : old.head? ≠ some '【') (hcodes : Ending old codes) :
    Merges old said ending? (some (said ++ ending?.getD codes))
  /-- A speech stays up to its first opening bracket and from its last closing bracket on. -/
  | spoken {speaker speech after : Text} (hspeaker : old.head? = some '【')
    (hold : old = speaker ++ '「' :: (speech ++ '」' :: after)) (hfirst : '「' ∉ speaker) (hlast : '」' ∉ after) :
    Merges old said ending? (some (speaker ++ '「' :: (said ++ ending?.getD ('」' :: after))))
  /-- A speech that lacks its closing bracket gets one in front of its codes. -/
  | unclosed {speaker speech codes : Text} (hspeaker : old.head? = some '【') (hold : old = speaker ++ '「' :: speech)
    (hfirst : '「' ∉ speaker) (hopen : '」' ∉ speech) (hcodes : Ending speech codes) :
    Merges old said ending? (some (speaker ++ '「' :: (said ++ '」' :: ending?.getD codes)))
  /-- A speaker who opens no bracket says nothing new. -/
  | silent (hspeaker : old.head? = some '【') (hnone : '「' ∉ old) : Merges old said ending? none

/-- The message that takes the place of an old one when the new one says something and may bring an ending of its own. -/
def mergeSaid? (old said : Text) (ending? : Option Text) : Option Text :=
  if old.head? ≠ some '【' then some (said ++ ending?.getD (trailingCodes old))
  else
    match Text.cutAt '「' old with
    | none => none
    | some (speaker, spoken) =>
      match Text.cutAtLast '」' spoken with
      | some (_, after) => some (speaker ++ '「' :: said ++ ending?.getD ('」' :: after))
      | none => some (speaker ++ '「' :: said ++ '」' :: ending?.getD (trailingCodes spoken))

section Merged

variable {old replacement said : Text} {ending? : Option Text}

private theorem mergeMessage?_of_marked (h : Marked replacement said ending?) (old : Text) :
    mergeMessage? old replacement = mergeSaid? old said ending? := by
  cases h with
  | plain h =>
    rw [mergeMessage?, Text.cutAtWord_of_apart h]
    rfl
  | ended h ending =>
    rw [mergeMessage?, Text.cutAtWord_append h]
    rfl

private theorem Merges.eq {result? : Option Text} (hmarked : Marked replacement said ending?)
    (h : Merges old said ending? result?) : mergeMessage? old replacement = result? := by
  rw [mergeMessage?_of_marked hmarked, mergeSaid?]
  cases h with
  | told hspeaker hcodes => rw [if_pos hspeaker, hcodes.unique (ending_trailingCodes old)]
  | spoken hspeaker hold hfirst hlast =>
    rw [if_neg (not_not.mpr hspeaker), hold, Text.cutAt_append hfirst]
    dsimp only
    rw [Text.cutAtLast_append hlast]
    simp
  | unclosed hspeaker hold hfirst hopen hcodes =>
    rw [if_neg (not_not.mpr hspeaker), hold, Text.cutAt_append hfirst]
    dsimp only
    rw [Text.cutAtLast_eq_none hopen, hcodes.unique (ending_trailingCodes _)]
    simp
  | silent hspeaker hnone => rw [if_neg (not_not.mpr hspeaker), Text.cutAt_eq_none hnone]

private theorem exists_last_bracket {t : Text} (h : '」' ∈ t) : ∃ before after, t = before ++ '」' :: after ∧ '」' ∉ after := by
  obtain ⟨after, before, hparts, hlast⟩ := List.eq_append_cons_of_mem (List.mem_reverse.mpr h)
  exact ⟨before.reverse, after.reverse, by simpa using congrArg List.reverse hparts, by simpa using hlast⟩

variable (old said ending?) in
private theorem exists_merges : ∃ result?, Merges old said ending? result? := by
  by_cases hspeaker : old.head? = some '【'
  · by_cases hopen : '「' ∈ old
    · obtain ⟨speaker, speech, hold, hfirst⟩ := List.eq_append_cons_of_mem hopen
      by_cases hclose : '」' ∈ speech
      · obtain ⟨before, after, rfl, hlast⟩ := exists_last_bracket hclose
        exact ⟨_, .spoken hspeaker hold hfirst hlast⟩
      · exact ⟨_, .unclosed hspeaker hold hfirst hclose (ending_trailingCodes speech)⟩
    · exact ⟨none, .silent hspeaker hopen⟩
  · exact ⟨_, .told hspeaker (ending_trailingCodes old)⟩

variable (old replacement) in
/-- What becomes of a message, by the parts of the new one and the old one. -/
theorem merges_mergeMessage? :
    ∃ said ending?, Marked replacement said ending? ∧ Merges old said ending? (mergeMessage? old replacement) := by
  obtain ⟨said, ending?, hmarked⟩ := exists_marked replacement
  obtain ⟨result?, hmerges⟩ := exists_merges old said ending?
  rw [hmerges.eq hmarked]
  exact ⟨said, ending?, hmarked, hmerges⟩

/-- Every character of a merged message but a closing bracket comes from the old message or from the new one. -/
theorem notMem_of_mergeMessage? {new : Text} (h : mergeMessage? old replacement = some new) {c : Char} (hc : c ≠ '」')
    (hold : c ∉ old) (hreplacement : c ∉ replacement) : c ∉ new := by
  obtain ⟨said, ending?, hmarked, hmerges⟩ := merges_mergeMessage? old replacement
  rw [h] at hmerges
  have hsaid : c ∉ said := by
    cases hmarked with
    | plain => exact hreplacement
    | ended => simp_all
  have hending : ∀ codes, c ∉ codes → c ∉ ending?.getD codes := by
    intro codes hcodes
    cases hmarked with
    | plain => exact hcodes
    | ended => simp_all
  cases hmerges with
  | @told codes _ hcodes =>
    have hkept : c ∉ codes := fun hm => hold (hcodes.suffix.subset hm)
    simp [hsaid, hending _ hkept]
  | @spoken speaker speech after _ hparts =>
    rw [hparts] at hold
    have hkept : c ∉ '」' :: after := by simp_all
    simp_all
  | @unclosed speaker speech codes _ hparts _ _ hcodes =>
    rw [hparts] at hold
    have hkept : c ∉ codes := fun hm => hold (by simp [hcodes.suffix.subset hm])
    simp_all

/-- What the new message says and the ending that it may bring, and the speaker, the brackets and the codes of the old one
decide what becomes of a message. -/
theorem mergeMessage?_eq_iff (old replacement : Text) (result? : Option Text) :
    mergeMessage? old replacement = result? ↔
      ∃ said ending?, Marked replacement said ending? ∧ Merges old said ending? result? := by
  constructor
  · rintro rfl
    exact merges_mergeMessage? old replacement
  · rintro ⟨said, ending?, hmarked, hmerges⟩
    exact hmerges.eq hmarked

example : mergeMessage? "【ミホ】「こんにちは%K%P".toList "Hello".toList = some "【ミホ】「Hello」%K%P".toList := by
  decide +kernel

/-! ## Messages that settle -/

/-- Whether a message settles: merging the same text again leaves the message that it was merged into as it is. -/
def Settles (old replacement : Text) : Prop :=
  ∀ new, mergeMessage? old replacement = some new → (mergeMessage? new replacement).getD new = new

instance (old replacement : Text) : Decidable (Settles old replacement) :=
  decidable_of_iff (∀ new ∈ mergeMessage? old replacement, (mergeMessage? new replacement).getD new = new) Iff.rfl

private theorem settles_iff {result? : Option Text} {new : Text} (hmarked : Marked replacement said ending?)
    (h : Merges old said ending? (some new)) (hagain : Merges new said ending? result?) :
    Settles old replacement ↔ result?.getD new = new := by
  rw [Settles, h.eq hmarked, ← hagain.eq hmarked]
  exact ⟨fun hsettles => hsettles new rfl, fun hnew new' heq => Option.some.inj heq ▸ hnew⟩

/-- A narration settles if the new text brings its own ending, or ends with no codes that would be taken for those of the
old message; here the new message must not begin with a speaker. -/
theorem settles_told_iff {codes : Text} (hmarked : Marked replacement said ending?) (hspeaker : old.head? ≠ some '【')
    (hcodes : Ending old codes) (hnew : (said ++ ending?.getD codes).head? ≠ some '【') :
    Settles old replacement ↔ (ending? = none → Ending (said ++ codes) codes) := by
  have hagain := ending_trailingCodes (said ++ ending?.getD codes)
  rw [settles_iff hmarked (.told hspeaker hcodes) (.told hnew hagain), Option.getD_some]
  cases ending? with
  | some ending => simp
  | none =>
    rw [Option.getD_none] at hagain ⊢
    rw [List.append_cancel_left_eq, forall_prop_of_true rfl]
    constructor
    · intro heq
      rwa [show trailingCodes (said ++ codes) = codes from heq] at hagain
    · exact hagain.unique

example : ¬Settles "Hi%K".toList "Yo%K".toList := by decide +kernel

private theorem head?_speaker {speaker speech : Text} (hspeaker : (speaker ++ '「' :: speech).head? = some '【') (t : Text) :
    (speaker ++ '「' :: t).head? = some '【' := by
  cases speaker with
  | nil => simp at hspeaker
  | cons => simpa using hspeaker

/-- A speech settles unless the new text brings an ending of its own and closes no bracket. -/
theorem settles_spoken_iff {speaker speech after : Text} (hmarked : Marked replacement said ending?)
    (hspeaker : old.head? = some '【') (hold : old = speaker ++ '「' :: (speech ++ '」' :: after)) (hfirst : '「' ∉ speaker)
    (hlast : '」' ∉ after) : Settles old replacement ↔ ∀ ending, ending? = some ending → '」' ∈ said ++ ending := by
  have hhead := head?_speaker (hold ▸ hspeaker)
  have hnew : Merges old said ending? _ := .spoken hspeaker hold hfirst hlast
  cases ending? with
  | none =>
    rw [settles_iff hmarked hnew (.spoken (hhead _) rfl hfirst hlast)]
    simp
  | some ending =>
    simp only [Option.some.injEq, forall_eq']
    by_cases hclose : '」' ∈ said ++ ending
    · obtain ⟨before, after', hparts, hlast'⟩ := exists_last_bracket hclose
      rw [settles_iff hmarked hnew (.spoken (hhead _) (congrArg (speaker ++ '「' :: ·) hparts) hfirst hlast')]
      simp [hclose]
    · rw [settles_iff hmarked hnew (.unclosed (hhead _) rfl hfirst hclose (ending_trailingCodes _))]
      simp [hclose]

/-- A speech that lacks its closing bracket settles if the new text brings no ending of its own. -/
theorem settles_unclosed_iff {speaker speech codes : Text} (hmarked : Marked replacement said ending?)
    (hspeaker : old.head? = some '【') (hold : old = speaker ++ '「' :: speech) (hfirst : '「' ∉ speaker)
    (hopen : '」' ∉ speech) (hcodes : Ending speech codes) : Settles old replacement ↔ ending? = none := by
  have hhead := head?_speaker (hold ▸ hspeaker)
  have hnew : Merges old said ending? _ := .unclosed hspeaker hold hfirst hopen hcodes
  cases ending? with
  | none =>
    have hlast : '」' ∉ codes := fun hm => hopen (hcodes.suffix.subset hm)
    rw [settles_iff hmarked hnew (.spoken (hhead _) rfl hfirst hlast)]
    simp
  | some ending =>
    obtain ⟨before, after, hparts, hlast⟩ := exists_last_bracket (t := said ++ '」' :: ending) (by simp)
    rw [settles_iff hmarked hnew (.spoken (hhead _) (congrArg (speaker ++ '「' :: ·) hparts) hfirst hlast)]
    simp

end Merged

end SceneScript.Replacement
