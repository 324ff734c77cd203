import SceneScript.Proofs.Prose.Wrap
/-!
# Where lines are broken

Wrapping gives up single spaces and changes nothing else. In a spoken text it stays within the speech, which runs from the
opening quote to the first closing quote in front of a code.
-/
namespace SceneScript

open Text (Apart apart_cons apart_append)

namespace Text

end Text

namespace Prose

/-! ## The speech -/

/-- A text in three parts: what comes before the scan, what is scanned, and what comes after. A spoken text is scanned from
its opening quote to the first closing quote in front of a code. -/
def parts (t : Text) : Text × Text × Text :=
  match splitSpoken? t with
  | none => ([], t, [])
  | some (speaker, speech) =>
    match Text.cutAtWord ['”', '%'] speech with
    | none => (speaker, speech, [])
    | some (inner, after) => (speaker, inner ++ ['”'], '%' :: after)

/-- The parts of a text that is not spoken, of one whose speech is left open, and of one whose speech is closed. -/
inductive PartsCase (t : Text) : Text × Text × Text → Prop
  | narrated (h : Apart '】' '“' t) : PartsCase t ([], t, [])
  | opened {u v : Text} (ht : t = u ++ '】' :: '“' :: v) (hu : Apart '】' '“' (u ++ ['】'])) (hv : Apart '”' '%' ('“' :: v)) :
      PartsCase t (u ++ ['】'], '“' :: v, [])
  | closed {u v after : Text} (ht : t = u ++ '】' :: '“' :: (v ++ '”' :: '%' :: after)) (hu : Apart '】' '“' (u ++ ['】']))
      (hv : Apart '”' '%' ('“' :: (v ++ ['”']))) : PartsCase t (u ++ ['】'], '“' :: (v ++ ['”']), '%' :: after)

theorem splitSpoken?_append {u : Text} (h : Apart '】' '“' (u ++ ['】'])) (v : Text) :
    splitSpoken? (u ++ '】' :: '“' :: v) = some (u ++ ['】'], '“' :: v) := by
  rw [splitSpoken?, Text.cutAtWord_append h]
  rfl

theorem parts_cases (t : Text) : PartsCase t (parts t) := by
  rcases Text.apart_or_exists '】' '“' t with hapart | ⟨u, v, rfl, hu⟩
  · have hparts : parts t = ([], t, []) := by
      rw [parts, splitSpoken?, Text.cutAtWord_of_apart hapart]
      rfl
    rw [hparts]
    exact .narrated hapart
  · rcases Text.apart_or_exists '”' '%' ('“' :: v) with hapart | ⟨inner, after, hv, hinner⟩
    · have hparts : parts (u ++ '】' :: '“' :: v) = (u ++ ['】'], '“' :: v, []) := by
        rw [parts, splitSpoken?_append hu]
        dsimp only
        rw [Text.cutAtWord_of_apart hapart]
      rw [hparts]
      exact .opened rfl hu hapart
    · cases inner with
      | nil => cases hv
      | cons c inner =>
        obtain ⟨rfl, hrest⟩ := List.cons.inj hv
        obtain rfl : v = inner ++ '”' :: '%' :: after := hrest
        have hparts : parts (u ++ '】' :: '“' :: (inner ++ '”' :: '%' :: after)) =
            (u ++ ['】'], '“' :: (inner ++ ['”']), '%' :: after) := by
          rw [parts, splitSpoken?_append hu]
          dsimp only
          rw [← List.cons_append, Text.cutAtWord_append hinner]
          rfl
        rw [hparts]
        exact .closed rfl hu hinner

theorem parts_append (t : Text) : (parts t).1 ++ ((parts t).2.1 ++ (parts t).2.2) = t := by
  have hcases := parts_cases t
  generalize parts t = p at hcases ⊢
  cases hcases with
  | narrated h => exact List.append_nil t
  | opened ht hu hv => simp [ht]
  | closed ht hu hv => simp [ht]

theorem head?_parts (t : Text) : (parts t).2.2.head? ≠ some '—' := by
  have hcases := parts_cases t
  generalize parts t = p at hcases ⊢
  cases hcases with
  | narrated h => exact nofun
  | opened ht hu hv => exact nofun
  | closed ht hu hv => exact fun h => absurd (Option.some.inj h) (by decide)

/-! ## The end of the scan -/

/-- Whether a scan of a text ends in front of what comes after. -/
def Ends (t after : Text) : Prop := after = [] ∨ (after.head? = some '%' ∧ t.getLast? = some '”')

/-- Whether no code follows a closing quote, in the text behind the last break that the scan has put in. -/
def Within (done rest : Text) : Prop :=
  ∃ u earlier, done = u ++ earlier ∧ (earlier = [] ∨ ∃ e, earlier = 'N' :: '%' :: e) ∧ Apart '”' '%' (u.reverse ++ rest)

theorem Within.start {t : Text} (h : Apart '”' '%' t) : Within [] t := ⟨[], [], rfl, .inl rfl, h⟩

theorem Within.pass {done rest : Text} (v : Text) (h : Within done (v ++ rest)) : Within (v.reverse ++ done) rest := by
  obtain ⟨u, earlier, rfl, hearlier, hapart⟩ := h
  exact ⟨v.reverse ++ u, earlier, (List.append_assoc _ _ _).symm, hearlier, by simpa using hapart⟩

theorem Within.not_halts {done rest : Text} {c : Char} (h : Within done (c :: rest)) : ¬(c = '%' ∧ done.head? = some '”') := by
  rintro ⟨rfl, hdone⟩
  obtain ⟨u, earlier, rfl, hearlier, hapart⟩ := h
  cases u with
  | nil =>
    rcases hearlier with rfl | ⟨e, rfl⟩
    · cases hdone
    · exact absurd (Option.some.inj hdone) (by decide)
  | cons d u =>
    obtain rfl := Option.some.inj hdone
    rw [List.reverse_cons, List.append_assoc] at hapart
    exact Text.not_apart _ _ _ (apart_append.mp hapart).2.1

/-- A break leaves the text behind it as it was. -/
theorem Within.breaks {done rest earlier between : Text} {c : Char} (h : Within done (c :: rest))
    (hfound : breakBefore? c done [] = some (earlier, between)) : Within ('N' :: '%' :: earlier) (between ++ c :: rest) := by
  obtain ⟨u, last, rfl, hlast, hapart⟩ := h
  refine ⟨[], _, rfl, .inr ⟨_, rfl⟩, ?_⟩
  obtain ⟨u', hearlier⟩ : ∃ u', earlier = u' ++ last := by
    rcases hlast with rfl | ⟨e, rfl⟩
    · exact ⟨earlier, (List.append_nil _).symm⟩
    · exact exists_of_breakBefore?_append hfound
  obtain ⟨-, mid, hbetween, hdone, -⟩ := exists_of_breakBefore? hfound
  rw [List.append_nil] at hbetween
  subst hbetween hearlier
  obtain rfl : u = between.reverse ++ ' ' :: u' := by
    rw [← List.cons_append, ← List.append_assoc] at hdone
    exact List.append_cancel_right hdone
  rw [List.reverse_append, List.reverse_reverse, List.reverse_cons, List.append_assoc] at hapart
  exact (apart_append.mp hapart).2.1

private theorem codeAfter?_ends {t after : Text} (h : after = [] ∨ (after.head? = some '%' ∧ t ≠ [])) :
    codeAfter? (t ++ after) = codeAfter? t := by
  rcases h with rfl | ⟨hafter, ht⟩
  · rw [List.append_nil]
  · obtain ⟨more, rfl⟩ := List.head?_eq_some_iff.mp hafter
    obtain ⟨c, t, rfl⟩ := List.exists_cons_of_ne_nil ht
    have hdigits : (t ++ '%' :: more).takeWhile Char.isDigit = t.takeWhile Char.isDigit := by
      induction t with
      | nil => rfl
      | cons d t ih => rw [List.cons_append, List.takeWhile_cons, List.takeWhile_cons, ih (List.cons_ne_nil _ _)]
    rw [List.cons_append, codeAfter?, codeAfter?, hdigits]

section

variable {metrics : FontMetrics} {config : WrapConfig}

/-- A speech is scanned like a text of its own. -/
theorem Wraps.append {width : Nat} {done t out after : Text} (h : Wraps metrics config false width done t out)
    (hwithin : Within done t) (hends : Ends (done.reverse ++ t) after) :
    Wraps metrics config true width done (t ++ after) (out ++ after) := by
  have hgoes : ∀ {done rest : Text} {c : Char}, Within done (c :: rest) → ¬Halts true done (c :: (rest ++ after)) :=
    fun hwithin hhalts => hwithin.not_halts (halts_cons.mp hhalts).2
  -- The text ends with a closing quote, so a percent sign is not its last character.
  have hplain : ∀ {done rest : Text} {c : Char}, Ends (done.reverse ++ c :: rest) after →
      (c = '%' → codeAfter? rest = none) → c = '%' → codeAfter? (rest ++ after) = none := by
    intro done rest c hends hplain hc
    rw [codeAfter?_ends (hends.imp_right fun h => ⟨h.1, ?_⟩), hplain hc]
    rintro rfl
    rw [hc, List.getLast?_concat] at h
    exact absurd (Option.some.inj h.2) (by decide)
  induction h with
  | @halt width done rest h =>
    obtain rfl : rest = [] := h.resolve_right fun h => Bool.false_ne_true h.1
    rw [List.append_nil] at hends ⊢
    refine .halt (hends.imp_right fun h => ⟨rfl, h.1, ?_⟩)
    rw [← List.getLast?_reverse]
    exact h.2
  | @code width done code rest out resets _ hcode _ ih =>
    obtain ⟨d, digits, -, -, hlength, -⟩ := exists_of_codeAfter? hcode
    have hne : code ++ rest ≠ [] := by
      rintro hnil
      rw [(List.append_eq_nil_iff.mp hnil).1] at hlength
      cases hlength
    have hcode' : codeAfter? (code ++ (rest ++ after)) = some (code.length, resets) := by
      rw [← List.append_assoc, codeAfter?_ends (hends.imp_right fun h => ⟨h.1, hne⟩), hcode]
    have hgo := hgoes hwithin
    rw [List.append_assoc] at hgo
    rw [List.cons_append, List.append_assoc]
    refine .code hgo hcode' (ih ?_ (by simpa using hends))
    simpa using hwithin.pass ('%' :: code)
  | @pass width width' done rest out c _ hcode hpass _ ih =>
    exact .pass (hgoes hwithin) (hplain hends hcode) hpass (ih (hwithin.pass [c]) (by simpa using hends))
  | @breaks width done rest earlier between out c _ hcode hexceeds hfound _ ih =>
    refine .breaks (hgoes hwithin) (hplain hends hcode) hexceeds hfound ?_
    have hmore := ih (hwithin.breaks hfound) (hends.imp_right fun h => ⟨h.1, ?_⟩)
    · simpa using hmore
    · have hlast := h.2
      rw [List.getLast?_append_of_ne_nil _ (List.cons_ne_nil _ _)] at hlast
      rw [← List.append_assoc, List.getLast?_append_of_ne_nil _ (List.cons_ne_nil _ _), hlast]

/-- Of a text only the speech is wrapped. -/
theorem wrapLines_eq (metrics : FontMetrics) (config : WrapConfig) (t : Text) :
    (wrapLines metrics config t).1 =
      (parts t).1 ++ ((wrapFrom metrics config false 0 [] [] (parts t).2.1).1 ++ (parts t).2.2) := by
  have hspoken : ∀ {u speech after : Text}, Apart '”' '%' speech → Ends speech after →
      splitSpoken? t = some (u, speech ++ after) → (wrapLines metrics config t).1 =
        u ++ ((wrapFrom metrics config false 0 [] [] speech).1 ++ after) := by
    intro u speech after hapart hends hsplit
    have hrun := (wraps_wrapFrom metrics config false 0 [] [] speech).append (.start hapart) hends
    rw [wrapLines, hsplit]
    exact congrArg (u ++ ·) (hrun.wrapFrom_eq [])
  have hcases := parts_cases t
  generalize parts t = p at hcases ⊢
  cases hcases with
  | narrated h =>
    rw [wrapLines, splitSpoken?, Text.cutAtWord_of_apart h]
    exact (List.append_nil _).symm
  | @opened u v ht hu hv =>
    refine hspoken hv (.inl rfl) ?_
    rw [ht, splitSpoken?_append hu, List.append_nil]
  | @closed u v after ht hu hv =>
    refine hspoken hv (.inr ⟨rfl, List.getLast?_concat (l := '“' :: v)⟩) ?_
    rw [ht, splitSpoken?_append hu]
    simp

/-- A wrapped text is the text with breaks in place of some spaces. -/
theorem respelled_wrapLines (metrics : FontMetrics) (config : WrapConfig) (t : Text) :
    Text.Respelled BreakPiece t (wrapLines metrics config t).1 := by
  have hspeech := (broken_wrapFrom metrics config false (parts t).2.1).respelled
  have hparts := (Text.Respelled.refl (parts t).1).append (hspeech.append (.refl (parts t).2.2))
  rwa [parts_append, ← wrapLines_eq] at hparts

end

/-! ## Places -/

/-- A text with breaks in place of the characters at some places. -/
def breakAt : (places : Nat → Bool) → Text → Text
  | _, [] => []
  | places, c :: t => (if places 0 then ['%', 'N'] else [c]) ++ breakAt (fun i => places (i + 1)) t

theorem breakAt_nowhere (t : Text) : breakAt (fun _ => false) t = t := by
  induction t with
  | nil => rfl
  | cons c t ih => exact congrArg (c :: ·) ih

theorem breakAt_behind (front : Text) (places : Nat → Bool) (t : Text) :
    breakAt (fun i => decide (front.length ≤ i) && places (i - front.length)) (front ++ t) = front ++ breakAt places t := by
  induction front with
  | nil => simp
  | cons c front ih =>
    rw [List.cons_append, breakAt, List.cons_append, ← ih]
    simp

/-- What was broken has breaks at some places. -/
theorem Broken.exists_places {t t' : Text} (h : Broken t t') {after : Text} (hafter : after.head? ≠ some '—') :
    ∃ places, breakAt places (t ++ after) = t' ++ after ∧ ∀ i, places i = true →
      i < t.length ∧ (t ++ after)[i]? = some ' ' ∧ (t ++ after)[i + 1]? ≠ some '—' := by
  induction h with
  | nil => exact ⟨fun _ => false, breakAt_nowhere after, fun _ hi => absurd hi Bool.false_ne_true⟩
  | @keep c t t' _ ih =>
    obtain ⟨places, hbreak, hplaces⟩ := ih
    refine ⟨fun i => decide (0 < i) && places (i - 1), ?_, ?_⟩
    · rw [List.cons_append, List.cons_append, ← hbreak]
      exact breakAt_behind [c] places (t ++ after)
    · rintro (_ | i) hi
      · cases hi
      · obtain ⟨hlt, hspace, hdash⟩ := hplaces i (by simpa using hi)
        exact ⟨Nat.succ_lt_succ hlt, hspace, hdash⟩
  | @giveUp t t' hdash _ ih =>
    obtain ⟨places, hbreak, hplaces⟩ := ih
    refine ⟨fun i => i == 0 || places (i - 1), ?_, ?_⟩
    · rw [List.cons_append, List.cons_append, List.cons_append, ← hbreak]
      rfl
    · rintro (_ | i) hi
      · refine ⟨Nat.succ_pos _, rfl, ?_⟩
        rw [List.cons_append, List.getElem?_cons_succ, ← List.head?_eq_getElem?]
        cases t with
        | nil => exact hafter
        | cons c t => exact hdash
      · obtain ⟨hlt, hspace, hnext⟩ := hplaces i (by simpa using hi)
        exact ⟨Nat.succ_lt_succ hlt, hspace, hnext⟩

private theorem exists_places_behind (front : Text) {t t' after : Text} (h : Broken t t') (hafter : after.head? ≠ some '—') :
    ∃ places, breakAt places (front ++ (t ++ after)) = front ++ (t' ++ after) ∧ ∀ i, places i = true →
      front.length ≤ i ∧ i < front.length + t.length ∧ (front ++ (t ++ after))[i]? = some ' ' ∧
        (front ++ (t ++ after))[i + 1]? ≠ some '—' := by
  obtain ⟨places, hbreak, hplaces⟩ := h.exists_places hafter
  refine ⟨_, (breakAt_behind front places (t ++ after)).trans (congrArg _ hbreak), fun i hi => ?_⟩
  rw [Bool.and_eq_true, decide_eq_true_eq] at hi
  obtain ⟨k, rfl⟩ := Nat.exists_eq_add_of_le hi.1
  obtain ⟨hlt, hspace, hdash⟩ := hplaces k (by simpa using hi.2)
  refine ⟨hi.1, by omega, ?_, ?_⟩
  · rwa [List.getElem?_append_right hi.1, Nat.add_sub_cancel_left]
  · rwa [Nat.add_assoc, List.getElem?_append_right (by omega), Nat.add_sub_cancel_left]

private theorem exists_places (metrics : FontMetrics) (config : WrapConfig) (t : Text) :
    ∃ places, (wrapLines metrics config t).1 = breakAt places t ∧ ∀ i, places i = true →
      (parts t).1.length < i ∧ i < (parts t).1.length + (parts t).2.1.length ∧ t[i]? = some ' ' ∧ t[i + 1]? ≠ some '—' := by
  have happend := parts_append t
  have hafter := head?_parts t
  rw [wrapLines_eq]
  generalize parts t = p at happend hafter ⊢
  obtain ⟨front, speech, after⟩ := p
  subst happend
  cases speech with
  | nil =>
    refine ⟨fun _ => false, ?_, fun _ hi => absurd hi Bool.false_ne_true⟩
    rw [breakAt_nowhere, wrapFrom]
    rfl
  | cons c speech =>
    obtain ⟨out, hrun, hbroken⟩ := exists_broken_wrapFrom metrics config false c speech
    obtain ⟨places, hbreak, hplaces⟩ := exists_places_behind (front ++ [c]) hbroken hafter
    rw [List.append_assoc, List.append_assoc] at hbreak
    refine ⟨places, by rw [hrun]; exact hbreak.symm, fun i hi => ?_⟩
    obtain ⟨hfront, hend, hspace, hdash⟩ := hplaces i hi
    rw [List.length_append, List.length_singleton] at hfront hend
    rw [List.append_assoc] at hspace hdash
    refine ⟨hfront, ?_, hspace, hdash⟩
    dsimp only
    rw [List.length_cons]
    omega

end Prose
end SceneScript
