import Mathlib
import SceneScript.Text.Basic
/-!
# Respelling

A stage of the typography keeps characters and spells some pieces of a text in other characters. What it keeps stays in
order, so a pair of characters that it never writes stands side by side afterwards only if it did before.
-/
namespace SceneScript.Text

/-- Whether no `b` stands right behind an `a`. -/
def Apart (a b : Char) (t : Text) : Prop := t.IsChain fun c d => ¬(c = a ∧ d = b)

instance (a b : Char) (t : Text) : Decidable (Apart a b t) :=
  inferInstanceAs (Decidable (t.IsChain fun c d => ¬(c = a ∧ d = b)))

theorem apart_cons {a b c : Char} {t : Text} : Apart a b (c :: t) ↔ (c = a → t.head? ≠ some b) ∧ Apart a b t := by
  rw [Apart, List.isChain_cons, ← Apart]
  refine and_congr_left fun _ => ⟨fun h hc hb => h b hb ⟨hc, rfl⟩, ?_⟩
  rintro h d hd ⟨hc, rfl⟩
  exact h hc hd

theorem apart_append {a b : Char} {u v : Text} :
    Apart a b (u ++ v) ↔ Apart a b u ∧ Apart a b v ∧ (u.getLast? = some a → v.head? ≠ some b) := by
  rw [Apart, List.isChain_append, ← Apart, ← Apart]
  refine and_congr_right fun _ => and_congr_right fun _ => ⟨fun h ha hb => h a ha b hb ⟨rfl, rfl⟩, ?_⟩
  rintro h c hc d hd ⟨rfl, rfl⟩
  exact h hc hd

theorem apart_of_notMem {a b : Char} {t : Text} (h : a ∉ t) : Apart a b t := by
  refine List.isChain_iff_forall_rel_of_append_cons_cons.mpr ?_
  rintro c d u v rfl ⟨rfl, -⟩
  exact h (by simp)

theorem apart_of_notMem_right {a b : Char} {t : Text} (h : b ∉ t) : Apart a b t := by
  refine List.isChain_iff_forall_rel_of_append_cons_cons.mpr ?_
  rintro c d u v rfl ⟨-, rfl⟩
  exact h (by simp)

theorem not_apart (a b : Char) (t : Text) : ¬Apart a b (a :: b :: t) := fun h => (apart_cons.mp h).1 rfl rfl

theorem hasWord_of_apart {a b : Char} {t : Text} (h : Apart a b t) : hasWord [a, b] t = false := by
  induction t with
  | nil => rfl
  | cons c t ih =>
    rw [apart_cons] at h
    rw [hasWord, ih h.2, Bool.or_false]
    cases t with
    | nil => exact Bool.and_false _
    | cons d t =>
      have hpair : ¬(a = c ∧ b = d) := fun ⟨ha, hb⟩ => h.1 ha.symm (by rw [hb]; rfl)
      simpa [List.isPrefixOf] using hpair

/-- Whether no `b` comes to stand right behind an `a` when the asterisks between them disappear. -/
def Unjoined (a b : Char) : Text → Prop
  | [] => True
  | c :: t => (c = a → t.head? = some '*' → (t.dropWhile (· = '*')).head? ≠ some b) ∧ Unjoined a b t

instance decidableUnjoined (a b : Char) : (t : Text) → Decidable (Unjoined a b t)
  | [] => .isTrue trivial
  | c :: t =>
    have := decidableUnjoined a b t
    inferInstanceAs (Decidable ((c = a → t.head? = some '*' → (t.dropWhile (· = '*')).head? ≠ some b) ∧ Unjoined a b t))

theorem unjoined_of_notMem {a b : Char} {t : Text} (h : '*' ∉ t) : Unjoined a b t := by
  induction t with
  | nil => trivial
  | cons c t ih =>
    rw [List.mem_cons, not_or] at h
    exact ⟨fun _ hstar => absurd (List.mem_of_head? hstar) h.2, ih h.2⟩

theorem Unjoined.of_append {a b : Char} (u : Text) {t : Text} (h : Unjoined a b (u ++ t)) : Unjoined a b t := by
  induction u with
  | nil => exact h
  | cons c u ih => exact ih h.2

theorem Unjoined.append {a b : Char} {v t : Text} (hv : a ∉ v) (h : Unjoined a b t) : Unjoined a b (v ++ t) := by
  induction v with
  | nil => exact h
  | cons c v ih =>
    rw [List.mem_cons, not_or] at hv
    exact ⟨fun hc => absurd hc.symm hv.1, ih hv.2⟩

/-! ## Cutting at a pair -/

private theorem afterWord?_of_apart {a b : Char} {t : Text} (h : Apart a b t) : afterWord? [a, b] t = none := by
  have hword := hasWord_of_apart h
  cases t with
  | nil => rfl
  | cons c t =>
    rw [hasWord, Bool.or_eq_false_iff] at hword
    rw [afterWord?, hword.1]
    rfl

private theorem go_cutAtWord_of_apart {a b : Char} {t : Text} (h : Apart a b t) (before : Text) :
    cutAtWord.go [a, b] before t = none := by
  induction t generalizing before with
  | nil => rfl
  | cons c t ih =>
    rw [cutAtWord.go, afterWord?_of_apart h]
    exact ih (apart_cons.mp h).2 _

theorem cutAtWord_of_apart {a b : Char} {t : Text} (h : Apart a b t) : cutAtWord [a, b] t = none :=
  go_cutAtWord_of_apart h []

private theorem go_cutAtWord_append {a b : Char} {u : Text} (h : Apart a b (u ++ [a])) (v before : Text) :
    cutAtWord.go [a, b] before (u ++ a :: b :: v) = some (before.reverse ++ u, v) := by
  induction u generalizing before with
  | nil =>
    rw [List.nil_append, cutAtWord.go, afterWord?, if_pos (by simp [List.isPrefixOf]), List.append_nil]
    rfl
  | cons c u ih =>
    rw [List.cons_append, apart_cons] at h
    have hword : afterWord? [a, b] (c :: (u ++ a :: b :: v)) = none := by
      rw [afterWord?, if_neg]
      intro hfront
      cases u with
      | nil =>
        simp only [List.nil_append, List.isPrefixOf, Bool.and_eq_true, beq_iff_eq] at hfront
        exact h.1 hfront.1.symm (by rw [List.nil_append, hfront.2.1]; rfl)
      | cons d u =>
        simp only [List.cons_append, List.isPrefixOf, Bool.and_eq_true, beq_iff_eq] at hfront
        exact h.1 hfront.1.symm (by rw [hfront.2.1]; rfl)
    rw [List.cons_append, cutAtWord.go, hword]
    dsimp only
    rw [ih h.2, List.reverse_cons, List.append_assoc, List.singleton_append]

/-- A text is cut at the first of several places. -/
theorem cutAtWord_append {a b : Char} {u : Text} (h : Apart a b (u ++ [a])) (v : Text) :
    cutAtWord [a, b] (u ++ a :: b :: v) = some (u, v) :=
  go_cutAtWord_append h v []

/-- A text has no such pair, or there is a first one. -/
theorem apart_or_exists (a b : Char) (t : Text) :
    Apart a b t ∨ ∃ u v, t = u ++ a :: b :: v ∧ Apart a b (u ++ [a]) := by
  induction t with
  | nil => exact .inl .nil
  | cons c t ih =>
    by_cases hpair : c = a ∧ t.head? = some b
    · obtain ⟨rfl, hb⟩ := hpair
      obtain ⟨v, rfl⟩ := List.head?_eq_some_iff.mp hb
      exact .inr ⟨[], v, rfl, .singleton c⟩
    · rw [not_and] at hpair
      rcases ih with h | ⟨u, v, rfl, h⟩
      · exact .inl (apart_cons.mpr ⟨hpair, h⟩)
      · refine .inr ⟨c :: u, v, rfl, apart_cons.mpr ⟨fun hc => ?_, h⟩⟩
        have hhead := hpair hc
        cases u <;> exact hhead

/-! ## Pieces in other characters -/

theorem filter_eq_nil {signs : List Char} {t : Text} (h : ∀ c ∈ signs, c ∉ t) : t.filter (· ∈ signs) = [] := by
  rw [List.filter_eq_nil_iff]
  intro c hc hsign
  exact h c (of_decide_eq_true hsign) hc

/-- Whether a text becomes another when some pieces of it are spelled in another way. -/
inductive Respelled (piece : Text → Text → Prop) : Text → Text → Prop
  | nil : Respelled piece [] []
  | keep (c : Char) {t t' : Text} (h : Respelled piece t t') : Respelled piece (c :: t) (c :: t')
  | piece {u v t t' : Text} (hpiece : piece u v) (h : Respelled piece t t') : Respelled piece (u ++ t) (v ++ t')

namespace Respelled

variable {piece : Text → Text → Prop} {t t' : Text}

theorem refl (t : Text) : Respelled piece t t := by
  induction t with
  | nil => exact .nil
  | cons c t ih => exact .keep c ih

theorem append {s s' : Text} (hs : Respelled piece s s') (h : Respelled piece t t') :
    Respelled piece (s ++ t) (s' ++ t') := by
  induction hs with
  | nil => exact h
  | keep c _ ih => exact .keep c ih
  | @piece u v s s' hpiece _ ih =>
    rw [List.append_assoc, List.append_assoc]
    exact .piece hpiece ih

theorem mono {piece' : Text → Text → Prop} (hpieces : ∀ u v, piece u v → piece' u v) (h : Respelled piece t t') :
    Respelled piece' t t' := by
  induction h with
  | nil => exact .nil
  | keep c _ ih => exact .keep c ih
  | piece hpiece _ ih => exact .piece (hpieces _ _ hpiece) ih

/-- What was spelled in another way can be spelled back. -/
theorem symm (h : Respelled piece t t') : Respelled (fun v u => piece u v) t' t := by
  induction h with
  | nil => exact .nil
  | keep c _ ih => exact .keep c ih
  | piece hpiece _ ih => exact .piece hpiece ih

/-- A character that is in no new spelling was there before. -/
theorem mem_of_mem (h : Respelled piece t t') {c : Char} (hpieces : ∀ u v, piece u v → c ∉ v) (hc : c ∈ t') : c ∈ t := by
  induction h with
  | nil => exact hc
  | keep d _ ih => exact List.mem_cons.mpr ((List.mem_cons.mp hc).imp_right ih)
  | piece hpiece _ ih =>
    exact List.mem_append_right _ (ih ((List.mem_append.mp hc).resolve_left (hpieces _ _ hpiece)))

theorem mem_iff (h : Respelled piece t t') {c : Char} (hpieces : ∀ u v, piece u v → c ∉ u ∧ c ∉ v) : c ∈ t' ↔ c ∈ t :=
  ⟨h.mem_of_mem fun u v hpiece => (hpieces u v hpiece).2, h.symm.mem_of_mem fun v u hpiece => (hpieces u v hpiece).1⟩

/-- Characters that are in no spelling stay, and in their order. -/
theorem filter_eq (h : Respelled piece t t') {signs : List Char}
    (hpieces : ∀ u v, piece u v → ∀ c ∈ signs, c ∉ u ∧ c ∉ v) : t'.filter (· ∈ signs) = t.filter (· ∈ signs) := by
  induction h with
  | nil => rfl
  | keep c _ ih => rw [List.filter_cons, List.filter_cons, ih]
  | @piece u v t t' hpiece _ ih =>
    have hnot := hpieces u v hpiece
    rw [List.filter_append, List.filter_append, ih, filter_eq_nil fun c hc => (hnot c hc).1, filter_eq_nil fun c hc => (hnot c hc).2]

/-- There are as many characters of a kind as before when each piece has as many in either spelling. -/
theorem countP_eq (h : Respelled piece t t') {p : Char → Bool} (hpieces : ∀ u v, piece u v → u.countP p = v.countP p) :
    t'.countP p = t.countP p := by
  induction h with
  | nil => rfl
  | keep c _ ih => rw [List.countP_cons, List.countP_cons, ih]
  | @piece u v t t' hpiece _ ih => rw [List.countP_append, List.countP_append, ih, hpieces u v hpiece]

/-- Where a character stands in every new spelling and is nowhere, nothing was spelled anew. -/
theorem eq_of_notMem (h : Respelled piece t t') {c : Char} (hpieces : ∀ u v, piece u v → c ∈ v) (hc : c ∉ t') : t' = t := by
  induction h with
  | nil => rfl
  | keep d _ ih =>
    rw [List.mem_cons, not_or] at hc
    rw [ih hc.2]
  | piece hpiece _ _ => exact absurd (List.mem_append_left _ (hpieces _ _ hpiece)) hc

theorem head?_of_head? (h : Respelled piece t t') {c : Char} (hpieces : ∀ u v, piece u v → v ≠ [] ∧ c ∉ v)
    (hc : t'.head? = some c) : t.head? = some c := by
  cases h with
  | nil => exact hc
  | keep d _ => exact hc
  | piece hpiece _ =>
    obtain ⟨hne, hnot⟩ := hpieces _ _ hpiece
    rw [List.head?_append_of_ne_nil _ hne] at hc
    exact absurd (List.mem_of_head? hc) hnot

theorem eq_nil (h : Respelled piece t []) (hpieces : ∀ u v, piece u v → v ≠ []) : t = [] := by
  generalize hnil : ([] : Text) = t' at h
  cases h with
  | nil => rfl
  | keep c _ => cases hnil
  | piece hpiece _ => exact absurd (List.append_eq_nil_iff.mp hnil.symm).1 (hpieces _ _ hpiece)

theorem getLast?_of_getLast? (h : Respelled piece t t') {c : Char} (hpieces : ∀ u v, piece u v → v ≠ [] ∧ c ∉ v)
    (hc : t'.getLast? = some c) : t.getLast? = some c := by
  induction h with
  | nil => exact hc
  | @keep d t t' h ih =>
    cases t' with
    | nil =>
      rw [h.eq_nil fun u v hpiece => (hpieces u v hpiece).1]
      exact hc
    | cons d' t' =>
      rw [List.getLast?_cons_cons] at hc
      rw [List.getLast?_cons, ih hc]
      rfl
  | @piece u v t t' hpiece _ ih =>
    obtain ⟨-, hnot⟩ := hpieces _ _ hpiece
    rw [List.getLast?_append] at hc
    rcases Option.or_eq_some_iff.mp hc with hlast | ⟨-, hlast⟩
    · rw [List.getLast?_append, ih hlast]
      rfl
    · exact absurd (List.mem_of_getLast? hlast) hnot

/-- Characters that are in no new spelling come to stand side by side nowhere. -/
theorem apart (h : Respelled piece t t') {a b : Char} (hpieces : ∀ u v, piece u v → v ≠ [] ∧ a ∉ v ∧ b ∉ v)
    (hapart : Apart a b t) : Apart a b t' := by
  induction h with
  | nil => exact hapart
  | keep c h ih =>
    rw [apart_cons] at hapart ⊢
    refine ⟨fun hc hb => hapart.1 hc (h.head?_of_head? (fun u v hpiece => ?_) hb), ih hapart.2⟩
    exact ⟨(hpieces u v hpiece).1, (hpieces u v hpiece).2.2⟩
  | piece hpiece _ ih =>
    obtain ⟨-, ha, -⟩ := hpieces _ _ hpiece
    exact apart_append.mpr ⟨apart_of_notMem ha, ih (apart_append.mp hapart).2.1,
      fun hlast => absurd (List.mem_of_getLast? hlast) ha⟩

theorem apart_iff (h : Respelled piece t t') {a b : Char}
    (hpieces : ∀ u v, piece u v → (u ≠ [] ∧ a ∉ u ∧ b ∉ u) ∧ (v ≠ [] ∧ a ∉ v ∧ b ∉ v)) : Apart a b t' ↔ Apart a b t :=
  ⟨h.symm.apart fun v u hpiece => (hpieces u v hpiece).1, h.apart fun u v hpiece => (hpieces u v hpiece).2⟩

theorem head?_of_dropWhile (h : Respelled piece t t') {b : Char} (hpieces : ∀ u v, piece u v → v ≠ [] ∧ '*' ∉ v ∧ b ∉ v)
    (hb : (t'.dropWhile (· = '*')).head? = some b) : (t.dropWhile (· = '*')).head? = some b := by
  induction h with
  | nil => exact hb
  | keep c _ ih =>
    rw [List.dropWhile_cons] at hb ⊢
    split_ifs at hb ⊢ with hstar
    · exact ih hb
    · exact hb
  | @piece u v t t' hpiece _ _ =>
    obtain ⟨hne, hstar, hnot⟩ := hpieces u v hpiece
    obtain ⟨d, v, rfl⟩ := List.exists_cons_of_ne_nil hne
    rw [List.mem_cons, not_or] at hstar hnot
    rw [List.cons_append, List.dropWhile_cons, if_neg (by simpa using Ne.symm hstar.1)] at hb
    exact absurd (Option.some.inj hb).symm hnot.1

/-- Nor do they come to stand side by side when asterisks disappear. -/
theorem unjoined (h : Respelled piece t t') {a b : Char} (hpieces : ∀ u v, piece u v → v ≠ [] ∧ '*' ∉ v ∧ a ∉ v ∧ b ∉ v)
    (hunjoined : Unjoined a b t) : Unjoined a b t' := by
  induction h with
  | nil => trivial
  | keep c h ih =>
    refine ⟨fun hc hstar hb => hunjoined.1 hc ?_ ?_, ih hunjoined.2⟩
    · exact h.head?_of_head? (fun u v hpiece => ⟨(hpieces u v hpiece).1, (hpieces u v hpiece).2.1⟩) hstar
    · exact h.head?_of_dropWhile
        (fun u v hpiece => ⟨(hpieces u v hpiece).1, (hpieces u v hpiece).2.1, (hpieces u v hpiece).2.2.2⟩) hb
  | @piece u v t t' hpiece _ ih => exact (ih hunjoined.of_append).append (hpieces u v hpiece).2.2.1

theorem of_pieces {piece' : Text → Text → Prop} (hpieces : ∀ u v, piece u v → Respelled piece' u v)
    (h : Respelled piece t t') : Respelled piece' t t' := by
  induction h with
  | nil => exact .nil
  | keep c _ ih => exact .keep c ih
  | piece hpiece _ ih => exact (hpieces _ _ hpiece).append ih

end Respelled

/-- Whether a piece is spelled in certain characters. -/
def SpelledIn (signs : List Char) (_ v : Text) : Prop := v ≠ [] ∧ ∀ c ∈ v, c ∈ signs

/-- Whether a text keeps its order but for certain characters. -/
structure Kept (signs : List Char) (t t' : Text) : Prop where
  mem : ∀ c ∉ signs, c ∈ t' → c ∈ t
  last : ∀ c ∉ signs, t'.getLast? = some c → t.getLast? = some c
  apart : ∀ a ∉ signs, ∀ b ∉ signs, Apart a b t → Apart a b t'
  unjoined : '*' ∉ signs → ∀ a ∉ signs, ∀ b ∉ signs, Unjoined a b t → Unjoined a b t'

/-- Whether a text keeps its order but for certain characters and for asterisks that are gone. -/
structure Thinned (signs : List Char) (t t' : Text) : Prop where
  mem : ∀ c ∉ signs, c ∈ t' → c ∈ t
  last : ∀ c ∉ signs, Apart c '*' t → t'.getLast? = some c → t.getLast? = some c
  apart : ∀ a ∉ signs, ∀ b ∉ signs, Apart a b t → Unjoined a b t → Apart a b t'

namespace Kept

variable {signs signs' : List Char} {t t' t'' : Text}

theorem trans (h : Kept signs t t') (h' : Kept signs t' t'') : Kept signs t t'' where
  mem := fun c hc hm => h.mem c hc (h'.mem c hc hm)
  last := fun c hc hm => h.last c hc (h'.last c hc hm)
  apart := fun a ha b hb hapart => h'.apart a ha b hb (h.apart a ha b hb hapart)
  unjoined := fun hstar a ha b hb hunjoined => h'.unjoined hstar a ha b hb (h.unjoined hstar a ha b hb hunjoined)

theorem mono (h : Kept signs t t') (hsigns : signs ⊆ signs') : Kept signs' t t' where
  mem := fun c hc => h.mem c fun hm => hc (hsigns hm)
  last := fun c hc => h.last c fun hm => hc (hsigns hm)
  apart := fun a ha b hb => h.apart a (fun hm => ha (hsigns hm)) b fun hm => hb (hsigns hm)
  unjoined := fun hstar a ha b hb =>
    h.unjoined (fun hm => hstar (hsigns hm)) a (fun hm => ha (hsigns hm)) b fun hm => hb (hsigns hm)

theorem thinned (h : Kept signs t t') : Thinned signs t t' where
  mem := h.mem
  last := fun c hc _ => h.last c hc
  apart := fun a ha b hb hapart _ => h.apart a ha b hb hapart

/-- Asterisks may disappear later. -/
theorem trans_thinned (h : Kept signs t t') (hstar : '*' ∉ signs) (h' : Thinned signs t' t'') : Thinned signs t t'' where
  mem := fun c hc hm => h.mem c hc (h'.mem c hc hm)
  last := fun c hc hapart hm => h.last c hc (h'.last c hc (h.apart c hc '*' hstar hapart) hm)
  apart := fun a ha b hb hapart hunjoined =>
    h'.apart a ha b hb (h.apart a ha b hb hapart) (h.unjoined hstar a ha b hb hunjoined)

end Kept

namespace Thinned

variable {signs signs' : List Char} {t t' t'' : Text}

theorem mono (h : Thinned signs t t') (hsigns : signs ⊆ signs') : Thinned signs' t t' where
  mem := fun c hc => h.mem c fun hm => hc (hsigns hm)
  last := fun c hc => h.last c fun hm => hc (hsigns hm)
  apart := fun a ha b hb => h.apart a (fun hm => ha (hsigns hm)) b fun hm => hb (hsigns hm)

theorem trans_kept (h : Thinned signs t t') (h' : Kept signs t' t'') : Thinned signs t t'' where
  mem := fun c hc hm => h.mem c hc (h'.mem c hc hm)
  last := fun c hc hapart hm => h.last c hc hapart (h'.last c hc hm)
  apart := fun a ha b hb hapart hunjoined => h'.apart a ha b hb (h.apart a ha b hb hapart hunjoined)

end Thinned

theorem Respelled.kept {signs : List Char} {t t' : Text} (h : Respelled (SpelledIn signs) t t') : Kept signs t t' where
  mem := fun _ hc => h.mem_of_mem fun _ _ hpiece hm => hc (hpiece.2 _ hm)
  last := fun _ hc => h.getLast?_of_getLast? fun _ _ hpiece => ⟨hpiece.1, fun hm => hc (hpiece.2 _ hm)⟩
  apart := fun _ ha _ hb => h.apart fun _ _ hpiece =>
    ⟨hpiece.1, fun hm => ha (hpiece.2 _ hm), fun hm => hb (hpiece.2 _ hm)⟩
  unjoined := fun hstar _ ha _ hb => h.unjoined fun _ _ hpiece =>
    ⟨hpiece.1, fun hm => hstar (hpiece.2 _ hm), fun hm => ha (hpiece.2 _ hm), fun hm => hb (hpiece.2 _ hm)⟩

/-! ## Replacing pairs -/

section ReplacePair

variable {a b : Char} {r : Text}

/-- Replacing pairs spells them in other characters, and none is left if a new one cannot come about. -/
private theorem go_replacePair (hne : r ≠ []) (hr : Apart a b r) (hhead : r.head? ≠ some b) (hlast : r.getLast? ≠ some a)
    (done t : Text) : ∃ out, replacePair.go a b r done t = done.reverse ++ out ∧
      Respelled (fun u v => u = [a, b] ∧ v = r) t out ∧ Apart a b out ∧ (out.head? = t.head? ∨ out.head? = r.head?) := by
  fun_induction replacePair.go a b r done t with
  | case1 done => exact ⟨[], (List.append_nil _).symm, .nil, .nil, .inl rfl⟩
  | case2 done c => exact ⟨[c], List.reverse_cons, .refl _, .singleton c, .inl rfl⟩
  | case3 done c d rest hpair ih =>
    obtain ⟨rfl, rfl⟩ := hpair
    obtain ⟨out, hgo, hout, hapart, -⟩ := ih
    refine ⟨r ++ out, by rw [hgo, List.reverse_append, List.reverse_reverse, List.append_assoc],
      .piece (u := [c, d]) ⟨rfl, rfl⟩ hout, apart_append.mpr ⟨hr, hapart, fun h => absurd h hlast⟩, .inr ?_⟩
    exact List.head?_append_of_ne_nil _ hne
  | case4 done c d rest hpair ih =>
    obtain ⟨out, hgo, hout, hapart, hfront⟩ := ih
    refine ⟨c :: out, by rw [hgo, List.reverse_cons, List.append_assoc, List.singleton_append], .keep c hout,
      apart_cons.mpr ⟨fun hc hb => ?_, hapart⟩, .inl rfl⟩
    rcases hfront with hfront | hfront
    · rw [hfront] at hb
      exact hpair ⟨hc, Option.some.inj hb⟩
    · exact hhead (hfront.symm.trans hb)

theorem respelled_replacePair (hne : r ≠ []) (hr : Apart a b r) (hhead : r.head? ≠ some b) (hlast : r.getLast? ≠ some a)
    (t : Text) : Respelled (fun u v => u = [a, b] ∧ v = r) t (replacePair a b r t) := by
  obtain ⟨out, hgo, hout, -⟩ := go_replacePair hne hr hhead hlast [] t
  rw [replacePair, hgo]
  exact hout

theorem apart_replacePair (hne : r ≠ []) (hr : Apart a b r) (hhead : r.head? ≠ some b) (hlast : r.getLast? ≠ some a)
    (t : Text) : Apart a b (replacePair a b r t) := by
  obtain ⟨out, hgo, -, hapart, -⟩ := go_replacePair hne hr hhead hlast [] t
  rw [replacePair, hgo]
  exact hapart

theorem replacePair_of_apart {t : Text} (h : Apart a b t) : replacePair a b r t = t := by
  have hgo : ∀ done, replacePair.go a b r done t = done.reverse ++ t := by
    intro done
    fun_induction replacePair.go a b r done t with
    | case1 done => exact (List.append_nil _).symm
    | case2 done c => exact List.reverse_cons
    | case3 done c d rest hpair =>
      obtain ⟨rfl, rfl⟩ := hpair
      exact absurd h (not_apart c d rest)
    | case4 done c d rest _ ih => rw [ih (apart_cons.mp h).2, List.reverse_cons, List.append_assoc, List.singleton_append]
  exact hgo []

end ReplacePair

end SceneScript.Text
