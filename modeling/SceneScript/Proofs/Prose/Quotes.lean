import SceneScript.Prose.English
import SceneScript.Proofs.Prose.Respelling
/-!
# Paired quotes

A text whose quotes were paired has no mark left that would close another, and such a text stays as it is. That outlives
every later stage that leaves the marks alone and makes no letter beside them less of a letter.
-/
namespace SceneScript.Prose

open Text (Respelled)

/-- Whether a neighbour is missing in both of two places, and a letter in the second if it is one in the first. -/
def Lettered : Option Char → Option Char → Prop := Option.Rel fun c c' => isAlphabetic c = true → isAlphabetic c' = true

namespace Lettered

theorem refl (p : Option Char) : Lettered p p := by
  cases p with
  | none => exact .none
  | some c => exact .some fun h => h

/-- What stands last before a place. -/
theorem or {p p' q q' : Option Char} (h : Lettered p p') (h' : Lettered q q') : Lettered (p.or q) (p'.or q') := by
  cases h with
  | none => exact h'
  | some h => exact .some h

/-- What is no letter may give way to any character. -/
theorem of_not {c : Char} (h : isAlphabetic c = false) (c' : Char) : Lettered (some c) (some c') := by
  refine .some fun hc => ?_
  rw [h] at hc
  cases hc

end Lettered

/-- Whether a mark counts the less as a quote the more letters stand beside it, and the more if a quote is open. What is no
quote stands behind a letter, and if a quote is open also before one. -/
structure Sparing (counts : Bool → Option Char → Text → Bool) : Prop where
  of_lettered : ∀ {isOpen p p' r r'}, Lettered p p' → Lettered r.head? r'.head? → counts isOpen p' r' = true →
    counts isOpen p r = true
  of_closed : ∀ {p r}, counts false p r = true → counts true p r = true
  behind : ∀ {p p' r r'}, (p.any isAlphabetic = true → p'.any isAlphabetic = true) → r' ≠ [] → counts false p r = false →
    counts false p' r' = false
  between : ∀ {p p' r r'}, (p.any isAlphabetic = true → p'.any isAlphabetic = true) →
    (r.head?.any isAlphabetic = true → r'.head?.any isAlphabetic = true) → counts true p r = false →
    counts true p' r' = false

private theorem isSingleQuote_eq_false {isOpen : Bool} {p : Option Char} {r : Text} : isSingleQuote isOpen p r = false ↔
    r ≠ [] ∧ p.any isAlphabetic = true ∧ (isOpen = true → r.head?.any isAlphabetic = true) := by
  cases p with
  | none => simp [isSingleQuote]
  | some c => cases r <;> simp [isSingleQuote]

theorem sparing_isSingleQuote : Sparing isSingleQuote where
  of_lettered := by
    intro isOpen p p' r r' hp hr h
    cases hp with
    | none => rfl
    | @some c c' hc =>
      cases r with
      | nil => rfl
      | cons d r =>
        cases r' with
        | nil => cases hr
        | cons d' r' =>
          rw [List.head?_cons, List.head?_cons] at hr
          cases hr with
          | some hd =>
            simp only [isSingleQuote, Bool.not_eq_true', Bool.and_eq_false_iff, Bool.or_eq_false_iff] at h ⊢
            exact h.imp (fun h => Bool.eq_false_iff.mpr fun hc' => Bool.eq_false_iff.mp h (hc hc'))
              (And.imp_right fun h => Bool.eq_false_iff.mpr fun hd' => Bool.eq_false_iff.mp h (hd hd'))
  of_closed := by
    intro p r h
    unfold isSingleQuote at h ⊢
    split
    · simp_all
    · rfl
  behind := by
    intro p p' r r' hp hr h
    rw [isSingleQuote_eq_false] at h ⊢
    exact ⟨hr, hp h.2.1, fun ho => absurd ho Bool.false_ne_true⟩
  between := by
    intro p p' r r' hp hr h
    rw [isSingleQuote_eq_false] at h ⊢
    have hletter := hr (h.2.2 rfl)
    refine ⟨?_, hp h.2.1, fun _ => hletter⟩
    rintro rfl
    cases hletter

theorem sparing_always : Sparing fun _ _ _ => true where
  of_lettered := fun _ _ _ => rfl
  of_closed := fun _ => rfl
  behind := fun _ _ h => absurd h (by decide)
  between := fun _ _ h => absurd h (by decide)

section Pairing

variable {mark opening closing : Char} {counts : Bool → Option Char → Text → Bool}

/-- Whether no mark of a text, with another text behind it, closes a quote. -/
inductive Unpaired (mark : Char) (counts : Bool → Option Char → Text → Bool) (after : Text) :
    Bool → Option Char → Text → Prop
  | nil (isOpen : Bool) (prev : Option Char) : Unpaired mark counts after isOpen prev []
  | keep {isOpen : Bool} {prev : Option Char} {c : Char} {rest : Text}
      (hkeep : c = mark → counts isOpen prev (rest ++ after) = false)
      (h : Unpaired mark counts after isOpen (some c) rest) : Unpaired mark counts after isOpen prev (c :: rest)
  | opens {prev : Option Char} {rest : Text} (hopens : counts false prev (rest ++ after) = true)
      (h : Unpaired mark counts after true (some mark) rest) : Unpaired mark counts after false prev (mark :: rest)

/-- What a spelling without marks must keep. -/
structure Unmarked (mark : Char) (u v : Text) : Prop where
  notMem_left : mark ∉ u
  notMem_right : mark ∉ v
  head : Lettered u.head? v.head?
  last : Lettered u.getLast? v.getLast?

/-- The first characters of a text and of a spelling of it. -/
theorem lettered_head?_of_respelled {piece : Text → Text → Prop} {t t' : Text} (h : Respelled piece t t')
    (hpieces : ∀ u v, piece u v → Lettered u.head? v.head?) : Lettered t.head? t'.head? := by
  induction h with
  | nil => exact .none
  | keep c _ _ => exact .refl _
  | piece hpiece _ ih =>
    rw [List.head?_append, List.head?_append]
    exact (hpieces _ _ hpiece).or ih

namespace Unpaired

variable {after after' t t' : Text} {isOpen isOpen' : Bool} {prev prev' : Option Char}

/-- A piece without marks is passed over. -/
private theorem of_append {u : Text} (hu : mark ∉ u) (h : Unpaired mark counts after isOpen prev (u ++ t)) :
    Unpaired mark counts after isOpen (u.getLast?.or prev) t := by
  induction u generalizing prev with
  | nil => exact h
  | cons c u ih =>
    rw [List.mem_cons, not_or] at hu
    have hrest : Unpaired mark counts after isOpen (some c) (u ++ t) := by
      rw [List.cons_append] at h
      cases h with
      | keep _ h => exact h
      | opens _ _ => exact absurd rfl hu.1
    rw [List.getLast?_cons, Option.some_or, ← Option.or_some]
    exact ih hu.2 hrest

private theorem append {v : Text} (hv : mark ∉ v) (h : Unpaired mark counts after isOpen (v.getLast?.or prev) t) :
    Unpaired mark counts after isOpen prev (v ++ t) := by
  induction v generalizing prev with
  | nil => exact h
  | cons c v ih =>
    rw [List.mem_cons, not_or] at hv
    refine .keep (fun hc => absurd hc.symm hv.1) (ih hv.2 ?_)
    rwa [List.getLast?_cons, Option.some_or, ← Option.or_some] at h

/-- A later stage that spells what is no mark leaves no more quotes to close. -/
theorem respelled (hcounts : Sparing counts) {piece : Text → Text → Prop}
    (hpieces : ∀ u v, piece u v → Unmarked mark u v) (h : Unpaired mark counts after isOpen prev t)
    (hspelled : Respelled piece t t') (hopen : isOpen' = true → isOpen = true) (hprev : Lettered prev prev')
    (hafter : Lettered after.head? after'.head?) : Unpaired mark counts after' isOpen' prev' t' := by
  induction hspelled generalizing isOpen isOpen' prev prev' with
  | nil => exact .nil _ _
  | @keep c t t' hspelled ih =>
    have hheads : Lettered (t ++ after).head? (t' ++ after').head? := by
      rw [List.head?_append, List.head?_append]
      exact (lettered_head?_of_respelled hspelled fun u v hpiece => (hpieces u v hpiece).head).or hafter
    cases h with
    | keep hkeep h =>
      refine .keep (fun hc => Bool.eq_false_iff.mpr fun hcount => ?_) (ih h hopen (.refl _))
      have hcount' := hcounts.of_lettered hprev hheads hcount
      refine Bool.eq_false_iff.mp (hkeep hc) ?_
      cases isOpen with
      | true =>
        cases isOpen' with
        | true => exact hcount'
        | false => exact hcounts.of_closed hcount'
      | false =>
        cases isOpen' with
        | true => exact absurd (hopen rfl) Bool.false_ne_true
        | false => exact hcount'
    | opens _ h =>
      obtain rfl : isOpen' = false := Bool.eq_false_iff.mpr fun ho => absurd (hopen ho) Bool.false_ne_true
      cases hcount : counts false prev' (t' ++ after') with
      | true => exact .opens hcount (ih h (fun _ => rfl) (.refl _))
      | false => exact .keep (fun _ => hcount) (ih h (fun _ => rfl) (.refl _))
  | piece hpiece _ ih =>
    have hp := hpieces _ _ hpiece
    exact append hp.notMem_right (ih (of_append hp.notMem_left h) hopen (hp.last.or hprev))

/-- A character more between an open quote and the place that was reached. -/
private theorem snoc {inner : Text} {c : Char} (h : Unpaired mark counts (c :: after) true prev inner)
    (hc : c = mark → counts true (inner.getLast?.or prev) after = false) :
    Unpaired mark counts after true prev (inner ++ [c]) := by
  generalize ho : true = isOpen at h
  induction h with
  | nil => exact .keep (fun hmark => ho ▸ hc hmark) (.nil _ _)
  | @keep isOpen prev d rest hkeep _ ih =>
    rw [List.getLast?_cons, Option.some_or, ← Option.or_some] at hc
    refine .keep (fun hd => ?_) (ih hc ho)
    have hassoc : rest ++ [c] ++ after = rest ++ c :: after := by rw [List.append_assoc, List.singleton_append]
    exact hassoc ▸ hkeep hd
  | opens => cases ho

/-- What stood in an open quote stands outside of all quotes before a text that has nothing to close. -/
private theorem before (hcounts : Sparing counts) {inner : Text} (h : Unpaired mark counts after true prev inner)
    (hprev : Lettered prev prev') (hheads : Lettered after.head? t.head?)
    (ht : ∀ p, Unpaired mark counts [] false p t) : Unpaired mark counts [] false prev' (inner ++ t) := by
  generalize ho : true = isOpen at h
  induction h generalizing prev' with
  | nil => exact ht _
  | @keep isOpen prev c rest hkeep _ ih =>
    refine .keep (fun hc => Bool.eq_false_iff.mpr fun hcount => ?_) (ih (.refl _) ho)
    have hheads' : Lettered (rest ++ after).head? (rest ++ t ++ []).head? := by
      rw [List.append_nil, List.head?_append, List.head?_append]
      exact (Lettered.refl _).or hheads
    have hcount' := hcounts.of_closed (hcounts.of_lettered hprev hheads' hcount)
    exact Bool.eq_false_iff.mp (hkeep hc) (ho ▸ hcount')
  | opens => cases ho

end Unpaired

/-- What pairing makes of a text: marks stay that do not count, and so does the last one that counts if nothing closes it. -/
inductive Paired (mark opening closing : Char) (counts : Bool → Option Char → Text → Bool) :
    Option Char → Text → Text → Prop
  | nil (prev : Option Char) : Paired mark opening closing counts prev [] []
  | keep {prev : Option Char} {c : Char} {rest out : Text} (hkeep : c = mark → counts false prev rest = false)
      (h : Paired mark opening closing counts (some c) rest out) :
      Paired mark opening closing counts prev (c :: rest) (c :: out)
  | pair {prev : Option Char} {inner rest out : Text}
      (hinner : Unpaired mark counts (mark :: rest) true (some mark) inner)
      (h : Paired mark opening closing counts (some mark) rest out) :
      Paired mark opening closing counts prev (mark :: (inner ++ mark :: rest)) (opening :: (inner ++ closing :: out))
  | straight {prev : Option Char} {rest : Text} (h : Unpaired mark counts [] true (some mark) rest) :
      Paired mark opening closing counts prev (mark :: rest) (mark :: rest)

/-- A mark in one of the two other forms. -/
def QuotePiece (mark opening closing : Char) (u v : Text) : Prop := u = [mark] ∧ (v = [opening] ∨ v = [closing])

namespace Paired

variable {prev prev' : Option Char} {t out : Text}

theorem respelled (h : Paired mark opening closing counts prev t out) :
    Respelled (QuotePiece mark opening closing) t out := by
  induction h with
  | nil => exact .nil
  | keep _ _ ih => exact .keep _ ih
  | @pair _ inner _ _ _ _ ih =>
    have hrest := (Respelled.refl inner).append (Respelled.piece (v := [closing]) ⟨rfl, .inr rfl⟩ ih)
    exact .piece (v := [opening]) ⟨rfl, .inl rfl⟩ hrest
  | straight => exact .refl _

/-- After pairing no mark is left that would close another. -/
theorem unpaired (hcounts : Sparing counts) (hmark : isAlphabetic mark = false) (hopening : opening ≠ mark)
    (hclosing : closing ≠ mark) (h : Paired mark opening closing counts prev t out) (hprev : Lettered prev prev') :
    Unpaired mark counts [] false prev' out := by
  induction h generalizing prev' with
  | nil => exact .nil _ _
  | @keep prev c rest out hkeep h ih =>
    refine .keep (fun hc => Bool.eq_false_iff.mpr fun hcount => ?_) (ih (.refl _))
    have hheads : Lettered rest.head? (out ++ []).head? := by
      rw [List.append_nil]
      refine lettered_head?_of_respelled h.respelled ?_
      rintro u v ⟨rfl, rfl | rfl⟩ <;> exact .of_not hmark _
    exact Bool.eq_false_iff.mp (hkeep hc) (hcounts.of_lettered hprev hheads hcount)
  | @pair prev inner rest out hinner _ ih =>
    refine .keep (fun hc => absurd hc hopening) (hinner.before hcounts (.of_not hmark _) (.of_not hmark _) fun p => ?_)
    exact .keep (fun hc => absurd hc hclosing) (ih (.of_not hmark _))
  | @straight prev rest h =>
    have hnone : ∀ u v, (fun _ _ : Text => False) u v → Unmarked mark u v := fun _ _ hpiece => hpiece.elim
    have hrest : ∀ isOpen, Unpaired mark counts [] isOpen (some mark) rest := fun isOpen =>
      h.respelled hcounts hnone (.refl _) (fun _ => rfl) (.refl _) (.refl _)
    cases hcount : counts false prev' (rest ++ []) with
    | true => exact .opens hcount (hrest true)
    | false => exact .keep (fun _ => hcount) (hrest false)

end Paired

/-! ## The scan -/

section Steps

variable {prev : Option Char} {c : Char} {rest : Text}

private theorem and_eq_false {isOpen : Bool} (hkeep : c = mark → counts isOpen prev rest = false) :
    (decide (c = mark) && counts isOpen prev rest) = false := by
  rw [← Bool.not_eq_true, Bool.and_eq_true, decide_eq_true_eq]
  exact fun ⟨hc, hcount⟩ => Bool.eq_false_iff.mp (hkeep hc) hcount

private theorem go_keep (hkeep : c = mark → counts false prev rest = false) (outer : Text) :
    pairQuotes.go mark opening closing counts prev outer none (c :: rest) =
      pairQuotes.go mark opening closing counts (some c) (c :: outer) none rest := by
  rw [pairQuotes.go.eq_def]
  dsimp only
  rw [Option.isSome_none, and_eq_false hkeep]

private theorem go_opens (hcount : counts false prev rest = true) (outer : Text) :
    pairQuotes.go mark opening closing counts prev outer none (mark :: rest) =
      pairQuotes.go mark opening closing counts (some mark) outer (some []) rest := by
  rw [pairQuotes.go.eq_def]
  dsimp only
  rw [Option.isSome_none, decide_eq_true rfl, Bool.true_and, hcount]

private theorem go_pass (hkeep : c = mark → counts true prev rest = false) (outer inner : Text) :
    pairQuotes.go mark opening closing counts prev outer (some inner) (c :: rest) =
      pairQuotes.go mark opening closing counts (some c) outer (some (c :: inner)) rest := by
  rw [pairQuotes.go.eq_def]
  dsimp only
  rw [Option.isSome_some, and_eq_false hkeep]

private theorem go_closes (hcount : counts true prev rest = true) (outer inner : Text) :
    pairQuotes.go mark opening closing counts prev outer (some inner) (mark :: rest) =
      pairQuotes.go mark opening closing counts (some mark) (closing :: (inner ++ opening :: outer)) none rest := by
  rw [pairQuotes.go.eq_def]
  dsimp only
  rw [Option.isSome_some, decide_eq_true rfl, Bool.true_and, hcount]

end Steps

/-- The scan pairs what is left, and with an open quote also what it has passed since. -/
private theorem paired_go (mark opening closing : Char) (counts : Bool → Option Char → Text → Bool) (t : Text)
    (prev : Option Char) (outer : Text) :
    (∃ out, pairQuotes.go mark opening closing counts prev outer none t = outer.reverse ++ out ∧
      Paired mark opening closing counts prev t out) ∧
    ∀ (inner : Text) (prev₀ : Option Char), Unpaired mark counts t true (some mark) inner.reverse →
      prev = inner.head?.or (some mark) →
      ∃ out, pairQuotes.go mark opening closing counts prev outer (some inner) t = outer.reverse ++ out ∧
        Paired mark opening closing counts prev₀ (mark :: (inner.reverse ++ t)) out := by
  induction t generalizing prev outer with
  | nil =>
    refine ⟨⟨[], (List.append_nil _).symm, .nil _⟩, fun inner prev₀ hinner _ => ⟨mark :: inner.reverse, ?_, ?_⟩⟩
    · rw [pairQuotes.go, List.reverse_append, List.reverse_cons, List.append_assoc, List.singleton_append]
    · rw [List.append_nil]
      exact .straight hinner
  | cons c rest ih =>
    constructor
    · by_cases hc : c = mark ∧ counts false prev rest = true
      · obtain ⟨rfl, hcount⟩ := hc
        obtain ⟨out, hgo, hout⟩ := (ih (some c) outer).2 [] prev (.nil _ _) rfl
        exact ⟨out, (go_opens hcount outer).trans hgo, hout⟩
      · have hkeep : c = mark → counts false prev rest = false :=
          fun hmark => Bool.eq_false_iff.mpr fun hcount => hc ⟨hmark, hcount⟩
        obtain ⟨out, hgo, hout⟩ := (ih (some c) (c :: outer)).1
        refine ⟨c :: out, ?_, .keep hkeep hout⟩
        rw [go_keep hkeep, hgo, List.reverse_cons, List.append_assoc, List.singleton_append]
    · intro inner prev₀ hinner hprev
      by_cases hc : c = mark ∧ counts true prev rest = true
      · obtain ⟨rfl, hcount⟩ := hc
        obtain ⟨out, hgo, hout⟩ := (ih (some c) (closing :: (inner ++ opening :: outer))).1
        refine ⟨opening :: (inner.reverse ++ closing :: out), ?_, .pair hinner hout⟩
        rw [go_closes hcount, hgo, List.reverse_cons, List.reverse_append, List.reverse_cons]
        simp only [List.append_assoc, List.cons_append, List.nil_append]
      · have hkeep : c = mark → counts true prev rest = false :=
          fun hmark => Bool.eq_false_iff.mpr fun hcount => hc ⟨hmark, hcount⟩
        have hsnoc : Unpaired mark counts rest true (some mark) (c :: inner).reverse := by
          rw [List.reverse_cons]
          refine hinner.snoc ?_
          rw [List.getLast?_reverse, ← hprev]
          exact hkeep
        obtain ⟨out, hgo, hout⟩ := (ih (some c) outer).2 (c :: inner) prev₀ hsnoc rfl
        rw [List.reverse_cons, List.append_assoc, List.singleton_append] at hout
        exact ⟨out, (go_pass hkeep outer inner).trans hgo, hout⟩

theorem paired_pairQuotes (t : Text) :
    Paired mark opening closing counts none t (pairQuotes mark opening closing counts t) := by
  obtain ⟨out, hgo, hout⟩ := (paired_go mark opening closing counts t none []).1
  rw [pairQuotes, hgo]
  exact hout

/-- The scan leaves a text in which no mark closes another. -/
private theorem go_of_unpaired {isOpen : Bool} {prev : Option Char} {t : Text}
    (h : Unpaired mark counts [] isOpen prev t) (outer : Text) :
    (isOpen = false → pairQuotes.go mark opening closing counts prev outer none t = outer.reverse ++ t) ∧
    (isOpen = true → ∀ inner, pairQuotes.go mark opening closing counts prev outer (some inner) t =
      outer.reverse ++ mark :: (inner.reverse ++ t)) := by
  induction h generalizing outer with
  | nil =>
    refine ⟨fun _ => (List.append_nil _).symm, fun _ inner => ?_⟩
    rw [pairQuotes.go, List.reverse_append, List.reverse_cons, List.append_assoc, List.append_nil, List.singleton_append]
  | @keep isOpen prev c rest hkeep _ ih =>
    rw [List.append_nil] at hkeep
    constructor
    · rintro rfl
      rw [go_keep hkeep, (ih _).1 rfl, List.reverse_cons, List.append_assoc, List.singleton_append]
    · rintro rfl inner
      rw [go_pass hkeep, (ih _).2 rfl, List.reverse_cons, List.append_assoc, List.singleton_append]
  | opens hopens _ ih =>
    rw [List.append_nil] at hopens
    exact ⟨fun _ => (go_opens hopens outer).trans ((ih outer).2 rfl []), fun ho => nomatch ho⟩

theorem pairQuotes_of_unpaired {t : Text} (h : Unpaired mark counts [] false none t) :
    pairQuotes mark opening closing counts t = t :=
  (go_of_unpaired h []).1 rfl

end Pairing
end SceneScript.Prose
