import SceneScript.Prose.Wrap
import SceneScript.Proofs.Prose.Respelling
/-!
# Wrapped lines

A line that was wrapped is scanned again without a break: up to each break the scan goes as it went before the space was
given up, and behind it it begins a new line just as it did then. For that a space that is given up must be a space of its
own and not the end of a code.
-/
namespace SceneScript.Prose

open Text (Respelled Apart apart_cons apart_append)

/-! ## Codes -/

/-- A code is a character that is no percent sign, and digits. -/
theorem exists_of_codeAfter? {t : Text} {len : Nat} {resets : Bool} (h : codeAfter? t = some (len, resets)) :
    ∃ c digits rest, t = c :: (digits ++ rest) ∧ len = (c :: digits).length ∧ c ≠ '%' ∧
      ∀ d ∈ digits, Char.isDigit d = true := by
  cases t with
  | nil => cases h
  | cons c t =>
    rw [codeAfter?] at h
    split_ifs at h with hreset hpercent hdigits
    · obtain ⟨rfl, -⟩ := Prod.mk.inj (Option.some.inj h)
      refine ⟨c, [], t, rfl, rfl, ?_, fun _ hd => absurd hd List.not_mem_nil⟩
      rintro rfl
      exact absurd hreset (by decide)
    · obtain ⟨rfl, -⟩ := Prod.mk.inj (Option.some.inj h)
      refine ⟨c, t.takeWhile Char.isDigit, t.dropWhile Char.isDigit, by rw [List.takeWhile_append_dropWhile], ?_, hpercent, ?_⟩
      · rw [List.length_cons, Nat.add_comm]
      · exact fun d hd => List.all_eq_true.mp List.all_takeWhile d hd
    · obtain ⟨rfl, -⟩ := Prod.mk.inj (Option.some.inj h)
      exact ⟨c, [], t, rfl, rfl, hpercent, fun _ hd => absurd hd List.not_mem_nil⟩

private theorem takeWhile_isDigit_append (v : Text) {c c' : Char} (hc : Char.isDigit c = false) (hc' : Char.isDigit c' = false)
    (rest rest' : Text) :
    (v ++ c :: rest).takeWhile Char.isDigit = (v ++ c' :: rest').takeWhile Char.isDigit := by
  induction v with
  | nil => simp [hc, hc']
  | cons d v ih => rw [List.cons_append, List.cons_append, List.takeWhile_cons, List.takeWhile_cons, ih]

/-- What comes after the first character matters only in so far as it is a digit. -/
theorem codeAfter?_append {v : Text} (hv : v ≠ []) {c c' : Char} (hc : Char.isDigit c = false)
    (hc' : Char.isDigit c' = false) (rest rest' : Text) : codeAfter? (v ++ c :: rest) = codeAfter? (v ++ c' :: rest') := by
  obtain ⟨d, v, rfl⟩ := List.exists_cons_of_ne_nil hv
  rw [List.cons_append, List.cons_append, codeAfter?, codeAfter?, takeWhile_isDigit_append v hc hc' rest rest']

/-! ## The run -/

section Run

variable {metrics : FontMetrics} {config : WrapConfig} {spoken : Bool}

/-- Whether the scan ends in front of a text. -/
def Halts (spoken : Bool) (done rest : Text) : Prop :=
  rest = [] ∨ (spoken = true ∧ rest.head? = some '%' ∧ done.head? = some '”')

theorem halts_cons {done rest : Text} {c : Char} :
    Halts spoken done (c :: rest) ↔ spoken = true ∧ c = '%' ∧ done.head? = some '”' := by
  rw [Halts, List.head?_cons, Option.some_inj]
  exact or_iff_right (List.cons_ne_nil _ _)

/-- How wide a line is behind a character that it is not broken before. -/
inductive Passes (metrics : FontMetrics) (config : WrapConfig) (width : Nat) (done : Text) (c : Char) : Nat → Prop
  | weightless (h : isWeightless c = true) : Passes metrics config width done c width
  | undrawn (h : isWeightless c = false) (hroom : (roomOf metrics config c).1 = none) : Passes metrics config width done c width
  | drawn {glyphWidth padding : Nat} (h : isWeightless c = false)
      (hroom : (roomOf metrics config c).1 = some (glyphWidth, padding))
      (hfits : (config.maxLineWidth < width + glyphWidth ∧ c ≠ ' ') → breakBefore? c done [] = none) :
      Passes metrics config width done c (width + glyphWidth + padding)

/-- Whether a character is too much for a line of some width. -/
def Exceeds (metrics : FontMetrics) (config : WrapConfig) (width : Nat) (c : Char) : Prop :=
  isWeightless c = false ∧ c ≠ ' ' ∧
    ∃ glyphWidth padding, (roomOf metrics config c).1 = some (glyphWidth, padding) ∧ config.maxLineWidth < width + glyphWidth

/-- What the scan makes of a text. -/
inductive Wraps (metrics : FontMetrics) (config : WrapConfig) (spoken : Bool) : Nat → Text → Text → Text → Prop
  | halt {width : Nat} {done rest : Text} (h : Halts spoken done rest) :
      Wraps metrics config spoken width done rest (done.reverse ++ rest)
  | code {width : Nat} {done code rest out : Text} {resets : Bool} (hgoes : ¬Halts spoken done ('%' :: (code ++ rest)))
      (hcode : codeAfter? (code ++ rest) = some (code.length, resets))
      (h : Wraps metrics config spoken (if resets then 0 else width) (code.reverse ++ '%' :: done) rest out) :
      Wraps metrics config spoken width done ('%' :: (code ++ rest)) out
  | pass {width width' : Nat} {done rest out : Text} {c : Char} (hgoes : ¬Halts spoken done (c :: rest))
      (hplain : c = '%' → codeAfter? rest = none) (hpass : Passes metrics config width done c width')
      (h : Wraps metrics config spoken width' (c :: done) rest out) : Wraps metrics config spoken width done (c :: rest) out
  | breaks {width : Nat} {done rest earlier between out : Text} {c : Char} (hgoes : ¬Halts spoken done (c :: rest))
      (hplain : c = '%' → codeAfter? rest = none) (hexceeds : Exceeds metrics config width c)
      (hfound : breakBefore? c done [] = some (earlier, between))
      (h : Wraps metrics config spoken 0 ('N' :: '%' :: earlier) (between ++ c :: rest) out) :
      Wraps metrics config spoken width done (c :: rest) out

theorem wraps_wrapFrom (metrics : FontMetrics) (config : WrapConfig) (spoken : Bool) (width : Nat) (done : Text) (log : Log)
    (rest : Text) : Wraps metrics config spoken width done rest (wrapFrom metrics config spoken width done log rest).1 := by
  have hplain : ∀ {rest : Text} {c : Char}, (if c = '%' then codeAfter? rest else none) = none →
      c = '%' → codeAfter? rest = none := fun h hc => by rwa [if_pos hc] at h
  fun_induction wrapFrom metrics config spoken width done log rest with
  | case1 width done log =>
    have hout : done.reverse = done.reverse ++ [] := (List.append_nil _).symm
    dsimp only
    rw [hout]
    exact .halt (.inl rfl)
  | case2 width done log c rest hstop =>
    exact .halt (.inr ⟨hstop.1, congrArg some hstop.2.1, hstop.2.2⟩)
  | case3 width done log c rest hstop len resets hcode ih =>
    obtain ⟨rfl, hcode⟩ : c = '%' ∧ codeAfter? rest = some (len, resets) := by
      split_ifs at hcode with hc
      exact ⟨hc, hcode⟩
    obtain ⟨d, digits, more, rfl, rfl, -⟩ := exists_of_codeAfter? hcode
    rw [← List.cons_append, List.take_left, List.drop_left] at ih ⊢
    exact .code (mt halts_cons.mp hstop) hcode ih
  | case4 width done log c rest hstop hcode hweightless ih =>
    exact .pass (mt halts_cons.mp hstop) (hplain hcode) (.weightless hweightless) ih
  | case5 width done log c rest hstop hcode hweightless warnings hroom ih =>
    exact .pass (mt halts_cons.mp hstop) (hplain hcode) (.undrawn (Bool.eq_false_iff.mpr hweightless) (congrArg Prod.fst hroom)) ih
  | case6 width done log c rest hstop hcode hweightless warnings glyphWidth padding log' width' hwide earlier between hfound
      hroom ih =>
    exact .breaks (mt halts_cons.mp hstop) (hplain hcode)
      ⟨Bool.eq_false_iff.mpr hweightless, hwide.2, glyphWidth, padding, congrArg Prod.fst hroom, hwide.1⟩ hfound ih
  | case7 width done log c rest hstop hcode hweightless warnings glyphWidth padding log' width' hwide hfound hroom ih =>
    exact .pass (mt halts_cons.mp hstop) (hplain hcode)
      (.drawn (Bool.eq_false_iff.mpr hweightless) (congrArg Prod.fst hroom) fun _ => hfound) ih
  | case8 width done log c rest hstop hcode hweightless warnings glyphWidth padding log' width' hwide hroom ih =>
    exact .pass (mt halts_cons.mp hstop) (hplain hcode)
      (.drawn (Bool.eq_false_iff.mpr hweightless) (congrArg Prod.fst hroom) fun h => absurd h hwide) ih

theorem wrapFrom_halt {done rest : Text} (h : Halts spoken done rest) (width : Nat) (log : Log) :
    (wrapFrom metrics config spoken width done log rest).1 = done.reverse ++ rest := by
  rcases h with rfl | ⟨hspoken, hrest, hdone⟩
  · rw [wrapFrom, List.append_nil]
  · obtain ⟨more, rfl⟩ := List.head?_eq_some_iff.mp hrest
    rw [wrapFrom, if_pos ⟨hspoken, rfl, hdone⟩]

private theorem wrapFrom_code {done code rest : Text} {resets : Bool} (hgoes : ¬Halts spoken done ('%' :: (code ++ rest)))
    (hcode : codeAfter? (code ++ rest) = some (code.length, resets)) (width : Nat) (log : Log) :
    wrapFrom metrics config spoken width done log ('%' :: (code ++ rest)) =
      wrapFrom metrics config spoken (if resets then 0 else width) (code.reverse ++ '%' :: done) log rest := by
  rw [wrapFrom, if_neg (mt halts_cons.mpr hgoes), if_pos rfl, hcode]
  dsimp only
  rw [List.take_left, List.drop_left]

theorem codeAt_eq_none {rest : Text} {c : Char} (hplain : c = '%' → codeAfter? rest = none) :
    (if c = '%' then codeAfter? rest else none) = none := by
  split_ifs with hc
  · exact hplain hc
  · rfl

private theorem wrapFrom_pass {width width' : Nat} {done rest : Text} {c : Char} (hgoes : ¬Halts spoken done (c :: rest))
    (hplain : c = '%' → codeAfter? rest = none) (hpass : Passes metrics config width done c width') (log : Log) :
    ∃ log', wrapFrom metrics config spoken width done log (c :: rest) =
      wrapFrom metrics config spoken width' (c :: done) log' rest := by
  rw [wrapFrom, if_neg (mt halts_cons.mpr hgoes), codeAt_eq_none hplain]
  dsimp only
  cases hpass with
  | weightless h => exact ⟨log, by rw [if_pos h]⟩
  | undrawn h hroom =>
    rw [if_neg (Bool.eq_false_iff.mp h), hroom]
    exact ⟨log, rfl⟩
  | @drawn glyphWidth padding h hroom hfits =>
    rw [if_neg (Bool.eq_false_iff.mp h), hroom]
    dsimp only
    refine ⟨(roomOf metrics config c).2 ++ log, ?_⟩
    split_ifs with hwide
    · split
      · rename_i earlier between hfound
        rw [hfits hwide] at hfound
        cases hfound
      · rfl
    · rfl

private theorem wrapFrom_breaks {width : Nat} {done rest earlier between : Text} {c : Char}
    (hgoes : ¬Halts spoken done (c :: rest)) (hplain : c = '%' → codeAfter? rest = none)
    (hexceeds : Exceeds metrics config width c) (hfound : breakBefore? c done [] = some (earlier, between)) (log : Log) :
    ∃ log', wrapFrom metrics config spoken width done log (c :: rest) =
      wrapFrom metrics config spoken 0 ('N' :: '%' :: earlier) log' (between ++ c :: rest) := by
  obtain ⟨hweightless, hspace, glyphWidth, padding, hroom, hwide⟩ := hexceeds
  rw [wrapFrom, if_neg (mt halts_cons.mpr hgoes), codeAt_eq_none hplain]
  dsimp only
  rw [if_neg (Bool.eq_false_iff.mp hweightless), hroom]
  dsimp only
  rw [if_pos ⟨hwide, hspace⟩]
  refine ⟨(roomOf metrics config c).2 ++ log, ?_⟩
  split
  · rename_i earlier' between' hfound'
    obtain ⟨rfl, rfl⟩ := Prod.mk.inj (Option.some.inj (hfound.symm.trans hfound'))
    rfl
  · rename_i hnone'
    cases hfound.symm.trans hnone'

/-- What the scan makes of a text is settled. -/
theorem Wraps.wrapFrom_eq {width : Nat} {done rest out : Text} (h : Wraps metrics config spoken width done rest out)
    (log : Log) : (wrapFrom metrics config spoken width done log rest).1 = out := by
  induction h generalizing log with
  | halt h => exact wrapFrom_halt h _ log
  | code hgoes hcode _ ih =>
    rw [wrapFrom_code hgoes hcode]
    exact ih log
  | pass hgoes hplain hpass _ ih =>
    obtain ⟨log', hstep⟩ := wrapFrom_pass hgoes hplain hpass log
    rw [hstep]
    exact ih log'
  | breaks hgoes hplain hexceeds hfound _ ih =>
    obtain ⟨log', hstep⟩ := wrapFrom_breaks hgoes hplain hexceeds hfound log
    rw [hstep]
    exact ih log'

/-! ## Scanning without a break -/

/-- Whether the scan from the start of a text comes to a place without a break, and with which width. -/
inductive Scanned (metrics : FontMetrics) (config : WrapConfig) (spoken : Bool) : Nat → Text → Text → Prop
  | start (t : Text) : Scanned metrics config spoken 0 [] t
  | code {width : Nat} {done code rest : Text} {resets : Bool}
      (h : Scanned metrics config spoken width done ('%' :: (code ++ rest)))
      (hgoes : ¬Halts spoken done ('%' :: (code ++ rest)))
      (hcode : codeAfter? (code ++ rest) = some (code.length, resets)) :
      Scanned metrics config spoken (if resets then 0 else width) (code.reverse ++ '%' :: done) rest
  | pass {width width' : Nat} {done rest : Text} {c : Char} (h : Scanned metrics config spoken width done (c :: rest))
      (hgoes : ¬Halts spoken done (c :: rest)) (hplain : c = '%' → codeAfter? rest = none)
      (hpass : Passes metrics config width done c width') : Scanned metrics config spoken width' (c :: done) rest

/-- The scan of the whole text goes on from every place that it comes to. -/
theorem Scanned.wrapFrom_eq {width : Nat} {done rest : Text} (h : Scanned metrics config spoken width done rest) (log : Log) :
    ∃ log', wrapFrom metrics config spoken 0 [] log (done.reverse ++ rest) =
      wrapFrom metrics config spoken width done log' rest := by
  induction h with
  | start t => exact ⟨log, rfl⟩
  | code _ hgoes hcode ih =>
    obtain ⟨log', hrun⟩ := ih
    refine ⟨log', ?_⟩
    rw [← wrapFrom_code hgoes hcode, ← hrun, List.reverse_append, List.reverse_cons, List.reverse_reverse]
    simp only [List.append_assoc, List.cons_append, List.nil_append]
  | pass _ hgoes hplain hpass ih =>
    obtain ⟨log', hrun⟩ := ih
    obtain ⟨log'', hstep⟩ := wrapFrom_pass hgoes hplain hpass log'
    refine ⟨log'', ?_⟩
    rw [← hstep, ← hrun, List.reverse_cons, List.append_assoc, List.singleton_append]

/-- A text that is scanned to its end is not wrapped. -/
theorem Scanned.wrapFrom_of_halts {width : Nat} {done rest : Text} (h : Scanned metrics config spoken width done rest)
    (hhalts : Halts spoken done rest) (log : Log) :
    (wrapFrom metrics config spoken 0 [] log (done.reverse ++ rest)).1 = done.reverse ++ rest := by
  obtain ⟨log', hrun⟩ := h.wrapFrom_eq log
  rw [hrun, wrapFrom_halt hhalts]

/-! ## Breaks -/

/-- A break takes the place of a space that is not the first character and does not lead into a dash. -/
theorem exists_of_breakBefore? {next : Char} {scanned after earlier between : Text}
    (h : breakBefore? next scanned after = some (earlier, between)) :
    earlier ≠ [] ∧ ∃ mid, between = mid ++ after ∧ scanned = mid.reverse ++ ' ' :: earlier ∧
      (mid ++ [next]).head? ≠ some '—' := by
  induction scanned generalizing next after with
  | nil => simp [breakBefore?] at h
  | cons c rest ih =>
    cases rest with
    | nil => simp [breakBefore?] at h
    | cons d more =>
      rw [breakBefore?] at h
      split_ifs at h with hspace hcode
      · obtain ⟨rfl, rfl⟩ := Prod.mk.inj (Option.some.inj h)
        exact ⟨List.cons_ne_nil _ _, [], rfl, by rw [hspace.1]; rfl, by simpa using hspace.2⟩
      · obtain ⟨hne, mid, rfl, hscanned, hdash⟩ := ih h
        refine ⟨hne, mid ++ [c], by rw [List.append_assoc, List.singleton_append], by simp [hscanned], ?_⟩
        rwa [List.head?_append_of_ne_nil _ (by simp)]

/-- The search for a break ends at a code. -/
private theorem breakBefore?_code {u : Text} (hspace : ' ' ∉ u) (hpercent : '%' ∉ u) {next : Char}
    (hnext : u = [] → next ≠ '%') (done after : Text) : breakBefore? next (u ++ '%' :: done) after = none := by
  induction u generalizing next after with
  | nil =>
    cases done with
    | nil => simp [breakBefore?]
    | cons e done => rw [List.nil_append, breakBefore?, if_neg (by simp), if_pos ⟨rfl, hnext rfl⟩]
  | cons c u ih =>
    rw [List.mem_cons, not_or] at hspace hpercent
    have hrest := ih hspace.2 hpercent.2 (fun _ hc => hpercent.1 hc.symm) (c :: after)
    obtain ⟨e, more, hmore⟩ : ∃ e more, u ++ '%' :: done = e :: more := by cases u <;> exact ⟨_, _, rfl⟩
    rw [hmore] at hrest
    rw [List.cons_append, hmore, breakBefore?, if_neg fun h => hspace.1 h.1.symm, if_neg fun h => hpercent.1 h.1.symm]
    exact hrest

/-- A place before a space is also come to when the text goes on with a percent sign. -/
private theorem Scanned.of_space {width : Nat} {done rest more : Text} (h : Scanned metrics config spoken width done rest)
    {u : Text} (hrest : rest = u ++ ' ' :: more) (more' : Text) :
    Scanned metrics config spoken width done (u ++ '%' :: more') := by
  have hdigit : Char.isDigit ' ' = false := by decide
  have hdigit' : Char.isDigit '%' = false := by decide
  induction h generalizing u with
  | start t => exact .start _
  | @code width done code rest resets _ hgoes hcode ih =>
    subst hrest
    have hsplit : ∀ t : Text, '%' :: (code ++ u) ++ t = '%' :: (code ++ (u ++ t)) := by simp
    have hcode' : codeAfter? (code ++ (u ++ '%' :: more')) = some (code.length, resets) := by
      have hne : code ++ u ≠ [] := by
        obtain ⟨d, digits, -, -, hlength, -⟩ := exists_of_codeAfter? hcode
        intro hnil
        rw [(List.append_eq_nil_iff.mp hnil).1] at hlength
        cases hlength
      rw [← hcode, ← List.append_assoc, ← List.append_assoc]
      exact codeAfter?_append hne hdigit' hdigit _ _
    exact .code (hsplit _ ▸ ih (hsplit _).symm) (fun h => hgoes (halts_cons.mpr (halts_cons.mp h))) hcode'
  | @pass width width' done rest c _ hgoes hplain hpass ih =>
    subst hrest
    have hplain' : c = '%' → codeAfter? (u ++ '%' :: more') = none := by
      intro hc
      have hnone := hplain hc
      cases u with
      | nil => simp [codeAfter?] at hnone
      | cons d u => rwa [codeAfter?_append (List.cons_ne_nil d u) hdigit hdigit' more more'] at hnone
    exact .pass (ih (u := c :: u) rfl) (fun h => hgoes (halts_cons.mpr (halts_cons.mp h))) hplain' hpass

/-- The scan came to the place before a space that is given up. -/
private theorem Scanned.exists_before {width : Nat} {done rest : Text} (h : Scanned metrics config spoken width done rest)
    (hspaces : Apart '%' ' ' done.reverse) {next : Char} {after earlier between : Text}
    (hfound : breakBefore? next done after = some (earlier, between)) :
    ∃ width' mid, between = mid ++ after ∧ Scanned metrics config spoken width' earlier (' ' :: (mid ++ rest)) := by
  induction h generalizing next after with
  | start t => simp [breakBefore?] at hfound
  | @code width done code rest resets _ _ hcode _ =>
    obtain ⟨d, digits, more, hmore, hlength, hpercent, hdigits⟩ := exists_of_codeAfter? hcode
    obtain rfl : code = d :: digits := by
      rw [← List.cons_append] at hmore
      exact (List.append_inj hmore hlength).1
    have hnot : ∀ c, Char.isDigit c = false → c ∉ digits := by
      intro c hc hm
      rw [hdigits c hm] at hc
      cases hc
    have hspace : d ≠ ' ' := by
      rintro rfl
      rw [List.reverse_append, List.reverse_cons, List.reverse_reverse, List.append_assoc, List.singleton_append] at hspaces
      exact Text.not_apart _ _ _ (apart_append.mp hspaces).2.1
    rw [breakBefore?_code (by simp [hspace.symm, hnot ' ' (by decide)]) (by simp [hpercent.symm, hnot '%' (by decide)])
      (by simp)] at hfound
    cases hfound
  | @pass width width' done rest c h _ _ _ ih =>
    cases done with
    | nil => simp [breakBefore?] at hfound
    | cons d done =>
      rw [breakBefore?] at hfound
      split_ifs at hfound with hspace hcode
      · obtain ⟨rfl, rfl⟩ := Prod.mk.inj (Option.some.inj hfound)
        obtain ⟨rfl, -⟩ := hspace
        exact ⟨width, [], rfl, h⟩
      · rw [List.reverse_cons] at hspaces
        obtain ⟨width', mid, rfl, hbefore⟩ := ih (apart_append.mp hspaces).1 hfound
        refine ⟨width', mid ++ [c], by rw [List.append_assoc, List.singleton_append], ?_⟩
        rwa [List.append_assoc, List.singleton_append]

/-! ## What wrapping makes of a text -/

/-- The spelling of a space that was given up. -/
def BreakPiece (u v : Text) : Prop := u = [' '] ∧ v = ['%', 'N']

/-- Whether a text becomes another when some of its spaces are given up, none in front of a dash. -/
inductive Broken : Text → Text → Prop
  | nil : Broken [] []
  | keep (c : Char) {t t' : Text} (h : Broken t t') : Broken (c :: t) (c :: t')
  | giveUp {t t' : Text} (hdash : t.head? ≠ some '—') (h : Broken t t') : Broken (' ' :: t) ('%' :: 'N' :: t')

namespace Broken

variable {t t' : Text}

theorem refl (t : Text) : Broken t t := by
  induction t with
  | nil => exact .nil
  | cons c t ih => exact .keep c ih

theorem append {s s' : Text} (hs : Broken s s') (h : Broken t t') (hdash : t.head? ≠ some '—') :
    Broken (s ++ t) (s' ++ t') := by
  induction hs with
  | nil => exact h
  | keep c _ ih => exact .keep c ih
  | @giveUp s s' hnext _ ih =>
    refine .giveUp ?_ ih
    cases s with
    | nil => exact hdash
    | cons c s => exact hnext

theorem giveUpSpace (u : Text) {v : Text} (hdash : v.head? ≠ some '—') : Broken (u ++ ' ' :: v) (u ++ '%' :: 'N' :: v) :=
  (refl u).append (.giveUp hdash (refl v)) (by simp)

/-- A dash stays at the front. -/
private theorem head?_of_dash (h : Broken t t') (hdash : t.head? = some '—') : t'.head? = some '—' := by
  cases h with
  | nil => exact hdash
  | keep c _ => exact hdash
  | giveUp _ _ => exact absurd (Option.some.inj hdash) (by decide)

/-- What was broken may be broken again. -/
theorem trans {t'' : Text} (h : Broken t t') (h' : Broken t' t'') : Broken t t'' := by
  induction h generalizing t'' with
  | nil => exact h'
  | keep c h ih =>
    cases h' with
    | keep _ h' => exact .keep c (ih h')
    | giveUp hdash h' => exact .giveUp (fun hfront => hdash (h.head?_of_dash hfront)) (ih h')
  | giveUp hdash _ ih =>
    cases h' with
    | keep _ h' =>
      cases h' with
      | keep _ h' => exact .giveUp hdash (ih h')

theorem respelled (h : Broken t t') : Respelled BreakPiece t t' := by
  induction h with
  | nil => exact .nil
  | keep c _ ih => exact .keep c ih
  | giveUp _ _ ih => exact .piece (u := [' ']) (v := ['%', 'N']) ⟨rfl, rfl⟩ ih

end Broken

/-- Where a percent sign has come to stand behind a character there was one before, or a space. -/
theorem apart_of_breaks {t t' : Text} (h : Respelled BreakPiece t t') {a b : Char} (ha : a ≠ 'N') (hb : b ≠ 'N')
    (hspace : b = '%' → Apart a ' ' t) (hapart : Apart a b t) : Apart a b t' := by
  induction h with
  | nil => exact hapart
  | @keep c t t' h ih =>
    rw [apart_cons] at hapart ⊢
    refine ⟨fun hc hhead => ?_, ih (fun hb => (apart_cons.mp (hspace hb)).2) hapart.2⟩
    cases h with
    | nil => cases hhead
    | keep d _ => exact hapart.1 hc hhead
    | piece hpiece _ =>
      obtain ⟨rfl, rfl⟩ := hpiece
      exact (apart_cons.mp (hspace (Option.some.inj hhead).symm)).1 hc rfl
  | @piece u v t t' hpiece _ ih =>
    obtain ⟨rfl, rfl⟩ := hpiece
    refine apart_cons.mpr ⟨fun _ hhead => hb (Option.some.inj hhead).symm, apart_cons.mpr ⟨fun hc => absurd hc.symm ha, ?_⟩⟩
    exact ih (fun hb => (apart_cons.mp (hspace hb)).2) (apart_cons.mp hapart).2

/-- No break is put in front of one that is there. -/
theorem exists_of_breakBefore?_append {next : Char} {u done after earlier between : Text}
    (h : breakBefore? next (u ++ 'N' :: '%' :: done) after = some (earlier, between)) :
    ∃ u', earlier = u' ++ 'N' :: '%' :: done := by
  induction u generalizing next after with
  | nil =>
    rw [List.nil_append, ← List.singleton_append, breakBefore?_code (by decide) (by decide) (by simp)] at h
    cases h
  | cons c u ih =>
    obtain ⟨e, more, hmore⟩ : ∃ e more, u ++ 'N' :: '%' :: done = e :: more := by cases u <;> exact ⟨_, _, rfl⟩
    rw [hmore] at ih
    rw [List.cons_append, hmore, breakBefore?] at h
    split_ifs at h with hspace hcode
    · obtain ⟨rfl, -⟩ := Prod.mk.inj (Option.some.inj h)
      exact ⟨u, hmore.symm⟩
    · exact ih h

private theorem Wraps.exists_append {width : Nat} {done rest out : Text} (h : Wraps metrics config spoken width done rest out)
    {u earlier : Text} (hdone : done = u ++ 'N' :: '%' :: earlier) : ∃ more, out = earlier.reverse ++ '%' :: 'N' :: more := by
  induction h generalizing u with
  | @halt width done rest h =>
    subst hdone
    exact ⟨u.reverse ++ rest, by simp⟩
  | @code width done code rest out resets _ _ _ ih =>
    subst hdone
    exact ih (u := code.reverse ++ '%' :: u) (by rw [List.append_assoc, List.cons_append])
  | @pass width width' done rest out c _ _ _ _ ih =>
    subst hdone
    exact ih (u := c :: u) rfl
  | breaks _ _ _ hfound _ ih =>
    subst hdone
    obtain ⟨u', rfl⟩ := exists_of_breakBefore?_append hfound
    exact ih (u := 'N' :: '%' :: u') rfl

/-- The scan gives up spaces behind the first character and changes nothing else. -/
theorem Wraps.exists_broken {width : Nat} {done rest out : Text} (h : Wraps metrics config spoken width done rest out)
    {c : Char} {t : Text} (htext : done.reverse ++ rest = c :: t) : ∃ t', out = c :: t' ∧ Broken t t' := by
  induction h generalizing t with
  | halt _ => exact ⟨t, htext, .refl t⟩
  | code _ _ _ ih =>
    refine ih ?_
    rwa [List.reverse_append, List.reverse_cons, List.reverse_reverse, List.append_assoc, List.append_assoc,
      List.singleton_append]
  | pass _ _ _ _ ih =>
    refine ih ?_
    rwa [List.reverse_cons, List.append_assoc, List.singleton_append]
  | @breaks width done rest earlier between out d _ _ _ hfound _ ih =>
    obtain ⟨hne, mid, hbetween, rfl, hdash⟩ := exists_of_breakBefore? hfound
    rw [List.append_nil] at hbetween
    subst hbetween
    obtain ⟨e, u, hearlier⟩ := List.exists_cons_of_ne_nil (mt List.reverse_eq_nil_iff.mp hne)
    have hbefore : e :: (u ++ ' ' :: (between ++ d :: rest)) = c :: t := by
      rw [← htext]
      simp [hearlier]
    obtain ⟨rfl, rfl⟩ := List.cons.inj hbefore
    obtain ⟨t', rfl, hbroken⟩ := ih (t := u ++ '%' :: 'N' :: (between ++ d :: rest)) (by simp [hearlier])
    refine ⟨t', rfl, (Broken.giveUpSpace u ?_).trans hbroken⟩
    rwa [← List.singleton_append, ← List.append_assoc, List.head?_append_of_ne_nil _ (by simp)]

theorem exists_broken_wrapFrom (metrics : FontMetrics) (config : WrapConfig) (spoken : Bool) (c : Char) (t : Text) :
    ∃ t', (wrapFrom metrics config spoken 0 [] [] (c :: t)).1 = c :: t' ∧ Broken t t' :=
  (wraps_wrapFrom metrics config spoken 0 [] [] (c :: t)).exists_broken rfl

theorem broken_wrapFrom (metrics : FontMetrics) (config : WrapConfig) (spoken : Bool) (t : Text) :
    Broken t (wrapFrom metrics config spoken 0 [] [] t).1 := by
  cases t with
  | nil =>
    rw [wrapFrom]
    exact .nil
  | cons c t =>
    obtain ⟨t', ht', hbroken⟩ := exists_broken_wrapFrom metrics config spoken c t
    rw [ht']
    exact .keep c hbroken

/-- A run that began without a break ends in a text that is scanned without one. -/
theorem Wraps.exists_scanned {width : Nat} {done rest out : Text} (h : Wraps metrics config spoken width done rest out)
    (hscanned : Scanned metrics config spoken width done rest) (hspaces : Apart '%' ' ' (done.reverse ++ rest)) :
    ∃ width' done' rest', out = done'.reverse ++ rest' ∧ Scanned metrics config spoken width' done' rest' ∧
      Halts spoken done' rest' := by
  induction h with
  | @halt width done rest h => exact ⟨width, done, rest, rfl, hscanned, h⟩
  | @code width done code rest out resets hgoes hcode _ ih =>
    refine ih (.code hscanned hgoes hcode) ?_
    rwa [List.reverse_append, List.reverse_cons, List.reverse_reverse, List.append_assoc, List.append_assoc,
      List.singleton_append]
  | pass hgoes hplain hpass _ ih =>
    refine ih (.pass hscanned hgoes hplain hpass) ?_
    rwa [List.reverse_cons, List.append_assoc, List.singleton_append]
  | @breaks width done rest earlier between out c _ _ _ hfound hmore ih =>
    obtain ⟨width', mid, hbetween, hbefore⟩ := hscanned.exists_before (apart_append.mp hspaces).1 hfound
    obtain ⟨-, mid', hbetween', rfl, hdash⟩ := exists_of_breakBefore? hfound
    rw [List.append_nil] at hbetween hbetween'
    subst hbetween hbetween'
    by_cases hhalts : Halts spoken earlier ['%']
    · -- The text is spoken and the break is right behind its closing quote, where the next scan ends.
      obtain ⟨more, rfl⟩ := hmore.exists_append (u := []) rfl
      exact ⟨width', earlier, _, rfl, hbefore.of_space (u := []) rfl _, halts_cons.mpr (halts_cons.mp hhalts)⟩
    · refine ih ?_ ?_
      · have hplace := hbefore.of_space (u := []) rfl ('N' :: (between ++ c :: rest))
        exact @Scanned.code metrics config spoken width' earlier ['N'] (between ++ c :: rest) true hplace
          (fun h => hhalts (halts_cons.mpr (halts_cons.mp h))) rfl
      · have hfront : (between ++ c :: rest).head? ≠ some '—' := by
          rwa [← List.singleton_append, ← List.append_assoc, List.head?_append_of_ne_nil _ (by simp)]
        have hbreak := apart_of_breaks (Broken.giveUpSpace earlier.reverse hfront).respelled (a := '%') (b := ' ')
          (by decide) (by decide) (fun h => absurd h (by decide)) (by simpa using hspaces)
        simpa using hbreak

end Run

/-- Wrapping gives up spaces, and where no space follows a percent sign it gives up none a second time. -/
theorem wrapLines_spec (metrics : FontMetrics) (config : WrapConfig) {t : Text} (h : Apart '%' ' ' t) :
    Respelled BreakPiece t (wrapLines metrics config t).1 ∧
      (wrapLines metrics config (wrapLines metrics config t).1).1 = (wrapLines metrics config t).1 := by
  have hagain : ∀ (spoken : Bool) {s : Text}, Apart '%' ' ' s →
      (wrapFrom metrics config spoken 0 [] [] (wrapFrom metrics config spoken 0 [] [] s).1).1 =
        (wrapFrom metrics config spoken 0 [] [] s).1 := by
    intro spoken s hs
    obtain ⟨width, done, rest, hout, hscanned, hhalts⟩ :=
      (wraps_wrapFrom metrics config spoken 0 [] [] s).exists_scanned (.start s) hs
    rw [hout, hscanned.wrapFrom_of_halts hhalts]
  have hplain : ∀ {s : Text}, Apart '】' '“' s → wrapLines metrics config s = wrapFrom metrics config false 0 [] [] s := by
    intro s hs
    rw [wrapLines, splitSpoken?, Text.cutAtWord_of_apart hs]
    rfl
  have hspoken : ∀ {u : Text} (v : Text), Apart '】' '“' (u ++ ['】']) → (wrapLines metrics config (u ++ '】' :: '“' :: v)).1 =
      u ++ ['】'] ++ (wrapFrom metrics config true 0 [] [] ('“' :: v)).1 := by
    intro u v hu
    rw [wrapLines, splitSpoken?, Text.cutAtWord_append hu]
    rfl
  rcases Text.apart_or_exists '】' '“' t with hapart | ⟨u, v, rfl, hu⟩
  · rw [hplain hapart]
    have hspelled := (broken_wrapFrom metrics config false t).respelled
    refine ⟨hspelled, ?_⟩
    rw [hplain (apart_of_breaks hspelled (by decide) (by decide) (fun hb => absurd hb (by decide)) hapart)]
    exact hagain false h
  · have hspaces : Apart '%' ' ' ('“' :: v) := (apart_cons.mp (apart_append.mp h).2.1).2
    obtain ⟨v', hv', hbroken⟩ := exists_broken_wrapFrom metrics config true '“' v
    have hrun := hagain true hspaces
    rw [hspoken v hu]
    rw [hv'] at hrun ⊢
    refine ⟨?_, ?_⟩
    · have hall := (Respelled.refl (u ++ ['】'])).append (Respelled.keep '“' hbroken.respelled)
      simpa using hall
    · rw [List.append_assoc, List.singleton_append, hspoken v' hu, hrun, List.append_assoc, List.singleton_append]

end SceneScript.Prose
