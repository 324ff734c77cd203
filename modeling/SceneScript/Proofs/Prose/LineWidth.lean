import SceneScript.Proofs.Prose.Breaks
/-!
# How wide lines are

After wrapping, a character stands beyond the width of the text box only where there is no space that the line could have
been broken at.
-/
namespace SceneScript.Prose

open Text (Apart apart_append)

/-- The characters that a scan measures, each with its place and with the width of its line up to and with it. -/
def measured (metrics : FontMetrics) (config : WrapConfig) (width place : Nat) (t : Text) : List (Nat × Nat) :=
  match t with
  | [] => []
  | c :: rest =>
    match if c = '%' then codeAfter? rest else none with
    | some (len, resets) => measured metrics config (if resets then 0 else width) (place + 1 + len) (rest.drop len)
    | none =>
      if isWeightless c then measured metrics config width (place + 1) rest
      else
        match (roomOf metrics config c).1 with
        | none => measured metrics config width (place + 1) rest
        | some (glyphWidth, padding) =>
          (place, width + glyphWidth) :: measured metrics config (width + glyphWidth + padding) (place + 1) rest
termination_by t.length

/-- Whether a line could be broken before a place: at a space behind the first character that does not lead into a dash,
with no code on the way. -/
def Breakable (t : Text) (i : Nat) : Prop :=
  ∃ p, 0 < p ∧ p < i ∧ t[p]? = some ' ' ∧ t[p + 1]? ≠ some '—' ∧ ∀ k, p < k → k < i → t[k]? = some '%' → t[k + 1]? = some '%'

/-- Whether a line that is too wide for a character is so only where it could not be broken. -/
def Fits (metrics : FontMetrics) (config : WrapConfig) (t : Text) : Prop :=
  ∀ i width, (i, width) ∈ measured metrics config 0 0 t → config.maxLineWidth < width → t[i]? ≠ some ' ' → ¬Breakable t i

theorem not_breakable_of_breakBefore? {next : Char} {scanned after : Text} (h : breakBefore? next scanned after = none)
    (rest : Text) : ¬Breakable (scanned.reverse ++ next :: rest) scanned.length := by
  induction scanned generalizing next after rest with
  | nil => rintro ⟨p, -, hlt, -⟩; exact absurd hlt (Nat.not_lt_zero _)
  | cons c scanned ih =>
    rintro ⟨p, hpos, hlt, hspace, hdash, hcodes⟩
    rw [List.reverse_cons, List.append_assoc, List.singleton_append] at hspace hdash hcodes
    rw [List.length_cons] at hlt hcodes
    have hc : (scanned.reverse ++ c :: next :: rest)[scanned.length]? = some c := by simp
    have hnext : (scanned.reverse ++ c :: next :: rest)[scanned.length + 1]? = some next := by simp
    obtain ⟨d, earlier, rfl⟩ : ∃ d earlier, scanned = d :: earlier :=
      List.exists_cons_of_length_pos (by omega)
    rw [breakBefore?] at h
    split_ifs at h with hbreak hcode
    · -- No space lies behind a code, and this one is none.
      refine hcode.2 (Option.some.inj (hnext.symm.trans (hcodes _ ?_ (Nat.lt_succ_self _) (hc.trans (congrArg some hcode.1)))))
      refine (Nat.lt_succ_iff_lt_or_eq.mp hlt).resolve_right ?_
      rintro rfl
      rw [hc, hcode.1] at hspace
      exact absurd (Option.some.inj hspace) (by decide)
    · rcases Nat.lt_succ_iff_lt_or_eq.mp hlt with hlt | rfl
      · exact ih h (next :: rest) ⟨p, hpos, hlt, hspace, hdash, fun k hk hlt => hcodes k hk (Nat.lt_succ_of_lt hlt)⟩
      · rw [hc, Option.some_inj] at hspace
        rw [hnext] at hdash
        exact hbreak ⟨hspace, fun h => hdash (congrArg some h)⟩

section

variable {metrics : FontMetrics} {config : WrapConfig}

theorem measured_code {code rest : Text} {resets : Bool} (hcode : codeAfter? (code ++ rest) = some (code.length, resets))
    (width place : Nat) : measured metrics config width place ('%' :: (code ++ rest)) =
      measured metrics config (if resets then 0 else width) (place + 1 + code.length) rest := by
  rw [measured, if_pos rfl, hcode]
  dsimp only
  rw [List.drop_left]

/-- A character that the line is not broken before is not measured, or the line is wide enough for it, or there is no break. -/
theorem measured_pass {width width' place : Nat} {done rest : Text} {c : Char} (hplain : c = '%' → codeAfter? rest = none)
    (hpass : Passes metrics config width done c width') {i width'' : Nat}
    (hmem : (i, width'') ∈ measured metrics config width place (c :: rest)) :
    (i, width'') ∈ measured metrics config width' (place + 1) rest ∨
      (i = place ∧ (config.maxLineWidth < width'' → c ≠ ' ' → breakBefore? c done [] = none)) := by
  rw [measured, codeAt_eq_none hplain] at hmem
  dsimp only at hmem
  cases hpass with
  | weightless h => rw [if_pos h] at hmem; exact .inl hmem
  | undrawn h hroom =>
    rw [if_neg (Bool.eq_false_iff.mp h), hroom] at hmem
    exact .inl hmem
  | drawn h hroom hfits =>
    rw [if_neg (Bool.eq_false_iff.mp h), hroom] at hmem
    rcases List.mem_cons.mp hmem with heq | hmem
    · obtain ⟨rfl, rfl⟩ := Prod.mk.inj heq
      exact .inr ⟨rfl, fun hwide hc => hfits ⟨hwide, hc⟩⟩
    · exact .inl hmem

/-- What a scan has passed without a break fits, and it goes on to measure the rest. -/
theorem Scanned.fits {spoken : Bool} {width : Nat} {done rest : Text}
    (h : Scanned metrics config spoken width done rest) {i width' : Nat}
    (hmem : (i, width') ∈ measured metrics config 0 0 (done.reverse ++ rest)) :
    (i, width') ∈ measured metrics config width done.length rest ∨
      (config.maxLineWidth < width' → (done.reverse ++ rest)[i]? ≠ some ' ' → ¬Breakable (done.reverse ++ rest) i) := by
  induction h with
  | start t => exact .inl hmem
  | @code width done code rest resets _ _ hcode ih =>
    have htext : (code.reverse ++ '%' :: done).reverse ++ rest = done.reverse ++ '%' :: (code ++ rest) := by simp
    rw [htext] at hmem ⊢
    refine (ih hmem).imp_left fun hmem => ?_
    rw [measured_code hcode] at hmem
    rwa [List.length_append, List.length_reverse, List.length_cons, Nat.add_comm]
  | @pass width width'' done rest c _ _ hplain hpass ih =>
    have htext : (c :: done).reverse ++ rest = done.reverse ++ c :: rest := by simp
    rw [htext] at hmem ⊢
    rcases ih hmem with hmem | hfits
    · refine (measured_pass hplain hpass hmem).imp_right ?_
      rintro ⟨rfl, hnone⟩ hwide hc
      refine not_breakable_of_breakBefore? (hnone hwide ?_) rest
      rintro rfl
      exact hc (by simp)
    · exact .inr hfits

end

end SceneScript.Prose
