import Mathlib
import SceneScript.Text.Basic
/-!
# The lines of a text

Lines are found again when texts are joined, split and put in front of one another.
-/
namespace SceneScript.Text

/-- A line without the carriage return that it may end with. -/
def withoutReturn (t : Text) : Text := (beforeWord? ['\r'] t).getD t

theorem withoutReturn_concat (t : Text) : withoutReturn (t ++ ['\r']) = t := by
  have hsuffix : ['\r'].isSuffixOf (t ++ ['\r']) = true := List.isSuffixOf_iff_suffix.mpr (List.suffix_append _ _)
  simp [withoutReturn, beforeWord?, hsuffix]

theorem withoutReturn_eq {t : Text} (h : t.getLast? ≠ some '\r') : withoutReturn t = t := by
  rw [withoutReturn, beforeWord?, if_neg, Option.getD_none]
  intro hsuffix
  obtain ⟨front, rfl⟩ := List.isSuffixOf_iff_suffix.mp hsuffix
  simp at h

theorem withoutReturn_cases (t : Text) : withoutReturn t = t ∨ t = withoutReturn t ++ ['\r'] := by
  by_cases h : t.getLast? = some '\r'
  · obtain ⟨front, rfl⟩ := List.getLast?_eq_some_iff.mp h
    rw [withoutReturn_concat]
    exact Or.inr rfl
  · exact Or.inl (withoutReturn_eq h)

/-- Only the last part of a line can lose its carriage return. -/
theorem withoutReturn_append {s t : Text} (h : t = [] → s.getLast? ≠ some '\r') :
    withoutReturn (s ++ t) = s ++ withoutReturn t := by
  rcases List.eq_nil_or_concat t with rfl | ⟨front, c, rfl⟩
  · rw [List.append_nil, withoutReturn_eq (h rfl)]
    exact (List.append_nil s).symm
  · rw [List.concat_eq_append, ← List.append_assoc]
    by_cases hc : c = '\r'
    · rw [hc, withoutReturn_concat, withoutReturn_concat]
    · rw [withoutReturn_eq (by simpa using hc), withoutReturn_eq (by simpa using hc), List.append_assoc]

/-- The lines of a text that a line feed follows. -/
def closedLines (t : Text) : List Text := lines (t ++ ['\n'])

theorem closedLines_eq (t : Text) : closedLines t = (t.splitOn '\n').map withoutReturn := by
  rw [closedLines, lines, List.splitOn_append_cons_self, List.splitOn_nil, List.dropLast_concat, List.getLast?_concat]
  rfl

theorem closedLines_singleton {t : Text} (h : '\n' ∉ t) : closedLines t = [withoutReturn t] := by
  rw [closedLines_eq, List.splitOn_eq_singleton h, List.map_singleton]

/-- A line feed ends a line wherever it stands. -/
theorem lines_append (s t : Text) : lines (s ++ '\n' :: t) = closedLines s ++ lines t := by
  have hne : t.splitOn '\n' ≠ [] := List.splitOn_ne_nil _ _
  rw [closedLines_eq, lines, lines, List.splitOn_append_cons_self, List.dropLast_append_of_ne_nil hne,
    List.getLast?_append_of_ne_nil _ hne, List.map_append]
  split
  · rfl
  · rfl
  · rw [List.append_assoc]
    rfl

theorem joinLines_cons (t : Text) {more : List Text} (h : more ≠ []) :
    joinLines (t :: more) = t ++ '\n' :: joinLines more := by
  obtain ⟨t', more', rfl⟩ := List.exists_cons_of_ne_nil h
  rw [joinLines, List.intercalate_cons_cons, List.append_assoc]
  rfl

theorem lines_joinLines_append (front : List Text) {back : List Text} (h : back ≠ []) :
    lines (joinLines (front ++ back)) = front.flatMap closedLines ++ lines (joinLines back) := by
  induction front with
  | nil => rfl
  | cons t more ih =>
    rw [List.cons_append, joinLines_cons t (List.append_ne_nil_of_right_ne_nil more h), lines_append, ih,
      List.flatMap_cons, List.append_assoc]

theorem splitOn_joinLines_append {front : List Text} (hfeed : ∀ t ∈ front, '\n' ∉ t) {back : List Text}
    (h : back ≠ []) : (joinLines (front ++ back)).splitOn '\n' = front ++ (joinLines back).splitOn '\n' := by
  induction front with
  | nil => rfl
  | cons t more ih =>
    rw [List.forall_mem_cons] at hfeed
    rw [List.cons_append, joinLines_cons t (List.append_ne_nil_of_right_ne_nil more h),
      List.splitOn_append_cons_self_of_not_mem hfeed.1, ih hfeed.2, List.cons_append]

theorem splitOn_joinLines {ts : List Text} (h : ts ≠ []) :
    (joinLines ts).splitOn '\n' = ts.flatMap fun t => t.splitOn '\n' := by
  induction ts with
  | nil => exact absurd rfl h
  | cons t more ih =>
    cases more with
    | nil => simp [joinLines]
    | cons t' more =>
      have hne := List.cons_ne_nil t' more
      rw [joinLines_cons t hne, List.splitOn_append_cons_self, ih hne]
      rfl

theorem length_splitOn_eq_one {t : Text} : (t.splitOn '\n').length = 1 ↔ '\n' ∉ t := by
  refine ⟨fun hone hfeed => ?_, fun h => by rw [List.splitOn_eq_singleton h, List.length_singleton]⟩
  obtain ⟨s, u, rfl⟩ := List.append_of_mem hfeed
  rw [List.splitOn_append_cons_self, List.length_append] at hone
  have hs := List.length_pos_of_ne_nil (List.splitOn_ne_nil '\n' s)
  have hu := List.length_pos_of_ne_nil (List.splitOn_ne_nil '\n' u)
  omega

private theorem length_flatMap_splitOn {ts : List Text} :
    (ts.flatMap fun t => t.splitOn '\n').length = ts.length ↔ ∀ t ∈ ts, '\n' ∉ t := by
  have hpos : ∀ t : Text, 0 < (t.splitOn '\n').length := fun t => List.length_pos_of_ne_nil (List.splitOn_ne_nil '\n' t)
  have hle : ∀ ts : List Text, ts.length ≤ (ts.flatMap fun t => t.splitOn '\n').length := by
    intro ts
    have hsum := List.length_le_sum_of_one_le (ts.map fun t => (t.splitOn '\n').length) (by simp [Nat.one_le_iff_ne_zero])
    rwa [List.length_flatMap, ← List.length_map]
  induction ts with
  | nil => simp
  | cons t more ih =>
    have hfirst := hpos t
    have hmore := hle more
    rw [List.forall_mem_cons, ← length_splitOn_eq_one, List.flatMap_cons, List.length_append, List.length_cons]
    refine Iff.trans ?_ (and_congr_right fun _ => ih)
    omega

/-- Lines that are put together are as many as before when none of them has a line feed. -/
theorem length_splitOn_joinLines {ts : List Text} (h : ts ≠ []) :
    ((joinLines ts).splitOn '\n').length = ts.length ↔ ∀ t ∈ ts, '\n' ∉ t := by
  rw [splitOn_joinLines h, length_flatMap_splitOn]

/-- A text put in front of others begins the first of their lines. -/
theorem splitOn_append {s : Text} (hfeed : '\n' ∉ s) (t : Text) :
    (s ++ t).splitOn '\n' = (t.splitOn '\n').modifyHead (s ++ ·) := by
  induction s with
  | nil => exact (congrFun List.modifyHead_id _).symm
  | cons c s ih =>
    rw [List.mem_cons, not_or] at hfeed
    rw [List.cons_append, List.splitOn_cons_eq_if_modifyHead, if_neg (by simpa using Ne.symm hfeed.1), ih hfeed.2,
      List.modifyHead_modifyHead]
    rfl

theorem closedLines_append {s : Text} (hfeed : '\n' ∉ s) (hreturn : s.getLast? ≠ some '\r') (t : Text) :
    closedLines (s ++ t) = (closedLines t).modifyHead (s ++ ·) := by
  obtain ⟨line, more, hlines⟩ := List.exists_cons_of_ne_nil (List.splitOn_ne_nil '\n' t)
  rw [closedLines_eq, closedLines_eq, splitOn_append hfeed, hlines, List.modifyHead_cons, List.map_cons, List.map_cons,
    List.modifyHead_cons, withoutReturn_append fun _ => hreturn]

theorem flatMap_closedLines {ts : List Text} (h : ∀ t ∈ ts, '\n' ∉ t) :
    ts.flatMap closedLines = ts.map withoutReturn := by
  induction ts with
  | nil => rfl
  | cons t more ih =>
    rw [List.forall_mem_cons] at h
    rw [List.flatMap_cons, closedLines_singleton h.1, ih h.2]
    rfl

theorem notMem_of_mem_splitOn (t : Text) : ∀ part ∈ t.splitOn '\n', '\n' ∉ part := by
  induction t with
  | nil => simp
  | cons c t ih =>
    obtain ⟨line, more, hlines⟩ := List.exists_cons_of_ne_nil (List.splitOn_ne_nil '\n' t)
    rw [List.splitOn_cons_eq_if_modifyHead]
    rw [hlines, List.forall_mem_cons] at ih
    split_ifs with hc
    · rw [hlines, List.forall_mem_cons, List.forall_mem_cons]
      exact ⟨List.not_mem_nil, ih⟩
    · rw [hlines, List.modifyHead_cons, List.forall_mem_cons, List.mem_cons, not_or]
      rw [beq_iff_eq] at hc
      exact ⟨⟨Ne.symm hc, ih.1⟩, ih.2⟩

/-- What a text is split into: its lines, and nothing after them if the last line is ended too. -/
theorem exists_splitOn {t last : Text} {front : List Text} (h : lines t = front ++ [last]) :
    ∃ open' part rest, t.splitOn '\n' = open' ++ part :: rest ∧ open'.map withoutReturn = front ∧
      (part = last ∨ part = last ++ ['\r']) ∧ (rest = [] ∨ rest = [[]]) ∧ lines (joinLines (part :: rest)) = [last] := by
  have hjoin : ∀ open' : List Text, ∀ part rest, t.splitOn '\n' = open' ++ part :: rest →
      open'.map withoutReturn = front → lines (joinLines (part :: rest)) = [last] := by
    intro open' part rest hparts hopen
    have hfeed : ∀ t ∈ open', '\n' ∉ t := by
      intro p hp
      apply notMem_of_mem_splitOn t
      rw [hparts]
      exact List.mem_append_left _ hp
    have hlines := lines_joinLines_append open' (List.cons_ne_nil part rest)
    rw [joinLines, ← hparts, List.intercalate_splitOn, h, flatMap_closedLines hfeed, hopen] at hlines
    exact (List.append_cancel_left hlines).symm
  obtain ⟨init, final, hsplit⟩ : ∃ init final, t.splitOn '\n' = init ++ [final] := by
    rcases List.eq_nil_or_concat (t.splitOn '\n') with hnil | ⟨init, final, hconcat⟩
    · exact absurd hnil (List.splitOn_ne_nil _ _)
    · exact ⟨init, final, hconcat.trans (List.concat_eq_append ..)⟩
  have hlines : lines t = init.map withoutReturn ++ if final = [] then [] else [final] := by
    rw [lines, hsplit, List.dropLast_concat, List.getLast?_concat]
    cases final with
    | nil => exact (List.append_nil _).symm
    | cons => rfl
  rw [h] at hlines
  split_ifs at hlines with hfinal
  · rcases List.eq_nil_or_concat init with rfl | ⟨open', part, rfl⟩
    · simp at hlines
    · rw [List.concat_eq_append, List.append_nil, List.map_append, List.map_singleton] at hlines
      obtain ⟨hopen, hpart⟩ := List.append_inj' hlines rfl
      rw [List.concat_eq_append, List.append_assoc, hfinal] at hsplit
      rw [List.cons.injEq] at hpart
      refine ⟨open', part, [[]], hsplit, hopen.symm, ?_, Or.inr rfl, hjoin _ _ _ hsplit hopen.symm⟩
      rw [hpart.1]
      exact (withoutReturn_cases part).imp_left Eq.symm
  · obtain ⟨hinit, hlast⟩ := List.append_inj' hlines rfl
    rw [List.cons.injEq] at hlast
    exact ⟨init, final, [], hsplit, hinit.symm, Or.inl hlast.1.symm, Or.inl rfl, hjoin _ _ _ hsplit hinit.symm⟩

/-- Lines that are put together are found again, unless the last is empty or a carriage return gets before a line feed. -/
theorem lines_joinLines {init : List Text} {last : Text} (hfeed : ∀ t ∈ init ++ [last], '\n' ∉ t)
    (hreturn : ∀ t ∈ init, t.getLast? ≠ some '\r') (hlast : last ≠ []) :
    lines (joinLines (init ++ [last])) = init ++ [last] := by
  rw [List.forall_mem_append, List.forall_mem_singleton] at hfeed
  have hinit : init.map withoutReturn = init := by
    rw [List.map_congr_left (g := id), List.map_id]
    intro t ht
    exact withoutReturn_eq (hreturn t ht)
  have hopen : lines last = [last] := by
    rw [lines, List.splitOn_eq_singleton hfeed.2]
    cases last with
    | nil => exact absurd rfl hlast
    | cons => rfl
  rw [lines_joinLines_append _ (List.cons_ne_nil last []), flatMap_closedLines hfeed.1, hinit, joinLines,
    List.intercalate_singleton, hopen]

end SceneScript.Text
