import SceneScript.Proofs.Replacement.Emptying
import SceneScript.Proofs.Replacement.Messages
/-!
# Counted lines

Texts go to lines by their number among the lines of a name. Only the lines that a set counts decide where its texts go, and
behind the lines that it has texts for it changes nothing.
-/
namespace SceneScript

namespace ReplacementSet

/-- Whether a row decides which texts of a set go where: such rows take texts of it, or they part rows that do. -/
def counts (set : ReplacementSet) (row : Row) : Bool :=
  if row.name = "name".toList then !set.names.isEmpty
  else if row.name = "route".toList ∨ row.name = "route2".toList then !set.routes.isEmpty
  else if row.name = "string".toList then !(set.strings.isEmpty && set.postTitleStrings.isEmpty)
  else if row.name = "title".toList then !(set.titles.isEmpty && set.strings.isEmpty && set.postTitleStrings.isEmpty)
  else if row.name = "select".toList then !set.choices.isEmpty
  else if row.name = "message".toList then !set.lines.isEmpty
  else false

theorem counts_route (set : ReplacementSet) {row : Row} (h : row.name = "route".toList ∨ row.name = "route2".toList) :
    set.counts row = !set.routes.isEmpty := by
  rw [counts, if_neg (by rcases h with h | h <;> rw [h] <;> decide), if_pos h]

theorem counts_string (set : ReplacementSet) {row : Row} (h : row.name = "string".toList) :
    set.counts row = !(set.strings.isEmpty && set.postTitleStrings.isEmpty) := by
  rw [counts, if_neg (by rw [h]; decide), if_neg (by rw [h]; decide), if_pos h]

theorem counts_title (set : ReplacementSet) {row : Row} (h : row.name = "title".toList) :
    set.counts row = !(set.titles.isEmpty && set.strings.isEmpty && set.postTitleStrings.isEmpty) := by
  rw [counts, if_neg (by rw [h]; decide), if_neg (by rw [h]; decide), if_neg (by rw [h]; decide), if_pos h]

theorem counts_eq_false (set : ReplacementSet) {row : Row}
    (h : row.name ∉ ["name", "route", "route2", "string", "title", "select", "message"].map String.toList) :
    set.counts row = false := by
  simp only [List.map_cons, List.map_nil, List.mem_cons, List.not_mem_nil, or_false, not_or] at h
  simp only [counts, h, or_self, if_false]

theorem counts_congr (set : ReplacementSet) {row row' : Row} (h : row.name = row'.name) : set.counts row = set.counts row' := by
  rw [counts, counts, h]

/-- The names of the rows that a set counts. -/
def counted (set : ReplacementSet) (rows : List Row) : List Text := (rows.filter set.counts).map Row.name

theorem counted_append (set : ReplacementSet) (rows more : List Row) :
    set.counted (rows ++ more) = set.counted rows ++ set.counted more := by
  rw [counted, List.filter_append, List.map_append]
  rfl

theorem counted_eq_nil {set : ReplacementSet} {rows : List Row} (h : ∀ row ∈ rows, set.counts row = false) :
    set.counted rows = [] := by
  rw [counted, List.filter_eq_nil_iff.mpr fun row hrow => by rw [h row hrow]; exact Bool.false_ne_true, List.map_nil]

theorem counted_congr (set : ReplacementSet) {rows rows' : List Row} (h : rows.map Row.name = rows'.map Row.name) :
    set.counted rows = set.counted rows' := by
  have hnames : ∀ rows, set.counted rows = (rows.map Row.name).filter fun name => set.counts ⟨none, name, 0, [], []⟩ := by
    intro rows
    rw [counted, List.filter_map]
    exact congrArg (List.map Row.name) (List.filter_congr fun row _ => set.counts_congr rfl)
  rw [hnames, hnames, h]

end ReplacementSet

namespace Replacement

section Counted

variable {set : ReplacementSet}

theorem newText?_of_not_counts {row : Row} (h : set.counts row = false) (earlier : List Row) (k : Nat) (old : Text) :
    newText? set earlier row k old = none := by
  rw [ReplacementSet.counts] at h
  rw [newText?]
  split_ifs at h ⊢ <;> simp_all

private theorem countNamed_filter {name : String} (h : ∀ row : Row, row.name = name.toList → set.counts row = true)
    (rows : List Row) : countNamed name (rows.filter set.counts) = countNamed name rows := by
  rw [countNamed, countNamed, List.countP_filter]
  refine List.countP_congr fun row _ => ?_
  simpa using h row

section Titles

variable (htitle : ∀ row : Row, row.name = "title".toList → set.counts row = true)
include htitle

private theorem fromTitle_filter (rows : List Row) :
    fromTitle (rows.filter set.counts) = (fromTitle rows).filter set.counts := by
  induction rows with
  | nil => rfl
  | cons row more ih =>
    by_cases hname : row.name = "title".toList
    · rw [List.filter_cons_of_pos (htitle row hname), fromTitle, fromTitle, List.dropWhile_cons_of_neg (by simpa using hname),
        List.dropWhile_cons_of_neg (by simpa using hname), List.filter_cons_of_pos (htitle row hname)]
    · have hdrop : ∀ rows, fromTitle (row :: rows) = fromTitle rows := fun rows =>
        List.dropWhile_cons_of_pos (by simpa using hname)
      rw [hdrop, ← ih, List.filter_cons]
      split_ifs
      · exact hdrop _
      · rfl

private theorem fromTitle_filter_eq_nil (rows : List Row) : fromTitle (rows.filter set.counts) = [] ↔ fromTitle rows = [] := by
  rw [fromTitle_filter htitle, List.filter_eq_nil_iff]
  refine ⟨fun hnone => ?_, fun hnil => by simp [hnil]⟩
  cases hrows : fromTitle rows with
  | nil => rfl
  | cons row more =>
    have hhead := List.head?_dropWhile_not (fun row : Row => decide (row.name ≠ "title".toList)) rows
    rw [← fromTitle, hrows] at hhead
    rw [hrows] at hnone
    exact absurd (htitle row (by simpa using hhead)) (hnone row List.mem_cons_self)

end Titles

/-- Only the rows that a set counts decide which of its texts go to a row behind them. -/
theorem newText?_filter (earlier : List Row) (row : Row) :
    newText? set (earlier.filter set.counts) row = newText? set earlier row := by
  funext k old
  cases hcounts : set.counts row with
  | false => rw [newText?_of_not_counts hcounts, newText?_of_not_counts hcounts]
  | true =>
    have hself : ∀ name : String, row.name = name.toList → ∀ row' : Row, row'.name = name.toList → set.counts row' = true := by
      intro name hname row' hname'
      rw [← hcounts, ReplacementSet.counts, ReplacementSet.counts, hname, hname']
    have htitles : row.name = "string".toList → ∀ row' : Row, row'.name = "title".toList → set.counts row' = true := by
      intro hstring row' htitle
      rw [set.counts_string hstring] at hcounts
      rw [set.counts_title htitle]
      cases hstrings : set.strings <;> cases hpost : set.postTitleStrings <;> simp_all
    rw [newText?, newText?]
    split_ifs with hname hroute hstring hfiltered huntitled huntitled htitle hselect hmessage
    · rw [countNamed_filter (hself "name" hname)]
    · have hroutes : ∀ row' : Row, row'.name = "route".toList ∨ row'.name = "route2".toList → set.counts row' = true := by
        intro row' hroute'
        rw [← hcounts, set.counts_route hroute, set.counts_route hroute']
      rw [countNamed_filter fun row' h => hroutes row' (.inl h), countNamed_filter fun row' h => hroutes row' (.inr h)]
    · rw [countNamed_filter (hself "string" hstring)]
    · exact absurd ((fromTitle_filter_eq_nil (htitles hstring) earlier).mp hfiltered) huntitled
    · exact absurd ((fromTitle_filter_eq_nil (htitles hstring) earlier).mpr huntitled) hfiltered
    · rw [fromTitle_filter (htitles hstring), countNamed_filter (hself "string" hstring)]
    · rw [countNamed_filter (hself "title" htitle)]
    · rw [countNamed_filter (hself "select" hselect)]
    · rw [countNamed_filter (hself "message" hmessage)]
    · rfl

/-- The counted rows in front of a row tell which texts are meant for it. -/
theorem newText?_congr_counted {earlier earlier' : List Row} {row row' : Row}
    (hearlier : set.counted earlier = set.counted earlier')
    (hname : row.name = row'.name) (hlength : row.strings.length = row'.strings.length) :
    newText? set earlier row = newText? set earlier' row' := by
  rw [← newText?_filter, ← newText?_filter earlier']
  exact newText?_congr set hearlier hname hlength

/-- Whether a set has no text left for rows behind some rows. -/
structure SpentBy (set : ReplacementSet) (rows : List Row) : Prop where
  names : set.names.length ≤ countNamed "name" rows
  routes : set.routes.length ≤ countNamed "route" rows + countNamed "route2" rows
  strings : set.strings.length ≤ countNamed "string" (untilTitle rows)
  titles : set.titles.length ≤ countNamed "title" rows
  postTitleStrings : set.postTitleStrings.length ≤ countNamed "string" (fromTitle rows)
  choices : set.choices.length ≤ countNamed "select" rows
  messages : ∀ line ∈ set.lines, line.1 ≤ countNamed "message" rows

theorem SpentBy.newText?_eq_none {rows : List Row} (h : SpentBy set rows) (more : List Row) (row : Row) (k : Nat) (old : Text) :
    newText? set (rows ++ more) row k old = none := by
  have hpast : ∀ {α : Type} {ts : List α} {n m : Nat} (f : α → Option Text), ts.length ≤ n → ts[n + m]?.bind f = none := by
    intro α ts n m f hle
    rw [List.getElem?_eq_none (by omega), Option.bind_none]
  have hparts : countNamed "string" rows = countNamed "string" (untilTitle rows) + countNamed "string" (fromTitle rows) := by
    rw [← countNamed_append, untilTitle_append_fromTitle]
  have hfrom : countNamed "string" (fromTitle rows) ≤ countNamed "string" (fromTitle (rows ++ more)) := by
    have happend : fromTitle (rows ++ more) = if fromTitle rows = [] then fromTitle more else fromTitle rows ++ more :=
      List.dropWhile_append.trans (if_congr List.isEmpty_iff rfl rfl)
    rw [happend]
    split_ifs with hnil
    · rw [hnil]
      exact Nat.zero_le _
    · rw [countNamed_append]
      exact Nat.le_add_right _ _
  rw [newText?]
  simp only [countNamed_append]
  split_ifs
  · exact hpast _ h.names
  · rw [Nat.add_add_add_comm]
    exact hpast _ h.routes
  · exact hpast _ (h.strings.trans (by omega))
  · obtain ⟨m, hm⟩ := Nat.exists_eq_add_of_le hfrom
    rw [hm]
    exact hpast _ h.postTitleStrings
  · exact hpast _ h.titles
  · exact hpast _ h.choices
  · have hnone : set.lines.lookup (countNamed "message" rows + countNamed "message" more + 1) = none := by
      rw [List.lookup_eq_none_iff]
      intro line hline
      have hle := h.messages line hline
      simp only [bne_iff_ne, ne_eq]
      omega
    rw [hnone, Option.bind_none]
  · rfl

end Counted
end Replacement
end SceneScript
