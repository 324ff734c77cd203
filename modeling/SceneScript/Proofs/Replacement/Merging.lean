import SceneScript.Proofs.Replacement.Strings
import SceneScript.Proofs.Script.RoundTrip
/-!
# Merging into a dump

Merging a set into the dump of a script puts each of its texts in the place of the string that it is meant for and changes
nothing else.
-/
namespace SceneScript

/-! ## Rows that can be merged into -/

/-- Whether texts of a set can be put in the place of the strings of a row. -/
structure Row.Mergeable (row : Row) : Prop extends row.Splits where
  message_length : row.name = "message".toList → row.strings.length ≤ 1

namespace Reading

/-- A payload with a single cell holds at most one pointer. -/
private theorem length_pointers_le {cell position : Nat} {jump? : Option Nat} {ops : List Operand}
    (h : Shape [cell] jump? position ops) : (ops.filterMap Operand.pointer?).length ≤ 1 := by
  induction ops generalizing position with
  | nil => exact Nat.zero_le 1
  | cons op more ih =>
    cases op with
    | byte b => exact ih h.2
    | pointer target =>
      obtain rfl := List.mem_singleton.mp h.1
      rw [List.filterMap_cons_some (Operand.pointer?_pointer target), pointers_eq_nil (by simp) h.2.2]
      exact Nat.le_refl 1
    | jump target => exact ih h.2.2.2

private theorem mergeable_names {opcode : UInt8} {name : Text} (h : Opcode.name? opcode = some name) :
    '@' ∉ name ∧ (name = "message".toList → opcode = Opcode.message) := by
  have hall : ∀ p ∈ Opcode.names, '@' ∉ p.2 ∧ (p.2 = "message".toList → p.1 = Opcode.message) := by decide +kernel
  exact hall _ (Opcode.mem_names_of_name? h)

private theorem mergeable_records {s : Section} (h : s ∈ records) : '@' ∉ s.name ∧ s.name ≠ "message".toList := by
  have hall : ∀ s ∈ recordSections, '@' ∉ s.name ∧ s.name ≠ "message".toList := by decide +kernel
  obtain ⟨s', hs', hs⟩ := List.mem_flatMap.mp h
  rw [List.eq_of_mem_replicate hs]
  exact hall s' hs'

private theorem instructionAt_of_mem {position : Nat} {rows : List Row} (h : Instructions position rows) :
    ∀ row ∈ rows, ∃ offset, InstructionAt offset row := by
  induction rows generalizing position with
  | nil => simp
  | cons row more ih =>
    rw [List.forall_mem_cons]
    exact ⟨⟨position, h.1⟩, ih h.2.2⟩

/-- What a walk reads can be merged into, as far as the names of rows and the numbers of their strings go. -/
private theorem Body.mergeable {inRecords : Bool} {start : Nat} {rows : List Row} (h : Body inRecords start rows)
    (hcount : ∀ row ∈ rows, row.strings.length = row.pointers.length) : ∀ row ∈ rows,
      Row.isName row.name = true ∧ '@' ∉ row.name ∧ (row.name = "message".toList → row.strings.length ≤ 1) := by
  intro row hrow
  rw [Body] at h
  split_ifs at h
  · obtain ⟨s, hs, -, hname, -⟩ := exists_of_forall₂ h hrow
    obtain ⟨hat, hmessage⟩ := mergeable_records hs
    rw [hname]
    exact ⟨(of_mem_records hs).1, hat, fun h => absurd h hmessage⟩
  · obtain ⟨offset, opcode, hname, -, -, -, hshape, -⟩ := instructionAt_of_mem h row hrow
    obtain ⟨hat, hmessage⟩ := mergeable_names hname
    refine ⟨(of_name? hname).1, hat, fun h => ?_⟩
    rw [cellsOf, if_pos (.inl (hmessage h))] at hshape
    rw [hcount row hrow]
    exact length_pointers_le hshape

/-- The names of the rows of a script, and the numbers of their strings. -/
theorem names_of_rows {r : Reading} {rows : List Row} (h : r.rows = .ok rows) : ∀ row ∈ rows,
    Row.isName row.name = true ∧ '@' ∉ row.name ∧ (row.name = "message".toList → row.strings.length ≤ 1) := by
  obtain ⟨row, w, hwalks, rfl⟩ := rows_eq_ok.mp h
  obtain ⟨content, -, rfl, -, hbody, hresolves, -⟩ := hwalks.dissect
  have hraw : ∀ (name : Text) (length : Nat) (bytes : Bytes), Row.isName name = true ∧ '@' ∉ name →
      let row := Row.raw name length bytes
      Row.isName row.name = true ∧ '@' ∉ row.name ∧ (row.name = "message".toList → row.strings.length ≤ 1) :=
    fun _ _ _ hname => ⟨hname.1, hname.2, fun _ => Nat.zero_le 1⟩
  rw [List.forall_mem_cons, List.forall_mem_append, List.forall_mem_append, List.forall_mem_singleton]
  refine ⟨hraw "header".toList _ _ (by decide), hbody.mergeable hresolves.count, fun row hrow => ?_,
    hraw "trailer".toList _ _ (by decide)⟩
  rw [padding] at hrow
  split at hrow
  · split_ifs at hrow
    · obtain rfl := List.mem_singleton.mp hrow
      exact hraw "data".toList _ _ (by decide)
    · cases hrow
  · cases hrow

/-- The strings of a row of a script can be told apart when those in front of the last have no `§`. -/
theorem splits_of_rows {r : Reading} {rows : List Row} (h : r.rows = .ok rows) {row : Row} (hrow : row ∈ rows)
    (hinner : ∀ s ∈ row.strings.dropLast, '§' ∉ s) : row.Splits := by
  obtain ⟨hname, hat, -⟩ := names_of_rows h row hrow
  exact ⟨hname, hat, hinner⟩

/-- All rows of a script can be merged into when no string of theirs has a `§`. -/
theorem mergeable_of_rows {r : Reading} {rows : List Row} (h : r.rows = .ok rows)
    (hsign : ∀ row ∈ rows, ∀ s ∈ row.strings, '§' ∉ s) : ∀ row ∈ rows, row.Mergeable := by
  intro row hrow
  have hsplits := splits_of_rows h hrow fun s hs => hsign row hrow s (List.mem_of_mem_dropLast hs)
  exact ⟨hsplits, (names_of_rows h row hrow).2.2⟩

end Reading

namespace Replacement

/-! ## Which text is meant for which string -/

/-- The number of rows of some name. -/
def countNamed (name : String) (rows : List Row) : Nat := rows.countP fun row => row.name = name.toList

/-- The rows in front of the first title. -/
def untilTitle (rows : List Row) : List Row := rows.takeWhile fun row => row.name ≠ "title".toList

/-- The rows from the first title on. -/
def fromTitle (rows : List Row) : List Row := rows.dropWhile fun row => row.name ≠ "title".toList

/-- The text that a set has for string `k` of a row behind other rows, in place of an old one. -/
def newText? (set : ReplacementSet) (earlier : List Row) (row : Row) (k : Nat) (old : Text) : Option Text :=
  if row.name = "name".toList then set.names[countNamed "name" earlier]?.bind (forLast? row.strings.length k)
  else if row.name = "route".toList ∨ row.name = "route2".toList then
    set.routes[countNamed "route" earlier + countNamed "route2" earlier]?.bind (forRoute? row.strings.length k)
  else if row.name = "string".toList then
    if fromTitle earlier = [] then set.strings[countNamed "string" earlier]?.bind (forLast? row.strings.length k)
    else set.postTitleStrings[countNamed "string" (fromTitle earlier)]?.bind (forLast? row.strings.length k)
  else if row.name = "title".toList then set.titles[countNamed "title" earlier]?.bind (forLast? row.strings.length k)
  else if row.name = "select".toList then set.choices[countNamed "select" earlier]?.bind (forOption? k)
  else if row.name = "message".toList then (set.lines.lookup (countNamed "message" earlier + 1)).bind (mergeMessage? old)
  else none

/-- Rows behind others, with the texts of a set in place of their strings. -/
def renewedBehind (set : ReplacementSet) (earlier rows : List Row) : List Row :=
  rows.mapIdx fun i row => row.renew (newText? set (earlier ++ rows.take i) row)

/-- Whether a set has a text for some string of rows behind others. -/
def RenewsBehind (set : ReplacementSet) (earlier rows : List Row) : Prop :=
  ∃ (i : Nat) (row : Row), rows[i]? = some row ∧ row.Renewed (newText? set (earlier ++ rows.take i) row)

/-! ## The buckets along the rows -/

theorem countNamed_append (name : String) (rows more : List Row) :
    countNamed name (rows ++ more) = countNamed name rows + countNamed name more := List.countP_append

theorem countNamed_singleton (name : String) (row : Row) :
    countNamed name [row] = if row.name = name.toList then 1 else 0 := by
  simp [countNamed, List.countP_singleton]

theorem untilTitle_append_fromTitle (rows : List Row) : untilTitle rows ++ fromTitle rows = rows :=
  List.takeWhile_append_dropWhile

theorem untilTitle_eq {rows : List Row} (h : fromTitle rows = []) : untilTitle rows = rows := by
  rw [← List.append_nil (untilTitle rows), ← h, untilTitle_append_fromTitle]

theorem fromTitle_concat (rows : List Row) (row : Row) :
    fromTitle (rows ++ [row]) = if fromTitle rows = [] then fromTitle [row] else fromTitle rows ++ [row] :=
  List.dropWhile_append.trans (if_congr List.isEmpty_iff rfl rfl)

theorem fromTitle_singleton (row : Row) : fromTitle [row] = if row.name = "title".toList then [row] else [] := by
  by_cases h : row.name = "title".toList <;> simp [fromTitle, List.dropWhile_cons, h]

/-- Past the first title, rows count as behind it. -/
theorem countNamed_fromTitle_concat {name : String} (hname : name.toList ≠ "title".toList) (rows : List Row) (row : Row) :
    countNamed name (fromTitle (rows ++ [row])) =
      countNamed name (fromTitle rows) + if fromTitle rows = [] then 0 else countNamed name [row] := by
  rw [fromTitle_concat]
  split_ifs with hnone
  · rw [hnone, fromTitle_singleton]
    split_ifs with htitle
    · rw [countNamed_singleton, htitle, if_neg hname.symm]
      rfl
    · rfl
  · exact countNamed_append name _ _

/-- Up to the first title, rows count as in front of it. -/
theorem countNamed_untilTitle_concat {name : String} (hname : name.toList ≠ "title".toList) (rows : List Row) (row : Row) :
    countNamed name (untilTitle (rows ++ [row])) =
      countNamed name (untilTitle rows) + if fromTitle rows = [] then countNamed name [row] else 0 := by
  have hparts : ∀ rows, countNamed name rows = countNamed name (untilTitle rows) + countNamed name (fromTitle rows) := by
    intro rows
    rw [← countNamed_append, untilTitle_append_fromTitle]
  have hall := hparts (rows ++ [row])
  rw [countNamed_append, countNamed_fromTitle_concat hname, hparts rows] at hall
  split_ifs at hall ⊢ <;> omega

/-- What is left of the buckets of a set behind some rows. -/
def Cursor.behind (set : ReplacementSet) (earlier : List Row) : Cursor where
  names := set.names.drop (countNamed "name" earlier)
  routes := set.routes.drop (countNamed "route" earlier + countNamed "route2" earlier)
  strings := set.strings.drop (countNamed "string" (untilTitle earlier))
  titles := set.titles.drop (countNamed "title" earlier)
  postTitleStrings := set.postTitleStrings.drop (countNamed "string" (fromTitle earlier))
  choices := set.choices.drop (countNamed "select" earlier)
  titleSeen := decide (fromTitle earlier ≠ [])
  messages := countNamed "message" earlier

/-- A row takes as many texts from a bucket as it has names of the bucket. -/
theorem Cursor.behind_concat (set : ReplacementSet) (earlier : List Row) (row : Row) :
    let cursor := Cursor.behind set earlier
    Cursor.behind set (earlier ++ [row]) = {
      names := cursor.names.drop (countNamed "name" [row])
      routes := cursor.routes.drop (countNamed "route" [row] + countNamed "route2" [row])
      strings := cursor.strings.drop (if cursor.titleSeen then 0 else countNamed "string" [row])
      titles := cursor.titles.drop (countNamed "title" [row])
      postTitleStrings := cursor.postTitleStrings.drop (if cursor.titleSeen then countNamed "string" [row] else 0)
      choices := cursor.choices.drop (countNamed "select" [row])
      titleSeen := cursor.titleSeen || row.name = "title".toList
      messages := cursor.messages + countNamed "message" [row] } := by
  have hstring : "string".toList ≠ "title".toList := by decide
  have hseen : decide (fromTitle (earlier ++ [row]) ≠ []) =
      (decide (fromTitle earlier ≠ []) || decide (row.name = "title".toList)) := by
    rw [fromTitle_concat, fromTitle_singleton]
    split_ifs <;> simp_all
  simp only [Cursor.behind, countNamed_append, countNamed_untilTitle_concat hstring, countNamed_fromTitle_concat hstring,
    hseen, List.drop_drop, decide_eq_true_eq, ite_not]
  rw [Nat.add_add_add_comm]

/-! ## The lines of any text -/

/-- A line of any text as a merge sees it: its name and its strings. -/
def rowOfLine (line : Text) : Row := ⟨none, (lineName? line).getD [], 0, [], (splitStrings line).2⟩

/-- A line with new texts in the place of its strings, of which a message has one; none if there is a new text for none of
them. -/
def renewLine? (f : Nat → Text → Option Text) (line : Text) : Option Text :=
  if lineName? line = some "message".toList then renewMessage? f line else renewStrings? f line

/-- The texts that a set has for the strings of line `i` of some lines. -/
def textsFor? (set : ReplacementSet) (lines : List Text) (i : Nat) (line : Text) : Nat → Text → Option Text :=
  newText? set ((lines.take i).map rowOfLine) (rowOfLine line)

/-- A dump with new texts in the place of the strings of its lines; none if there is a new text for none of them. -/
def renewDump? (f : Nat → Text → Nat → Text → Option Text) (dump : Text) : Option Text :=
  let lines := dump.splitOn '\n'
  if (lines.mapIdx fun i line => renewLine? (f i line) line).any Option.isSome then
    some (Text.joinLines (lines.mapIdx fun i line => (renewLine? (f i line) line).getD line))
  else none

/-- A line takes one text from the bucket of its name. -/
theorem snd_mergeLine (set : ReplacementSet) (earlier : List Row) (line : Text) :
    (mergeLine set.lines (Cursor.behind set earlier) line).2 = Cursor.behind set (earlier ++ [rowOfLine line]) := by
  rw [mergeLine, Cursor.behind_concat]
  generalize Cursor.behind set earlier = cursor
  cases hname : lineName? line with
  | none => simp [countNamed_singleton, rowOfLine, hname]
  | some name =>
    simp only [countNamed_singleton, rowOfLine, hname, Option.getD_some]
    by_cases hknown : name ∈ ["name", "route", "route2", "string", "title", "select", "message"].map String.toList
    · simp only [List.map_cons, List.map_nil, List.mem_cons, List.not_mem_nil, or_false] at hknown
      rcases hknown with rfl | rfl | rfl | rfl | rfl | rfl | rfl <;> cases cursor.titleSeen <;> simp
    · simp only [List.map_cons, List.map_nil, List.mem_cons, List.not_mem_nil, or_false, not_or] at hknown
      simp only [hknown, if_false, or_self, ite_self, List.drop_zero, Nat.add_zero, decide_false, Bool.or_false]

private theorem bind_renewStrings? {α : Type} {a? a'? : Option α} (ha : a'? = a?) {line : Text} {f : α → Nat → Option Text}
    {g : α → Option Text} (hg : ∀ a, g a = renewStrings? (fun k _ => f a k) line) :
    a'?.bind g = renewStrings? (fun k _ => a?.bind fun a => f a k) line := by
  subst ha
  cases a'? with
  | none => exact (renewStrings?_eq_none fun _ _ _ => rfl).symm
  | some a => exact hg a

/-- A line gets the texts that are meant for its strings. -/
theorem fst_mergeLine (set : ReplacementSet) (earlier : List Row) (line : Text) :
    (mergeLine set.lines (Cursor.behind set earlier) line).1 = renewLine? (newText? set earlier (rowOfLine line)) line := by
  have hnew : newText? set earlier (rowOfLine line) = fun k old => newText? set earlier (rowOfLine line) k old := rfl
  rw [hnew, mergeLine, renewLine?]
  cases hline : lineName? line with
  | none =>
    rw [if_neg (Option.some_ne_none _).symm]
    refine (renewStrings?_eq_none fun k old _ => ?_).symm
    simp [newText?, rowOfLine, hline]
  | some name =>
    have hname : (rowOfLine line).name = name := by simp [rowOfLine, hline]
    by_cases hmessage : name = "message".toList
    · subst hmessage
      rw [if_pos rfl]
      have hother : ∀ other ∈ ["name", "route", "route2", "string", "title", "select"],
          "message".toList ≠ other.toList := by decide
      simp only [List.forall_mem_cons] at hother
      simp only [newText?, hname, Cursor.behind, hother, if_false, or_self, if_true]
      cases set.lines.lookup (countNamed "message" earlier + 1) with
      | none => simp [renewMessage?]
      | some t => exact replaceMessage?_eq line t
    · rw [if_neg fun h => hmessage (Option.some.inj h)]
      simp only [newText?, hname, Cursor.behind, decide_eq_true_eq, ite_not, hmessage, if_false]
      split_ifs with hname hroute hstring huntitled htitle hselect
      · exact bind_renewStrings? List.head?_drop (replaceLast?_eq line)
      · exact bind_renewStrings? List.head?_drop (replaceRoute?_eq line)
      · rw [untilTitle_eq huntitled]
        exact bind_renewStrings? List.head?_drop (replaceLast?_eq line)
      · exact bind_renewStrings? List.head?_drop (replaceLast?_eq line)
      · exact bind_renewStrings? List.head?_drop (replaceLast?_eq line)
      · exact bind_renewStrings? List.head?_drop (replaceOptions?_eq line)
      · exact (renewStrings?_eq_none fun _ _ _ => rfl).symm

/-- A run over lines gives each of them the texts that are meant for its strings. -/
theorem mergeLines_behind (set : ReplacementSet) (earlier : List Row) (done : List Text) (changed : Bool)
    (lines : List Text) :
    let new := fun i line => renewLine? (newText? set (earlier ++ (lines.take i).map rowOfLine) (rowOfLine line)) line
    mergeLines set.lines (Cursor.behind set earlier) done changed lines =
      (done.reverse ++ lines.mapIdx (fun i line => (new i line).getD line), changed || (lines.mapIdx new).any Option.isSome) := by
  induction lines generalizing earlier done changed with
  | nil => simp [mergeLines]
  | cons line more ih =>
    have hline := fst_mergeLine set earlier line
    have hcursor := snd_mergeLine set earlier line
    dsimp only
    rw [mergeLines]
    generalize mergeLine set.lines (Cursor.behind set earlier) line = merged at hline hcursor ⊢
    obtain ⟨new?, cursor⟩ := merged
    obtain rfl : cursor = _ := hcursor
    dsimp only at hline ⊢
    cases new? with
    | none => simp [ih, List.mapIdx_cons, ← hline]
    | some new => simp [ih, List.mapIdx_cons, ← hline]

/-- Merging a set without patches puts each of its texts in the place of the string that it is meant for, whatever the lines
of the dump are. -/
theorem merge_eq {set : ReplacementSet} (hpatches : set.patches = []) (entry : String) (dump : Text) :
    merge entry dump set = (.ok (renewDump? (textsFor? set (dump.splitOn '\n')) dump), []) := by
  let lines := dump.splitOn '\n'
  let new := fun i line => renewLine? (textsFor? set lines i line) line
  have hrun : mergeLines set.lines (Cursor.ofSet set) [] false lines =
      (lines.mapIdx fun i line => (new i line).getD line, (lines.mapIdx new).any Option.isSome) :=
    mergeLines_behind set [] [] false lines
  have hdump : renewDump? (textsFor? set lines) dump = if (lines.mapIdx new).any Option.isSome then
      some (Text.joinLines (lines.mapIdx fun i line => (new i line).getD line)) else none := rfl
  rw [merge, hrun, hpatches, hdump]
  cases (lines.mapIdx new).any Option.isSome <;> rfl

/-! ## Dumps of scripts -/

/-- The names of the rows in front of a row tell which texts are meant for it, with its name and the number of its strings. -/
theorem newText?_congr {earlier earlier' : List Row} {row row' : Row} (set : ReplacementSet)
    (hearlier : earlier.map Row.name = earlier'.map Row.name) (hname : row.name = row'.name)
    (hlength : row.strings.length = row'.strings.length) : newText? set earlier row = newText? set earlier' row' := by
  have hcount : ∀ name rows, countNamed name rows = (rows.map Row.name).count name.toList := by
    intro name rows
    simp [countNamed, List.count, List.countP_map, Function.comp_def, beq_eq_decide]
  have hfrom : ∀ rows, (fromTitle rows).map Row.name = (rows.map Row.name).dropWhile (· ≠ "title".toList) := by
    intro rows
    rw [List.dropWhile_map]
    rfl
  have htitle : ∀ rows, fromTitle rows = [] ↔ (rows.map Row.name).dropWhile (· ≠ "title".toList) = [] := by
    intro rows
    rw [← hfrom, List.map_eq_nil_iff]
  funext k old
  simp only [newText?, hcount, hfrom, htitle, hearlier, hname, hlength]

theorem Renewal.isSome_iff {labelled : Nat → Bool} {row : Row} {f : Nat → Text → Option Text} {new? : Option Text}
    (h : Renewal labelled row f new?) : new?.isSome = true ↔ row.Renewed f := by
  cases h with
  | changed h => simp [h]
  | kept h => simp [h]

theorem Renewal.getD_eq {labelled : Nat → Bool} {row : Row} {f : Nat → Text → Option Text} {new? : Option Text}
    (h : Renewal labelled row f new?) : new?.getD (row.render labelled) = (row.renew f).render labelled := by
  cases h with
  | changed _ => rfl
  | kept h => rw [Row.renew_of_not_renewed h, Option.getD_none]

/-- The line of a row is renewed like the row. -/
theorem renewal_line {rows : List Row} (h : ∀ row ∈ rows, row.Mergeable) (labelled : Nat → Bool) (set : ReplacementSet)
    {i : Nat} {row : Row} (hrow : rows[i]? = some row) :
    Renewal labelled row (newText? set (rows.take i) row)
      (renewLine? (textsFor? set (rows.map (Row.render labelled)) i (row.render labelled)) (row.render labelled)) := by
  have hmem := h row (List.mem_of_getElem? hrow)
  have hnames : ((rows.map (Row.render labelled)).take i |>.map rowOfLine).map Row.name = (rows.take i).map Row.name := by
    rw [← List.map_take, List.map_map, List.map_map]
    apply List.map_congr_left
    intro row' hrow'
    have hname := (h row' (List.mem_of_mem_take hrow')).isName
    simp [rowOfLine, Row.lineName?_render hname]
  have hname : lineName? (row.render labelled) = some row.name := Row.lineName?_render hmem.isName labelled
  have htexts : textsFor? set (rows.map (Row.render labelled)) i (row.render labelled) = newText? set (rows.take i) row := by
    apply newText?_congr set hnames
    · simp [rowOfLine, hname]
    · simp [rowOfLine, splitStrings_render hmem.toSplits]
  rw [htexts, renewLine?, hname]
  split_ifs with hmessage
  · exact renewal_renewMessage? labelled _ hmem.toSplits (hmem.message_length (Option.some.inj hmessage))
  · exact renewal_renewStrings? labelled _ hmem.toSplits

/-- The labels of rows do not depend on their strings. -/
theorem labelledOffsets_renewedBehind (set : ReplacementSet) (earlier rows : List Row) :
    labelledOffsets (renewedBehind set earlier rows) = labelledOffsets rows := by
  refine Reading.labelledOffsets_congr (forall₂_of_getElem? (by simp [renewedBehind]) fun i row new hrow hnew => ?_)
  rw [renewedBehind, List.getElem?_mapIdx, hrow] at hnew
  obtain rfl := Option.some.inj hnew
  exact ⟨rfl, rfl⟩

theorem splitOn_showRows {rows : List Row} (hne : rows ≠ []) (hnames : ∀ row ∈ rows, Row.isName row.name = true)
    (hfeed : ∀ row ∈ rows, ∀ s ∈ row.strings, '\n' ∉ s) :
    (showRows rows).splitOn '\n' = rows.map (Row.render (labelledOffsets rows).contains) := by
  refine List.splitOn_intercalate _ (fun line hline => ?_) (mt List.map_eq_nil_iff.mp hne)
  obtain ⟨row, hrow, rfl⟩ := List.mem_map.mp hline
  exact Row.notMem_feed_render (hnames row hrow) (hfeed row hrow) _

/-- Rows that are shown are renewed by merging. -/
theorem merge_showRows {rows : List Row} (hne : rows ≠ []) (h : ∀ row ∈ rows, row.Mergeable)
    (hfeed : ∀ row ∈ rows, ∀ s ∈ row.strings, '\n' ∉ s) {set : ReplacementSet} (hpatches : set.patches = [])
    [Decidable (RenewsBehind set [] rows)] (entry : String) :
    merge entry (showRows rows) set =
      (.ok (if RenewsBehind set [] rows then some (showRows (renewedBehind set [] rows)) else none), []) := by
  have hlines := splitOn_showRows hne (fun row hrow => (h row hrow).isName) hfeed
  let line := Row.render (labelledOffsets rows).contains
  let new := fun i row => renewLine? (textsFor? set (rows.map line) i (line row)) (line row)
  have hrenewal : ∀ {i row}, rows[i]? = some row →
      Renewal (labelledOffsets rows).contains row (newText? set (rows.take i) row) (new i row) :=
    renewal_line h (labelledOffsets rows).contains set
  have hrenews : (rows.mapIdx new).any Option.isSome = true ↔ RenewsBehind set [] rows := by
    rw [any_isSome_mapIdx]
    constructor
    · rintro ⟨i, row, hrow, hsome⟩
      exact ⟨i, row, hrow, (hrenewal hrow).isSome_iff.mp hsome⟩
    · rintro ⟨i, row, hrow, hrenewed⟩
      exact ⟨i, row, hrow, (hrenewal hrow).isSome_iff.mpr hrenewed⟩
  have hrenewed : rows.mapIdx (fun i row => (new i row).getD (line row)) = (renewedBehind set [] rows).map line := by
    refine List.ext_getElem? fun i => ?_
    rw [renewedBehind, List.getElem?_map, List.getElem?_mapIdx, List.getElem?_mapIdx]
    cases hrow : rows[i]? with
    | none => rfl
    | some row => exact congrArg some (hrenewal hrow).getD_eq
  have hdump : renewDump? (textsFor? set (rows.map line)) (showRows rows) = if (rows.mapIdx new).any Option.isSome then
      some (Text.joinLines (rows.mapIdx fun i row => (new i row).getD (line row))) else none := by
    have hmap : ∀ {β : Type} (f : Nat → Text → β), (rows.map line).mapIdx f = rows.mapIdx fun i row => f i (line row) := by
      intro β f
      exact List.ext_getElem? fun i => by simp [List.getElem?_mapIdx, Function.comp_def]
    rw [renewDump?, hlines, hmap, hmap]
  rw [merge_eq hpatches, hlines, hdump, hrenewed, if_congr hrenews rfl rfl, showRows, labelledOffsets_renewedBehind]

/-- The dump of a script shows rows that can be merged into when no string of theirs has a `§`. -/
theorem mergeable_of_disassemble {name : String} {bytes : Bytes} {preferred : Charset} {dump : Disassembly} {rows : List Row}
    (hdump : (disassemble name bytes preferred).1 = .ok dump) (hrows : Reading.rows ⟨name, bytes, dump.charset⟩ = .ok rows)
    (hsign : ∀ row ∈ rows, ∀ s ∈ row.strings, '§' ∉ s) :
    dump.text = showRows rows ∧ rows ≠ [] ∧ ∀ row ∈ rows, row.Mergeable := by
  obtain ⟨rows', hrows', htext⟩ := rows_of_disassemble hdump
  obtain rfl : rows = rows' := Except.ok.inj (hrows.symm.trans hrows')
  have hne : rows ≠ [] := by
    obtain ⟨row, w, -, rfl⟩ := Reading.rows_eq_ok.mp hrows
    exact List.cons_ne_nil _ _
  exact ⟨htext, hne, Reading.mergeable_of_rows hrows hsign⟩

/-- Merging a set without patches into the dump of a script, no string of which has a line feed or a `§`, gives the
dump of its rows with each text of the set in the place of the string that it is meant for. If the set has a text for no
string, nothing is merged. -/
theorem merge_disassemble {name : String} {bytes : Bytes} {preferred : Charset} {dump : Disassembly} {rows : List Row}
    {set : ReplacementSet} (hdump : (disassemble name bytes preferred).1 = .ok dump)
    (hrows : Reading.rows ⟨name, bytes, dump.charset⟩ = .ok rows)
    (hstrings : ∀ row ∈ rows, ∀ s ∈ row.strings, '\n' ∉ s ∧ '§' ∉ s) (hpatches : set.patches = []) (entry : String) :
    dump.text = showRows rows ∧
      (RenewsBehind set [] rows → merge entry dump.text set = (.ok (some (showRows (renewedBehind set [] rows))), [])) ∧
      (¬RenewsBehind set [] rows → merge entry dump.text set = (.ok none, [])) := by
  obtain ⟨htext, hne, hmergeable⟩ := mergeable_of_disassemble hdump hrows fun row hrow s hs => (hstrings row hrow s hs).2
  classical
  have hmerge := merge_showRows hne hmergeable (fun row hrow s hs => (hstrings row hrow s hs).1) hpatches entry
  rw [← htext] at hmerge
  refine ⟨htext, fun hrenews => ?_, fun hnone => ?_⟩
  · rw [hmerge, if_pos hrenews]
  · rw [hmerge, if_neg hnone]

/-- A choice of which the last option is replaced, between two messages of which the second is. -/
theorem merge_disassemble_choice :
    let bytes : Bytes := [1, 0x18, 8, 0, 0, 0, 0, 43, 0, 0x1B, 24, 0, 0, 0, 0, 0, 0, 45, 0, 0, 0, 0, 0, 0, 0, 47, 0,
      0, 0, 0, 0, 0, 0, 0x18, 8, 0, 0, 0, 0, 49, 0, 0x0D, 2, 0x41, 0, 0x42, 0, 0x43, 0, 0x44, 0]
    let set : ReplacementSet :=
      { ReplacementSet.empty with choices := [["".toList, " Yes ".toList]], lines := [(2, "Done".toList)] }
    let dump : Text := ("header.1\nmessage.8 00-00-00-00-S @A\n" ++
      "select.24 00-00-00-00-00-00-S-00-00-00-00-00-00-S-00-00-00-00-00-00 §B§ @C\n" ++
      "message.8 00-00-00-00-S @D\nret2.2\ntrailer.0").toList
    (disassemble "SC01" bytes .big5).1 = .ok ⟨dump, .big5⟩ ∧ set.patches = [] ∧
      merge "SC01" dump set = (.ok (some ("header.1\nmessage.8 00-00-00-00-S @A\n" ++
        "select.24 00-00-00-00-00-00-S-00-00-00-00-00-00-S-00-00-00-00-00-00 §B§ @Yes\n" ++
        "message.8 00-00-00-00-S @Done\nret2.2\ntrailer.0").toList), []) := by
  intro bytes set dump
  have hdump : (disassemble "SC01" bytes .big5).1 = .ok ⟨dump, .big5⟩ := by decide +kernel
  let zeros : List Operand := List.replicate 6 (.byte 0)
  let rows : List Row := [Row.raw "header".toList 1 [],
    ⟨some 1, "message".toList, 8, [.byte 0, .byte 0, .byte 0, .byte 0, .pointer 43], ["A".toList]⟩,
    ⟨some 9, "select".toList, 24, zeros ++ (.pointer 45 :: (zeros ++ (.pointer 47 :: zeros))), ["B".toList, "C".toList]⟩,
    ⟨some 33, "message".toList, 8, [.byte 0, .byte 0, .byte 0, .byte 0, .pointer 49], ["D".toList]⟩,
    ⟨some 41, "ret2".toList, 2, [], []⟩, Row.raw "trailer".toList 0 []]
  have hrows : Reading.rows ⟨"SC01", bytes, .big5⟩ = .ok rows := by decide +kernel
  have hrenews : RenewsBehind set [] rows := ⟨2, _, rfl, 1, "C".toList, rfl, by decide +kernel⟩
  refine ⟨hdump, rfl, ?_⟩
  rw [(merge_disassemble hdump hrows (by decide +kernel) rfl "SC01").2.1 hrenews]
  decide +kernel

end Replacement
end SceneScript
