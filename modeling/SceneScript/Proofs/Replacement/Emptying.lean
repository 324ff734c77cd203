import SceneScript.Proofs.Prose.Respelling
import SceneScript.Proofs.Replacement.Merging
/-!
# Empty texts

A set has its texts at places, and each string of a dump takes its text from one place at most. A place that is emptied
leaves the strings that take their text from it as they are, and no others are affected. Messages are an exception: an empty
text is merged into them as well.
-/
namespace SceneScript

/-- A place of a set that may hold a text. -/
inductive Place where
  | name (i : Nat)
  | route (i : Nat)
  | string (i : Nat)
  | title (i : Nat)
  | postTitleString (i : Nat)
  | option (i k : Nat)
  | message (n : Nat)
deriving DecidableEq, Repr

namespace ReplacementSet

/-- All texts of a set. -/
def texts (set : ReplacementSet) : List Text :=
  set.names ++ set.routes ++ set.strings ++ set.titles ++ set.postTitleStrings ++ set.lines.map Prod.snd ++ set.choices.flatten

/-- A set with the empty text at a place, if it holds a text there. -/
def emptied (set : ReplacementSet) : Place → ReplacementSet
  | .name i => { set with names := set.names.set i [] }
  | .route i => { set with routes := set.routes.set i [] }
  | .string i => { set with strings := set.strings.set i [] }
  | .title i => { set with titles := set.titles.set i [] }
  | .postTitleString i => { set with postTitleStrings := set.postTitleStrings.set i [] }
  | .option i k => { set with choices := set.choices.modify i (·.set k []) }
  | .message n => { set with lines := set.lines.map fun (m, t) => (m, if m = n then [] else t) }

end ReplacementSet

namespace Replacement

/-! ## The place of a text -/

/-- The place that string `k` of a row behind other rows takes its text from. -/
def placeOf? (earlier : List Row) (row : Row) (k : Nat) : Option Place :=
  if row.name = "name".toList then ifLast (.name (countNamed "name" earlier))
  else if row.name = "route".toList ∨ row.name = "route2".toList then
    if k = 0 ∨ k + 1 = row.strings.length then some (.route (countNamed "route" earlier + countNamed "route2" earlier)) else none
  else if row.name = "string".toList then
    if fromTitle earlier = [] then ifLast (.string (countNamed "string" earlier))
    else ifLast (.postTitleString (countNamed "string" (fromTitle earlier)))
  else if row.name = "title".toList then ifLast (.title (countNamed "title" earlier))
  else if row.name = "select".toList then some (.option (countNamed "select" earlier) k)
  else if row.name = "message".toList then some (.message (countNamed "message" earlier + 1))
  else none
where
  ifLast (place : Place) : Option Place := if k + 1 = row.strings.length then some place else none

/-- The text that a set has at a place, for string `k` of some strings in place of an old one. -/
def textAt? (set : ReplacementSet) (count k : Nat) (old : Text) : Place → Option Text
  | .name i => set.names[i]?.bind unlessEmpty?
  | .route i => set.routes[i]?.bind (forRoute? count k)
  | .string i => set.strings[i]?.bind unlessEmpty?
  | .title i => set.titles[i]?.bind unlessEmpty?
  | .postTitleString i => set.postTitleStrings[i]?.bind unlessEmpty?
  | .option i k => set.choices[i]?.bind (forOption? k)
  | .message n => (set.lines.lookup n).bind (mergeMessage? old)

/-- What an emptied place of a set has in place of an old text: nothing, unless it is for a message. -/
def emptyText? (set : ReplacementSet) (old : Text) : Place → Option Text
  | .message n => (set.lines.lookup n).bind fun _ => mergeMessage? old []
  | _ => none

private theorem bind_forLast? (count k : Nat) (t? : Option Text) (place : Place) (text? : Place → Option Text)
    (h : text? place = t?.bind unlessEmpty?) :
    t?.bind (forLast? count k) = (if k + 1 = count then some place else none).bind text? := by
  by_cases hlast : k + 1 = count
  · have hforLast : forLast? count k = unlessEmpty? := by
      funext t
      rw [forLast?, if_pos hlast]
    rw [hforLast, if_pos hlast, Option.bind_some, h]
  · simp [forLast?, hlast]

private theorem forRoute?_eq_none {count k : Nat} (h : ¬(k = 0 ∨ k + 1 = count)) (t : Text) : forRoute? count k t = none := by
  rw [not_or] at h
  simp [forRoute?, forLast?, h]

/-- A string takes the text at its place. -/
theorem newText?_eq (set : ReplacementSet) (earlier : List Row) (row : Row) (k : Nat) (old : Text) :
    newText? set earlier row k old = (placeOf? earlier row k).bind (textAt? set row.strings.length k old) := by
  rw [newText?, placeOf?]
  split_ifs with hname hroute hslot hstring huntitled htitle hselect hmessage
  · exact bind_forLast? _ _ _ _ _ rfl
  · rfl
  · simp [forRoute?_eq_none hslot]
  · exact bind_forLast? _ _ _ _ _ rfl
  · exact bind_forLast? _ _ _ _ _ rfl
  · exact bind_forLast? _ _ _ _ _ rfl
  · rfl
  · rfl
  · rfl

/-! ## Where new texts come from -/

private theorem infix_trim (t : Text) : Text.trim t <:+: t :=
  (List.rdropWhile_prefix isBlank _).isInfix.trans (List.dropWhile_suffix isBlank).isInfix

private theorem of_unlessEmpty? {t new : Text} (h : unlessEmpty? t = some new) : new = t ∧ t ≠ [] := by
  rw [unlessEmpty?] at h
  split_ifs at h with hempty
  exact ⟨(Option.some.inj h).symm, hempty⟩

theorem of_forRoute? {count k : Nat} {route new : Text} (h : forRoute? count k route = some new) :
    new ≠ [] ∧ new <:+: route := by
  rw [forRoute?] at h
  obtain ⟨⟨japanese, localised⟩, hcut, hput⟩ := Option.bind_eq_some_iff.mp h
  have hroute : route = japanese ++ '/' :: '/' :: localised := by
    rcases Text.apart_or_exists '/' '/' route with hapart | ⟨u, v, rfl, hapart⟩
    · rw [Text.cutAtWord_of_apart hapart] at hcut
      cases hcut
    · rw [Text.cutAtWord_append hapart] at hcut
      cases hcut
      rfl
  subst hroute
  rcases Option.or_eq_some_iff.mp hput with hlast | ⟨-, hfirst⟩
  · rw [forLast?] at hlast
    split_ifs at hlast
    obtain ⟨rfl, hne⟩ := of_unlessEmpty? hlast
    exact ⟨hne, (infix_trim localised).trans ⟨japanese ++ ['/', '/'], [], by simp⟩⟩
  · split_ifs at hfirst
    obtain ⟨rfl, hne⟩ := of_unlessEmpty? hfirst
    exact ⟨hne, (infix_trim japanese).trans (List.prefix_append _ _).isInfix⟩

theorem of_forOption? {k : Nat} {options : List Text} {new : Text} (h : forOption? k options = some new) :
    ∃ t ∈ options, new ≠ [] ∧ new <:+: t := by
  rw [forOption?] at h
  split_ifs at h
  obtain ⟨t, ht, hput⟩ := Option.bind_eq_some_iff.mp h
  obtain ⟨rfl, hne⟩ := of_unlessEmpty? hput
  exact ⟨t, List.mem_of_getElem? ht, hne, infix_trim t⟩

/-- What is put in the place of a string is a part of a text of the set, unless the string is a message. -/
theorem exists_of_textAt? {set : ReplacementSet} {count k : Nat} {old new : Text} {place : Place}
    (h : textAt? set count k old place = some new) :
    (∃ t ∈ set.texts, new ≠ [] ∧ new <:+: t) ∨
      ∃ n t, place = .message n ∧ set.lines.lookup n = some t ∧ mergeMessage? old t = some new := by
  have hwhole : ∀ {ts : List Text} {i : Nat}, ts[i]?.bind unlessEmpty? = some new → (∀ t ∈ ts, t ∈ set.texts) →
      ∃ t ∈ set.texts, new ≠ [] ∧ new <:+: t := by
    intro ts i hnew hts
    obtain ⟨t, ht, hput⟩ := Option.bind_eq_some_iff.mp hnew
    obtain ⟨rfl, hne⟩ := of_unlessEmpty? hput
    exact ⟨new, hts new (List.mem_of_getElem? ht), hne, List.infix_rfl⟩
  cases place with
  | name i => exact .inl (hwhole h fun t ht => by simp [ReplacementSet.texts, ht])
  | route i =>
    obtain ⟨t, ht, hput⟩ := Option.bind_eq_some_iff.mp h
    exact .inl ⟨t, by simp [ReplacementSet.texts, List.mem_of_getElem? ht], of_forRoute? hput⟩
  | string i => exact .inl (hwhole h fun t ht => by simp [ReplacementSet.texts, ht])
  | title i => exact .inl (hwhole h fun t ht => by simp [ReplacementSet.texts, ht])
  | postTitleString i => exact .inl (hwhole h fun t ht => by simp [ReplacementSet.texts, ht])
  | option i k =>
    obtain ⟨options, hoptions, hput⟩ := Option.bind_eq_some_iff.mp h
    obtain ⟨t, ht, hnew⟩ := of_forOption? hput
    have hflat : t ∈ set.choices.flatten := List.mem_flatten_of_mem (List.mem_of_getElem? hoptions) ht
    exact .inl ⟨t, by simp [ReplacementSet.texts, hflat], hnew⟩
  | message n =>
    obtain ⟨t, ht, hput⟩ := Option.bind_eq_some_iff.mp h
    exact .inr ⟨n, t, rfl, ht, hput⟩

/-! ## Emptied places -/

private theorem bind_getElem?_set {α β : Type} (xs : List α) (i j : Nat) {a : α} {f : α → Option β} (h : f a = none) :
    (xs.set i a)[j]?.bind f = if j = i then none else xs[j]?.bind f := by
  rw [List.getElem?_set]
  split_ifs <;> simp_all

private theorem forOption?_set (k k' : Nat) (options : List Text) :
    forOption? k' (options.set k []) = if k' = k then none else forOption? k' options := by
  rw [forOption?, forOption?, List.length_set, bind_getElem?_set options k k' rfl]
  split_ifs <;> rfl

private theorem bind_lookup_map {α : Type} (lines : List (Nat × Text)) (n m : Nat) (f : Text → Option α) :
    ((lines.map fun (m, t) => (m, if m = n then [] else t)).lookup m).bind f =
      if m = n then (lines.lookup n).bind fun _ => f [] else (lines.lookup m).bind f := by
  induction lines with
  | nil => simp
  | cons line more ih =>
    obtain ⟨l, t⟩ := line
    by_cases hm : m = l
    · subst hm
      by_cases hn : m = n
      · subst hn
        simp
      · simp [hn]
    · have hml : (m == l) = false := beq_eq_false_iff_ne.mpr hm
      rw [List.map_cons, List.lookup_cons, List.lookup_cons, List.lookup_cons, hml, ih]
      by_cases hn : m = n
      · subst hn
        simp [hml]
      · simp [hn]

private theorem textAt?_emptied (set : ReplacementSet) (count k : Nat) (old : Text) (emptied place : Place) :
    textAt? (set.emptied emptied) count k old place =
      if place = emptied then emptyText? set old emptied else textAt? set count k old place := by
  have hroute : forRoute? count k [] = none := rfl
  have hoption : ∀ i k i' k', (set.choices.modify i (·.set k []))[i']?.bind (forOption? k') =
      if i' = i ∧ k' = k then none else set.choices[i']?.bind (forOption? k') := by
    intro i k i' k'
    rw [List.getElem?_modify]
    by_cases hi : i = i'
    · subst hi
      cases set.choices[i]? <;> simp [forOption?_set]
    · simp [hi, Ne.symm hi]
  cases emptied <;> cases place <;>
    simp [ReplacementSet.emptied, textAt?, emptyText?, bind_getElem?_set, unlessEmpty?, hroute, hoption, bind_lookup_map]

/-- The strings that take their text from an emptied place get what it has then; all others get what they got before. -/
theorem newText?_emptied (set : ReplacementSet) (place : Place) (earlier : List Row) (row : Row) (k : Nat) (old : Text) :
    newText? (set.emptied place) earlier row k old =
      if placeOf? earlier row k = some place then emptyText? set old place else newText? set earlier row k old := by
  rw [newText?_eq, newText?_eq]
  cases placeOf? earlier row k with
  | none => simp
  | some other => simp [textAt?_emptied]

theorem renewLine?_eq_none {f : Nat → Text → Option Text} {line : Text} (h : ∀ k old, f k old = none) :
    renewLine? f line = none := by
  rw [renewLine?]
  split_ifs
  · cases hcut : Text.cutAt '@' line <;> simp [renewMessage?, hcut, h]
  · exact renewStrings?_eq_none fun k old _ => h k old

theorem renewDump?_eq_none {f : Nat → Text → Nat → Text → Option Text} {dump : Text}
    (h : ∀ i line, (dump.splitOn '\n')[i]? = some line → ∀ k old, f i line k old = none) : renewDump? f dump = none := by
  rw [renewDump?, if_neg]
  rw [any_isSome_mapIdx]
  rintro ⟨i, line, hline, hsome⟩
  rw [renewLine?_eq_none (h i line hline)] at hsome
  exact absurd hsome Bool.false_ne_true

private theorem of_placeOf?_message {earlier : List Row} {row : Row} {k n : Nat}
    (h : placeOf? earlier row k = some (.message n)) : row.name = "message".toList ∧ n = countNamed "message" earlier + 1 := by
  rw [placeOf?] at h
  split_ifs at h with hname hroute hslot hstring huntitled htitle hselect hmessage
  all_goals simp_all [placeOf?.ifLast]

private theorem countNamed_take_lt {name : String} {rows : List Row} {i : Nat} {row : Row} (hrow : rows[i]? = some row)
    (hname : row.name = name.toList) : countNamed name (rows.take i) < countNamed name rows := by
  obtain ⟨hlt, rfl⟩ := List.getElem?_eq_some_iff.mp hrow
  have hparts : rows.take i ++ ([rows[i]] ++ rows.drop (i + 1)) = rows := by
    rw [List.singleton_append, ← List.drop_eq_getElem_cons hlt, List.take_append_drop]
  have hcount := congrArg (countNamed name) hparts
  rw [countNamed_append, countNamed_append, countNamed_singleton, if_pos hname] at hcount
  omega

/-- A set whose texts are all empty has no text for any string other than a message. -/
private theorem textsFor?_eq_none {set : ReplacementSet} {lines : List Text} (hblank : ∀ t ∈ set.texts, t = [])
    (hmessages : ∀ n, 0 < n → n ≤ countNamed "message" (lines.map rowOfLine) → set.lines.lookup n = none) {i : Nat}
    {line : Text} (hline : lines[i]? = some line) (k : Nat) (old : Text) : textsFor? set lines i line k old = none := by
  by_contra hsome
  obtain ⟨new, hnew⟩ := Option.ne_none_iff_exists'.mp hsome
  rw [textsFor?, newText?_eq] at hnew
  obtain ⟨place, hplace, hput⟩ := Option.bind_eq_some_iff.mp hnew
  rcases exists_of_textAt? hput with ⟨t, ht, hne, hpart⟩ | ⟨n, t, rfl, ht, -⟩
  · rw [hblank t ht] at hpart
    exact hne (List.infix_nil.mp hpart)
  · obtain ⟨hname, hn⟩ := of_placeOf?_message hplace
    have hrow : (lines.map rowOfLine)[i]? = some (rowOfLine line) := by rw [List.getElem?_map, hline, Option.map_some]
    have hlt := countNamed_take_lt hrow hname
    rw [← List.map_take] at hlt
    rw [hmessages n (by omega) (by omega)] at ht
    cases ht

/-- When a place of a set without patches is emptied, the strings that take their text from it are as in the dump, and all
other strings are as they were; the messages of an emptied place are merged with the empty text. A set whose texts are all
empty changes nothing, unless it has a text for some message. -/
theorem merge_emptied {set : ReplacementSet} (hpatches : set.patches = []) (place : Place) (entry : String) (dump : Text) :
    let lines := dump.splitOn '\n'
    let place? := fun i line => placeOf? ((lines.take i).map rowOfLine) (rowOfLine line)
    merge entry dump set = (.ok (renewDump? (textsFor? set lines) dump), []) ∧
      merge entry dump (set.emptied place) = (.ok (renewDump? (fun i line k old =>
        if place? i line k = some place then emptyText? set old place else textsFor? set lines i line k old) dump), []) ∧
      ((∀ t ∈ set.texts, t = []) →
        (∀ n, 0 < n → n ≤ countNamed "message" (lines.map rowOfLine) → set.lines.lookup n = none) →
          merge entry dump set = (.ok none, [])) := by
  have hmerge := merge_eq hpatches entry dump
  refine ⟨hmerge, ?_, fun hblank hmessages => ?_⟩
  · have hemptied : (set.emptied place).patches = [] := by cases place <;> exact hpatches
    rw [merge_eq hemptied]
    congr 3
    funext i line k old
    rw [textsFor?, textsFor?, newText?_emptied]
  · rw [hmerge, renewDump?_eq_none fun i line hline => textsFor?_eq_none hblank hmessages hline]

/-- A choice of which the first option is emptied, and then the second. -/
theorem merge_emptied_choice :
    let choice : Text → Text → Text := fun first second =>
      ("header.1\nselect.24 00-00-00-00-00-00-S-00-00-00-00-00-00-S-00-00-00-00-00-00 §").toList ++ first ++ "§ @".toList ++
        second ++ "\nret2.2\ntrailer.0".toList
    let dump := choice "B".toList "C".toList
    let set : ReplacementSet := { ReplacementSet.empty with choices := [["Yes".toList, "No".toList]] }
    let blank : ReplacementSet := { ReplacementSet.empty with choices := [["".toList, "".toList]] }
    set.patches = [] ∧ merge "SC01" dump set = (.ok (some (choice "Yes".toList "No".toList)), []) ∧
      merge "SC01" dump (set.emptied (.option 0 0)) = (.ok (some (choice "B".toList "No".toList)), []) ∧
      (set.emptied (.option 0 0)).emptied (.option 0 1) = blank ∧ blank.patches = [] ∧
      merge "SC01" dump blank = (.ok none, []) := by
  intro choice dump set blank
  obtain ⟨hmerge, hemptied, -⟩ := merge_emptied (show set.patches = [] from rfl) (.option 0 0) "SC01" dump
  have hnone := (merge_emptied (show blank.patches = [] from rfl) (.option 0 1) "SC01" dump).2.2 (by decide) fun _ _ _ => rfl
  refine ⟨rfl, ?_, ?_, rfl, rfl, hnone⟩
  · rw [hmerge]
    decide +kernel
  · rw [hemptied]
    decide +kernel

/-- An empty text for a message leaves nothing of it but its ending. -/
theorem merge_emptied_message :
    let message : Text → Text := fun text =>
      "header.1\nmessage.8 00-00-00-00-S @".toList ++ text ++ "\nret2.2\ntrailer.0".toList
    let set : ReplacementSet := { ReplacementSet.empty with lines := [(1, "Quiet.".toList)] }
    let blank : ReplacementSet := { ReplacementSet.empty with lines := [(1, "".toList)] }
    set.emptied (.message 1) = blank ∧
      merge "SC01" (message "静か。%K".toList) blank = (.ok (some (message "%K".toList)), []) := by
  decide +kernel

end Replacement
end SceneScript
