import SceneScript.Proofs.Patch.Reapplication
import SceneScript.Replacement.Merge
/-!
# Strings of a line

The line of a row is taken apart into what stands in front of its strings and the strings themselves, and is put together
again with other strings in their place.
-/
namespace SceneScript

/-! ## The front of a line -/

theorem lineName?_label {label : Text} (h : ':' ∉ label) (t : Text) : lineName? ('&' :: (label ++ ':' :: t)) = lineName? t := by
  have htrim : Text.trimStart ('&' :: (label ++ ':' :: t)) = '&' :: (label ++ ':' :: t) :=
    List.dropWhile_cons_of_neg (by decide)
  rw [lineName?.eq_def]
  split
  · rename_i rest hrest
    rw [htrim, List.cons.injEq] at hrest
    obtain ⟨-, rfl⟩ := hrest
    split <;> rename_i hcut <;> rw [Text.cutAt_append h] at hcut
    · cases hcut
    · obtain ⟨-, rfl⟩ := Prod.mk.inj (Option.some.inj hcut)
      rfl
  · rename_i heq
    rw [htrim] at heq
    cases heq
  · rename_i hnot _
    exact absurd htrim (hnot _)

private theorem isBlank_of_isLabelChar {c : Char} (h : isLabelChar c = true) : isBlank c = false := by
  simp only [isLabelChar, Char.isAlphanum, Char.isAlpha, Char.isUpper, Char.isLower, Char.isDigit, Bool.or_eq_true,
    Bool.and_eq_true, decide_eq_true_eq, beq_iff_eq, ge_iff_le, UInt32.le_iff_toNat_le] at h
  have hrange : 0x20 < c.toNat ∧ c.toNat < 0x7F := by
    rcases h with ((⟨hlow, hhigh⟩ | ⟨hlow, hhigh⟩) | ⟨hlow, hhigh⟩) | rfl
    · exact ⟨lt_of_lt_of_le (by decide) hlow, lt_of_le_of_lt hhigh (by decide)⟩
    · exact ⟨lt_of_lt_of_le (by decide) hlow, lt_of_le_of_lt hhigh (by decide)⟩
    · exact ⟨lt_of_lt_of_le (by decide) hlow, lt_of_le_of_lt hhigh (by decide)⟩
    · decide
  exact isBlank_eq_false_of_printable hrange.1 hrange.2

theorem Text.trimEnd_concat {t : Text} {c : Char} (hc : isBlank c = true) (h : ∀ d ∈ t.getLast?, isBlank d = false) :
    trimEnd (t ++ [c]) = t := by
  have hself : t.rdropWhile isBlank = t := by
    rw [List.rdropWhile_eq_self_iff]
    intro hne
    rw [h _ (List.getLast_mem_getLast? hne)]
    exact Bool.false_ne_true
  exact (List.rdropWhile_concat_pos isBlank t c hc).trans hself

/-- Whether a text ends with a letter, a digit or an underscore. -/
private def EndsSolid (t : Text) : Prop := ∃ front c, t = front ++ [c] ∧ isLabelChar c = true

private theorem EndsSolid.append {t : Text} (h : EndsSolid t) (before : Text) : EndsSolid (before ++ t) := by
  obtain ⟨front, c, rfl, hc⟩ := h
  exact ⟨before ++ front, c, by rw [List.append_assoc], hc⟩

private theorem endsSolid_of_forall {t : Text} (hne : t ≠ []) (h : ∀ c ∈ t, isLabelChar c = true) : EndsSolid t :=
  ⟨t.dropLast, t.getLast hne, (List.dropLast_concat_getLast hne).symm, h _ (List.getLast_mem hne)⟩

private theorem endsSolid_intercalate {texts : List Text} (hne : texts ≠ []) (h : ∀ t ∈ texts, EndsSolid t) :
    EndsSolid (['-'].intercalate texts) := by
  induction texts with
  | nil => exact absurd rfl hne
  | cons t more ih =>
    rw [List.forall_mem_cons] at h
    cases more with
    | nil =>
      rw [List.intercalate_singleton]
      exact h.1
    | cons t' more =>
      rw [List.intercalate_cons_cons]
      exact (ih (List.cons_ne_nil _ _) h.2).append _

namespace Row

private theorem endsSolid_hexPair (b : UInt8) : EndsSolid (Bytes.hexPair b) :=
  endsSolid_of_forall (List.cons_ne_nil _ _) fun _ => isLabelChar_of_mem_hexPair

private theorem endsSolid_operand (labelled : Nat → Bool) (op : Operand) : EndsSolid (op.render labelled) := by
  cases op with
  | byte b => exact endsSolid_hexPair b
  | pointer target => exact ⟨[], 'S', rfl, by decide⟩
  | jump target =>
    rw [Operand.render]
    split_ifs
    · have hname := endsSolid_of_forall (List.cons_ne_nil _ _) fun c => isLabelChar_of_mem_labelName (n := target) (c := c)
      exact hname.append ['&']
    · refine endsSolid_intercalate (List.cons_ne_nil _ _) fun t ht => ?_
      obtain ⟨b, -, rfl⟩ := List.mem_map.mp ht
      exact endsSolid_hexPair b

private theorem endsSolid_frame (labelled : Nat → Bool) (row : Row) : EndsSolid (row.frame labelled) := by
  have hlength : EndsSolid (Text.decimal row.length) :=
    endsSolid_of_forall (Text.decimal_ne_nil _) fun _ => isLabelChar_of_mem_decimal
  have htail : EndsSolid (Text.decimal row.length ++ showOperands labelled row.operands) := by
    rw [showOperands.eq_def]
    split
    · rwa [List.append_nil]
    · rename_i hne
      refine EndsSolid.append (EndsSolid.append (endsSolid_intercalate ?_ fun t ht => ?_) [' ']) _
      · simpa using hne
      · obtain ⟨op, -, rfl⟩ := List.mem_map.mp ht
        exact endsSolid_operand labelled op
  exact (htail.append ['.']).append row.name |>.append (row.showLabel labelled)

/-- What stands in front of the strings of a line is not followed by blanks of its own. -/
theorem trimEnd_frame (labelled : Nat → Bool) (row : Row) : Text.trimEnd (row.frame labelled ++ [' ']) = row.frame labelled := by
  obtain ⟨front, c, hframe, hc⟩ := endsSolid_frame labelled row
  refine Text.trimEnd_concat (by decide) fun d hd => ?_
  rw [hframe, List.getLast?_concat] at hd
  obtain rfl := Option.some.inj hd
  exact isBlank_of_isLabelChar hc

theorem lineName?_render {row : Row} (h : Row.isName row.name = true) (labelled : Nat → Bool) :
    lineName? (row.render labelled) = some row.name := by
  have hself : ∀ rest, lineName? (row.name ++ '.' :: rest) = some row.name := lineName?_name h
  rw [render, showLabel]
  cases row.start? with
  | none => exact hself _
  | some start =>
    dsimp only
    split_ifs
    · have hcolon : ':' ∉ labelName start := fun hm => absurd (isLabelChar_of_mem_labelName hm) (by decide)
      have hblank : ∀ t, lineName? (' ' :: t) = lineName? t := by
        intro t
        rw [← lineName?_trimStart, ← lineName?_trimStart t]
        exact congrArg lineName? (List.dropWhile_cons_of_pos (by decide))
      rw [List.cons_append, List.append_assoc, List.cons_append, lineName?_label hcolon, List.singleton_append, hblank, hself]
    · exact hself _

/-- Whether the strings of a row can be told apart in its line. -/
structure Splits (row : Row) : Prop where
  isName : isName row.name = true
  name_noAt : '@' ∉ row.name
  inner_noSign : ∀ s ∈ row.strings.dropLast, '§' ∉ s

/-- The row with a new text in place of each string for which there is one. -/
def renew (f : Nat → Text → Option Text) (row : Row) : Row :=
  { row with strings := row.strings.mapIdx fun k old => (f k old).getD old }

theorem getElem?_renew (f : Nat → Text → Option Text) (row : Row) (k : Nat) :
    (row.renew f).strings[k]? = row.strings[k]?.map fun old => (f k old).getD old := List.getElem?_mapIdx

/-- Whether there is a new text for some string of a row. -/
def Renewed (f : Nat → Text → Option Text) (row : Row) : Prop := ∃ k old, row.strings[k]? = some old ∧ (f k old).isSome

theorem not_renewed_of_nil {f : Nat → Text → Option Text} {row : Row} (h : row.strings = []) : ¬row.Renewed f := by
  rintro ⟨k, old, hk, -⟩
  rw [h] at hk
  cases hk

theorem renew_of_not_renewed {f : Nat → Text → Option Text} {row : Row} (h : ¬row.Renewed f) : row.renew f = row := by
  have hstrings : row.strings.mapIdx (fun k old => (f k old).getD old) = row.strings := by
    refine List.ext_getElem? fun k => ?_
    rw [List.getElem?_mapIdx]
    cases hk : row.strings[k]? with
    | none => rfl
    | some old =>
      have hnone : f k old = none := by
        by_contra hsome
        exact h ⟨k, old, hk, Option.isSome_iff_ne_none.mpr hsome⟩
      rw [Option.map_some, hnone]
      rfl
  rw [renew, hstrings]

end Row

namespace Replacement

/-! ## Taking a line apart -/

private theorem readStrings_showStrings_nil : readStrings [] (Text.trimStart (showStrings [])) = [] := by
  simp [showStrings, Text.trimStart, readStrings]

private theorem readStrings_quoted {s : Text} (h : '§' ∉ s) (done : List Text) (rest : Text) :
    readStrings done ('§' :: (s ++ '§' :: rest)) = readStrings (s :: done) (Text.trimStart rest) := by
  rw [readStrings]
  split <;> rename_i hcut <;> rw [Text.cutAt_append h] at hcut
  · obtain ⟨rfl, rfl⟩ := Prod.mk.inj (Option.some.inj hcut)
    rfl
  · cases hcut

/-- Strings that are shown read back. -/
private theorem readStrings_showStrings {strings : List Text} (hne : strings ≠ []) (hinner : ∀ s ∈ strings.dropLast, '§' ∉ s)
    (done : List Text) : readStrings done (Text.trimStart (showStrings strings)) = done.reverse ++ strings := by
  induction strings generalizing done with
  | nil => exact absurd rfl hne
  | cons s more ih =>
    cases more with
    | nil =>
      have htrim : Text.trimStart (showStrings [s]) = '@' :: s := rfl
      rw [htrim, readStrings, List.reverse_cons]
    | cons s' more =>
      rw [List.dropLast_cons_cons, List.forall_mem_cons] at hinner
      have htrim : Text.trimStart (showStrings (s :: s' :: more)) = '§' :: (s ++ '§' :: showStrings (s' :: more)) := rfl
      rw [htrim, readStrings_quoted hinner.1, ih (List.cons_ne_nil _ _) hinner.2, List.reverse_cons, List.append_assoc]
      rfl

private theorem exists_showStrings {strings : List Text} (hne : strings ≠ []) :
    ∃ c rest, showStrings strings = ' ' :: c :: rest ∧ Text.trimStart (showStrings strings) = c :: rest ∧
      opensString c = true := by
  match strings with
  | [s] => exact ⟨'@', s, rfl, rfl, rfl⟩
  | s :: s' :: more => exact ⟨'§', _, rfl, rfl, rfl⟩

private theorem opensString_frame {row : Row} (hname : Row.isName row.name = true) (hat : '@' ∉ row.name)
    (labelled : Nat → Bool) : ∀ c ∈ row.frame labelled, opensString c = false := by
  have hiff : ∀ {c : Char}, opensString c = false ↔ c ≠ '§' ∧ c ≠ '@' := by simp [opensString]
  refine Row.forall_mem_frame labelled (fun c hc => hiff.mpr ⟨?_, ?_⟩) (fun c hc => hiff.mpr ⟨?_, ?_⟩) (by simp [opensString])
  · rintro rfl
    exact absurd ((Row.isName_iff.mp hname).2 _ hc).2 (by decide)
  · rintro rfl
    exact hat hc
  · rintro rfl
    exact absurd hc (by decide)
  · rintro rfl
    exact absurd hc (by decide)

/-- A line is taken apart behind what stands in front of its strings, whatever these are. -/
theorem splitStrings_joinStrings_eq {head : Text} (hhead : ∀ c ∈ head, opensString c = false)
    (htrim : Text.trimEnd (head ++ [' ']) = head) (strings : List Text) :
    splitStrings (joinStrings head strings) = (head, readStrings [] (Text.trimStart (showStrings strings))) := by
  have hopens : ∀ c ∈ head, (!opensString c) = true := by
    intro c hc
    rw [hhead c hc]
    rfl
  rw [joinStrings, splitStrings]
  by_cases hnil : strings = []
  · rw [hnil, readStrings_showStrings_nil, showStrings, List.append_nil, List.dropWhile_eq_nil_iff.mpr hopens]
  · obtain ⟨c, rest, hshown, hstart, hc⟩ := exists_showStrings hnil
    have hline : head ++ showStrings strings = (head ++ [' ']) ++ c :: rest := by
      rw [hshown, List.append_assoc]
      rfl
    have hbody : ∀ d ∈ head ++ [' '], (!opensString d) = true := by
      rw [List.forall_mem_append, List.forall_mem_singleton]
      exact ⟨hopens, rfl⟩
    have hfirst : ∀ d ∈ (c :: rest).head?, (!opensString d) = false := by
      rintro d ⟨rfl⟩
      rw [hc]
      rfl
    obtain ⟨htake, hdrop⟩ := Token.takeWhile_boundary hbody hfirst
    rw [hline, htake, hdrop, htrim, hstart]

theorem splitStrings_join {head : Text} (hhead : ∀ c ∈ head, opensString c = false)
    (htrim : Text.trimEnd (head ++ [' ']) = head) {strings : List Text} (hinner : ∀ s ∈ strings.dropLast, '§' ∉ s) :
    splitStrings (joinStrings head strings) = (head, strings) := by
  rw [splitStrings_joinStrings_eq hhead htrim]
  by_cases hnil : strings = []
  · rw [hnil, readStrings_showStrings_nil]
  · rw [readStrings_showStrings hnil hinner]
    rfl

/-- The line of a row is taken apart behind what stands in front of its strings, whatever these are. -/
theorem splitStrings_render_eq {row : Row} (hname : Row.isName row.name = true) (hat : '@' ∉ row.name)
    (labelled : Nat → Bool) : splitStrings (row.render labelled) =
      (row.frame labelled, readStrings [] (Text.trimStart (showStrings row.strings))) := by
  rw [Row.render_eq]
  exact splitStrings_joinStrings_eq (opensString_frame hname hat labelled) (Row.trimEnd_frame labelled row) row.strings

/-- The line of a row is taken apart into what stands in front of its strings and its strings. -/
theorem splitStrings_render {row : Row} (h : row.Splits) (labelled : Nat → Bool) :
    splitStrings (row.render labelled) = (row.frame labelled, row.strings) := by
  rw [Row.render_eq]
  exact splitStrings_join (opensString_frame h.isName h.name_noAt labelled) (Row.trimEnd_frame labelled row) h.inner_noSign

/-! ## Replacing strings -/

/-- A text that replaces a string unless it is empty. -/
def unlessEmpty? (t : Text) : Option Text := if t = [] then none else some t

/-- The text for string `k` of some strings when one is given for the last of them. -/
def forLast? (count k : Nat) (t : Text) : Option Text := if k + 1 = count then unlessEmpty? t else none

/-- The text for string `k` of a route: the part behind the first `//` for the last, the part in front of it for the first. -/
def forRoute? (count k : Nat) (route : Text) : Option Text :=
  (Text.cutAtWord ['/', '/'] route).bind fun (japanese, localised) =>
    (forLast? count k (Text.trim localised)).or (if k = 0 then unlessEmpty? (Text.trim japanese) else none)

/-- The text for string `k` of a choice. A single option is for none of them. -/
def forOption? (k : Nat) (options : List Text) : Option Text :=
  if 1 < options.length then options[k]?.bind fun t => unlessEmpty? (Text.trim t) else none

/-- The last text that is offered for a string of some number and is not empty. -/
def offered? (k : Nat) : List (Nat × Text) → Option Text
  | [] => none
  | (n, t) :: more => (offered? k more).or (if n = k then unlessEmpty? t else none)

/-- A line with new texts in the place of its strings; none if there is a new text for none of them. -/
def renewStrings? (f : Nat → Text → Option Text) (line : Text) : Option Text :=
  let (head, strings) := splitStrings line
  if (strings.mapIdx f).any Option.isSome then
    some (joinStrings head (strings.mapIdx fun k old => (f k old).getD old))
  else none

theorem any_isSome_mapIdx {α β : Type} {f : Nat → α → Option β} {xs : List α} :
    (xs.mapIdx f).any Option.isSome = true ↔ ∃ k x, xs[k]? = some x ∧ (f k x).isSome = true := by
  simp only [List.any_eq_true, List.mem_mapIdx]
  constructor
  · rintro ⟨_, ⟨k, hk, rfl⟩, hsome⟩
    exact ⟨k, xs[k], List.getElem?_eq_getElem hk, hsome⟩
  · rintro ⟨k, x, hk, hsome⟩
    obtain ⟨hlt, rfl⟩ := List.getElem?_eq_some_iff.mp hk
    exact ⟨_, ⟨k, hlt, rfl⟩, hsome⟩

/-- The texts that are set when those for strings that do not exist and the empty ones are left out. -/
private theorem foldl_set_eq (replacements : List (Nat × Text)) (strings : List Text) :
    (replacements.filter fun (k, t) => !t.isEmpty && k < strings.length).foldl (fun strings (k, t) => strings.set k t) strings =
      strings.mapIdx fun k old => (offered? k replacements).getD old := by
  induction replacements generalizing strings with
  | nil =>
    refine List.ext_getElem? fun k => ?_
    rw [List.filter_nil, List.foldl_nil, List.getElem?_mapIdx]
    cases strings[k]? <;> rfl
  | cons replacement more ih =>
    obtain ⟨n, t⟩ := replacement
    by_cases hset : t ≠ [] ∧ n < strings.length
    · have hkeep : (!t.isEmpty && decide (n < strings.length)) = true := by simpa using hset
      have hmore := ih (strings.set n t)
      rw [List.length_set] at hmore
      rw [List.filter_cons, if_pos hkeep, List.foldl_cons, hmore]
      refine List.ext_getElem? fun k => ?_
      rw [List.getElem?_mapIdx, List.getElem?_mapIdx, List.getElem?_set, offered?, unlessEmpty?, if_neg hset.1]
      by_cases hk : n = k
      · subst hk
        rw [if_pos rfl, if_pos hset.2, if_pos rfl, List.getElem?_eq_getElem hset.2]
        cases offered? n more <;> rfl
      · rw [if_neg hk, if_neg hk, Option.or_none]
    · have hskip : ¬(!t.isEmpty && decide (n < strings.length)) = true := by simpa using hset
      rw [List.filter_cons, if_neg hskip, ih]
      refine List.ext_getElem? fun k => ?_
      rw [List.getElem?_mapIdx, List.getElem?_mapIdx, offered?]
      cases hk : strings[k]? with
      | none => rfl
      | some old =>
        have hnone : (if n = k then unlessEmpty? t else none) = none := by
          rw [ite_eq_right_iff]
          rintro rfl
          rw [unlessEmpty?, ite_eq_left_iff]
          exact fun ht => absurd ⟨ht, (List.getElem?_eq_some_iff.mp hk).1⟩ hset
        rw [hnone, Option.or_none]

private theorem isSome_offered? {k : Nat} {replacements : List (Nat × Text)} :
    (offered? k replacements).isSome ↔ ∃ t, (k, t) ∈ replacements ∧ t ≠ [] := by
  induction replacements with
  | nil => simp [offered?]
  | cons replacement more ih =>
    obtain ⟨n, t⟩ := replacement
    have hhead : (if n = k then unlessEmpty? t else none).isSome ↔ n = k ∧ t ≠ [] := by
      rw [unlessEmpty?]
      split_ifs <;> simp_all
    rw [offered?, Option.isSome_or, Bool.or_eq_true, ih, hhead]
    constructor
    · rintro (⟨u, hu, hne⟩ | ⟨rfl, hne⟩)
      · exact ⟨u, List.mem_cons_of_mem _ hu, hne⟩
      · exact ⟨t, List.mem_cons_self, hne⟩
    · rintro ⟨u, hu, hne⟩
      rcases List.mem_cons.mp hu with hu | hu
      · obtain ⟨rfl, rfl⟩ := Prod.mk.inj hu
        exact .inr ⟨rfl, hne⟩
      · exact .inl ⟨u, hu, hne⟩

theorem replaceStrings?_eq (line : Text) (replacements : List (Nat × Text)) :
    replaceStrings? line replacements = renewStrings? (fun k _ => offered? k replacements) line := by
  rw [replaceStrings?, renewStrings?]
  obtain ⟨head, strings⟩ := splitStrings line
  have hoffered : (replacements.filter fun (k, t) => !t.isEmpty && k < strings.length).isEmpty = false ↔
      (strings.mapIdx fun k _ => offered? k replacements).any Option.isSome = true := by
    rw [any_isSome_mapIdx, List.isEmpty_eq_false_iff]
    constructor
    · intro hne
      obtain ⟨⟨k, t⟩, hmem⟩ := List.exists_mem_of_ne_nil _ hne
      obtain ⟨ht, hset⟩ := List.mem_filter.mp hmem
      have hset : t ≠ [] ∧ k < strings.length := by simpa using hset
      exact ⟨k, _, List.getElem?_eq_getElem hset.2, isSome_offered?.mpr ⟨t, ht, hset.1⟩⟩
    · rintro ⟨k, old, hk, hsome⟩
      obtain ⟨t, ht, hne⟩ := isSome_offered?.mp hsome
      refine List.ne_nil_of_mem (a := (k, t)) (List.mem_filter.mpr ⟨ht, ?_⟩)
      simpa using ⟨hne, (List.getElem?_eq_some_iff.mp hk).1⟩
  dsimp only
  rw [foldl_set_eq]
  cases hempty : (replacements.filter fun (k, t) => !t.isEmpty && k < strings.length).isEmpty with
  | true => rw [if_pos rfl, if_neg fun hany => by simp [hoffered.mpr hany] at hempty]
  | false => rw [if_neg Bool.false_ne_true, if_pos (hoffered.mp hempty)]

theorem renewStrings?_eq_none {f : Nat → Text → Option Text} {line : Text}
    (h : ∀ k old, (splitStrings line).2[k]? = some old → f k old = none) : renewStrings? f line = none := by
  rw [renewStrings?]
  dsimp only
  rw [if_neg]
  rw [any_isSome_mapIdx]
  rintro ⟨k, old, hk, hsome⟩
  rw [h k old hk] at hsome
  exact absurd hsome Bool.false_ne_true

theorem replaceLast?_eq (line t : Text) :
    replaceLast? line t = renewStrings? (fun k _ => forLast? (splitStrings line).2.length k t) line := by
  rw [replaceLast?]
  cases (splitStrings line).2.length with
  | zero => exact (renewStrings?_eq_none fun _ _ _ => rfl).symm
  | succ count =>
    have hoffered : (fun (k : Nat) (_ : Text) => forLast? (count + 1) k t) = fun k _ => offered? k [(count, t)] := by
      funext k _
      simp only [forLast?, offered?, Nat.add_right_cancel_iff, Option.none_or, eq_comm]
    rw [hoffered]
    exact replaceStrings?_eq line _

theorem replaceRoute?_eq (line route : Text) :
    replaceRoute? line route = renewStrings? (fun k _ => forRoute? (splitStrings line).2.length k route) line := by
  simp only [forRoute?, replaceRoute?]
  cases Text.cutAtWord ['/', '/'] route with
  | none => exact (renewStrings?_eq_none fun _ _ _ => rfl).symm
  | some halves =>
    obtain ⟨japanese, localised⟩ := halves
    dsimp only [Option.bind_some]
    cases hcount : (splitStrings line).2.length with
    | zero =>
      refine (renewStrings?_eq_none fun k old hk => ?_).symm
      rw [List.length_eq_zero_iff.mp hcount] at hk
      cases hk
    | succ count =>
      have hoffered : (fun (k : Nat) (_ : Text) => (forLast? (count + 1) k (Text.trim localised)).or
          (if k = 0 then unlessEmpty? (Text.trim japanese) else none)) =
          fun k _ => offered? k [(0, Text.trim japanese), (count, Text.trim localised)] := by
        funext k _
        simp only [forLast?, offered?, Nat.add_right_cancel_iff, Option.none_or, eq_comm]
      rw [hoffered]
      exact replaceStrings?_eq line _

private theorem offered?_zipIdx (options : List Text) (n k : Nat) :
    offered? (n + k) ((options.zipIdx n).map fun (t, k) => (k, Text.trim t)) =
      options[k]?.bind fun t => unlessEmpty? (Text.trim t) := by
  induction options generalizing n k with
  | nil => rfl
  | cons t more ih =>
    rw [List.zipIdx_cons, List.map_cons, offered?]
    cases k with
    | zero =>
      have hnone : offered? n ((more.zipIdx (n + 1)).map fun (t, k) => (k, Text.trim t)) = none := by
        by_contra hsome
        obtain ⟨u, hu, -⟩ := isSome_offered?.mp (Option.isSome_iff_ne_none.mpr hsome)
        obtain ⟨⟨v, k⟩, hv, heq⟩ := List.mem_map.mp hu
        obtain rfl := (Prod.mk.inj heq).1
        exact absurd (List.le_snd_of_mem_zipIdx hv) (Nat.not_succ_le_self _)
      rw [Nat.add_zero, hnone, if_pos rfl, Option.none_or]
      rfl
    | succ k =>
      have hne : n ≠ n + (k + 1) := by omega
      rw [if_neg hne, Option.or_none, ← Nat.add_assoc, Nat.add_right_comm, ih]
      rfl

theorem replaceOptions?_eq (line : Text) (options : List Text) :
    replaceOptions? line options = renewStrings? (fun k _ => forOption? k options) line := by
  simp only [forOption?, replaceOptions?]
  split_ifs
  · have hoffered : (fun (k : Nat) (_ : Text) => options[k]?.bind fun t => unlessEmpty? (Text.trim t)) =
        fun k _ => offered? k (options.zipIdx.map fun (t, k) => (k, Text.trim t)) := by
      funext k _
      rw [← offered?_zipIdx options 0 k, Nat.zero_add]
    rw [hoffered]
    exact replaceStrings?_eq line _
  · exact (renewStrings?_eq_none fun _ _ _ => rfl).symm

/-- A message with a new text in the place of its string, which begins behind the first `@`. -/
def renewMessage? (f : Nat → Text → Option Text) (line : Text) : Option Text :=
  (Text.cutAt '@' line).bind fun (head, old) => (f 0 old).map (head ++ '@' :: ·)

theorem replaceMessage?_eq (line t : Text) :
    replaceMessage? line t = renewMessage? (fun _ old => mergeMessage? old t) line := by
  rw [replaceMessage?, renewMessage?]
  cases Text.cutAt '@' line <;> rfl

/-! ## Renewed rows -/

/-- What becomes of the line of a row when new texts take the place of strings: the line with the new texts, or none if there
are no new texts. -/
inductive Renewal (labelled : Nat → Bool) (row : Row) (f : Nat → Text → Option Text) : Option Text → Prop
  | changed (h : row.Renewed f) : Renewal labelled row f (some ((row.renew f).render labelled))
  | kept (h : ¬row.Renewed f) : Renewal labelled row f none

variable {row : Row} (labelled : Nat → Bool) (f : Nat → Text → Option Text)

theorem renewal_renewStrings? (h : row.Splits) : Renewal labelled row f (renewStrings? f (row.render labelled)) := by
  rw [renewStrings?, splitStrings_render h]
  dsimp only
  split_ifs with hany
  · have hnew : joinStrings (row.frame labelled) (row.strings.mapIdx fun k old => (f k old).getD old) =
        (row.renew f).render labelled := (Row.render_eq labelled (row.renew f)).symm
    rw [hnew]
    exact .changed (any_isSome_mapIdx.mp hany)
  · exact .kept (mt any_isSome_mapIdx.mpr hany)

/-- A message has a single string, if any; what stands in front of it stays. -/
theorem renewal_renewMessage? (h : row.Splits) (hcount : row.strings.length ≤ 1) :
    Renewal labelled row f (renewMessage? f (row.render labelled)) := by
  have hat : '@' ∉ row.frame labelled ++ [' '] := by
    rw [List.mem_append, not_or]
    refine ⟨fun hm => ?_, by decide⟩
    exact absurd (opensString_frame h.isName h.name_noAt labelled _ hm) (by decide)
  rw [Row.render_eq, renewMessage?]
  rcases Nat.le_one_iff_eq_zero_or_eq_one.mp hcount with hnone | hone
  · have hstrings := List.length_eq_zero_iff.mp hnone
    rw [hstrings, showStrings, List.append_nil, Text.cutAt_eq_none fun hm => hat (List.mem_append_left _ hm)]
    exact .kept (Row.not_renewed_of_nil hstrings)
  · obtain ⟨s, hstrings⟩ := List.length_eq_one_iff.mp hone
    rw [hstrings]
    have hline : row.frame labelled ++ showStrings [s] = (row.frame labelled ++ [' ']) ++ '@' :: s := by
      rw [List.append_assoc]
      rfl
    rw [hline, Text.cutAt_append hat]
    dsimp only [Option.bind_some]
    cases hmerged : f 0 s with
    | none =>
      refine .kept ?_
      rintro ⟨k, old, hk, hsome⟩
      rw [hstrings, List.getElem?_singleton] at hk
      split_ifs at hk with hzero
      rw [hzero, ← Option.some.inj hk, hmerged] at hsome
      exact absurd hsome Bool.false_ne_true
    | some merged =>
      have hrow : row.renew f = { row with strings := [merged] } := by simp [Row.renew, hstrings, hmerged]
      have hnew : row.frame labelled ++ [' '] ++ '@' :: merged = (row.renew f).render labelled := by
        rw [hrow, Row.render_eq, List.append_assoc]
        rfl
      rw [Option.map_some, hnew]
      exact .changed ⟨0, s, by rw [hstrings]; rfl, Option.isSome_of_mem hmerged⟩

end Replacement
end SceneScript
