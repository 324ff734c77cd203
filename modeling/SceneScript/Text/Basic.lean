/-!
# Texts

A text is its list of characters. Here are the cuts every other module makes in one: at the first occurrence
of a character, at line ends, at a leading word; and the replacement of a pair of characters.
-/
namespace SceneScript

/-- A text, character by character. -/
abbrev Text := List Char

namespace Text

/-- The parts before and after the first occurrence of a character. -/
def cutAt (sep : Char) (t : Text) : Option (Text × Text) :=
  match t.dropWhile (· != sep) with
  | [] => none
  | _ :: rest => some (t.takeWhile (· != sep), rest)

/-- The parts before and after the last occurrence of a character. -/
def cutAtLast (sep : Char) (t : Text) : Option (Text × Text) :=
  (cutAt sep t.reverse).map fun (after, before) => (before.reverse, after.reverse)

/-- Drops the longest run of characters with a property from the end. -/
def dropEndWhile (p : Char → Bool) (t : Text) : Text :=
  (t.reverse.dropWhile p).reverse

/-- What follows a word that a text begins with. -/
def afterWord? (word t : Text) : Option Text :=
  if word.isPrefixOf t then some (t.drop word.length) else none

/-- What precedes a word that a text ends with. -/
def beforeWord? (word t : Text) : Option Text :=
  if word.isSuffixOf t then some (t.take (t.length - word.length)) else none

/-- Whether a word occurs anywhere in a text. -/
def hasWord (word : Text) : Text → Bool
  | [] => word.isEmpty
  | c :: rest => word.isPrefixOf (c :: rest) || hasWord word rest

/-- The parts before and after the first occurrence of a word. -/
def cutAtWord (word : Text) (t : Text) : Option (Text × Text) :=
  go [] t
where
  go (before : Text) : Text → Option (Text × Text)
    | [] => (afterWord? word []).map (before.reverse, ·)
    | c :: rest =>
      match afterWord? word (c :: rest) with
      | some after => some (before.reverse, after)
      | none => go (c :: before) rest

/-- Replaces each occurrence of two adjacent characters, leftmost first, without overlap. -/
def replacePair (a b : Char) (by' : Text) (t : Text) : Text :=
  go [] t
where
  go (done : Text) : Text → Text
    | [] => done.reverse
    | [c] => (c :: done).reverse
    | c :: d :: rest =>
      if c = a ∧ d = b then go (by'.reverse ++ done) rest else go (c :: done) (d :: rest)

/-- The lines of a text: each ends at a line feed or at the end of the text; a carriage return right before a line
feed belongs to the line end, and nothing after the last line feed is no line. -/
def lines (t : Text) : List Text :=
  let pieces := t.splitOn '\n'
  let ended := pieces.dropLast.map fun line => (beforeWord? ['\r'] line).getD line
  match pieces.getLast? with
  | some [] | none => ended
  | some open' => ended ++ [open']

/-- Puts lines together with a line feed between each two. -/
def joinLines (lines : List Text) : Text :=
  ['\n'].intercalate lines

theorem cutAt_eq_some {sep : Char} {t before after : Text} (h : cutAt sep t = some (before, after)) :
    t = before ++ sep :: after ∧ sep ∉ before := by
  unfold cutAt at h
  split at h
  · cases h
  · rename_i c rest heq
    have hc : c = sep := by
      have := List.head?_dropWhile_not (· != sep) t
      rw [heq] at this
      simpa using this
    simp only [Option.some.injEq, Prod.mk.injEq] at h
    obtain ⟨rfl, rfl⟩ := h
    constructor
    · calc t = t.takeWhile (· != sep) ++ t.dropWhile (· != sep) := List.takeWhile_append_dropWhile.symm
        _ = _ := by rw [heq, hc]
    · intro hm
      simpa using List.all_eq_true.1 List.all_takeWhile _ hm

@[simp] theorem cutAt_nil (sep : Char) : cutAt sep [] = none := rfl

@[simp] theorem cutAt_cons_self (sep : Char) (t : Text) : cutAt sep (sep :: t) = some ([], t) := by
  simp [cutAt]

theorem cutAt_cons_of_ne {sep c : Char} (h : c ≠ sep) (t : Text) :
    cutAt sep (c :: t) = (cutAt sep t).map fun (before, after) => (c :: before, after) := by
  have hc : (c != sep) = true := by simpa using h
  simp only [cutAt, List.dropWhile_cons, List.takeWhile_cons, hc, if_true]
  split <;> rfl

theorem cutAt_append {sep : Char} {before : Text} (h : sep ∉ before) (after : Text) :
    cutAt sep (before ++ sep :: after) = some (before, after) := by
  induction before with
  | nil => exact cutAt_cons_self sep after
  | cons c before ih =>
    have hc : c ≠ sep := fun he => h (he ▸ List.mem_cons_self)
    rw [List.cons_append, cutAt_cons_of_ne hc, ih fun hm => h (List.mem_cons_of_mem c hm)]
    rfl

theorem cutAt_eq_none {sep : Char} {t : Text} (h : sep ∉ t) : cutAt sep t = none := by
  induction t with
  | nil => rfl
  | cons c t ih =>
    have hc : c ≠ sep := fun he => h (he ▸ List.mem_cons_self)
    rw [cutAt_cons_of_ne hc, ih fun hm => h (List.mem_cons_of_mem c hm)]
    rfl

theorem notMem_of_cutAt_eq_none {sep : Char} {t : Text} (h : cutAt sep t = none) : sep ∉ t := by
  intro hm
  obtain ⟨before, after, rfl, hbefore⟩ := List.eq_append_cons_of_mem hm
  rw [cutAt_append hbefore] at h
  cases h

theorem cutAtLast_append {sep : Char} {after : Text} (h : sep ∉ after) (before : Text) :
    cutAtLast sep (before ++ sep :: after) = some (before, after) := by
  have hreversed : (before ++ sep :: after).reverse = after.reverse ++ sep :: before.reverse := by simp
  rw [cutAtLast, hreversed, cutAt_append (by simpa using h)]
  simp

theorem cutAtLast_eq_none {sep : Char} {t : Text} (h : sep ∉ t) : cutAtLast sep t = none := by
  rw [cutAtLast, cutAt_eq_none (by simpa using h), Option.map_none]

theorem beforeWord?_eq_some_iff {word t front : Text} : beforeWord? word t = some front ↔ t = front ++ word := by
  rw [beforeWord?]
  constructor
  · intro h
    split at h
    · rename_i hsuffix
      obtain ⟨before, rfl⟩ := List.isSuffixOf_iff_suffix.1 hsuffix
      have hfront : before = front := by simpa using h
      rw [hfront]
    · cases h
  · rintro rfl
    simp [List.isSuffixOf_iff_suffix.2 (List.suffix_append front word)]

end Text
end SceneScript
