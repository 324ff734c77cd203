import SceneScript.Proofs.Replacement.Counting
import SceneScript.Proofs.Replacement.Shape
/-!
# Lines with new texts

What becomes of a line that gets new texts: it keeps its name and what stands in front of its strings, and getting the same
texts again leaves it as it is, also when labels were put in front of it.
-/
namespace SceneScript

/-! ## Names and strings of a line -/

/-- The name of a line is found whatever follows. -/
theorem lineName?_append {head name : Text} (h : lineName? head = some name) (more : Text) :
    lineName? (head ++ more) = some name := by
  fun_induction lineName? head with
  | case1 => cases h
  | case2 head rest hhead label tail hcut ih =>
    obtain ⟨rfl, hlabel⟩ := Text.cutAt_eq_some hcut
    rw [← lineName?_trimStart, trimStart_append (by simp [hhead]), hhead, List.cons_append, List.append_assoc,
      List.cons_append, lineName?_label hlabel]
    exact ih h
  | case3 => cases h
  | case4 head hamp hsharp =>
    obtain ⟨⟨before, after⟩, hcut, rfl⟩ := Option.map_eq_some_iff.mp h
    obtain ⟨hhead, hdot⟩ := Text.cutAt_eq_some hcut
    have hstart : Text.trimStart (head ++ more) = Text.trimStart head ++ more := trimStart_append (by simp [hhead]) more
    have hfirst : (Text.trimStart (head ++ more)).head? = (Text.trimStart head).head? := by
      rw [hstart, List.head?_append_of_ne_nil _ (by simp [hhead])]
    have hparts : Text.trimStart (head ++ more) = before ++ '.' :: (after ++ more) := by
      rw [hstart, hhead, List.append_assoc, List.cons_append]
    refine lineName?_eq hparts hdot ?_ ?_
    · rw [hfirst]
      exact fun hand => (List.head?_eq_some_iff.mp hand).elim fun rest => hamp rest
    · rw [hfirst]
      exact fun hand => (List.head?_eq_some_iff.mp hand).elim fun rest => hsharp rest

theorem lineName?_afterLabels (t : Text) : lineName? (afterLabels t) = lineName? t := by
  fun_induction afterLabels t with
  | case1 body rest hbody name tail hcut ih =>
    obtain ⟨rfl, hname⟩ := Text.cutAt_eq_some hcut
    rw [ih, lineName?_trimStart, ← lineName?_trimStart body, hbody, lineName?_label hname]
  | case2 => rfl
  | case3 => rfl

theorem lineName?_defining {label : Text} (h : ∀ c ∈ label, isLabelChar c = true) (t : Text) :
    lineName? (defining label ++ t) = lineName? t := by
  have hcolon : ':' ∉ label := fun hm => absurd (h _ hm) (by decide)
  rw [defining, List.cons_append, List.append_assoc, List.cons_append, lineName?_label hcolon, List.singleton_append,
    ← lineName?_trimStart, ← lineName?_trimStart t]
  exact congrArg lineName? (List.dropWhile_cons_of_pos (by decide))

namespace Text

theorem trimEnd_append {t : Text} (h : trimEnd t ≠ []) (s : Text) : trimEnd (s ++ t) = s ++ trimEnd t := by
  have hne : (t.reverse.dropWhile isBlank).isEmpty = false := by
    rw [List.isEmpty_eq_false_iff]
    exact fun hnil => h (by rw [trimEnd, dropEndWhile, hnil, List.reverse_nil])
  rw [trimEnd, trimEnd, dropEndWhile, dropEndWhile, List.reverse_append, List.dropWhile_append, hne,
    if_neg Bool.false_ne_true, List.reverse_append, List.reverse_reverse]

/-- A cut is the same behind a text that has no separator. -/
theorem cutAt_append_left {sep : Char} {s : Text} (h : sep ∉ s) (t : Text) :
    cutAt sep (s ++ t) = (cutAt sep t).map fun (before, after) => (s ++ before, after) := by
  cases hcut : cutAt sep t with
  | none => exact cutAt_eq_none fun hm => (List.mem_append.mp hm).elim h (notMem_of_cutAt_eq_none hcut)
  | some parts =>
    obtain ⟨before, after⟩ := parts
    obtain ⟨rfl, hbefore⟩ := cutAt_eq_some hcut
    rw [← List.append_assoc, cutAt_append fun hm => (List.mem_append.mp hm).elim h hbefore]
    rfl

end Text

namespace Replacement

theorem inner_readStrings {done : List Text} (hdone : ∀ s ∈ done, '§' ∉ s) (t : Text) :
    ∀ s ∈ (readStrings done t).dropLast, '§' ∉ s := by
  fun_induction readStrings done t with
  | case1 done quoted s rest hcut ih => exact ih (List.forall_mem_cons.mpr ⟨(Text.cutAt_eq_some hcut).2, hdone⟩)
  | case2 done quoted hcut => simpa using hdone
  | case3 done last => simpa using hdone
  | case4 done t => exact fun s hs => hdone s (List.mem_reverse.mp (List.mem_of_mem_dropLast hs))

theorem inner_splitStrings (line : Text) : ∀ s ∈ (splitStrings line).2.dropLast, '§' ∉ s := by
  rw [splitStrings]
  split
  · exact List.forall_mem_nil _
  · exact inner_readStrings (List.forall_mem_nil _) _

/-- The strings of a line are made of its characters. -/
theorem subset_of_mem_readStrings (done : List Text) (t : Text) : ∀ s ∈ readStrings done t, s ∈ done ∨ s ⊆ t := by
  fun_induction readStrings done t with
  | case1 done quoted s rest hcut ih =>
    obtain ⟨rfl, -⟩ := Text.cutAt_eq_some hcut
    have hrest : Text.trimStart rest ⊆ '§' :: (s ++ '§' :: rest) := fun c hc => by
      simp [(List.dropWhile_sublist isBlank).subset hc]
    intro s' hs'
    rcases ih s' hs' with hdone | hsubset
    · rcases List.mem_cons.mp hdone with rfl | hdone
      · exact .inr fun c hc => by simp [hc]
      · exact .inl hdone
    · exact .inr (List.Subset.trans hsubset hrest)
  | case2 done quoted =>
    intro s hs
    rcases List.mem_cons.mp (List.mem_reverse.mp hs) with rfl | hdone
    · exact .inr fun c hc => List.mem_cons_of_mem _ hc
    · exact .inl hdone
  | case3 done last =>
    intro s hs
    rcases List.mem_cons.mp (List.mem_reverse.mp hs) with rfl | hdone
    · exact .inr fun c hc => List.mem_cons_of_mem _ hc
    · exact .inl hdone
  | case4 done t => exact fun s hs => .inl (List.mem_reverse.mp hs)

theorem subset_of_mem_splitStrings {line s : Text} (h : s ∈ (splitStrings line).2) : s ⊆ line := by
  rw [splitStrings] at h
  split at h
  · cases h
  · have hread := (subset_of_mem_readStrings [] _ s h).resolve_left (List.not_mem_nil)
    exact List.Subset.trans hread (List.dropWhile_sublist _).subset

theorem mem_showStrings {strings : List Text} {c : Char} (h : c ∈ showStrings strings) :
    c ∈ [' ', '@', '§'] ∨ ∃ s ∈ strings, c ∈ s := by
  fun_induction showStrings strings with
  | case1 => cases h
  | case2 s => simp_all; tauto
  | case3 s more hmore ih => simp_all; tauto

theorem fst_splitStrings {line : Text} (h : ∃ c ∈ line, opensString c = true) :
    (splitStrings line).1 = Text.trimEnd (line.takeWhile fun c => !opensString c) := by
  rw [splitStrings]
  split
  · rename_i hnone
    obtain ⟨c, hc, hopens⟩ := h
    have hclosed := List.dropWhile_eq_nil_iff.mp hnone c hc
    rw [hopens] at hclosed
    cases hclosed
  · rfl

/-- What stands in front of the strings of a line has no signs of strings and is not followed by blanks of its own. -/
theorem front_splitStrings {line : Text} (h : (splitStrings line).2 ≠ []) :
    (∀ c ∈ (splitStrings line).1, opensString c = false) ∧
      Text.trimEnd ((splitStrings line).1 ++ [' ']) = (splitStrings line).1 := by
  rw [splitStrings] at h ⊢
  split at h
  · exact absurd rfl h
  · have hfront : Text.trimEnd (line.takeWhile fun c => !opensString c) <+: line.takeWhile fun c => !opensString c :=
      List.rdropWhile_prefix isBlank _
    refine ⟨fun c hc => ?_, ?_⟩
    · simpa using List.mem_takeWhile_imp (hfront.subset hc)
    · exact (List.rdropWhile_concat_pos isBlank _ ' ' (by decide)).trans (List.rdropWhile_idempotent isBlank _)

/-! ## Lines with new strings -/

section Renewed

variable {f : Nat → Text → Option Text} {line new : Text}

/-- A line comes apart into its front and its new strings when none that another follows has a `§`. -/
theorem splitStrings_of_renewStrings? (h : renewStrings? f line = some new)
    (hinner : ∀ k old t, k + 1 < (splitStrings line).2.length → f k old = some t → '§' ∉ t) :
    splitStrings new = ((splitStrings line).1, (splitStrings line).2.mapIdx fun k old => (f k old).getD old) := by
  rw [renewStrings?] at h
  dsimp only at h
  split_ifs at h with hany
  obtain rfl := Option.some.inj h
  obtain ⟨k, old, hk, -⟩ := any_isSome_mapIdx.mp hany
  obtain ⟨hopens, htrim⟩ := front_splitStrings (List.ne_nil_of_mem (List.mem_of_getElem? hk))
  refine splitStrings_join hopens htrim fun s hs => ?_
  obtain ⟨k, hk⟩ := List.mem_iff_getElem?.mp hs
  rw [List.getElem?_dropLast] at hk
  split_ifs at hk with hlt
  rw [List.length_mapIdx] at hlt
  rw [List.getElem?_mapIdx] at hk
  obtain ⟨old, hold, rfl⟩ := Option.map_eq_some_iff.mp hk
  cases hnew : f k old with
  | none =>
    refine inner_splitStrings line old (List.mem_iff_getElem?.mpr ⟨k, ?_⟩)
    rwa [List.getElem?_dropLast, if_pos hlt]
  | some t => exact hinner k old t (by omega) hnew

/-- Strings that do not depend on the old ones are put in their own places again. -/
theorem renewStrings?_again (h : renewStrings? f line = some new)
    (hinner : ∀ k old t, k + 1 < (splitStrings line).2.length → f k old = some t → '§' ∉ t)
    (hf : ∀ k old old', f k old = f k old') : renewStrings? f new = some new := by
  have hagain : ∀ k old, f k ((f k old).getD old) = f k old := fun k old => hf k _ _
  have hkept : ∀ k old, (f k old).getD ((f k old).getD old) = (f k old).getD old := by
    intro k old
    cases f k old <;> rfl
  rw [renewStrings?, splitStrings_of_renewStrings? h hinner]
  rw [renewStrings?] at h
  simpa only [List.mapIdx_mapIdx, Function.comp_def, hagain, hkept] using h

/-- A message that settles is put in its own place again, if at all. -/
theorem renewMessage?_again (h : renewMessage? f line = some new)
    (hsettles : ∀ head old t, Text.cutAt '@' line = some (head, old) → f 0 old = some t → (f 0 t).getD t = t) :
    (renewMessage? f new).getD new = new := by
  obtain ⟨⟨head, old⟩, hcut, hput⟩ := Option.bind_eq_some_iff.mp h
  obtain ⟨t, ht, rfl⟩ := Option.map_eq_some_iff.mp hput
  have hhead := (Text.cutAt_eq_some hcut).2
  have hsame := hsettles head old t hcut ht
  rw [renewMessage?, Text.cutAt_append hhead, Option.bind_some]
  dsimp only
  cases hagain : f 0 t with
  | none => rfl
  | some t' =>
    rw [hagain] at hsame
    rw [Option.map_some, Option.getD_some, ← hsame]
    rfl

/-- A message keeps what stands in front of its string. -/
theorem fst_splitStrings_of_renewMessage? (h : renewMessage? f line = some new) :
    (splitStrings new).1 = (splitStrings line).1 := by
  obtain ⟨⟨head, old⟩, hcut, hput⟩ := Option.bind_eq_some_iff.mp h
  obtain ⟨t, ht, rfl⟩ := Option.map_eq_some_iff.mp hput
  obtain ⟨rfl, -⟩ := Text.cutAt_eq_some hcut
  have hfirst : ∀ t, (splitStrings (head ++ '@' :: t)).1 = Text.trimEnd ((head ++ ['@']).takeWhile fun c => !opensString c) := by
    intro t
    rw [fst_splitStrings ⟨'@', by simp, by decide⟩, List.append_cons, takeWhile_append_of_exists ⟨'@', by simp, by decide⟩]
  rw [hfirst, hfirst]

end Renewed

/-- Whether a line has a name that stands in front of its strings, and stays when it gets new texts. -/
structure Steady (f : Nat → Text → Option Text) (name line : Text) : Prop where
  named : lineName? (splitStrings line).1 = some name
  stays : (renewLine? f line).getD line = line

theorem prefix_splitStrings (line : Text) : (splitStrings line).1 <+: line := by
  rw [splitStrings]
  split
  · exact List.prefix_rfl
  · exact (List.rdropWhile_prefix isBlank _).trans (List.takeWhile_prefix _)

/-- A name in front of the strings of a line is its name. -/
theorem lineName?_of_named {line name : Text} (h : lineName? (splitStrings line).1 = some name) :
    lineName? line = some name := by
  obtain ⟨more, hmore⟩ := prefix_splitStrings line
  rw [← hmore]
  exact lineName?_append h more

/-- A line with new texts is steady if they do not depend on the old ones, or are for a message that settles, and end their
strings only where these end. -/
theorem steady_renewed {f : Nat → Text → Option Text} {line name : Text} (hnamed : lineName? (splitStrings line).1 = some name)
    (hinner : name ≠ "message".toList → ∀ k old t, k + 1 < (splitStrings line).2.length → f k old = some t → '§' ∉ t)
    (hf : name ≠ "message".toList → ∀ k old old', f k old = f k old')
    (hsettles : name = "message".toList → ∀ head old t, Text.cutAt '@' line = some (head, old) → f 0 old = some t →
      (f 0 t).getD t = t) : Steady f name ((renewLine? f line).getD line) ∧ (name ≠ "message".toList →
        (splitStrings ((renewLine? f line).getD line)).2.length = (splitStrings line).2.length) := by
  have hname := lineName?_of_named hnamed
  cases hnew : renewLine? f line with
  | none => exact ⟨⟨hnamed, by rw [Option.getD_none, hnew, Option.getD_none]⟩, fun _ => rfl⟩
  | some new =>
    rw [Option.getD_some]
    rw [renewLine?, hname] at hnew
    split_ifs at hnew with hmessage
    · have hmessage := Option.some.inj hmessage
      have hnamed' : lineName? (splitStrings new).1 = some name := by rw [fst_splitStrings_of_renewMessage? hnew, hnamed]
      refine ⟨⟨hnamed', ?_⟩, fun h => absurd hmessage h⟩
      rw [renewLine?, lineName?_of_named hnamed', hmessage, if_pos rfl]
      exact renewMessage?_again hnew (hsettles hmessage)
    · have hmessage : name ≠ "message".toList := fun h => hmessage (congrArg some h)
      have hsplit := splitStrings_of_renewStrings? hnew (hinner hmessage)
      have hnamed' : lineName? (splitStrings new).1 = some name := by rw [hsplit, hnamed]
      refine ⟨⟨hnamed', ?_⟩, fun _ => by rw [hsplit, List.length_mapIdx]⟩
      rw [renewLine?, lineName?_of_named hnamed', if_neg fun h => hmessage (Option.some.inj h),
        renewStrings?_again hnew (hinner hmessage) (hf hmessage), Option.getD_some]

/-! ## Texts of a set -/

section Texts

variable {set : ReplacementSet} {earlier : List Row} {row : Row} {k : Nat} {old t : Text}

/-- Only what is put in the place of a message depends on what stands there. -/
theorem newText?_old (hmessage : row.name ≠ "message".toList) (old old' : Text) :
    newText? set earlier row k old = newText? set earlier row k old' := by
  simp only [newText?, if_neg hmessage]

/-- A message is merged with its own text whatever strings its line has. -/
theorem newText?_message (h : row.name = "message".toList) (k : Nat) (old : Text) :
    newText? set earlier row k old = (set.lines.lookup (countNamed "message" earlier + 1)).bind (mergeMessage? old) := by
  simp [newText?, h]

/-- What is put in front of another string is a part of a route or of an option. -/
theorem exists_of_newText?_inner (hmessage : row.name ≠ "message".toList) (hk : k + 1 < row.strings.length)
    (h : newText? set earlier row k old = some t) : ∃ u ∈ set.routes ++ set.choices.flatten, t <:+: u := by
  have hlast : ∀ {t? : Option Text}, t?.bind (forLast? row.strings.length k) ≠ some t := by
    intro t? hput
    obtain ⟨u, -, hput⟩ := Option.bind_eq_some_iff.mp hput
    rw [forLast?, if_neg (by omega)] at hput
    cases hput
  rw [newText?, if_neg hmessage] at h
  split_ifs at h
  · exact absurd h hlast
  · obtain ⟨route, hroute, hput⟩ := Option.bind_eq_some_iff.mp h
    exact ⟨route, List.mem_append_left _ (List.mem_of_getElem? hroute), (of_forRoute? hput).2⟩
  · exact absurd h hlast
  · exact absurd h hlast
  · exact absurd h hlast
  · obtain ⟨options, hoptions, hput⟩ := Option.bind_eq_some_iff.mp h
    obtain ⟨u, hu, -, hpart⟩ := of_forOption? hput
    exact ⟨u, List.mem_append_right _ (List.mem_flatten_of_mem (List.mem_of_getElem? hoptions) hu), hpart⟩

end Texts

/-- A line with new texts has no line feed if they have none. -/
theorem feed_notMem_renewed {f : Nat → Text → Option Text} {line : Text} (hline : '\n' ∉ line)
    (hf : ∀ k old t, '\n' ∉ old → f k old = some t → '\n' ∉ t) : '\n' ∉ (renewLine? f line).getD line := by
  cases hnew : renewLine? f line with
  | none => exact hline
  | some new =>
    rw [Option.getD_some]
    rw [renewLine?] at hnew
    split_ifs at hnew
    · obtain ⟨⟨head, old⟩, hcut, hput⟩ := Option.bind_eq_some_iff.mp hnew
      obtain ⟨t, ht, rfl⟩ := Option.map_eq_some_iff.mp hput
      obtain ⟨rfl, -⟩ := Text.cutAt_eq_some hcut
      have hold : '\n' ∉ old := fun hm => hline (by simp [hm])
      have hhead : '\n' ∉ head := fun hm => hline (by simp [hm])
      simp [hhead, hf 0 old t hold ht]
    · rw [renewStrings?] at hnew
      dsimp only at hnew
      split_ifs at hnew
      obtain rfl := Option.some.inj hnew
      rw [joinStrings, List.mem_append, not_or]
      refine ⟨fun hm => hline ((prefix_splitStrings line).subset hm), fun hm => ?_⟩
      rcases mem_showStrings hm with hsign | ⟨s, hs, hm⟩
      · exact absurd hsign (by decide)
      · obtain ⟨k, hk⟩ := List.mem_iff_getElem?.mp hs
        rw [List.getElem?_mapIdx] at hk
        obtain ⟨old, hold, rfl⟩ := Option.map_eq_some_iff.mp hk
        have hold : '\n' ∉ old := fun hm => hline (subset_of_mem_splitStrings (List.mem_of_getElem? hold) hm)
        cases hput : f k old with
        | none => exact hold (by rwa [hput] at hm)
        | some t => exact hf k old t hold hput (by rwa [hput] at hm)

/-! ## Labels in front of a line -/

section Defining

variable {label : Text} (h : ∀ c ∈ label, isLabelChar c = true)
include h

private theorem opensString_defining : ∀ c ∈ defining label, opensString c = false := by
  have hlabel : ∀ c ∈ label, opensString c = false := by
    intro c hc
    by_contra hopens
    rw [Bool.not_eq_false, opensString, Bool.or_eq_true, beq_iff_eq, beq_iff_eq] at hopens
    rcases hopens with rfl | rfl <;> exact absurd (h _ hc) (by decide)
  rw [defining, List.forall_mem_cons, List.forall_mem_append, List.forall_mem_cons, List.forall_mem_singleton]
  exact ⟨by decide, hlabel, by decide, by decide⟩

theorem splitStrings_defining {line name : Text} (hnamed : lineName? (splitStrings line).1 = some name) :
    splitStrings (defining label ++ line) = (defining label ++ (splitStrings line).1, (splitStrings line).2) := by
  have hclosed : ∀ c ∈ defining label, (!opensString c) = true := fun c hc => by rw [opensString_defining h c hc]; rfl
  rw [splitStrings] at hnamed
  rw [splitStrings, splitStrings, List.dropWhile_append_of_pos hclosed, List.takeWhile_append_of_pos hclosed]
  split at hnamed
  · rfl
  · have hne : Text.trimEnd (line.takeWhile fun c => !opensString c) ≠ [] := by
      intro hnil
      rw [hnil, lineName?.eq_def] at hnamed
      cases hnamed
    dsimp only
    rw [Text.trimEnd_append hne]

theorem renewLine?_defining {line name : Text} (hnamed : lineName? (splitStrings line).1 = some name)
    (f : Nat → Text → Option Text) :
    renewLine? f (defining label ++ line) = (renewLine? f line).map (defining label ++ ·) := by
  rw [renewLine?, renewLine?, lineName?_defining h]
  split_ifs
  · have hat : '@' ∉ defining label := fun hm => absurd (opensString_defining h _ hm) (by decide)
    rw [renewMessage?, renewMessage?, Text.cutAt_append_left hat, Option.bind_map, Option.map_bind]
    refine Option.bind_congr fun parts _ => ?_
    simp [Function.comp_def]
  · rw [renewStrings?, renewStrings?, splitStrings_defining h hnamed]
    dsimp only
    split_ifs
    · rw [Option.map_some, joinStrings, joinStrings, List.append_assoc]
    · rfl

theorem Steady.defining {f : Nat → Text → Option Text} {name line : Text} (hline : Steady f name line) :
    Steady f name (defining label ++ line) where
  named := by rw [splitStrings_defining h hline.named, lineName?_defining h, hline.named]
  stays := by
    have hstays := hline.stays
    rw [renewLine?_defining h hline.named]
    cases hnew : renewLine? f line with
    | none => rfl
    | some new =>
      rw [hnew] at hstays
      exact congrArg (SceneScript.defining label ++ ·) hstays

end Defining

end Replacement
end SceneScript
