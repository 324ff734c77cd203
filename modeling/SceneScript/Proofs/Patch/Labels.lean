import Mathlib
import SceneScript.Proofs.Patch.Blocks
import SceneScript.Script.Assembly
/-!
# The labels that patches bring in

A patched dump has the labels it had and two for each patch that left a jump, named by the number of the patch in its
list. Where the same number left a jump in two lists, labels are defined twice.
-/
namespace SceneScript

/-! ## Labels of texts -/

theorem lineLabels_cons_of_ne {c : Char} (hblank : isBlank c = false) (hand : c ≠ '&') (t : Text) :
    lineLabels (c :: t) = [] := by
  apply lineLabels_of_stop
  intro rest hrest
  rw [Text.trimStart, List.dropWhile_cons_of_neg (by simp [hblank]), List.cons.injEq] at hrest
  exact absurd hrest.1 hand

theorem lineLabels_jumpTo (label : Text) (length : Nat) : lineLabels (jumpTo label length) = [] :=
  lineLabels_cons_of_ne (by decide) (by decide) _

theorem lineLabels_nopOf (length : Nat) : lineLabels (nopOf length) = [] :=
  lineLabels_cons_of_ne (by decide) (by decide) _

theorem exists_splitLabels (t : Text) :
    ∃ names, t = (splitLabels t).1 ++ (splitLabels t).2 ∧ AddsLabels (splitLabels t).1 names ∧
      lineLabels (splitLabels t).2 = [] := by
  obtain ⟨pre, names, hpre, hadds, hstop⟩ := exists_afterLabels t
  rw [splitLabels_eq hpre rfl]
  exact ⟨names, hpre, hadds, lineLabels_of_stop hstop⟩

private theorem lineLabels_return (t : Text) : lineLabels (t ++ ['\r']) = lineLabels t := by
  obtain ⟨pre, names, hpre, hadds, hstop⟩ := exists_afterLabels t
  have hreturn : ∀ rest, Text.trimStart (afterLabels t ++ ['\r']) = '&' :: rest → ':' ∉ rest := by
    intro rest hrest
    rw [Text.trimStart, List.dropWhile_append] at hrest
    split_ifs at hrest with hempty
    · cases hrest
    · cases hbody : (afterLabels t).dropWhile isBlank with
      | nil => simp [hbody] at hempty
      | cons c body =>
        rw [hbody, List.cons_append, List.cons.injEq] at hrest
        obtain ⟨rfl, rfl⟩ := hrest
        have hcolon := hstop body hbody
        simpa using hcolon
  conv_lhs => rw [hpre, List.append_assoc, (hadds _).1, lineLabels_of_stop hreturn]
  conv_rhs => rw [hpre, (hadds _).1, lineLabels_of_stop hstop]

theorem lineLabels_withoutReturn (t : Text) : lineLabels (Text.withoutReturn t) = lineLabels t := by
  rcases Text.withoutReturn_cases t with h | h
  · rw [h]
  · conv_rhs => rw [h, lineLabels_return]

namespace Text

/-- The labels that the lines of a text define. -/
def labels (t : Text) : List Text := (lines t).flatMap lineLabels

theorem flatMap_lineLabels_closedLines (t : Text) : (closedLines t).flatMap lineLabels = labels t := by
  obtain ⟨front, last, hsplit⟩ : ∃ front last, t.splitOn '\n' = front ++ [last] := by
    rcases List.eq_nil_or_concat (t.splitOn '\n') with h | ⟨front, last, h⟩
    · exact absurd h (List.splitOn_ne_nil _ _)
    · exact ⟨front, last, by rw [h, List.concat_eq_append]⟩
  have hlines : labels t = (front.map withoutReturn).flatMap lineLabels ++ lineLabels last := by
    rw [labels, lines, hsplit, List.dropLast_concat, List.getLast?_concat]
    cases last with
    | nil =>
      rw [lineLabels_nil, List.append_nil]
      rfl
    | cons c last =>
      dsimp only
      rw [List.flatMap_append, List.flatMap_singleton]
      rfl
  rw [hlines, closedLines_eq, hsplit, List.map_append, List.flatMap_append, List.map_singleton, List.flatMap_singleton,
    lineLabels_withoutReturn]

theorem labels_of_notMem {t : Text} (h : '\n' ∉ t) : labels t = lineLabels t := by
  rw [← flatMap_lineLabels_closedLines, closedLines_singleton h, List.flatMap_singleton, lineLabels_withoutReturn]

theorem labels_addsLabels {pre : Text} {names : List Text} (hadds : AddsLabels pre names) (hfeed : '\n' ∉ pre)
    (hreturn : pre.getLast? ≠ some '\r') (t : Text) : labels (pre ++ t) = names ++ labels t := by
  rw [← flatMap_lineLabels_closedLines, ← flatMap_lineLabels_closedLines, closedLines_append hfeed hreturn]
  have hne : closedLines t ≠ [] := by
    rw [closedLines_eq]
    simp
  obtain ⟨line, more, hlines⟩ := List.exists_cons_of_ne_nil hne
  rw [hlines, List.modifyHead_cons, List.flatMap_cons, List.flatMap_cons, (hadds line).1, List.append_assoc]

theorem labels_joinLines (ts : List Text) : labels (joinLines ts) = ts.flatMap labels := by
  induction ts with
  | nil => rfl
  | cons t more ih =>
    by_cases hmore : more = []
    · rw [hmore, joinLines, List.intercalate_singleton, List.flatMap_singleton]
    · rw [joinLines_cons t hmore, labels, lines_append, List.flatMap_append, flatMap_lineLabels_closedLines,
        List.flatMap_cons, ← ih]
      rfl

end Text

/-! ## One patch -/

private theorem flatMap_set {α β : Type} {l : List α} {i : Nat} {a a' : α} {g : α → List β} (h : l[i]? = some a)
    (hg : g a' = g a) : (l.set i a').flatMap g = l.flatMap g := by
  obtain ⟨hlt, rfl⟩ := List.getElem?_eq_some_iff.mp h
  conv_rhs => rw [← List.take_append_drop i l, List.drop_eq_getElem_cons hlt]
  rw [List.set_eq_take_append_cons_drop, if_pos hlt, List.flatMap_append, List.flatMap_cons, List.flatMap_append,
    List.flatMap_cons, hg]

private theorem flatMap_modify_perm {α β : Type} {l : List α} {i : Nat} {names : List β} {g : α → List β} {f : α → α}
    (hi : i < l.length) (hg : ∀ a, g (f a) = names ++ g a) : ((l.modify i f).flatMap g).Perm (names ++ l.flatMap g) := by
  obtain ⟨front, a, back, rfl, -, hmodify⟩ := List.exists_of_modify f hi
  rw [hmodify, List.flatMap_append, List.flatMap_cons, List.flatMap_append, List.flatMap_cons, hg, List.append_assoc,
    ← List.append_assoc, ← List.append_assoc names]
  exact List.perm_append_comm.append_right _

theorem Patch.labels_eq (p : Patch) : p.labels = (p.payload?.map Text.labels).getD [] := by
  rw [labels]
  cases p.payload? with
  | none => rfl
  | some payload => exact Text.flatMap_lineLabels_closedLines payload

theorem labels_defining_append {label : Text} (h : ∀ c ∈ label, isLabelChar c = true) (t : Text) :
    Text.labels (defining label ++ t) = label :: Text.labels t :=
  Text.labels_addsLabels (addsLabels_defining h) (notMem_feed_defining h) (getLast?_defining label) t

theorem labels_jumpTo {label : Text} (h : ∀ c ∈ label, isLabelChar c = true) (length : Nat) :
    Text.labels (jumpTo label length) = [] := by
  rw [Text.labels_of_notMem fun hm => (plain_of_mem_jumpTo h _ hm).1 rfl, lineLabels_jumpTo]

/-- An overflow block defines its own label when its payload defines none. -/
theorem flatMap_labels_overflowBlock {mode : PatchMode} {index : Nat} {payload body : Text}
    (hpayload : Text.labels payload = []) (hbody : Text.labels body = []) :
    (overflowBlock mode index payload body).flatMap Text.labels = [overflowLabel index] := by
  have hstart := labels_defining_append (isLabelChar_of_mem_overflowLabel index)
  have hback := labels_jumpTo (isLabelChar_of_mem_resumeLabel index) minSlotLength
  cases mode with
  | insertBefore => simp only [overflowBlock, List.flatMap_cons, List.flatMap_nil, hstart, hpayload, hbody, hback, List.append_nil]
  | insertAfter => simp only [overflowBlock, List.flatMap_cons, List.flatMap_nil, hstart, hpayload, hbody, hback, List.append_nil]
  | replace => simp only [overflowBlock, List.flatMap_cons, List.flatMap_nil, hstart, hpayload, hback, List.append_nil]

/-- The labels of the lines so far and of the overflow. -/
def Patching.labels (s : Patching) : List Text := s.lines.flatMap Text.labels ++ s.overflow.flatMap Text.labels

private theorem notMem_feed_slot {target slot : Text} (hfeed : '\n' ∉ target) (hplain : ∀ c ∈ slot, c ≠ '\n' ∧ c ≠ '\r') :
    '\n' ∉ (splitLabels target).1 ++ slot := by
  rw [List.mem_append, not_or]
  refine ⟨fun hm => hfeed ?_, fun hm => (hplain _ hm).1 rfl⟩
  exact List.mem_of_mem_take hm

namespace Patching

variable {s : Patching} {entry : String} {index : Nat} {p : Patch} {application : Application}

theorem carryOut_noFeed (hplan : p.plan entry index s.lines = .ok application) (hfeed : ∀ t ∈ s.lines, '\n' ∉ t) :
    ∀ t ∈ (s.carryOut entry index p.line application).lines, '\n' ∉ t := by
  obtain ⟨target, htarget, hcases⟩ := Patch.plan_ok hplan
  have hset : ∀ slot : Text, (∀ c ∈ slot, c ≠ '\n' ∧ c ≠ '\r') →
      ∀ t ∈ s.lines.set (p.line - 1) ((splitLabels target).1 ++ slot), '\n' ∉ t := by
    intro slot hplain t ht
    rcases List.mem_or_eq_of_mem_set ht with ht | rfl
    · exact hfeed t ht
    · exact notMem_feed_slot (hfeed target (List.mem_of_getElem? htarget)) hplain
  rcases hcases with ⟨rfl, -⟩ | ⟨length, -, -, -, ⟨-, -, rfl⟩ | ⟨payload, next, -, -, -, rfl⟩⟩
  · exact hfeed
  · exact hset _ plain_of_mem_nopOf
  · intro t ht
    obtain ⟨i, hi⟩ := List.getElem?_of_mem ht
    rw [carryOut] at hi
    dsimp only at hi
    rw [List.getElem?_modify] at hi
    obtain ⟨t', ht', rfl⟩ := Option.map_eq_some_iff.mp hi
    have hnone := hset _ (plain_of_mem_jumpTo (isLabelChar_of_mem_overflowLabel index)) t' (List.mem_of_getElem? ht')
    split_ifs
    · rw [List.mem_append, not_or]
      exact ⟨notMem_feed_defining (isLabelChar_of_mem_resumeLabel index), hnone⟩
    · exact hnone

theorem carryOut_labels (hplan : p.plan entry index s.lines = .ok application) (hfeed : ∀ t ∈ s.lines, '\n' ∉ t)
    (hpayload : p.labels = []) :
    let d : Settled := ⟨index, p, application⟩
    (s.carryOut entry index p.line application).labels.Perm (d.starts ++ (d.resumes ++ s.labels)) := by
  intro d
  obtain ⟨target, htarget, hcases⟩ := Patch.plan_ok hplan
  have htargetFeed := hfeed target (List.mem_of_getElem? htarget)
  obtain ⟨names, hsplit, hadds, hbody⟩ := exists_splitLabels target
  have hslot : ∀ slot, lineLabels slot = [] → (∀ c ∈ slot, c ≠ '\n' ∧ c ≠ '\r') →
      Text.labels ((splitLabels target).1 ++ slot) = Text.labels target := by
    intro slot hlabels hplain
    rw [Text.labels_of_notMem (notMem_feed_slot htargetFeed hplain), Text.labels_of_notMem htargetFeed, (hadds _).1, hlabels]
    conv_rhs => rw [hsplit, (hadds _).1, hbody]
  rcases hcases with ⟨rfl, -⟩ | ⟨length, -, -, -, ⟨-, -, rfl⟩ | ⟨payload, next, hpayload?, hnext, -, rfl⟩⟩
  · exact .refl _
  · rw [labels, carryOut, flatMap_set htarget (hslot _ (lineLabels_nopOf length) plain_of_mem_nopOf)]
    exact .refl _
  · have hlabel := isLabelChar_of_mem_overflowLabel index
    have hlabels := hslot _ (lineLabels_jumpTo (overflowLabel index) length) (plain_of_mem_jumpTo hlabel)
    have hlt : p.line < (s.lines.set (p.line - 1) ((splitLabels target).1 ++ jumpTo (overflowLabel index) length)).length := by
      rw [List.length_set]
      exact (List.getElem?_eq_some_iff.mp hnext).1
    have hpayload' : Text.labels payload = [] := by
      rw [Patch.labels_eq, hpayload?] at hpayload
      exact hpayload
    have hbody' : Text.labels (splitLabels target).2 = [] := by
      rw [Text.labels_of_notMem, hbody]
      rw [hsplit, List.mem_append, not_or] at htargetFeed
      exact htargetFeed.2
    have hlines : (((s.lines.set (p.line - 1) ((splitLabels target).1 ++ jumpTo (overflowLabel index) length)).modify p.line
        (defining (resumeLabel index) ++ ·)).flatMap Text.labels).Perm ([resumeLabel index] ++ s.lines.flatMap Text.labels) := by
      rw [← flatMap_set htarget hlabels]
      exact flatMap_modify_perm hlt (labels_defining_append (isLabelChar_of_mem_resumeLabel index))
    rw [labels, carryOut]
    dsimp only
    rw [List.flatMap_append, flatMap_labels_overflowBlock hpayload' hbody', List.perm_iff_count]
    intro label
    simp only [labels, d, Settled.starts, Settled.resumes, List.count_append, hlines.count_eq]
    omega

end Patching

/-! ## Lists of patches -/

theorem Patching.applyAll_labels {s s' : Patching} {entry : String} {index : Nat} {patches : List Patch}
    (hfeed : ∀ t ∈ s.lines, '\n' ∉ t) (hpayloads : ∀ p ∈ patches, p.labels = [])
    (h : (s.applyAll entry index patches).1 = .ok s') :
    s'.labels.Perm ((s.settle entry index patches).flatMap (fun d => d.starts ++ d.resumes) ++ s.labels) := by
  induction patches generalizing s index with
  | nil =>
    obtain rfl := Except.ok.inj h
    exact .refl _
  | cons p more ih =>
    rw [List.forall_mem_cons] at hpayloads
    rw [applyAll] at h
    split at h
    · cases h
    rename_i application hplan
    have hstep := carryOut_labels hplan hfeed hpayloads.1
    have hmore := ih (carryOut_noFeed hplan hfeed) hpayloads.2 h
    rw [settle, hplan, List.flatMap_cons, List.perm_iff_count]
    intro label
    have hcount := hmore.count_eq label
    simp only [List.count_append, hstep.count_eq] at hcount ⊢
    omega

theorem Patching.insertOverflow?_perm {s : Patching} {lines : List Text} (h : s.insertOverflow? = some lines) :
    lines.Perm (s.lines ++ s.overflow) := by
  rw [insertOverflow?, List.span_eq_takeWhile_dropWhile] at h
  cases hback : s.lines.reverse.dropWhile (fun line => !isTrailer line) with
  | nil =>
    rw [hback] at h
    cases h
  | cons trailer before =>
    rw [hback] at h
    obtain rfl := Option.some.inj h
    let after := s.lines.reverse.takeWhile fun line => !isTrailer line
    have hreverse : after ++ trailer :: before = s.lines.reverse := by
      rw [← hback]
      exact List.takeWhile_append_dropWhile
    have hlines : s.lines = before.reverse ++ trailer :: after.reverse := by
      simpa using (congrArg List.reverse hreverse).symm
    have hswap : (before.reverse ++ (s.overflow ++ trailer :: after.reverse)).Perm
        (before.reverse ++ trailer :: after.reverse ++ s.overflow) := by
      rw [List.append_assoc]
      exact List.perm_append_comm.append_left _
    rwa [← hlines] at hswap

theorem labels_applyPatches {entry : String} {dump patched : Text} {patches : List Patch}
    (hpayloads : ∀ p ∈ patches, p.labels = []) (h : (applyPatches entry dump patches).1 = .ok patched) :
    (Text.labels patched).Perm
      ((settledPatches entry dump patches).flatMap (fun d => d.starts ++ d.resumes) ++ Text.labels dump) := by
  rw [applyPatches] at h
  split_ifs at h with hempty
  · obtain rfl := Except.ok.inj h
    obtain rfl := List.isEmpty_iff.mp hempty
    exact .refl _
  split at h
  · cases h
  rename_i s log hrun
  have hrunLabels := Patching.applyAll_labels (Text.notMem_of_mem_splitOn dump) hpayloads (congrArg Prod.fst hrun)
  have hdump : Patching.labels ⟨dump.splitOn '\n', [], []⟩ = Text.labels dump := by
    rw [Patching.labels, List.flatMap_nil, List.append_nil, ← Text.labels_joinLines, Text.joinLines,
      List.intercalate_splitOn]
  have hlines : ∀ lines, (if s.overflow.isEmpty then some s.lines else s.insertOverflow?) = some lines →
      (lines.flatMap Text.labels).Perm s.labels := by
    intro lines hlines
    rw [Patching.labels, ← List.flatMap_append]
    split_ifs at hlines with hnil
    · obtain rfl := Option.some.inj hlines
      rw [List.isEmpty_iff.mp hnil, List.append_nil]
    · exact (Patching.insertOverflow?_perm hlines).flatMap_right _
  dsimp only at h
  split at h
  · cases h
  rename_i lines hlines?
  obtain rfl := Except.ok.inj h
  rw [Text.labels_joinLines]
  refine (hlines lines hlines?).trans ?_
  rwa [hdump] at hrunLabels

/-! ## Patches that left jumps -/

/-- The number of a patch that left a jump. -/
def Settled.branched? (d : Settled) : Option Nat :=
  match d.application with
  | .branched .. => some d.index
  | _ => none

/-- The labels that a patch with a number brings in. -/
def patchLabels (index : Nat) : List Text := [overflowLabel index, resumeLabel index]

/-- The numbers of the patches that left jumps in a dump. -/
def branchedPatches (entry : String) (dump : Text) (patches : List Patch) : List Nat :=
  (settledPatches entry dump patches).filterMap Settled.branched?

theorem Settled.flatMap_starts_resumes (settled : List Settled) :
    settled.flatMap (fun d => d.starts ++ d.resumes) = (settled.filterMap branched?).flatMap patchLabels := by
  induction settled with
  | nil => rfl
  | cons d more ih =>
    rw [List.flatMap_cons, ih, List.filterMap_cons, starts, resumes, branched?]
    cases d.application <;> rfl

theorem Patching.settle_index (s : Patching) (entry : String) (index : Nat) (patches : List Patch) :
    ((s.settle entry index patches).map Settled.index).Pairwise (· < ·) ∧
      ∀ d ∈ s.settle entry index patches, index ≤ d.index := by
  induction patches generalizing s index with
  | nil => exact ⟨.nil, List.forall_mem_nil _⟩
  | cons p more ih =>
    rw [settle]
    split
    · exact ⟨.nil, List.forall_mem_nil _⟩
    · rename_i application _
      obtain ⟨hpairwise, hle⟩ := ih (s.carryOut entry index p.line application) (index + 1)
      refine ⟨?_, List.forall_mem_cons.mpr ⟨Nat.le_refl _, fun d hd => Nat.le_of_succ_le (hle d hd)⟩⟩
      exact List.pairwise_cons.mpr ⟨List.forall_mem_map.mpr hle, hpairwise⟩

theorem nodup_branchedPatches (entry : String) (dump : Text) (patches : List Patch) :
    (branchedPatches entry dump patches).Nodup := by
  have hindices := (Patching.settle_index ⟨dump.splitOn '\n', [], []⟩ entry 1 patches).1
  have hsublist : (branchedPatches entry dump patches).Sublist ((settledPatches entry dump patches).map Settled.index) := by
    rw [branchedPatches]
    induction settledPatches entry dump patches with
    | nil => exact .slnil
    | cons d more ih =>
      rw [List.filterMap_cons, List.map_cons, Settled.branched?]
      cases d.application with
      | alreadyApplied | erased => exact ih.cons _
      | branched => exact ih.cons_cons _
  exact (hindices.imp Nat.ne_of_lt).sublist hsublist

theorem nodup_flatMap_patchLabels (indices : List Nat) : (indices.flatMap patchLabels).Nodup ↔ indices.Nodup := by
  have hown : ∀ i ∈ indices, (patchLabels i).Nodup := by
    intro i _
    simp [patchLabels, overflowLabel_ne_resumeLabel]
  have hdisjoint : ∀ i j, (patchLabels i).Disjoint (patchLabels j) ↔ i ≠ j := by
    intro i j
    simp [patchLabels, overflowLabel_injective.eq_iff, resumeLabel_injective.eq_iff, overflowLabel_ne_resumeLabel,
      (overflowLabel_ne_resumeLabel _ _).symm, eq_comm]
  rw [List.nodup_flatMap, and_iff_right hown]
  exact List.Pairwise.iff hdisjoint

/-- Two lists of patches applied one after the other leave no label twice exactly when no number left a jump in both and
the dump has no label that is named by such a number. -/
theorem nodup_labels_applyPatches {entry : String} {dump first second : Text} {A B : List Patch}
    (hnodup : (Text.labels dump).Nodup) (hpayloads : ∀ p ∈ A ++ B, p.labels = [])
    (hfirst : (applyPatches entry dump A).1 = .ok first) (hsecond : (applyPatches entry first B).1 = .ok second) :
    (Text.labels second).Nodup ↔
      (branchedPatches entry dump A).Disjoint (branchedPatches entry first B) ∧
        ∀ i ∈ branchedPatches entry dump A ++ branchedPatches entry first B,
          overflowLabel i ∉ Text.labels dump ∧ resumeLabel i ∉ Text.labels dump := by
  rw [List.forall_mem_append] at hpayloads
  have hlabels : (Text.labels second).Perm
      ((branchedPatches entry dump A ++ branchedPatches entry first B).flatMap patchLabels ++ Text.labels dump) := by
    have hA := labels_applyPatches hpayloads.1 hfirst
    have hB := labels_applyPatches hpayloads.2 hsecond
    rw [Settled.flatMap_starts_resumes] at hA hB
    rw [List.flatMap_append]
    refine hB.trans ((hA.append_left _).trans ?_)
    rw [← List.append_assoc]
    exact List.perm_append_comm.append_right _
  have hapart : ((branchedPatches entry dump A ++ branchedPatches entry first B).flatMap patchLabels).Disjoint
      (Text.labels dump) ↔ ∀ i ∈ branchedPatches entry dump A ++ branchedPatches entry first B,
        overflowLabel i ∉ Text.labels dump ∧ resumeLabel i ∉ Text.labels dump := by
    rw [List.disjoint_left]
    simp only [List.mem_flatMap, patchLabels, List.mem_cons, List.not_mem_nil, or_false]
    constructor
    · intro h i hi
      exact ⟨h ⟨i, hi, Or.inl rfl⟩, h ⟨i, hi, Or.inr rfl⟩⟩
    · rintro h label ⟨i, hi, rfl | rfl⟩
      · exact (h i hi).1
      · exact (h i hi).2
  rw [hlabels.nodup_iff, List.nodup_append', nodup_flatMap_patchLabels, List.nodup_append', hapart]
  simp only [nodup_branchedPatches, hnodup, true_and]

/-- A list that grew: the patch that is there is skipped, and the new one has a number of its own. -/
theorem nodup_labels_applyPatches_grown :
    let dump := "fade_in.10\nkey_wait.2\nfade_in.10\nret2.2\ntrailer.0".toList
    let p : Patch := ⟨.replace, 1, "fade_in.10".toList, false, some "key_wait.2".toList⟩
    let q : Patch := ⟨.replace, 3, "fade_in.10".toList, false, some "key_wait.2".toList⟩
    ∃ first second, (applyPatches "SC01" dump [p]).1 = .ok first ∧ (applyPatches "SC01" first [p, q]).1 = .ok second ∧
      branchedPatches "SC01" dump [p] = [1] ∧ branchedPatches "SC01" first [p, q] = [2] ∧ (Text.labels second).Nodup := by
  intro dump p q
  let first := Text.joinLines [jumpTo "P1".toList 10, "&PR1: key_wait.2".toList, "fade_in.10".toList, "ret2.2".toList,
    "&P1: key_wait.2".toList, jumpTo "PR1".toList 10, "trailer.0".toList]
  let second := Text.joinLines [jumpTo "P1".toList 10, "&PR1: key_wait.2".toList, jumpTo "P2".toList 10,
    "&PR2: ret2.2".toList, "&P1: key_wait.2".toList, jumpTo "PR1".toList 10, "&P2: key_wait.2".toList,
    jumpTo "PR2".toList 10, "trailer.0".toList]
  have hfirst : (applyPatches "SC01" dump [p]).1 = .ok first := by decide +kernel
  have hsecond : (applyPatches "SC01" first [p, q]).1 = .ok second := by decide +kernel
  have hA : branchedPatches "SC01" dump [p] = [1] := by decide +kernel
  have hB : branchedPatches "SC01" first [p, q] = [2] := by decide +kernel
  have hlabels : Text.labels dump = [] := by decide +kernel
  have hpayloads : ∀ p' ∈ [p] ++ [p, q], p'.labels = [] := by decide +kernel
  clear_value first second dump p q
  have hiff := nodup_labels_applyPatches (by rw [hlabels]; exact .nil) hpayloads hfirst hsecond
  rw [hA, hB, hlabels] at hiff
  exact ⟨first, second, hfirst, hsecond, hA, hB, hiff.mpr (by simp)⟩

/-- Two lists whose first patches both left a jump: both slots jump to one label, which two blocks define. -/
theorem applyPatches_same_number :
    let dump := "fade_in.10\nkey_wait.2\nfade_in.10\nret2.2\ntrailer.0".toList
    let p : Patch := ⟨.replace, 1, "fade_in.10".toList, false, some "key_wait.2".toList⟩
    let q : Patch := ⟨.replace, 3, "fade_in.10".toList, false, some "key_wait.4 00-00".toList⟩
    let first := Text.joinLines [jumpTo "P1".toList 10, "&PR1: key_wait.2".toList, "fade_in.10".toList, "ret2.2".toList,
      "&P1: key_wait.2".toList, jumpTo "PR1".toList 10, "trailer.0".toList]
    let second := Text.joinLines [jumpTo "P1".toList 10, "&PR1: key_wait.2".toList, jumpTo "P1".toList 10,
      "&PR1: ret2.2".toList, "&P1: key_wait.2".toList, jumpTo "PR1".toList 10, "&P1: key_wait.4 00-00".toList,
      jumpTo "PR1".toList 10, "trailer.0".toList]
    (applyPatches "SC01" dump [p]).1 = .ok first ∧ (applyPatches "SC01" first [q]).1 = .ok second ∧
      (Text.labels dump).Nodup ∧ p.labels = [] ∧ q.labels = [] ∧ ¬(Text.labels second).Nodup := by
  decide +kernel

end SceneScript
