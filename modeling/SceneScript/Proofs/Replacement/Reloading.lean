import SceneScript.Replacement.Set
import SceneScript.Proofs.Correspondence
import SceneScript.Proofs.Patch.Directive
/-!
# Reloading a replacement set

A replacement set that was read comes back from the JSON value that is written for it, with all its patches.
-/
namespace SceneScript

namespace Json

theorem mapM_map {α β γ : Type} {f : β → Option γ} {g : α → β} {h : α → γ} {items : List α}
    (hitems : ∀ a ∈ items, f (g a) = some (h a)) : (items.map g).mapM f = some (items.map h) := by
  induction items with
  | nil => rfl
  | cons a more ih =>
    rw [List.forall_mem_cons] at hitems
    simp [List.mapM_cons, hitems.1, ih hitems.2]

/-- What is read from a list comes from its items. -/
theorem exists_of_mapM {α β : Type} {f : α → Option β} {items : List α} {results : List β}
    (h : items.mapM f = some results) : ∀ b ∈ results, ∃ a ∈ items, f a = some b := by
  induction items generalizing results with
  | nil =>
    obtain rfl := Option.some.inj h
    simp
  | cons a more ih =>
    simp only [List.mapM_cons, Option.bind_eq_bind, Option.bind_eq_some_iff, Option.pure_def, Option.some.injEq] at h
    obtain ⟨b, hb, results, hresults, rfl⟩ := h
    rw [List.forall_mem_cons]
    refine ⟨⟨a, List.mem_cons_self, hb⟩, fun c hc => ?_⟩
    obtain ⟨a', ha', hc⟩ := ih hresults c hc
    exact ⟨a', List.mem_cons_of_mem a ha', hc⟩

theorem fieldOr_eq_some {α : Type} {default a : α} {f : Json → Option α} {value? : Option Json}
    (h : fieldOr default f value? = some a) : a = default ∨ ∃ value, f value = some a := by
  cases value? with
  | none => exact .inl (Option.some.inj h).symm
  | some value => exact .inr ⟨value, h⟩

theorem asList?_list {α : Type} {f : α → Json} {g : Json → Option α} {items : List α}
    (h : ∀ a ∈ items, g (f a) = some a) : asList? g (list f items) = some items := by
  have hitems := mapM_map (h := id) h
  rwa [List.map_id] at hitems

theorem asTexts?_texts (ts : List Text) : asList? asText? (list text ts) = some ts :=
  asList?_list fun _ _ => rfl

/-- The fields of a record are found by their names. -/
theorem asRecord?_fields {names : List String} {members : List (String × Json)} (hnames : members.map Prod.fst = names)
    (h : names.Nodup) : asRecord? names (fields members) = some (members.map fun member => some member.2) := by
  subst hnames
  have hkeys : (members.map fun member => ((⟨some member.1.toList, true⟩ : Quoted), member.2)).any
      (fun entry => entry.1.text?.isNone) = false := by simp
  rw [fields, asRecord?, hkeys, if_neg Bool.false_ne_true]
  apply mapM_map
  intro member hmember
  have honly : members.filter (fun other => other.1 == member.1) = [member] := by
    obtain ⟨front, back, rfl⟩ := List.append_of_mem hmember
    rw [List.map_append, List.map_cons, List.nodup_middle, List.nodup_cons, ← List.map_append] at h
    have hother : ∀ other ∈ front ++ back, ¬(other.1 == member.1) = true := by
      intro other hmem heq
      apply h.1
      rw [← beq_iff_eq.mp heq]
      exact List.mem_map_of_mem hmem
    rw [List.forall_mem_append] at hother
    rw [List.filter_append, List.filter_cons, if_pos (beq_self_eq_true member.1), List.filter_eq_nil_iff.mpr hother.1,
      List.filter_eq_nil_iff.mpr hother.2, List.nil_append]
  have hkeep : ∀ p : String × Json → Bool, (∀ other, p other = (other.1 == member.1)) → members.filter p = [member] := by
    intro p hp
    rw [funext hp, honly]
  rw [List.filter_map, hkeep]
  · rfl
  · intro other
    rw [Function.comp_apply, Bool.eq_iff_iff]
    simp [String.toList_inj]

/-- A number that is written without a sign does not begin with a zero, unless it is zero. -/
private theorem head?_decimal {n : Nat} (h : n ≠ 0) : (Text.decimal n).head? ≠ some '0' := by
  induction n using Nat.strongRecOn with
  | _ n ih =>
    rw [Text.decimal, Nat.toDigits_eq_if (by decide)]
    split
    · rename_i hlt
      have hdigit : ∀ m < 10, m ≠ 0 → Nat.digitChar m ≠ '0' := by decide
      simpa using hdigit n hlt h
    · have hquotient : Nat.toDigits 10 (n / 10) ≠ [] := Text.decimal_ne_nil _
      rw [List.head?_append_of_ne_nil _ hquotient]
      exact ih (n / 10) (by omega) (by omega)

/-- Numbered values are read back when their numbers are below the bound. -/
theorem asNumbered?_object {α : Type} {bound : Nat} {f : Json → Option α} {g : α → Json} {items : List (Nat × α)}
    (hbound : ∀ item ∈ items, item.1 < bound) (hitems : ∀ item ∈ items, f (g item.2) = some item.2) :
    asNumbered? bound f (.object (items.map fun (n, a) => (⟨some (Text.decimal n), true⟩, g a))) = some items := by
  rw [asNumbered?, ← List.map_id items]
  nth_rewrite 1 [List.map_id]
  apply mapM_map
  rintro ⟨n, a⟩ hitem
  have hzero : (Text.decimal n).head? = some '0' → (Text.decimal n).length = 1 := by
    intro hhead
    by_cases hn : n = 0
    · rw [hn]
      rfl
    · exact absurd hhead (head?_decimal hn)
  have hlt := hbound _ hitem
  have hdigits := List.all_eq_true.mp (Text.all_isDigit_decimal n)
  simpa [Text.decimal_ne_nil, Text.decimalValue_decimal, hlt, hitems _ hitem] using ⟨hdigits, hzero⟩

/-- Numbers that are read are below the bound. -/
theorem lt_of_asNumbered? {α : Type} {bound : Nat} {f : Json → Option α} {value : Json} {items : List (Nat × α)}
    (h : asNumbered? bound f value = some items) : ∀ item ∈ items, item.1 < bound := by
  intro item hitem
  rw [asNumbered?.eq_def] at h
  split at h
  · obtain ⟨member, -, hmember⟩ := exists_of_mapM h item hitem
    obtain ⟨key, value⟩ := member
    simp only [Option.bind_eq_bind, Option.bind_none, Option.ite_none_left_eq_some, Option.bind_eq_some_iff] at hmember
    obtain ⟨digits, -, -, -, hlt, a, -, hitem⟩ := hmember
    rw [← Option.some.inj hitem]
    exact not_le.mp hlt
  · cases h

end Json

namespace ReplacementSet

/-! ## Numbered lines -/

/-- Whether numbered texts stand in order of their numbers, each number once. -/
def Ascending (lines : List (Nat × Text)) : Prop := lines.Pairwise fun a b => a.1 < b.1

private theorem mem_insert {n : Nat} {t : Text} {lines : List (Nat × Text)} {line : Nat × Text}
    (h : line ∈ sortLines.insert n t lines) : line = (n, t) ∨ line ∈ lines := by
  fun_induction sortLines.insert n t lines <;> simp_all <;> grind

private theorem ascending_insert {n : Nat} {t : Text} {lines : List (Nat × Text)} (h : Ascending lines) :
    Ascending (sortLines.insert n t lines) := by
  fun_induction sortLines.insert n t lines with
  | case1 => exact List.pairwise_singleton _ _
  | case2 m u more hlt =>
    rw [Ascending, List.pairwise_cons, List.forall_mem_cons]
    rw [Ascending, List.pairwise_cons] at h
    exact ⟨⟨hlt, fun line hline => hlt.trans (h.1 line hline)⟩, List.pairwise_cons.mpr h⟩
  | case3 u more hlt => exact List.pairwise_cons.mpr (List.pairwise_cons.mp h)
  | case4 m u more hlt hne ih =>
    rw [Ascending, List.pairwise_cons] at h ⊢
    refine ⟨fun line hline => ?_, ih h.2⟩
    rcases mem_insert hline with rfl | hline
    · omega
    · exact h.1 line hline

theorem ascending_sortLines (lines : List (Nat × Text)) : Ascending (sortLines lines) := by
  have hfold : ∀ sorted, Ascending sorted →
      Ascending (lines.foldl (fun sorted line => sortLines.insert line.1 line.2 sorted) sorted) := by
    intro sorted hsorted
    induction lines generalizing sorted with
    | nil => exact hsorted
    | cons line more ih => exact ih _ (ascending_insert hsorted)
  exact hfold [] .nil

theorem mem_sortLines {lines : List (Nat × Text)} {line : Nat × Text} (h : line ∈ sortLines lines) : line ∈ lines := by
  have hfold : ∀ sorted, line ∈ lines.foldl (fun sorted line => sortLines.insert line.1 line.2 sorted) sorted →
      line ∈ sorted ∨ line ∈ lines := by
    intro sorted hline
    clear h
    induction lines generalizing sorted with
    | nil => exact .inl hline
    | cons next more ih =>
      rcases ih _ hline with hinsert | hmore
      · rcases mem_insert hinsert with rfl | hsorted
        · exact .inr List.mem_cons_self
        · exact .inl hsorted
      · exact .inr (List.mem_cons_of_mem _ hmore)
  exact (hfold [] h).resolve_left (List.not_mem_nil)

private theorem insert_last {n : Nat} {t : Text} {lines : List (Nat × Text)} (h : ∀ line ∈ lines, line.1 < n) :
    sortLines.insert n t lines = lines ++ [(n, t)] := by
  induction lines with
  | nil => rfl
  | cons line more ih =>
    rw [List.forall_mem_cons] at h
    rw [sortLines.insert, if_neg (by omega), if_neg (by omega), ih h.2, List.cons_append]

/-- Lines that are in order stay so. -/
theorem sortLines_eq {lines : List (Nat × Text)} (h : Ascending lines) : sortLines lines = lines := by
  have hfold : ∀ front back : List (Nat × Text), Ascending (front ++ back) →
      back.foldl (fun sorted line => sortLines.insert line.1 line.2 sorted) front = front ++ back := by
    intro front back hboth
    induction back generalizing front with
    | nil => simp
    | cons line more ih =>
      obtain ⟨n, t⟩ := line
      have hlast : ∀ before ∈ front, before.1 < n := by
        intro before hbefore
        exact (List.pairwise_append.mp hboth).2.2 before hbefore _ List.mem_cons_self
      rw [List.foldl_cons]
      dsimp only
      rw [insert_last hlast, ih _ (by simpa using hboth)]
      simp
  exact hfold [] lines h

/-! ## A whole set -/

/-- Sets as they are read. -/
structure Stored (set : ReplacementSet) : Prop where
  ascending : Ascending set.lines
  lines_lt : ∀ line ∈ set.lines, line.1 < Text.numberBound
  normal : ∀ p ∈ set.patches, p.Normal

theorem stored_of_ofJson? {value : Json} {set : ReplacementSet} (h : ofJson? value = some set) : set.Stored := by
  rw [ofJson?] at h
  split at h
  · simp only [Option.bind_eq_bind, Option.bind_eq_some_iff] at h
    obtain ⟨_, -, _, -, _, -, _, -, _, -, lines, hlines, _, -, patches, hpatches, hset⟩ := h
    obtain rfl := Option.some.inj hset
    refine ⟨ascending_sortLines lines, fun line hline => ?_, fun p hp => ?_⟩
    · rcases Json.fieldOr_eq_some hlines with rfl | ⟨value, hvalue⟩
      · exact absurd (mem_sortLines hline) List.not_mem_nil
      · exact Json.lt_of_asNumbered? hvalue line (mem_sortLines hline)
    · rcases Json.fieldOr_eq_some hpatches with rfl | ⟨value, hvalue⟩
      · exact absurd hp List.not_mem_nil
      · rw [Json.asList?.eq_def] at hvalue
        split at hvalue
        · obtain ⟨item, -, hitem⟩ := Json.exists_of_mapM hvalue p hp
          obtain ⟨directive, -, hdirective⟩ := Option.bind_eq_some_iff.mp hitem
          cases hparse : Patch.parse directive with
          | error fault =>
            rw [hparse] at hdirective
            cases hdirective
          | ok patch =>
            rw [hparse] at hdirective
            rw [← Option.some.inj hdirective]
            exact Patch.normal_of_parse hparse
        · cases hvalue
  · cases h

theorem ofJson?_toJson {set : ReplacementSet} (h : set.Stored) : ofJson? set.toJson = some set := by
  have hlines := Json.asNumbered?_object (f := Json.asText?) (g := Json.text) h.lines_lt fun _ _ => rfl
  have hchoices := Json.asList?_list fun options (_ : options ∈ set.choices) => Json.asTexts?_texts options
  have hpatches : Json.asList? patchOfJson? (Json.list (fun p => .text p.render) set.patches) = some set.patches := by
    apply Json.asList?_list
    intro p hp
    change (Patch.parse p.render).toOption = some p
    rw [Patch.parse_render (h.normal p hp)]
    rfl
  rw [toJson, ofJson?, Json.asRecord?_fields]
  · simp [Json.fieldOr, Json.asTexts?_texts, hlines, hchoices, hpatches, sortLines_eq h.ascending]
  · rfl
  · decide

/-- A set as it is after it was written and read again; none if it cannot be read. -/
def reload? (set : ReplacementSet) : Option ReplacementSet := ofJson? set.toJson

/-- A directive that is read is read again from what is written for its patch. A set that is read is the same, with all its
patches, after it was written and read any number of times. -/
theorem reload_directives :
    (∀ directive p, Patch.parse directive = .ok p →
      Patch.parse p.render = .ok p ∧ (Patch.parse p.render).map Patch.render = .ok p.render) ∧
    ∀ value set, ofJson? value = some set → ∀ n, (fun set? : Option ReplacementSet => set?.bind reload?)^[n] (some set) = some set := by
  constructor
  · intro directive p h
    have hagain := Patch.parse_render (Patch.normal_of_parse h)
    rw [hagain]
    exact ⟨rfl, rfl⟩
  · intro value set h n
    apply Function.iterate_fixed
    exact ofJson?_toJson (stored_of_ofJson? h)

/-- A directive with blanks around its number, colons, a carriage return and two asterisks, and a payload behind an empty line,
in a set with numbered lines. -/
theorem reload_directives_stars :
    let directive := ":= +007 :a:b\r**\r\r\n\n key_wait.2 \n".toList
    let p : Patch := ⟨.replace, 7, "a:b\r*".toList, true, some "\n key_wait.2".toList⟩
    let key := fun (digits : String) => (⟨some digits.toList, true⟩ : Quoted)
    let value : Json := .fields [("patches", .array [.text directive]),
      ("lines", .object [(key "2", .str "Two"), (key "10", .str "Ten"), (key "2", .str "2")])]
    let set : ReplacementSet := { empty with lines := [(2, "2".toList), (10, "Ten".toList)], patches := [p] }
    (Patch.parse directive = .ok p ∧ Patch.parse p.render = .ok p) ∧ ofJson? value = some set ∧
      (fun set? : Option ReplacementSet => set?.bind reload?)^[3] (some set) = some set := by
  intro directive p key value set
  have hparse : Patch.parse directive = .ok p := by decide +kernel
  have hread : ofJson? value = some set := by decide +kernel
  exact ⟨⟨hparse, (reload_directives.1 directive p hparse).1⟩, hread, reload_directives.2 value set hread 3⟩

end ReplacementSet
end SceneScript
