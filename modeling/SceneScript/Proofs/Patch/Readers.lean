import Mathlib
import SceneScript.Proofs.Patch.Lines
import SceneScript.Proofs.Script.Listing
/-!
# Lines as the patcher reads them

The patcher takes lines apart for itself: it cuts the labels off, reads the declared length and looks for the trailer. Of
every line that the assembler takes it finds the same labels and the same length. But it drops blanks only behind a
label, so in an indented line without a label it sees neither the name nor a trailer.
-/
namespace SceneScript

/-- Whether the assembler takes a line with some name and declared length. -/
def Layout.Takes (l : Layout) (inRecords : Bool) (line : Nat) (t name : Text) (length : Nat) : Prop :=
  (∃ l', l.addLine inRecords line t = .ok l') ∧
    ∃ column rest, (readLine 1 [] t).2 = .named column name rest ∧
      readLength (column + name.length + 1) rest = .ok length

/-- Whether a line that begins with a blank has a label. -/
def IsFlush (t : Text) : Prop := t.head?.any isBlank = true → lineLabels t ≠ []

private theorem any_head?_trimStart (t : Text) : (Text.trimStart t).head?.any isBlank = false := by
  have hfirst := List.head?_dropWhile_not isBlank t
  rw [Text.trimStart]
  cases hdrop : t.dropWhile isBlank with
  | nil => rfl
  | cons c rest => simpa [hdrop] using hfirst

private theorem trimStart_eq_self {t : Text} (h : t.head?.any isBlank = false) : Text.trimStart t = t := by
  cases t with
  | nil => rfl
  | cons c t => exact List.dropWhile_cons_of_neg (by simpa using h)

/-- From a line without labels nothing is cut off. -/
theorem afterLabels_of_lineLabels {t : Text} (h : lineLabels t = []) : afterLabels t = t := by
  rw [afterLabels.eq_def]
  split
  · rename_i rest htrim
    split
    · rename_i name tail hcut
      obtain ⟨rfl, hname⟩ := Text.cutAt_eq_some hcut
      rw [← lineLabels_trimStart, htrim, lineLabels_define hname] at h
      cases h
    · rfl
  · rfl

/-- What follows the labels begins with no blank in a flush line, and only there. -/
theorem trimStart_afterLabels (t : Text) : Text.trimStart (afterLabels t) = afterLabels t ↔ IsFlush t := by
  constructor
  · intro htrim hblank hlabels
    have hfirst := any_head?_trimStart t
    rw [afterLabels_of_lineLabels hlabels] at htrim
    rw [htrim, hblank] at hfirst
    cases hfirst
  · intro hflush
    obtain ⟨pre, hpre, rfl | htrim, -⟩ := exists_labels_append t
    · -- Nothing was cut off, so there is no label.
      have hself : afterLabels t = t := hpre.symm
      obtain ⟨-, -, -, -, hstop⟩ := exists_afterLabels t
      rw [hself] at hstop ⊢
      by_cases hblank : t.head?.any isBlank = true
      · exact absurd (lineLabels_of_stop hstop) (hflush hblank)
      · exact trimStart_eq_self (by simpa using hblank)
    · exact htrim

/-- Of a line that the assembler takes, the patcher cuts off the labels and finds the declared length. What is left
begins with the name, and a trailer is recognised, if the line is flush, and only then. -/
theorem splitLabels_of_takes {l : Layout} {inRecords : Bool} {line length : Nat} {t name : Text}
    (h : l.Takes inRecords line t name length) :
    (splitLabels t).1 ++ (splitLabels t).2 = t ∧ AddsLabels (splitLabels t).1 (lineLabels t) ∧
      declaredLength? (splitLabels t).2 = some length ∧
      ((∃ rest, (splitLabels t).2 = name ++ '.' :: rest) ↔ IsFlush t) ∧
      (isTrailer t = true ↔ name = "trailer".toList ∧ IsFlush t) := by
  obtain ⟨-, column, rest, hbody, hlength⟩ := h
  obtain ⟨pre, names, hpre, hadds, hstop⟩ := exists_afterLabels t
  have hheading : lineHeading? (afterLabels t) = some (some (name, rest)) := by
    rw [← (hadds _).2, ← hpre, lineHeading?, hbody]
    rfl
  have hlabels : lineLabels t = names := by
    conv_lhs => rw [hpre, (hadds _).1, lineLabels_of_stop hstop, List.append_nil]
  obtain ⟨htrim, hdot⟩ := Text.cutAt_eq_some (heading_of_stop hstop hheading).1
  have hsplit : splitLabels t = (pre, afterLabels t) := splitLabels_eq hpre rfl
  have hname : (∃ rest, afterLabels t = name ++ '.' :: rest) ↔ IsFlush t := by
    rw [← trimStart_afterLabels]
    constructor
    · rintro ⟨rest', hrest'⟩
      have hhead : (afterLabels t).head? = (Text.trimStart (afterLabels t)).head? := by
        rw [htrim, hrest']
        cases name <;> rfl
      apply trimStart_eq_self
      rw [hhead]
      exact any_head?_trimStart _
    · intro hflush
      exact ⟨rest, hflush.symm.trans htrim⟩
  rw [hsplit, hlabels]
  refine ⟨hpre.symm, hadds, ?_, hname, ?_⟩
  · have hblanks : '.' ∉ (afterLabels t).takeWhile isBlank ++ name := by
      rw [List.mem_append, not_or]
      exact ⟨fun hm => absurd (List.mem_takeWhile_imp hm) (by decide), hdot⟩
    have hwhole : afterLabels t = ((afterLabels t).takeWhile isBlank ++ name) ++ '.' :: rest := by
      conv_lhs => rw [← Text.takeWhile_append_trimStart (afterLabels t), htrim]
      simp
    rw [hwhole, declaredLength?_eq hblanks]
    exact Layout.readLength_eq_ok.mp hlength
  · rw [isTrailer, hsplit, List.isPrefixOf_iff_prefix, ← hname]
    constructor
    · rintro ⟨more, hmore⟩
      have hbody : afterLabels t = "trailer".toList ++ '.' :: more := hmore.symm
      have hself : Text.trimStart (afterLabels t) = afterLabels t := by
        rw [hbody]
        exact List.dropWhile_cons_of_neg (by decide)
      have hcut : Text.cutAt '.' (name ++ '.' :: rest) = Text.cutAt '.' ("trailer".toList ++ '.' :: more) := by
        rw [← htrim, hself, hbody]
      rw [Text.cutAt_append hdot, Text.cutAt_append (by decide), Option.some.injEq, Prod.mk.injEq] at hcut
      exact ⟨hcut.1, more, by rw [hbody, hcut.1]⟩
    · rintro ⟨rfl, rest', hrest'⟩
      exact ⟨rest', hrest'.symm⟩

/-- Two labels, of which the second is empty, and blanks around them. -/
theorem splitLabels_of_takes_labels :
    let l : Layout := { size := 5 }
    let t := " &a: &:\ttrailer.2 00-FF".toList
    l.Takes false 3 t "trailer".toList 2 ∧ splitLabels t = (" &a: &:\t".toList, "trailer.2 00-FF".toList) ∧
      isTrailer t = true := by
  intro l t
  have htakes : l.Takes false 3 t "trailer".toList 2 :=
    ⟨⟨{ size := 5, labels := [([], 5), ("a".toList, 5)], trailer? := some [0, 0xFF] }, by decide +kernel⟩,
      9, "2 00-FF".toList, by decide +kernel, by decide +kernel⟩
  have hflush : IsFlush t := fun _ => by decide +kernel
  have hsplit : splitLabels t = (" &a: &:\t".toList, "trailer.2 00-FF".toList) := by decide +kernel
  exact ⟨htakes, hsplit, (splitLabels_of_takes htakes).2.2.2.2.mpr ⟨rfl, hflush⟩⟩

/-- An indented trailer is taken by the assembler, but the patcher sees none. -/
theorem isTrailer_indented :
    ({} : Layout).Takes false 1 "\ttrailer.0".toList "trailer".toList 0 ∧ isTrailer "\ttrailer.0".toList = false :=
  ⟨⟨⟨{ trailer? := some [] }, by decide +kernel⟩, 2, "0".toList, by decide +kernel, by decide +kernel⟩, by decide +kernel⟩

end SceneScript
