import SceneScript.Proofs.Replacement.Merging
/-!
# Lines apart and together

Taking a line apart undoes putting it together. The line of a row whose strings can be told apart is put together again from
its parts, so that merging leaves as they are the strings that it has no text for.
-/
namespace SceneScript.Replacement

private theorem opensString_of_ne {head : Text} (hsign : '§' ∉ head) (hat : '@' ∉ head) : ∀ c ∈ head, opensString c = false := by
  intro c hc
  rw [opensString, Bool.or_eq_false_iff, beq_eq_false_iff_ne, beq_eq_false_iff_ne]
  exact ⟨fun heq => hsign (heq ▸ hc), fun heq => hat (heq ▸ hc)⟩

/-- A line of strings of which only the last may have a `§` comes apart into what it was put together from. The dump of a
script is made of the lines of its rows, and each line whose strings are of that kind comes apart into a front and these
strings and is put together again from them. -/
theorem splitStrings_joinStrings :
    (∀ (head : Text) (strings : List Text), '§' ∉ head → '@' ∉ head → (∀ c ∈ head.getLast?, isBlank c = false) →
      (∀ s ∈ strings.dropLast, '§' ∉ s) → splitStrings (joinStrings head strings) = (head, strings)) ∧
    ∀ (name : String) (bytes : Bytes) (preferred : Charset) (dump : Disassembly),
      (disassemble name bytes preferred).1 = .ok dump →
        ∃ rows, Reading.rows ⟨name, bytes, dump.charset⟩ = .ok rows ∧
          let line : Row → Text := Row.render (labelledOffsets rows).contains
          dump.text = Text.joinLines (rows.map line) ∧
            ∀ row ∈ rows, (∀ s ∈ row.strings.dropLast, '§' ∉ s) →
              let (head, strings) := splitStrings (line row)
              strings = row.strings ∧ joinStrings head strings = line row := by
  constructor
  · intro head strings hsign hat hlast hinner
    have hblank : isBlank ' ' = true := by decide
    exact splitStrings_join (opensString_of_ne hsign hat) (Text.trimEnd_concat hblank hlast) hinner
  · intro name bytes preferred dump hdump
    obtain ⟨rows, hrows, htext⟩ := rows_of_disassemble hdump
    refine ⟨rows, hrows, htext, fun row hrow hinner => ?_⟩
    rw [splitStrings_render (Reading.splits_of_rows hrows hrow hinner)]
    exact ⟨rfl, (Row.render_eq _ row).symm⟩

/-- A line with an empty string, blanks, at signs and a `§` in its last string; and a script with a choice. -/
theorem splitStrings_joinStrings_choice :
    let head := "select.32 S-S-S".toList
    let strings := ["".toList, " a@ b ".toList, "§c @ ".toList]
    let bytes : Bytes := [1, 0x1B, 24, 0, 0, 0, 0, 0, 0, 27, 0, 0, 0, 0, 0, 0, 0, 31, 0, 0, 0, 0, 0, 0, 0, 0x0D, 2,
      0x61, 0x40, 0x20, 0, 0x20, 0x40, 0x62, 0]
    let line := "select.24 00-00-00-00-00-00-S-00-00-00-00-00-00-S-00-00-00-00-00-00 §a@ § @ @b".toList
    let dump := "header.1\n".toList ++ line ++ "\nret2.2\ntrailer.0".toList
    ('§' ∉ head ∧ '@' ∉ head ∧ (∀ c ∈ head.getLast?, isBlank c = false) ∧ ∀ s ∈ strings.dropLast, '§' ∉ s) ∧
      joinStrings head strings = "select.32 S-S-S §§ § a@ b § @§c @ ".toList ∧
      splitStrings (joinStrings head strings) = (head, strings) ∧
      (disassemble "SC01" bytes .big5).1 = .ok ⟨dump, .big5⟩ ∧ (splitStrings line).2 = ["a@ ".toList, " @b".toList] ∧
      joinStrings (splitStrings line).1 (splitStrings line).2 = line := by
  intro head strings bytes line dump
  have hlast : ∀ c ∈ head.getLast?, isBlank c = false := by
    rintro c ⟨rfl⟩
    decide
  have hhead : '§' ∉ head ∧ '@' ∉ head ∧ (∀ c ∈ head.getLast?, isBlank c = false) ∧ ∀ s ∈ strings.dropLast, '§' ∉ s :=
    ⟨by decide +kernel, by decide +kernel, hlast, by decide +kernel⟩
  have hdump : (disassemble "SC01" bytes .big5).1 = .ok ⟨dump, .big5⟩ := by decide +kernel
  let zeros : List Operand := List.replicate 6 (.byte 0)
  let choice : Row :=
    ⟨some 1, "select".toList, 24, zeros ++ (.pointer 27 :: (zeros ++ (.pointer 31 :: zeros))), ["a@ ".toList, " @b".toList]⟩
  let rows : List Row :=
    [Row.raw "header".toList 1 [], choice, ⟨some 25, "ret2".toList, 2, [], []⟩, Row.raw "trailer".toList 0 []]
  have hrows : Reading.rows ⟨"SC01", bytes, .big5⟩ = .ok rows := by decide +kernel
  have hline : choice.render (labelledOffsets rows).contains = line := by decide +kernel
  obtain ⟨rows', hrows', -, hlines⟩ := splitStrings_joinStrings.2 _ _ _ _ hdump
  obtain rfl : rows = rows' := Except.ok.inj (hrows.symm.trans hrows')
  obtain ⟨hstrings, hjoined⟩ := hlines choice (by simp [rows]) (by decide +kernel)
  rw [hline] at hstrings hjoined
  refine ⟨hhead, by decide +kernel, ?_, hdump, hstrings, hjoined⟩
  exact splitStrings_joinStrings.1 head strings hhead.1 hhead.2.1 hlast hhead.2.2.2

end SceneScript.Replacement
