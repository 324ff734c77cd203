import Mathlib
import SceneScript.Dump.Mnemonic
import SceneScript.Proofs.Script.Listing
/-!
# The name of a line

Two readers look for the name of a line. One wants the name alone; the other assembles the line, so it also defines the
labels in front of the name and reports a definition that is left open. They find the same name, and of a line without
one the assembler keeps nothing but the labels.
-/
namespace SceneScript

/-! ## Headings -/

private theorem lineHeading?_comment (rest : Text) : lineHeading? ('#' :: rest) = some none := by
  have hblank : isBlank '#' = false := by decide
  simp [lineHeading?, readLine_eq, hblank, LineBody.heading?]

private theorem lineHeading?_open {rest : Text} (h : Text.cutAt ':' rest = none) :
    lineHeading? ('&' :: rest) = none := by
  have hblank : isBlank '&' = false := by decide
  simp [lineHeading?, readLine_eq, hblank, h, LineBody.heading?]

/-- A line that begins with neither a label nor a comment is headed by what stands before its first full stop. -/
private theorem lineHeading?_plain {t : Text} (hand : ∀ rest, Text.trimStart t ≠ '&' :: rest)
    (hsharp : ∀ rest, Text.trimStart t ≠ '#' :: rest) : lineHeading? t = some (Text.cutAt '.' (Text.trimStart t)) := by
  rw [lineHeading?, readLine_eq]
  cases htrim : Text.trimStart t with
  | nil =>
    have hdrop : t.dropWhile isBlank = [] := htrim
    simp [hdrop, LineBody.heading?]
  | cons c rest =>
    have hdrop : t.dropWhile isBlank = c :: rest := htrim
    have hc : c ≠ '#' := fun heq => hsharp rest (by rw [htrim, heq])
    have hc' : c ≠ '&' := fun heq => hand rest (by rw [htrim, heq])
    cases hcut : Text.cutAt '.' (c :: rest) <;> simp [hdrop, hc, hc', hcut, LineBody.heading?]

/-- The name of a line is that of its heading. -/
theorem lineName?_eq_heading (t : Text) : lineName? t = ((lineHeading? t).getD none).map Prod.fst := by
  fun_induction lineName? t with
  | case1 t rest htrim hcut =>
    rw [← lineHeading?_trimStart, htrim, lineHeading?_open hcut]
    rfl
  | case2 t rest htrim name tail hcut ih =>
    obtain ⟨rfl, hname⟩ := Text.cutAt_eq_some hcut
    rw [ih, ← lineHeading?_trimStart t, htrim, lineHeading?_define hname]
  | case3 t rest htrim =>
    rw [← lineHeading?_trimStart, htrim, lineHeading?_comment]
    rfl
  | case4 t hand hsharp =>
    rw [lineHeading?_plain hand hsharp]
    rfl

/-- A name is spelled with characters of its line. -/
theorem lineName?_subset {t name : Text} (h : lineName? t = some name) : name ⊆ t := by
  have htrim : ∀ t : Text, Text.trimStart t ⊆ t := fun t => (List.dropWhile_sublist _).subset
  fun_induction lineName? t with
  | case1 t rest hrest hcut => cases h
  | case2 t rest hrest name' tail hcut ih =>
    obtain ⟨rfl, -⟩ := Text.cutAt_eq_some hcut
    intro c hc
    apply htrim t
    rw [hrest]
    exact List.mem_cons_of_mem _ (List.mem_append_right _ (List.mem_cons_of_mem _ (ih h hc)))
  | case3 t rest hrest => cases h
  | case4 t hand hsharp =>
    obtain ⟨⟨name', after⟩, hcut, rfl⟩ := Option.map_eq_some_iff.mp h
    obtain ⟨heq, -⟩ := Text.cutAt_eq_some hcut
    intro c hc
    apply htrim t
    rw [heq]
    exact List.mem_append_left _ hc

/-! ## The two halves of a line -/

/-- The name of a line, the column it begins in and the text after its full stop. -/
structure Heading where
  column : Nat
  name : Text
  rest : Text
deriving DecidableEq, Repr

namespace Layout

/-- The first half of a line: defines its labels and finds its heading. -/
def enterLine (l : Layout) (line : Nat) (t : Text) : Except CompileError (Layout × Option Heading) :=
  match l.define line (readLine 1 [] t).1 with
  | .error e => .error e
  | .ok l =>
    match (readLine 1 [] t).2 with
    | .nothing => .ok (l, none)
    | .openLabel column => .error (.inLine line column .unterminatedLabel)
    | .named column name rest => .ok (l, some ⟨column, name, rest⟩)

/-- The second half of a line: interprets its heading. -/
def interpret (l : Layout) (inRecords : Bool) (line : Nat) (heading : Heading) : Except CompileError Layout := do
  let ⟨column, name, rest⟩ := heading
  match LineKind.ofName? inRecords name with
  | none => .error (.inLine line column (.unknownOpcode name))
  | some kind =>
    let column := column + name.length + 1
    let digits := rest.takeWhile Char.isDigit
    let length ← (readLength column rest).mapError (·.at line)
    let opened ← l.openLine kind length (.badLength digits) line column
    let tokens ← (readTokens (kind == .trailer) (column + digits.length) 0 []
      (rest.dropWhile Char.isDigit)).mapError (·.at line)
    if kind == .trailer then
      let bytes := bytesOf tokens
      if bytes.length ≠ length then .error (.inLine line 1 (.trailerLength length bytes.length))
      else .ok { opened with trailer? := some bytes }
    else
      let laid := opened.addTokens line name opened.stringCount (opened.stringCount + countStrings tokens) tokens
      if laid.size - l.size ≠ length then
        .error (.inLine line 1 (.lengthMismatch length (laid.size - l.size)))
      else .ok laid

/-- A line is entered and, if it has a heading, interpreted. -/
theorem addLine_eq (l : Layout) (inRecords : Bool) (line : Nat) (t : Text) :
    l.addLine inRecords line t =
      match l.enterLine line t with
      | .error e => .error e
      | .ok (entered, none) => .ok entered
      | .ok (entered, some heading) => entered.interpret inRecords line heading := by
  rw [addLine, enterLine]
  obtain ⟨labels, body⟩ := readLine 1 [] t
  dsimp only
  cases l.define line labels with
  | error e => rfl
  | ok entered => cases body <;> rfl

/-- While the stream is within reach of a word no label overflows. -/
private theorem enterLine_of_le {l : Layout} (hsize : l.size ≤ lastOffset) (line : Nat) (t : Text) :
    l.enterLine line t =
      match (readLine 1 [] t).2 with
      | .nothing => .ok (l.defined (lineLabels t), none)
      | .openLabel column => .error (.inLine line column .unterminatedLabel)
      | .named column name rest => .ok (l.defined (lineLabels t), some ⟨column, name, rest⟩) := by
  have hdefine : l.define line (readLine 1 [] t).1 = .ok (l.defined (lineLabels t)) := by
    rw [define_eq_ok]
    exact ⟨fun _ => hsize, by simp [defined, lineLabels, Function.comp_def]⟩
  rw [enterLine, hdefine]

/-- The assembler goes on to interpret a name exactly if the other reader finds it. Of a line without a name it reports a
label definition that is left open, or it defines the labels of the line and does nothing else. -/
theorem enterLine_iff_lineName? {l : Layout} (hsize : l.size ≤ lastOffset) (inRecords : Bool) (line : Nat) (t : Text) :
    (l.addLine inRecords line t =
      match l.enterLine line t with
      | .error e => .error e
      | .ok (entered, none) => .ok entered
      | .ok (entered, some heading) => entered.interpret inRecords line heading) ∧
    (∀ name, (∃ entered column rest, l.enterLine line t = .ok (entered, some ⟨column, name, rest⟩)) ↔
      lineName? t = some name) ∧
    (lineName? t = none → (∃ column, l.addLine inRecords line t = .error (.inLine line column .unterminatedLabel)) ∨
      l.addLine inRecords line t =
        .ok { l with labels := ((lineLabels t).map (·, l.size)).reverse ++ l.labels }) := by
  have hname := lineName?_eq_heading t
  rw [lineHeading?] at hname
  refine ⟨l.addLine_eq inRecords line t, fun name => ?_, fun hnone => ?_⟩
  · rw [enterLine_of_le hsize, hname]
    cases (readLine 1 [] t).2 with
    | nothing => simp [LineBody.heading?]
    | openLabel column => simp [LineBody.heading?]
    | named column name' rest => simp [LineBody.heading?]
  · rw [addLine_eq, enterLine_of_le hsize]
    rw [hname] at hnone
    cases hbody : (readLine 1 [] t).2 with
    | nothing => exact .inr rfl
    | openLabel column => exact .inl ⟨column, rfl⟩
    | named column name rest =>
      rw [hbody] at hnone
      simp [LineBody.heading?] at hnone

/-- Labels without blanks between them, a comment sign inside a label, and a second full stop. -/
theorem enterLine_iff_lineName?_labels :
    let l : Layout := { size := 0xFFFF }
    let t := " &a#.:&: data.1 0.".toList
    l.size ≤ lastOffset ∧ lineName? t = some "data".toList ∧
      ∃ entered column rest, l.enterLine 7 t = .ok (entered, some ⟨column, "data".toList, rest⟩) := by
  intro l t
  have hsize : l.size ≤ lastOffset := Nat.le_refl _
  have hname : lineName? t = some "data".toList := by decide +kernel
  exact ⟨hsize, hname, ((enterLine_iff_lineName? hsize false 7 t).2.1 _).mpr hname⟩

end Layout
end SceneScript
