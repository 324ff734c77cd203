import Mathlib
import SceneScript.Script.Layout
/-!
# Statements of a dump

What a line says once the columns are left out: the labels it defines, its kind, its length and its tokens. An
assembler's positions for error messages do not matter for what it writes.
-/
namespace SceneScript

/-- Reads operands and strings as `readTokens` does, without their columns. -/
def Token.readAll? (inTrailer : Bool) (free : Nat) (t : Text) : Option (List Token) :=
  match t with
  | [] => some []
  | c :: rest =>
    if c = '-' ∨ isBlank c then Token.readAll? inTrailer free rest
    else if c = 'S' ∧ !inTrailer then (Token.readAll? inTrailer (free + 1) rest).map (.cell :: ·)
    else if c = '§' then
      match _ : Text.cutAt '§' rest with
      | none => none
      | some (content, after) =>
        if free = 0 then none
        else (Token.readAll? inTrailer (free - 1) after).map (.string content false :: ·)
    else if c = '@' then
      if free = 0 then none else some [.string rest true]
    else if c = '&' ∧ !inTrailer then
      let label := rest.takeWhile isLabelChar
      if label.isEmpty then none
      else (Token.readAll? inTrailer free (rest.dropWhile isLabelChar)).map (.target label :: ·)
    else
      match rest with
      | d :: more =>
        if Text.isHexDigit c ∧ Text.isHexDigit d then
          (Token.readAll? inTrailer free more).map
            (.byte (UInt8.ofNat (16 * Text.hexValue c + Text.hexValue d)) :: ·)
        else none
      | [] => none
termination_by t.length
decreasing_by
  · simp
  · simp
  · have := congrArg List.length (Text.cutAt_eq_some ‹Text.cutAt '§' rest = _›).1
    simp only [List.length_append, List.length_cons] at this ⊢
    omega
  · have := (List.dropWhile_sublist isLabelChar (l := rest)).length_le
    simp only [List.length_cons]
    omega
  · simp only [List.length_cons]
    omega

theorem isBlank_eq_false_of_printable {c : Char} (hlow : 0x20 < c.toNat) (hhigh : c.toNat < 0x7F) :
    isBlank c = false := by
  simp only [isBlank, Bool.or_eq_false_iff, Bool.and_eq_false_iff, beq_eq_false_iff_ne, decide_eq_false_iff_not]
  omega

namespace Token

@[simp] theorem readAll?_nil (inTrailer : Bool) (free : Nat) : readAll? inTrailer free [] = some [] := by
  rw [readAll?]

theorem readAll?_gap {c : Char} (inTrailer : Bool) (free : Nat) (rest : Text) (hc : c = '-' ∨ isBlank c) :
    readAll? inTrailer free (c :: rest) = readAll? inTrailer free rest := by
  rw [readAll?.eq_def]
  simp [hc]

theorem readAll?_cell (free : Nat) (rest : Text) :
    readAll? false free ('S' :: rest) = (readAll? false (free + 1) rest).map (.cell :: ·) := by
  have hb : isBlank 'S' = false := by decide
  rw [readAll?.eq_def]
  simp [hb]

theorem readAll?_string {free : Nat} {rest content after : Text} (inTrailer : Bool)
    (hcut : Text.cutAt '§' rest = some (content, after)) (hf : free ≠ 0) :
    readAll? inTrailer free ('§' :: rest) =
      (readAll? inTrailer (free - 1) after).map (.string content false :: ·) := by
  have hb : isBlank '§' = false := by decide
  rw [readAll?.eq_def]
  simp only [hb, Char.reduceEq, Bool.false_eq_true, or_self, if_false, false_and, if_true]
  split <;> simp_all

theorem readAll?_final {free : Nat} (inTrailer : Bool) (rest : Text) (hf : free ≠ 0) :
    readAll? inTrailer free ('@' :: rest) = some [.string rest true] := by
  have hb : isBlank '@' = false := by decide
  rw [readAll?.eq_def]
  simp [hb, hf]

theorem readAll?_target {rest : Text} (free : Nat) (hl : rest.takeWhile isLabelChar ≠ []) :
    readAll? false free ('&' :: rest) =
      (readAll? false free (rest.dropWhile isLabelChar)).map (.target (rest.takeWhile isLabelChar) :: ·) := by
  have hb : isBlank '&' = false := by decide
  rw [readAll?.eq_def]
  simp [hb, hl]

private theorem isBlank_of_isHexDigit {c : Char} (hc : Text.isHexDigit c = true) : isBlank c = false := by
  apply isBlank_eq_false_of_printable <;>
  · simp only [Text.isHexDigit, Char.isDigit, Bool.or_eq_true, Bool.and_eq_true, decide_eq_true_eq, Char.le_def,
      ge_iff_le, UInt32.le_iff_toNat_le, UInt32.reduceToNat, Char.reduceVal] at hc
    rw [← Char.toNat_val]
    omega

theorem readAll?_byte {c d : Char} (inTrailer : Bool) (free : Nat) (more : Text)
    (hc : Text.isHexDigit c = true) (hd : Text.isHexDigit d = true) :
    readAll? inTrailer free (c :: d :: more) =
      (readAll? inTrailer free more).map
        (.byte (UInt8.ofNat (16 * Text.hexValue c + Text.hexValue d)) :: ·) := by
  have hne : ∀ e, Text.isHexDigit e = false → c ≠ e := by
    rintro e he rfl
    simp [hc] at he
  have hb := isBlank_of_isHexDigit hc
  rw [readAll?.eq_def]
  simp only [hne '-' (by decide), hne 'S' (by decide), hne '§' (by decide), hne '@' (by decide),
    hne '&' (by decide), hb, hc, hd, Bool.false_eq_true, or_self, false_and, if_false, and_self, if_true]

end Token

/-- Columns only go into the places of tokens, never into the tokens. -/
theorem readTokens_tokens (inTrailer : Bool) (column free : Nat) (done : List Placed) (t : Text) :
    (readTokens inTrailer column free done t).toOption.map (List.map Placed.token) =
      (Token.readAll? inTrailer free t).map ((done.map Placed.token).reverse ++ ·) := by
  fun_induction readTokens inTrailer column free done t with
  | case1 => simp [Except.toOption]
  | case2 column free done c rest hc ih => rw [Token.readAll?_gap _ _ _ hc, ih]
  | case3 column free done c rest hc hS ih =>
    obtain ⟨rfl, ht⟩ := hS
    obtain rfl : inTrailer = false := by simpa using ht
    rw [Token.readAll?_cell, ih]
    simp [Function.comp_def]
  | case6 column free done rest content after hcut hf hc hS ih =>
    rw [Token.readAll?_string _ hcut hf, ih]
    simp [Function.comp_def]
  | case8 column free done rest hf =>
    rw [Token.readAll?_final _ _ hf]
    simp [Except.toOption]
  | case10 column free done c rest hc hS hq ha hl label hlabel ih =>
    obtain ⟨rfl, ht⟩ := hl
    obtain rfl : inTrailer = false := by simpa using ht
    rw [Token.readAll?_target _ (fun h => hlabel (List.isEmpty_iff.mpr h)), ih]
    simp [Function.comp_def, label]
  | case11 column free done c hc hS hq ha hl d more hhex ih =>
    rw [Token.readAll?_byte _ _ _ hhex.1 hhex.2, ih]
    simp [Function.comp_def]
  | case4 column free done rest hcut hc hS =>
    rw [Token.readAll?.eq_def]
    simp only [hc, hS, if_false, if_true]
    split <;> simp_all [Except.toOption]
  | case5 column done rest content after hcut hc hS =>
    rw [Token.readAll?.eq_def]
    simp only [hc, hS, if_false, if_true]
    split <;> simp_all [Except.toOption]
  | case7 column done rest hc hS hq =>
    rw [Token.readAll?.eq_def]
    simp only [hc, hS, hq, if_false, if_true]
    rfl
  | case9 column free done c rest hc hS hq ha hl label hlabel =>
    have hnil : rest.takeWhile isLabelChar = [] := List.isEmpty_iff.mp hlabel
    rw [Token.readAll?.eq_def]
    dsimp only
    rw [if_neg hc, if_neg hS, if_neg hq, if_neg ha, if_pos hl, hnil]
    rfl
  | case12 column free done c hc hS hq ha hl d more hhex =>
    rw [Token.readAll?.eq_def]
    simp only [hc, hS, hq, ha, hl, hhex, if_false]
    rfl
  | case13 column free done c hc hS hq ha hl =>
    rw [Token.readAll?.eq_def]
    simp only [hc, hS, hq, ha, hl, if_false]
    rfl

/-- The name of a line and the text after its full stop, if the line says anything; `none` if a label definition is
left open. -/
def LineBody.heading? : LineBody → Option (Option (Text × Text))
  | .nothing => some none
  | .openLabel _ => none
  | .named _ name rest => some (some (name, rest))

/-- Neither the column a line is read from nor the labels before it matter to the rest of it. -/
private theorem readLine_bare (column : Nat) (done : List LabelDef) (t : Text) :
    (readLine column done t).1.map LabelDef.name =
        (done.map LabelDef.name).reverse ++ (readLine 1 [] t).1.map LabelDef.name ∧
      (readLine column done t).2.heading? = (readLine 1 [] t).2.heading? := by
  induction h : t.length using Nat.strong_induction_on generalizing column done t with
  | _ n ih =>
    rw [readLine.eq_def column, readLine.eq_def 1]
    split
    · simp [LineBody.heading?]
    · rename_i c rest hrest
      dsimp only
      split_ifs with hsharp hand
      · simp [LineBody.heading?]
      · split
        · simp [LineBody.heading?]
        · rename_i name after hcut
          have hlt : after.length < n := by
            have hlen := congrArg List.length (Text.cutAt_eq_some hcut).1
            have hdrop := (List.dropWhile_sublist isBlank (l := t)).length_le
            simp only [hrest, List.length_append, List.length_cons] at hlen hdrop
            omega
          constructor
          · rw [(ih _ hlt _ _ _ rfl).1, (ih _ hlt _ [_] _ rfl).1]
            simp
          · rw [(ih _ hlt _ _ _ rfl).2, (ih _ hlt _ [_] _ rfl).2]
      · split <;> simp [LineBody.heading?]

/-- The labels that a line defines. -/
def lineLabels (t : Text) : List Text := (readLine 1 [] t).1.map LabelDef.name

/-- The heading of a line after its labels. -/
def lineHeading? (t : Text) : Option (Option (Text × Text)) := (readLine 1 [] t).2.heading?

theorem lineLabels_nil : lineLabels [] = [] := by
  simp [lineLabels, readLine.eq_def]

theorem readLine_eq (column : Nat) (done : List LabelDef) (t : Text) :
    readLine column done t =
      match t.dropWhile isBlank with
      | [] => (done.reverse, .nothing)
      | c :: rest =>
        let column := column + (t.takeWhile isBlank).length
        if c = '#' then (done.reverse, .nothing)
        else if c = '&' then
          match Text.cutAt ':' rest with
          | none => (done.reverse, .openLabel column)
          | some (name, after) => readLine (column + name.length + 2) (⟨name, column⟩ :: done) after
        else
          match Text.cutAt '.' (c :: rest) with
          | none => (done.reverse, .nothing)
          | some (name, rest) => (done.reverse, .named column name rest) := by
  rw [readLine.eq_def]
  split
  · simp [*]
  · rename_i c rest hrest
    rw [hrest]
    dsimp only
    split_ifs
    · rfl
    · split <;> simp [*]
    · rfl

private theorem readLine_blank {c : Char} (hc : isBlank c = true) (column : Nat) (done : List LabelDef) (t : Text) :
    readLine column done (c :: t) = readLine (column + 1) done t := by
  rw [readLine_eq, readLine_eq (column + 1), List.dropWhile_cons_of_pos hc, List.takeWhile_cons_of_pos hc,
    List.length_cons, Nat.add_assoc, Nat.add_comm 1]

theorem lineLabels_blank {c : Char} (hc : isBlank c = true) (t : Text) : lineLabels (c :: t) = lineLabels t := by
  rw [lineLabels, readLine_blank hc, (readLine_bare _ _ _).1]
  rfl

theorem lineHeading?_blank {c : Char} (hc : isBlank c = true) (t : Text) :
    lineHeading? (c :: t) = lineHeading? t := by
  rw [lineHeading?, readLine_blank hc, (readLine_bare _ _ _).2]
  rfl

/-- Blanks at the beginning of a line do not change what it says. -/
theorem lineHeading?_trimStart (t : Text) : lineHeading? (Text.trimStart t) = lineHeading? t := by
  induction t with
  | nil => rfl
  | cons c t ih =>
    by_cases hc : isBlank c = true
    · rw [Text.trimStart, List.dropWhile_cons_of_pos hc, lineHeading?_blank hc]
      exact ih
    · rw [Text.trimStart, List.dropWhile_cons_of_neg hc]

theorem lineLabels_trimStart (t : Text) : lineLabels (Text.trimStart t) = lineLabels t := by
  induction t with
  | nil => rfl
  | cons c t ih =>
    by_cases hc : isBlank c = true
    · rw [Text.trimStart, List.dropWhile_cons_of_pos hc, lineLabels_blank hc]
      exact ih
    · rw [Text.trimStart, List.dropWhile_cons_of_neg hc]

private theorem readLine_label {name : Text} (hname : ':' ∉ name) (rest : Text) (column : Nat)
    (done : List LabelDef) :
    readLine column done ('&' :: (name ++ ':' :: rest)) =
      readLine (column + name.length + 2) (⟨name, column⟩ :: done) rest := by
  have hb : ¬ isBlank '&' = true := by decide
  rw [readLine_eq, List.dropWhile_cons_of_neg hb, List.takeWhile_cons_of_neg hb]
  simp [Text.cutAt_append hname]

theorem lineLabels_define {name : Text} (hname : ':' ∉ name) (rest : Text) :
    lineLabels ('&' :: (name ++ ':' :: rest)) = name :: lineLabels rest := by
  rw [lineLabels, readLine_label hname, (readLine_bare _ _ _).1]
  rfl

theorem lineHeading?_define {name : Text} (hname : ':' ∉ name) (rest : Text) :
    lineHeading? ('&' :: (name ++ ':' :: rest)) = lineHeading? rest := by
  rw [lineHeading?, readLine_label hname, (readLine_bare _ _ _).2]
  rfl

/-- A line that opens neither with a blank nor with `#` or `&` is headed by what stands before its first full stop. -/
private theorem readLine_named {c : Char} {t name rest : Text} (hb : isBlank c = false) (hsharp : c ≠ '#')
    (hand : c ≠ '&') (hcut : Text.cutAt '.' (c :: t) = some (name, rest)) :
    readLine 1 [] (c :: t) = ([], .named 1 name rest) := by
  have hneg : ¬ isBlank c = true := by simp [hb]
  rw [readLine_eq, List.dropWhile_cons_of_neg hneg, List.takeWhile_cons_of_neg hneg]
  simp [hsharp, hand, hcut]

theorem lineLabels_named {c : Char} {t name rest : Text} (hb : isBlank c = false) (hsharp : c ≠ '#')
    (hand : c ≠ '&') (hcut : Text.cutAt '.' (c :: t) = some (name, rest)) : lineLabels (c :: t) = [] := by
  rw [lineLabels, readLine_named hb hsharp hand hcut]
  rfl

theorem lineHeading?_named {c : Char} {t name rest : Text} (hb : isBlank c = false) (hsharp : c ≠ '#')
    (hand : c ≠ '&') (hcut : Text.cutAt '.' (c :: t) = some (name, rest)) :
    lineHeading? (c :: t) = some (some (name, rest)) := by
  rw [lineHeading?, readLine_named hb hsharp hand hcut]
  rfl

/-- A string for the pool: its text and the bytes that go between it and its closing zero. -/
structure PoolString where
  content : Text
  suffix : Bytes
deriving DecidableEq, Repr

namespace Token

/-- The number of bytes a token takes in its line. -/
def size : Token → Nat
  | byte _ => 1
  | cell | target _ => 2
  | string .. => 0

/-- The byte a token stands for. -/
def byte? : Token → Option UInt8
  | byte b => some b
  | _ => none

/-- The label a token refers to. -/
def target? : Token → Option Text
  | target label => some label
  | _ => none

/-- What a token puts into the pool, in a line of some name. -/
def pooled? (name : Text) : Token → Option PoolString
  | string content final => some ⟨content, if final ∧ name = "route".toList then routeSuffix else []⟩
  | _ => none

/-- The bytes of tokens in order. Each cell takes the next offset of a string, or zero when there is none left. -/
def bytes (labelAt : Text → Nat) : List Nat → List Token → Bytes
  | _, [] => []
  | offsets, .byte b :: more => b :: bytes labelAt offsets more
  | offset :: offsets, .cell :: more => Bytes.word16 offset ++ bytes labelAt offsets more
  | [], .cell :: more => Bytes.word16 0 ++ bytes labelAt [] more
  | offsets, .target label :: more => Bytes.word16 (labelAt label) ++ bytes labelAt offsets more
  | offsets, .string .. :: more => bytes labelAt offsets more

theorem bytes_map_byte (labelAt : Text → Nat) (offsets : List Nat) (content : Bytes) (more : List Token) :
    bytes labelAt offsets (content.map .byte ++ more) = content ++ bytes labelAt offsets more := by
  induction content with
  | nil => rfl
  | cons b content ih => rw [List.map_cons, List.cons_append, bytes, ih, List.cons_append]

theorem length_bytes (labelAt : Text → Nat) (offsets : List Nat) (tokens : List Token) :
    (bytes labelAt offsets tokens).length = (tokens.map size).sum := by
  fun_induction bytes labelAt offsets tokens <;> simp_all [size, Bytes.word16] <;> omega

end Token

/-- The bytes a line of some kind and length begins with. -/
def LineKind.head (length : Nat) : LineKind → Bytes
  | header => [UInt8.ofNat length]
  | instruction opcode => [opcode, UInt8.ofNat length]
  | raw | trailer => []

/-- Whether a line of some kind may declare a length at an offset. -/
def LineKind.Opens (offset length : Nat) : LineKind → Prop
  | header => offset = 0 ∧ length ≤ 255
  | instruction _ => length ≤ 255
  | raw | trailer => True

/-- What a line says after its labels. -/
structure Content where
  kind : LineKind
  name : Text
  /-- The length it declares. -/
  length : Nat
  tokens : List Token
deriving DecidableEq, Repr

namespace Content

/-- Reads what follows the labels of a line: its name and the text after the full stop. -/
def read? (inRecords : Bool) (name rest : Text) : Option Content := do
  let kind ← LineKind.ofName? inRecords name
  let length ← Text.readDigits? (rest.takeWhile Char.isDigit)
  let tokens ← Token.readAll? (kind == .trailer) 0 (rest.dropWhile Char.isDigit)
  some ⟨kind, name, length, tokens⟩

/-- The labels a line refers to. -/
def targets (c : Content) : List Text := c.tokens.filterMap Token.target?

/-- The strings of a line. -/
def strings (c : Content) : List PoolString := c.tokens.filterMap (Token.pooled? c.name)

/-- The bytes of a line in the stream, given where labels stand and where its strings stand. -/
def bytes (labelAt : Text → Nat) (offsets : List Nat) (c : Content) : Bytes :=
  c.kind.head c.length ++ Token.bytes labelAt offsets c.tokens

/-- Whether a line takes exactly the length it declares, when it begins at an offset. -/
def FitsAt (offset : Nat) (c : Content) : Prop :=
  c.kind.Opens offset c.length ∧
    if c.kind = .trailer then (c.tokens.filterMap Token.byte?).length = c.length
    else (c.kind.head c.length).length + (c.tokens.map Token.size).sum = c.length

end Content

/-- A line without its columns: the labels it defines and what it says after them. -/
structure Statement where
  labels : List Text
  content? : Option Content
deriving DecidableEq, Repr

namespace Statement

/-- Reads a line. -/
def read? (inRecords : Bool) (t : Text) : Option Statement :=
  match lineHeading? t with
  | none => none
  | some none => some ⟨lineLabels t, none⟩
  | some (some (name, rest)) => (Content.read? inRecords name rest).map (⟨lineLabels t, some ·⟩)

theorem labels_of_read? {inRecords : Bool} {t : Text} {st : Statement}
    (h : read? inRecords t = some st) : st.labels = lineLabels t := by
  rw [read?] at h
  split at h
  · cases h
  · cases h
    rfl
  · obtain ⟨c, -, rfl⟩ := Option.map_eq_some_iff.mp h
    rfl

/-- What a line says in the stream; trailers stand apart. -/
def written? (st : Statement) : Option Content := st.content?.filter (·.kind != .trailer)

theorem written?_eq {st : Statement} {c : Content} (h : st.content? = some c) (hkind : c.kind ≠ .trailer) :
    st.written? = some c := by
  rw [written?, h, Option.filter_some, if_pos (by simpa using hkind)]

/-- The length a line declares in the stream. -/
def size (st : Statement) : Nat := (st.written?.map Content.length).getD 0

/-- The bytes a line keeps for the very end. -/
def trailer? (st : Statement) : Option Bytes :=
  (st.content?.filter (·.kind == .trailer)).map fun c => c.tokens.filterMap Token.byte?

def targets (st : Statement) : List Text := (st.written?.map Content.targets).getD []

def strings (st : Statement) : List PoolString := (st.written?.map Content.strings).getD []

/-- The bytes of a line in the stream. -/
def bytes (labelAt : Text → Nat) (offsets : List Nat) (st : Statement) : Bytes :=
  (st.written?.map (Content.bytes labelAt offsets)).getD []

/-- Whether a line can be laid out at an offset: its labels are in reach and its content fits. -/
def FitsAt (offset : Nat) (st : Statement) : Prop :=
  (st.labels ≠ [] → offset ≤ lastOffset) ∧ ∀ c, st.content? = some c → c.FitsAt offset

end Statement

end SceneScript
