import Mathlib
import SceneScript.Dump.Row
import SceneScript.Proofs.Dump.Statement
import SceneScript.Proofs.Lines
/-!
# Rows read back

The line that shows a row reads back as the statement the row stands for.
-/
namespace SceneScript

namespace Operand

/-- The bytes an operand stands for. -/
def bytes : Operand → Bytes
  | byte b => [b]
  | pointer target | jump target => Bytes.word16 target

/-- Where an operand points to, if it points to a string. -/
def pointer? : Operand → Option Nat
  | pointer target => some target
  | _ => none

@[simp] theorem pointer?_byte (b : UInt8) : (byte b).pointer? = none := rfl

@[simp] theorem pointer?_pointer (target : Nat) : (pointer target).pointer? = some target := rfl

@[simp] theorem pointer?_jump (target : Nat) : (jump target).pointer? = none := rfl

/-- The offset an operand jumps to. -/
def jump? : Operand → Option Nat
  | jump target => some target
  | _ => none

/-- The tokens an operand is shown as. -/
def tokens (labelled : Nat → Bool) : Operand → List Token
  | byte b => [.byte b]
  | pointer _ => [.cell]
  | jump target => if labelled target then [.target (labelName target)] else (Bytes.word16 target).map .byte

end Operand

namespace Row

/-- The tokens strings are shown as. -/
def stringTokens : List Text → List Token
  | [] => []
  | [s] => [.string s true]
  | s :: more => .string s false :: stringTokens more

/-- Where the cells of a row point to. -/
def pointers (row : Row) : List Nat := row.operands.filterMap Operand.pointer?

@[simp] theorem pointers_raw (name : Text) (length : Nat) (content : Bytes) : (raw name length content).pointers = [] := by
  rw [pointers, raw, List.filterMap_eq_nil_iff]
  intro op hop
  obtain ⟨b, -, rfl⟩ := List.mem_map.mp hop
  rfl

@[simp] theorem flatMap_bytes_raw (name : Text) (length : Nat) (content : Bytes) :
    (raw name length content).operands.flatMap Operand.bytes = content := by
  induction content with
  | nil => rfl
  | cons b content ih => exact congrArg (b :: ·) ih

/-- The tokens a row is shown as. -/
def tokens (labelled : Nat → Bool) (row : Row) : List Token :=
  row.operands.flatMap (Operand.tokens labelled) ++ stringTokens row.strings

/-- The labels a row is shown with. -/
def labels (labelled : Nat → Bool) (row : Row) : List Text :=
  match row.start? with
  | some start => if labelled start then [labelName start] else []
  | none => []

/-- The statement of a row of some kind. -/
def statement (labelled : Nat → Bool) (kind : LineKind) (row : Row) : Statement :=
  ⟨row.labels labelled, some ⟨kind, row.name, row.length, row.tokens labelled⟩⟩

/-- The bytes a row stands for. -/
def bytes (inRecords : Bool) (row : Row) : Bytes :=
  ((LineKind.ofName? inRecords row.name).map (LineKind.head row.length)).getD [] ++ row.operands.flatMap Operand.bytes

/-- The strings of a row of some name as they are put into the pool. -/
def poolStrings (name : Text) : List Text → List PoolString
  | [] => []
  | [s] => [⟨s, if name = "route".toList then routeSuffix else []⟩]
  | s :: more => ⟨s, []⟩ :: poolStrings name more

/-- Whether a name has only printable characters past the full stop, as all names of rows do. -/
def isName (name : Text) : Bool := !name.isEmpty && name.all fun c => 0x2E < c.toNat && c.toNat < 0x7F

/-- The names that mean the same in every dump. -/
def reserved : List Text := ["header".toList, "trailer".toList, "data".toList]

theorem isName_iff {name : Text} :
    isName name = true ↔ name ≠ [] ∧ ∀ c ∈ name, 0x2E < c.toNat ∧ c.toNat < 0x7F := by
  simp [isName]

/-- Whether a row of some kind can be read back from its line. -/
structure Legible (inRecords : Bool) (kind : LineKind) (row : Row) : Prop where
  kind_eq : LineKind.ofName? inRecords row.name = some kind
  isName : isName row.name = true
  length_lt : row.length < Text.numberBound
  strings_le : row.strings.length ≤ row.pointers.length
  inner_noSign : ∀ s ∈ row.strings.dropLast, '§' ∉ s
  trailer_bytes : kind = .trailer → ∀ op ∈ row.operands, ∃ b, op = .byte b

end Row

/-- The number of bytes that rows stand for. -/
def rowsLength (rows : List Row) : Nat := (rows.map Row.length).sum

theorem labelName_injective {m n : Nat} (h : labelName m = labelName n) : m = n :=
  Text.hexadecimal_injective (List.cons_injective h)

private theorem isLabelChar_of_isHexDigit {c : Char} (hc : Text.isHexDigit c = true) : isLabelChar c = true := by
  simp only [isLabelChar, Char.isAlphanum, Char.isAlpha, Char.isUpper, Char.isLower, Text.isHexDigit, Bool.or_eq_true,
    Bool.and_eq_true, decide_eq_true_eq, Char.le_def, ge_iff_le, UInt32.le_iff_toNat_le] at hc ⊢
  have hf : 'f'.val.toNat ≤ 'z'.val.toNat := by decide
  have hF : 'F'.val.toNat ≤ 'Z'.val.toNat := by decide
  rcases hc with (hc | hc) | hc
  · exact Or.inl (Or.inr hc)
  · exact Or.inl (Or.inl (Or.inr ⟨hc.1, hc.2.trans hf⟩))
  · exact Or.inl (Or.inl (Or.inl ⟨hc.1, hc.2.trans hF⟩))

theorem isLabelChar_of_mem_decimal {n : Nat} {c : Char} (h : c ∈ Text.decimal n) : isLabelChar c = true := by
  have hdigit := List.all_eq_true.mp (Text.all_isDigit_decimal n) c h
  simp [isLabelChar, Char.isAlphanum, hdigit]

theorem isLabelChar_of_mem_labelName {n : Nat} {c : Char} (h : c ∈ labelName n) : isLabelChar c = true := by
  rcases List.mem_cons.mp h with rfl | h
  · decide
  · exact isLabelChar_of_isHexDigit (Text.isHexDigit_of_mem_hexadecimal h)

namespace Token

variable {inTrailer : Bool} {free : Nat}

theorem readAll?_hexPair (b : UInt8) (rest : Text) :
    readAll? inTrailer free (Bytes.hexPair b ++ rest) = (readAll? inTrailer free rest).map (.byte b :: ·) := by
  have hhigh : b.toNat / 16 < 16 := by
    have := b.toNat_lt
    omega
  have hlow : b.toNat % 16 < 16 := by omega
  rw [Bytes.hexPair, List.cons_append, List.cons_append, List.nil_append,
    readAll?_byte _ _ _ (Text.isHexDigit_hexDigit _ hhigh) (Text.isHexDigit_hexDigit _ hlow),
    Text.hexValue_hexDigit _ hhigh, Text.hexValue_hexDigit _ hlow]
  have hvalue : 16 * (b.toNat / 16) + b.toNat % 16 = b.toNat := by omega
  rw [hvalue, UInt8.ofNat_toNat]

theorem takeWhile_boundary {p : Char → Bool} {body rest : Text} (hbody : ∀ c ∈ body, p c = true)
    (hrest : ∀ c ∈ rest.head?, p c = false) :
    (body ++ rest).takeWhile p = body ∧ (body ++ rest).dropWhile p = rest := by
  rw [List.takeWhile_append_of_pos hbody, List.dropWhile_append_of_pos hbody]
  cases rest with
  | nil => simp
  | cons c rest =>
    have hc := hrest c rfl
    rw [List.takeWhile_cons, List.dropWhile_cons, hc]
    simp

/-- A shown operand reads back as its tokens when no letter or digit follows. -/
theorem readAll?_operand (labelled : Nat → Bool) (op : Operand) {rest : Text}
    (hrest : ∀ c ∈ rest.head?, isLabelChar c = false) (hop : inTrailer = true → ∃ b, op = .byte b) :
    readAll? inTrailer free (op.render labelled ++ rest) =
      (readAll? inTrailer (free + op.pointer?.toList.length) rest).map (op.tokens labelled ++ ·) := by
  cases op with
  | byte b =>
    rw [Operand.render, readAll?_hexPair]
    rfl
  | pointer target =>
    obtain rfl : inTrailer = false := by
      by_contra h
      obtain ⟨b, hb⟩ := hop (by simpa using h)
      cases hb
    rw [Operand.render, List.cons_append, List.nil_append, readAll?_cell]
    rfl
  | jump target =>
    obtain rfl : inTrailer = false := by
      by_contra h
      obtain ⟨b, hb⟩ := hop (by simpa using h)
      cases hb
    rw [Operand.render, Operand.tokens]
    split_ifs with hlabelled
    · obtain ⟨htake, hdrop⟩ := takeWhile_boundary (fun c hc => isLabelChar_of_mem_labelName hc) hrest
      rw [List.cons_append, readAll?_target, htake, hdrop]
      · rfl
      · rw [htake]
        simp [labelName]
    · simp only [Bytes.hex, Bytes.word16, List.map_cons, List.map_nil, List.intercalate_cons_cons,
        List.intercalate_singleton, List.append_assoc]
      rw [readAll?_hexPair, List.cons_append, List.nil_append, readAll?_gap _ _ _ (Or.inl rfl), readAll?_hexPair]
      simp [Operand.pointer?, Function.comp_def]

theorem readAll?_operands (labelled : Nat → Bool) (ops : List Operand) {rest : Text}
    (hrest : ∀ c ∈ rest.head?, isLabelChar c = false) (hops : inTrailer = true → ∀ op ∈ ops, ∃ b, op = .byte b) :
    readAll? inTrailer free (['-'].intercalate (ops.map (Operand.render labelled)) ++ rest) =
      (readAll? inTrailer (free + (ops.filterMap Operand.pointer?).length) rest).map
        (ops.flatMap (Operand.tokens labelled) ++ ·) := by
  induction ops generalizing free with
  | nil => simp
  | cons op more ih =>
    have hop : inTrailer = true → ∃ b, op = .byte b := fun h => hops h op List.mem_cons_self
    have hmore : inTrailer = true → ∀ op ∈ more, ∃ b, op = .byte b :=
      fun h op hm => hops h op (List.mem_cons_of_mem _ hm)
    have hcount : ((op :: more).filterMap Operand.pointer?).length =
        op.pointer?.toList.length + (more.filterMap Operand.pointer?).length := by
      cases h : op.pointer? <;> simp [h, Nat.add_comm]
    cases more with
    | nil =>
      rw [List.map_singleton, List.intercalate_singleton, readAll?_operand labelled op hrest hop, hcount]
      simp
    | cons op' more =>
      have hdash : ∀ c ∈ ('-' :: (['-'].intercalate ((op' :: more).map (Operand.render labelled)) ++ rest)).head?,
          isLabelChar c = false := by
        rintro c ⟨rfl⟩
        decide
      rw [List.map_cons, List.map_cons, List.intercalate_cons_cons, ← List.map_cons, List.append_assoc,
        List.append_assoc, List.cons_append, List.nil_append, readAll?_operand labelled op hdash hop,
        readAll?_gap _ _ _ (Or.inl rfl), ih hmore, hcount, Nat.add_assoc, Option.map_map]
      simp [Function.comp_def]

theorem readAll?_strings {strings : List Text} (hfree : strings.length ≤ free)
    (hinner : ∀ s ∈ strings.dropLast, '§' ∉ s) :
    readAll? inTrailer free (showStrings strings) = some (Row.stringTokens strings) := by
  have hblank : isBlank ' ' = true := by decide
  induction strings generalizing free with
  | nil => rw [showStrings, readAll?_nil, Row.stringTokens]
  | cons s more ih =>
    have hf : free ≠ 0 := by
      rw [List.length_cons] at hfree
      omega
    cases more with
    | nil => rw [showStrings, readAll?_gap _ _ _ (Or.inr hblank), readAll?_final _ _ hf, Row.stringTokens]
    | cons s' more =>
      rw [List.dropLast_cons_cons, List.forall_mem_cons] at hinner
      rw [List.length_cons] at hfree
      rw [showStrings, readAll?_gap _ _ _ (Or.inr hblank),
        readAll?_string _ (Text.cutAt_append hinner.1 _) hf, ih (by omega) hinner.2]
      · rfl
      · simp

end Token

namespace Row

private theorem head?_showStrings (strings : List Text) :
    ∀ c ∈ (showStrings strings).head?, c = ' ' := by
  rintro c hc
  match strings with
  | [] => simp [showStrings] at hc
  | [s] => simpa [showStrings, eq_comm] using hc
  | s :: s' :: more => simpa [showStrings, eq_comm] using hc

private theorem readAll?_shown (inTrailer : Bool) (labelled : Nat → Bool) {row : Row}
    (hstrings : row.strings.length ≤ row.pointers.length) (hinner : ∀ s ∈ row.strings.dropLast, '§' ∉ s)
    (hops : inTrailer = true → ∀ op ∈ row.operands, ∃ b, op = .byte b) :
    Token.readAll? inTrailer 0 (showOperands labelled row.operands ++ showStrings row.strings) =
      some (row.tokens labelled) := by
  have hblank : isBlank ' ' = true := by decide
  have hrest : ∀ c ∈ (showStrings row.strings).head?, isLabelChar c = false := by
    intro c hc
    rw [head?_showStrings _ c hc]
    decide
  rw [tokens, showOperands.eq_def]
  split
  · rename_i hnil
    rw [pointers, hnil, List.filterMap_nil, List.length_nil] at hstrings
    rw [List.nil_append, Token.readAll?_strings hstrings hinner, hnil]
    rfl
  · rw [List.cons_append, Token.readAll?_gap _ _ _ (Or.inr hblank), Token.readAll?_operands labelled _ hrest hops,
      Token.readAll?_strings (by simpa [pointers] using hstrings) hinner, Option.map_some]

/-- What follows the length of a line begins with no digit. -/
private theorem span_length (labelled : Nat → Bool) (row : Row) :
    let rest := showOperands labelled row.operands ++ showStrings row.strings
    (Text.decimal row.length ++ rest).takeWhile Char.isDigit = Text.decimal row.length ∧
      (Text.decimal row.length ++ rest).dropWhile Char.isDigit = rest := by
  intro rest
  have hdigits : ∀ c ∈ Text.decimal row.length, c.isDigit = true :=
    List.all_eq_true.mp (Text.all_isDigit_decimal row.length)
  have hrest : ∀ c ∈ rest.head?, c = ' ' := by
    intro c hc
    simp only [rest] at hc
    rw [showOperands.eq_def] at hc
    split at hc
    · exact head?_showStrings _ c hc
    · simpa [eq_comm] using hc
  apply Token.takeWhile_boundary hdigits
  intro c hc
  rw [hrest c hc]
  decide

/-- A line is headed by the name it begins with. -/
theorem heading_name {name : Text} (h : isName name = true) (rest : Text) :
    lineLabels (name ++ '.' :: rest) = [] ∧ lineHeading? (name ++ '.' :: rest) = some (some (name, rest)) := by
  obtain ⟨hne, hprintable⟩ := isName_iff.mp h
  have hstop : '.' ∉ name := fun hm => absurd (hprintable _ hm).1 (by decide)
  have hcut := Text.cutAt_append hstop rest
  obtain ⟨c, t, rfl⟩ := List.exists_cons_of_ne_nil hne
  obtain ⟨hlow, hhigh⟩ := hprintable c List.mem_cons_self
  have hb : isBlank c = false := isBlank_eq_false_of_printable (by omega) hhigh
  have hsharp : c ≠ '#' := by
    rintro rfl
    exact absurd hlow (by decide)
  have hand : c ≠ '&' := by
    rintro rfl
    exact absurd hlow (by decide)
  exact ⟨lineLabels_named hb hsharp hand hcut, lineHeading?_named hb hsharp hand hcut⟩

private theorem heading_render {row : Row} (labelled : Nat → Bool) (hisName : isName row.name = true) :
    lineLabels (row.render labelled) = row.labels labelled ∧
      lineHeading? (row.render labelled) = some (some (row.name, Text.decimal row.length ++
        (showOperands labelled row.operands ++ showStrings row.strings))) := by
  have hcolon : ∀ n, ':' ∉ labelName n := by
    intro n hm
    exact absurd (isLabelChar_of_mem_labelName hm) (by decide)
  have hblank : isBlank ' ' = true := by decide
  have hname := heading_name hisName (Text.decimal row.length ++
    (showOperands labelled row.operands ++ showStrings row.strings))
  rw [render, showLabel.eq_def, labels]
  cases row.start? with
  | none => exact hname
  | some start =>
    dsimp only
    split_ifs
    · simp only [List.cons_append, List.append_assoc, List.nil_append]
      rw [lineLabels_define (hcolon start), lineHeading?_define (hcolon start), lineLabels_blank hblank,
        lineHeading?_blank hblank]
      exact ⟨congrArg _ hname.1, hname.2⟩
    · exact hname

/-- A legible row reads back as the statement it stands for. -/
theorem read?_render {inRecords : Bool} {kind : LineKind} {row : Row} (h : row.Legible inRecords kind)
    (labelled : Nat → Bool) :
    Statement.read? inRecords (row.render labelled) = some (row.statement labelled kind) := by
  obtain ⟨hlabels, hheading⟩ := heading_render labelled h.isName
  obtain ⟨hdigits, hrest⟩ := span_length labelled row
  have htokens := readAll?_shown (kind == .trailer) labelled h.strings_le h.inner_noSign
    (fun ht => h.trailer_bytes (by simpa using ht))
  rw [Statement.read?, hheading, hlabels]
  simp only [Content.read?, h.kind_eq, hdigits, hrest, Text.readDigits?_decimal h.length_lt, htokens,
    Option.bind_eq_bind, Option.bind_some, Option.map_some, statement]

/-! ## One line for each row -/

/-- Whether the line that shows a row is a single one: no line feed anywhere, no carriage return at its end. -/
structure OneLine (row : Row) : Prop where
  isName : isName row.name = true
  strings_noFeed : ∀ s ∈ row.strings, '\n' ∉ s
  last_noReturn : ∀ s ∈ row.strings.getLast?, s.getLast? ≠ some '\r'

theorem plain_of_isLabelChar {c : Char} (h : isLabelChar c = true) : c ≠ '\n' ∧ c ≠ '\r' := by
  constructor
  · rintro rfl
    exact absurd h (by decide)
  · rintro rfl
    exact absurd h (by decide)

theorem plain_of_mem_name {name : Text} (h : Row.isName name = true) : ∀ c ∈ name, c ≠ '\n' ∧ c ≠ '\r' := by
  intro c hc
  have hlow := ((isName_iff.mp h).2 c hc).1
  constructor
  · rintro rfl
    exact absurd hlow (by decide)
  · rintro rfl
    exact absurd hlow (by decide)

theorem isLabelChar_of_mem_hexPair {b : UInt8} {c : Char} (h : c ∈ Bytes.hexPair b) : isLabelChar c = true := by
  have hdigit : Text.isHexDigit c = true := by
    simp only [Bytes.hexPair, List.mem_cons, List.not_mem_nil, or_false] at h
    have := b.toNat_lt
    rcases h with rfl | rfl <;> exact Text.isHexDigit_hexDigit _ (by omega)
  exact isLabelChar_of_isHexDigit hdigit

theorem forall_mem_intercalate {p : Char → Prop} (hdash : p '-') {texts : List Text} (h : ∀ t ∈ texts, ∀ c ∈ t, p c) :
    ∀ c ∈ ['-'].intercalate texts, p c := by
  induction texts with
  | nil => simp
  | cons t more ih =>
    rw [List.forall_mem_cons] at h
    cases more with
    | nil => simpa using h.1
    | cons t' more =>
      intro c hc
      rw [List.intercalate_cons_cons, List.append_assoc, List.mem_append, List.mem_append, List.mem_singleton] at hc
      rcases hc with hc | rfl | hc
      · exact h.1 c hc
      · exact hdash
      · exact ih h.2 c hc

/-- The part of a line in front of its strings. -/
def frame (labelled : Nat → Bool) (row : Row) : Text :=
  row.showLabel labelled ++ (row.name ++ '.' :: (Text.decimal row.length ++ showOperands labelled row.operands))

theorem render_eq (labelled : Nat → Bool) (row : Row) : row.render labelled = row.frame labelled ++ showStrings row.strings := by
  simp [render, frame]

/-- The characters in front of the strings of a line: those of its name and of labels, and some signs. -/
theorem forall_mem_frame {p : Char → Prop} {row : Row} (labelled : Nat → Bool) (hname : ∀ c ∈ row.name, p c)
    (hlabel : ∀ c, isLabelChar c = true → p c) (hsigns : ∀ c ∈ ['&', ':', ' ', '.', '-'], p c) :
    ∀ c ∈ row.frame labelled, p c := by
  have hshown : ∀ c ∈ row.showLabel labelled, p c := by
    intro c hc
    rw [showLabel.eq_def] at hc
    split at hc
    · split_ifs at hc
      · simp only [List.mem_cons, List.mem_append, List.not_mem_nil, or_false] at hc
        rcases hc with rfl | hc | rfl | rfl
        · exact hsigns _ (by decide)
        · exact hlabel c (isLabelChar_of_mem_labelName hc)
        · exact hsigns _ (by decide)
        · exact hsigns _ (by decide)
      · simp at hc
    · simp at hc
  have hpair : ∀ t ∈ row.operands.map (Operand.render labelled), ∀ c ∈ t, p c := by
    intro t ht c hc
    obtain ⟨op, -, rfl⟩ := List.mem_map.mp ht
    cases op with
    | byte b => exact hlabel c (isLabelChar_of_mem_hexPair hc)
    | pointer target =>
      obtain rfl := List.mem_singleton.mp hc
      exact hlabel _ (by decide)
    | jump target =>
      rw [Operand.render] at hc
      split_ifs at hc
      · rcases List.mem_cons.mp hc with rfl | hc
        · exact hsigns _ (by decide)
        · exact hlabel c (isLabelChar_of_mem_labelName hc)
      · refine forall_mem_intercalate (hsigns _ (by decide)) ?_ c hc
        intro t ht c hc
        obtain ⟨b, -, rfl⟩ := List.mem_map.mp ht
        exact hlabel c (isLabelChar_of_mem_hexPair hc)
  have hoperands : ∀ c ∈ showOperands labelled row.operands, p c := by
    intro c hc
    rw [showOperands.eq_def] at hc
    split at hc
    · simp at hc
    · rcases List.mem_cons.mp hc with rfl | hc
      · exact hsigns _ (by decide)
      · exact forall_mem_intercalate (hsigns _ (by decide)) hpair c hc
  intro c hc
  simp only [frame, List.mem_append, List.mem_cons] at hc
  rcases hc with hc | hc | rfl | hc | hc
  · exact hshown c hc
  · exact hname c hc
  · exact hsigns _ (by decide)
  · exact hlabel c (isLabelChar_of_mem_decimal hc)
  · exact hoperands c hc

/-- Only the strings can bring a line end into the line of a row. -/
private theorem plain_of_mem_frame {row : Row} (labelled : Nat → Bool) (hisName : isName row.name = true) :
    ∀ c ∈ row.frame labelled, c ≠ '\n' ∧ c ≠ '\r' :=
  forall_mem_frame labelled (plain_of_mem_name hisName) (fun _ => plain_of_isLabelChar) (by simp)

private theorem notMem_feed_showStrings {strings : List Text} (h : ∀ s ∈ strings, '\n' ∉ s) :
    '\n' ∉ showStrings strings := by
  fun_induction showStrings strings <;> simp_all

private theorem mem_showStrings {strings : List Text} {s : Text} (hs : s ∈ strings) {c : Char} (hc : c ∈ s) :
    c ∈ showStrings strings := by
  fun_induction showStrings strings with
  | case1 => cases hs
  | case2 t =>
    obtain rfl := List.mem_singleton.mp hs
    simp [hc]
  | case3 t more hne ih =>
    rcases List.mem_cons.mp hs with rfl | hs
    · simp [hc]
    · simp [ih hs]

private theorem getLast?_showStrings {strings : List Text} (hne : strings ≠ [])
    (h : ∀ s ∈ strings.getLast?, s.getLast? ≠ some '\r') :
    ∃ c, (showStrings strings).getLast? = some c ∧ c ≠ '\r' := by
  induction strings with
  | nil => exact absurd rfl hne
  | cons s more ih =>
    cases more with
    | nil =>
      have hs := h s rfl
      refine ⟨s.getLast?.getD '@', by simp [showStrings, List.getLast?_cons], ?_⟩
      cases hlast : s.getLast? with
      | none => decide
      | some c =>
        rw [hlast] at hs
        simpa using hs
    | cons s' more =>
      obtain ⟨c, hc, hne⟩ := ih (List.cons_ne_nil _ _) h
      refine ⟨c, ?_, hne⟩
      rw [showStrings, List.getLast?_cons, List.getLast?_cons, List.getLast?_append, List.getLast?_cons, hc]
      · rfl
      · simp

theorem notMem_feed_render {row : Row} (hisName : isName row.name = true) (hfeed : ∀ s ∈ row.strings, '\n' ∉ s)
    (labelled : Nat → Bool) : '\n' ∉ row.render labelled := by
  rw [render_eq, List.mem_append, not_or]
  exact ⟨fun hm => (plain_of_mem_frame labelled hisName _ hm).1 rfl, notMem_feed_showStrings hfeed⟩

theorem feed_mem_render {row : Row} (hname : isName row.name = true) (labelled : Nat → Bool) :
    '\n' ∈ row.render labelled ↔ ∃ s ∈ row.strings, '\n' ∈ s := by
  constructor
  · intro hfeed
    by_contra hnone
    push Not at hnone
    exact notMem_feed_render hname hnone labelled hfeed
  · rintro ⟨s, hs, hfeed⟩
    rw [render_eq]
    exact List.mem_append_right _ (mem_showStrings hs hfeed)

theorem getLast?_render {row : Row} (h : row.OneLine) (labelled : Nat → Bool) :
    (row.render labelled).getLast? ≠ some '\r' := by
  rw [render_eq]
  by_cases hnil : row.strings = []
  · rw [hnil, showStrings, List.append_nil]
    intro hlast
    exact (plain_of_mem_frame labelled h.isName _ (List.mem_of_getLast? hlast)).2 rfl
  · obtain ⟨c, hc, hne⟩ := getLast?_showStrings hnil h.last_noReturn
    rw [List.getLast?_append, hc]
    simpa using hne

/-- Strings as they are read from the end of a line, where a carriage return goes with the line feed. -/
def closeStrings : List Text → List Text
  | [] => []
  | [s] => [Text.withoutReturn s]
  | s :: more => s :: closeStrings more

theorem length_closeStrings (strings : List Text) : (closeStrings strings).length = strings.length := by
  fun_induction closeStrings strings <;> simp_all

theorem dropLast_closeStrings (strings : List Text) : (closeStrings strings).dropLast = strings.dropLast := by
  fun_induction closeStrings strings with
  | case1 => rfl
  | case2 s => rfl
  | case3 s more hmore ih =>
    obtain ⟨s', more, rfl⟩ := List.exists_cons_of_ne_nil hmore
    have hne : closeStrings (s' :: more) ≠ [] := List.ne_nil_of_length_pos (by rw [length_closeStrings]; exact Nat.succ_pos _)
    rw [List.dropLast_cons_of_ne_nil hne, ih]
    rfl

/-- Closing takes no more than a carriage return from the last string. -/
theorem subset_of_mem_closeStrings {strings : List Text} {s : Text} (h : s ∈ closeStrings strings) :
    ∃ s' ∈ strings, s ⊆ s' := by
  fun_induction closeStrings strings with
  | case1 => cases h
  | case2 s' =>
    obtain rfl := List.mem_singleton.mp h
    refine ⟨s', List.mem_cons_self, ?_⟩
    rcases Text.withoutReturn_cases s' with heq | heq
    · rw [heq]
      exact List.Subset.refl _
    · conv_rhs => rw [heq]
      exact List.subset_append_left _ _
  | case3 s' more hmore ih =>
    rcases List.mem_cons.mp h with rfl | h
    · exact ⟨s, List.mem_cons_self, List.Subset.refl _⟩
    · obtain ⟨s'', hs'', hsubset⟩ := ih h
      exact ⟨s'', List.mem_cons_of_mem _ hs'', hsubset⟩

private theorem withoutReturn_showStrings (strings : List Text) :
    Text.withoutReturn (showStrings strings) = showStrings (closeStrings strings) := by
  fun_induction closeStrings strings with
  | case1 => rfl
  | case2 s => exact Text.withoutReturn_append (s := [' ', '@']) fun _ => by decide
  | case3 s more hmore ih =>
    have hne : closeStrings more = [] → False := by
      intro hnil
      have hlength := length_closeStrings more
      rw [hnil] at hlength
      exact hmore (List.length_eq_zero_iff.mp hlength.symm)
    have hfront : ' ' :: '§' :: (s ++ '§' :: showStrings more) = (' ' :: '§' :: (s ++ ['§'])) ++ showStrings more := by
      simp
    rw [showStrings, showStrings, hfront, Text.withoutReturn_append, ih]
    · simp
    · intro
      rw [← List.cons_append, ← List.cons_append, List.getLast?_concat]
      decide
    · exact hne
    · exact hmore

/-- A row as it is read from a line that a line feed ends. -/
def closed (row : Row) : Row := { row with strings := closeStrings row.strings }

theorem withoutReturn_render {row : Row} (hisName : isName row.name = true) (labelled : Nat → Bool) :
    Text.withoutReturn (row.render labelled) = row.closed.render labelled := by
  rw [render_eq, Text.withoutReturn_append, withoutReturn_showStrings, render_eq]
  · rfl
  · intro _ hlast
    exact (plain_of_mem_frame labelled hisName _ (List.mem_of_getLast? hlast)).2 rfl

end Row

/-- The dump of rows has one line for each of them. -/
theorem lines_showRows {rows : List Row} (hrows : rows ≠ []) (h : ∀ row ∈ rows, row.OneLine) :
    Text.lines (showRows rows) = rows.map (Row.render (labelledOffsets rows).contains) := by
  let labelled := (labelledOffsets rows).contains
  have hsplit := List.dropLast_concat_getLast hrows
  have hmap : rows.map (Row.render labelled) =
      rows.dropLast.map (Row.render labelled) ++ [(rows.getLast hrows).render labelled] := by
    conv_lhs => rw [← hsplit]
    rw [List.map_append, List.map_singleton]
  change Text.lines (Text.joinLines (rows.map (Row.render labelled))) = rows.map (Row.render labelled)
  rw [hmap]
  apply Text.lines_joinLines
  · intro t ht
    rw [← hmap] at ht
    obtain ⟨row, hrow, rfl⟩ := List.mem_map.mp ht
    exact Row.notMem_feed_render (h row hrow).isName (h row hrow).strings_noFeed labelled
  · intro t ht
    obtain ⟨row, hrow, rfl⟩ := List.mem_map.mp ht
    exact Row.getLast?_render (h row (List.mem_of_mem_dropLast hrow)) labelled
  · simp [Row.render]

end SceneScript
