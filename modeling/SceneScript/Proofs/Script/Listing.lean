import Mathlib
import SceneScript.Proofs.Dump.Statement
/-!
# Listings

The statements of a whole dump, and what they add to a layout: the length of the stream, the labels, the strings, the
trailer and the bytes. A layout is followed line by line; columns and line numbers play no part.
-/
namespace SceneScript

/-- The statements of a dump in order. -/
abbrev Listing := List Statement

namespace Listing

/-- The length of the stream. -/
def size (sts : Listing) : Nat := (sts.map Statement.size).sum

/-- The labels with their offsets, when the stream before is so long. -/
def labelTable : Nat → Listing → List (Text × Nat)
  | _, [] => []
  | offset, st :: more => st.labels.map (·, offset) ++ labelTable (offset + st.size) more

/-- The labels in the order of their definitions. -/
def labels (sts : Listing) : List Text := sts.flatMap Statement.labels

/-- The labels that are referred to. -/
def targets (sts : Listing) : List Text := sts.flatMap Statement.targets

/-- The strings in the order of the lines. -/
def strings (sts : Listing) : List PoolString := sts.flatMap Statement.strings

/-- The bytes of the last trailer. -/
def trailer? : Listing → Option Bytes
  | [] => none
  | st :: more => (trailer? more).or st.trailer?

/-- The bytes of the stream. Each line takes as many of the offsets as it has strings. -/
def bytes (labelAt : Text → Nat) : List Nat → Listing → Bytes
  | _, [] => []
  | offsets, st :: more =>
    st.bytes labelAt (offsets.take st.strings.length) ++ bytes labelAt (offsets.drop st.strings.length) more

/-- Whether the stream may be written as some bytes when each line takes as many of the offsets as it has strings. Lines need
not agree on where a label stands, as they do not when it is defined twice. -/
inductive Writes : List Nat → Listing → Bytes → Prop
  | nil (offsets : List Nat) : Writes offsets [] []
  | cons {offsets : List Nat} {st : Statement} {more : Listing} {bytes : Bytes} (labelAt : Text → Nat)
    (h : Writes (offsets.drop st.strings.length) more bytes) :
    Writes offsets (st :: more) (st.bytes labelAt (offsets.take st.strings.length) ++ bytes)

/-- Whether each line can be laid out at its place. -/
def FitsAt : Nat → Listing → Prop
  | _, [] => True
  | offset, st :: more => st.FitsAt offset ∧ FitsAt (offset + st.size) more

/-- Reads the lines of a dump. -/
def read? (inRecords : Bool) : List Text → Option Listing
  | [] => some []
  | t :: more => do
    let st ← Statement.read? inRecords t
    let sts ← read? inRecords more
    some (st :: sts)

end Listing

/-- The bytes of a piece, given where labels and strings stand. -/
def Piece.bytes (labelAt : Text → Nat) (stringAt : Nat → Nat) : Piece → Bytes
  | .byte b => [b]
  | .word n => Bytes.word16 n
  | .forward label .. => Bytes.word16 (labelAt label)
  | .pointer none => Bytes.word16 0
  | .pointer (some k) => Bytes.word16 (stringAt k)

namespace Layout

/-- The pieces that tokens add, first piece first. -/
def tokenPieces (labels : List (Text × Nat)) (line next stop : Nat) : List Placed → List Piece
  | [] => []
  | ⟨column, token⟩ :: more =>
    match token with
    | .byte b => .byte b :: tokenPieces labels line next stop more
    | .cell =>
      if next < stop then .pointer (some next) :: tokenPieces labels line (next + 1) stop more
      else .pointer none :: tokenPieces labels line next stop more
    | .target label =>
      match labels.lookup label with
      | some offset => .word offset :: tokenPieces labels line next stop more
      | none => .forward label line column :: tokenPieces labels line next stop more
    | .string .. => tokenPieces labels line next stop more

/-- The strings that tokens add, first string first. -/
def tokenStrings (line : Nat) (name : Text) (tokens : List Placed) : List Pooled :=
  tokens.filterMap fun p => (p.token.pooled? name).map fun s => ⟨s.content, s.suffix, line, p.column⟩

private theorem countStrings_eq (line : Nat) (name : Text) (tokens : List Placed) :
    countStrings tokens = (tokenStrings line name tokens).length := by
  induction tokens with
  | nil => rfl
  | cons p more ih =>
    obtain ⟨column, token⟩ := p
    rw [countStrings] at ih ⊢
    cases token <;> simp_all [tokenStrings, Token.pooled?]

theorem addTokens_eq (l : Layout) (line : Nat) (name : Text) (next stop : Nat) (tokens : List Placed) :
    l.addTokens line name next stop tokens =
      { l with
        pieces := (tokenPieces l.labels line next stop tokens).reverse ++ l.pieces
        size := l.size + (tokens.map fun p => p.token.size).sum
        strings := (tokenStrings line name tokens).reverse ++ l.strings
        stringCount := l.stringCount + countStrings tokens } := by
  induction tokens generalizing l next with
  | nil => simp [addTokens, tokenPieces, tokenStrings, countStrings]
  | cons p more ih =>
    obtain ⟨column, token⟩ := p
    cases token with
    | byte b =>
      simp only [addTokens, ih, push, tokenPieces]
      simp [tokenStrings, Token.pooled?, countStrings, Token.size, Piece.size, Nat.add_assoc]
    | cell =>
      by_cases h : next < stop <;>
      · simp only [addTokens, h, if_true, if_false, ih, push, tokenPieces]
        simp [tokenStrings, Token.pooled?, countStrings, Token.size, Piece.size, Nat.add_assoc]
    | target label =>
      cases h : l.labels.lookup label <;>
      · simp only [addTokens, h, ih, push, tokenPieces]
        simp [tokenStrings, Token.pooled?, countStrings, Token.size, Piece.size, Nat.add_assoc]
    | string content final =>
      simp only [addTokens, ih, tokenPieces]
      simp [tokenStrings, Token.pooled?, countStrings, Token.size, Nat.add_comm, Nat.add_assoc]

private theorem mem_of_lookup {labels : List (Text × Nat)} {label : Text} {offset : Nat}
    (h : labels.lookup label = some offset) : (label, offset) ∈ labels := by
  obtain ⟨before, after, rfl, -⟩ := List.lookup_eq_some_iff.mp h
  simp

/-- Where the tokens of a line find a label: where it is known to stand, else where it turns out to stand. -/
private def lineAt (labels : List (Text × Nat)) (labelAt : Text → Nat) (label : Text) : Nat :=
  (labels.lookup label).getD (labelAt label)

private theorem lineAt_eq {labelAt : Text → Nat} {labels : List (Text × Nat)} (hlabels : ∀ p ∈ labels, labelAt p.1 = p.2) :
    lineAt labels labelAt = labelAt := by
  funext label
  rw [lineAt]
  cases h : labels.lookup label with
  | none => rfl
  | some offset => exact (hlabels _ (mem_of_lookup h)).symm

/-- The pieces of tokens become the bytes of the tokens. -/
private theorem bytes_tokenPieces (labels : List (Text × Nat)) (labelAt : Text → Nat) (stringAt : Nat → Nat)
    (line next count : Nat) (tokens : List Placed) :
    (tokenPieces labels line next (next + count) tokens).flatMap (Piece.bytes labelAt stringAt) =
      Token.bytes (lineAt labels labelAt) ((List.range' next count).map stringAt) (tokens.map Placed.token) := by
  induction tokens generalizing next count with
  | nil => simp [tokenPieces, Token.bytes]
  | cons p more ih =>
    obtain ⟨column, token⟩ := p
    cases token with
    | byte b => simp [tokenPieces, Token.bytes, Piece.bytes, ih]
    | cell =>
      cases count with
      | zero =>
        have ih := ih next 0
        simp_all [tokenPieces, Token.bytes, Piece.bytes]
      | succ count =>
        have ih := ih (next + 1) count
        rw [show next + 1 + count = next + (count + 1) by omega] at ih
        simp [tokenPieces, Token.bytes, Piece.bytes, List.range'_succ, ih]
    | target label =>
      cases h : labels.lookup label <;>
      · simp [tokenPieces, lineAt, h, Token.bytes, Piece.bytes, ih]
    | string content final => simp [tokenPieces, Token.bytes, ih]

private theorem target_of_forward {labels : List (Text × Nat)} {line next stop : Nat} {tokens : List Placed}
    {label : Text} {line' column : Nat}
    (h : Piece.forward label line' column ∈ tokenPieces labels line next stop tokens) :
    label ∈ (tokens.map Placed.token).filterMap Token.target? := by
  fun_induction tokenPieces labels line next stop tokens <;> simp_all [Token.target?]
  all_goals grind

private theorem forward_of_target {labels : List (Text × Nat)} {line next stop : Nat} {tokens : List Placed}
    {label : Text} (h : label ∈ (tokens.map Placed.token).filterMap Token.target?) :
    label ∈ labels.map Prod.fst ∨
      ∃ line' column, Piece.forward label line' column ∈ tokenPieces labels line next stop tokens := by
  have keep {piece : Piece} {pieces : List Piece}
      (ih : label ∈ labels.map Prod.fst ∨ ∃ line' column, Piece.forward label line' column ∈ pieces) :
      label ∈ labels.map Prod.fst ∨ ∃ line' column, Piece.forward label line' column ∈ piece :: pieces :=
    ih.imp_right fun ⟨line', column, hm⟩ => ⟨line', column, List.mem_cons_of_mem _ hm⟩
  fun_induction tokenPieces labels line next stop tokens with
  | case1 => simp at h
  | case2 next column more b ih => exact keep (ih h)
  | case3 next column more hlt ih => exact keep (ih h)
  | case4 next column more hlt ih => exact keep (ih h)
  | case5 next column more target offset hlookup ih =>
    rcases List.mem_cons.mp (show label ∈ target :: _ from h) with rfl | h
    · exact Or.inl (List.mem_map_of_mem (mem_of_lookup hlookup))
    · exact keep (ih h)
  | case6 next column more target hlookup ih =>
    rcases List.mem_cons.mp (show label ∈ target :: _ from h) with rfl | h
    · exact Or.inr ⟨line, column, List.mem_cons_self⟩
    · exact keep (ih h)
  | case7 next column more content final ih => exact ih h

/-- What statements add to a layout. -/
structure Extends (l : Layout) (sts : Listing) (l' : Layout) : Prop where
  size_eq : l'.size = l.size + sts.size
  labels_eq : l'.labels = (sts.labelTable l.size).reverse ++ l.labels
  strings_eq : l'.strings.reverse.map (fun s => PoolString.mk s.content s.suffix) =
    l.strings.reverse.map (fun s => PoolString.mk s.content s.suffix) ++ sts.strings
  stringCount_eq : l'.stringCount = l.stringCount + sts.strings.length
  trailer_eq : l'.trailer? = sts.trailer?.or l.trailer?
  pieces_eq : ∃ pieces : List Piece, l'.pieces = pieces.reverse ++ l.pieces ∧
    (∀ labelAt stringAt, (∀ p ∈ l'.labels, labelAt p.1 = p.2) →
      pieces.flatMap (Piece.bytes labelAt stringAt) =
        sts.bytes labelAt ((List.range' l.stringCount sts.strings.length).map stringAt)) ∧
    (∀ labelAt stringAt, sts.Writes ((List.range' l.stringCount sts.strings.length).map stringAt)
      (pieces.flatMap (Piece.bytes labelAt stringAt))) ∧
    (∀ label line column, Piece.forward label line column ∈ pieces → label ∈ sts.targets) ∧
    ∀ label ∈ sts.targets, label ∈ l'.labels.map Prod.fst ∨
      ∃ line column, Piece.forward label line column ∈ pieces

theorem Extends.refl (l : Layout) : l.Extends [] l where
  size_eq := rfl
  labels_eq := rfl
  strings_eq := by simp [Listing.strings]
  stringCount_eq := rfl
  trailer_eq := by simp [Listing.trailer?]
  pieces_eq := ⟨[], by simp [Listing.bytes, Listing.targets, Listing.Writes.nil]⟩

end Layout

namespace Listing

@[simp] theorem size_nil : size [] = 0 := rfl

@[simp] theorem strings_nil : strings [] = [] := rfl

@[simp] theorem targets_nil : targets [] = [] := rfl

@[simp] theorem labels_nil : labels [] = [] := rfl

@[simp] theorem size_cons (st : Statement) (sts : Listing) : size (st :: sts) = st.size + size sts := by
  simp [size]

@[simp] theorem strings_cons (st : Statement) (sts : Listing) : strings (st :: sts) = st.strings ++ strings sts := by
  simp [strings]

@[simp] theorem targets_cons (st : Statement) (sts : Listing) : targets (st :: sts) = st.targets ++ targets sts := by
  simp [targets]

@[simp] theorem labels_cons (st : Statement) (sts : Listing) : labels (st :: sts) = st.labels ++ labels sts := by
  simp [labels]

@[simp] theorem size_append (sts more : Listing) : size (sts ++ more) = size sts + size more := by
  simp [size]

@[simp] theorem strings_append (sts more : Listing) : strings (sts ++ more) = strings sts ++ strings more := by
  simp [strings]

@[simp] theorem targets_append (sts more : Listing) : targets (sts ++ more) = targets sts ++ targets more := by
  simp [targets]

@[simp] theorem labels_append (sts more : Listing) : labels (sts ++ more) = labels sts ++ labels more := by
  simp [labels]

theorem trailer?_append (sts more : Listing) : trailer? (sts ++ more) = (trailer? more).or (trailer? sts) := by
  induction sts with
  | nil => simp [trailer?]
  | cons st sts ih => rw [List.cons_append, trailer?, trailer?, ih, Option.or_assoc]

theorem bytes_append (labelAt : Text → Nat) (offsets : List Nat) (sts more : Listing) :
    bytes labelAt offsets (sts ++ more) =
      bytes labelAt (offsets.take (strings sts).length) sts ++
        bytes labelAt (offsets.drop (strings sts).length) more := by
  induction sts generalizing offsets with
  | nil => simp [bytes]
  | cons st sts ih =>
    rw [List.cons_append, bytes, bytes, ih, strings_cons, List.length_append, List.append_assoc, List.take_take,
      List.drop_drop]
    congr 2
    · simp
    · congr 1
      rw [List.drop_take, Nat.add_sub_cancel_left]

theorem Writes.uncons {offsets : List Nat} {st : Statement} {more : Listing} {out : Bytes}
    (h : Writes offsets (st :: more) out) :
    ∃ labelAt after, out = st.bytes labelAt (offsets.take st.strings.length) ++ after ∧
      Writes (offsets.drop st.strings.length) more after := by
  cases h with
  | cons labelAt hmore => exact ⟨labelAt, _, rfl, hmore⟩

theorem writes_singleton {offsets : List Nat} {st : Statement} {out : Bytes} (h : Writes offsets [st] out) :
    ∃ labelAt, out = st.bytes labelAt (offsets.take st.strings.length) := by
  obtain ⟨labelAt, after, rfl, hnil⟩ := h.uncons
  cases hnil
  exact ⟨labelAt, List.append_nil _⟩

theorem writes_cons {own offsets : List Nat} {st : Statement} {more : Listing} {out : Bytes}
    (hown : own.length = st.strings.length) (labelAt : Text → Nat) (h : Writes offsets more out) :
    Writes (own ++ offsets) (st :: more) (st.bytes labelAt own ++ out) := by
  have hcons : Writes (own ++ offsets) (st :: more) (st.bytes labelAt ((own ++ offsets).take st.strings.length) ++ out) :=
    .cons labelAt (by rwa [List.drop_left' hown])
  rwa [List.take_left' hown] at hcons

theorem Writes.append {offsets : List Nat} {front back : Listing} {out : Bytes} (h : Writes offsets (front ++ back) out) :
    ∃ before after, out = before ++ after ∧ Writes (offsets.take (strings front).length) front before ∧
      Writes (offsets.drop (strings front).length) back after := by
  induction front generalizing offsets out with
  | nil => exact ⟨[], out, rfl, .nil _, h⟩
  | cons st front ih =>
    obtain ⟨labelAt, more, rfl, hmore⟩ := h.uncons
    obtain ⟨before, after, rfl, hfront, hback⟩ := ih hmore
    rw [strings_cons, List.length_append, ← List.drop_drop]
    refine ⟨_, after, (List.append_assoc ..).symm, ?_, hback⟩
    have hown : (offsets.take (st.strings.length + (strings front).length)).take st.strings.length =
        offsets.take st.strings.length := by
      rw [List.take_take, Nat.min_eq_left (Nat.le_add_right _ _)]
    rw [← hown]
    refine .cons labelAt ?_
    rwa [List.drop_take, Nat.add_sub_cancel_left]

theorem fitsAt_append {sts more : Listing} {offset : Nat} :
    FitsAt offset (sts ++ more) ↔ FitsAt offset sts ∧ FitsAt (offset + size sts) more := by
  induction sts generalizing offset with
  | nil => simp [FitsAt]
  | cons st sts ih => simp [FitsAt, ih, and_assoc, Nat.add_assoc]

theorem labelTable_append (sts more : Listing) (offset : Nat) :
    labelTable offset (sts ++ more) = labelTable offset sts ++ labelTable (offset + size sts) more := by
  induction sts generalizing offset with
  | nil => simp [labelTable]
  | cons st sts ih => simp [labelTable, ih, Nat.add_assoc]

theorem read?_eq_some {inRecords : Bool} {lines : List Text} {sts : Listing} :
    read? inRecords lines = some sts ↔ lines.map (Statement.read? inRecords) = sts.map some := by
  induction lines generalizing sts with
  | nil => cases sts <;> simp [read?]
  | cons t more ih =>
    simp only [read?, Option.bind_eq_bind, Option.bind_eq_some_iff, Option.some.injEq]
    constructor
    · rintro ⟨st, hst, sts, hsts, rfl⟩
      rw [List.map_cons, List.map_cons, hst, ih.mp hsts]
    · intro h
      cases sts with
      | nil => simp at h
      | cons st sts =>
        rw [List.map_cons, List.map_cons, List.cons.injEq] at h
        exact ⟨st, h.1, sts, ih.mpr h.2, rfl⟩

theorem read?_append {inRecords : Bool} {lines more : List Text} {sts : Listing} :
    read? inRecords (lines ++ more) = some sts ↔
      ∃ front back, read? inRecords lines = some front ∧ read? inRecords more = some back ∧ sts = front ++ back := by
  simp only [read?_eq_some, List.map_append]
  constructor
  · intro h
    obtain ⟨front, back, rfl, hfront, hback⟩ := List.map_eq_append_iff.mp h.symm
    exact ⟨front, back, hfront.symm, hback.symm, rfl⟩
  · rintro ⟨front, back, hfront, hback, rfl⟩
    rw [hfront, hback, List.map_append]

theorem labels_of_read? {inRecords : Bool} {lines : List Text} {sts : Listing}
    (h : read? inRecords lines = some sts) : sts.labels = lines.flatMap lineLabels := by
  induction lines generalizing sts with
  | nil =>
    cases h
    rfl
  | cons t more ih =>
    simp only [read?, Option.bind_eq_bind, Option.bind_eq_some_iff, Option.some.injEq] at h
    obtain ⟨st, hst, sts, hsts, rfl⟩ := h
    rw [labels_cons, ih hsts, Statement.labels_of_read? hst, List.flatMap_cons]

end Listing

namespace Layout

/-- A line, then further lines. -/
theorem Extends.cons {l l₁ l₂ : Layout} {st : Statement} {sts : Listing} (h₁ : l.Extends [st] l₁)
    (h₂ : l₁.Extends sts l₂) : l.Extends (st :: sts) l₂ where
  size_eq := by
    rw [h₂.size_eq, h₁.size_eq]
    simp [Nat.add_assoc]
  labels_eq := by
    rw [h₂.labels_eq, h₁.labels_eq, h₁.size_eq]
    simp [Listing.labelTable]
  strings_eq := by
    rw [h₂.strings_eq, h₁.strings_eq]
    simp
  stringCount_eq := by
    rw [h₂.stringCount_eq, h₁.stringCount_eq]
    simp [Nat.add_assoc]
  trailer_eq := by
    rw [h₂.trailer_eq, h₁.trailer_eq]
    simp [Listing.trailer?, Option.or_assoc]
  pieces_eq := by
    obtain ⟨ps₁, heq₁, hbytes₁, hwrites₁, hforward₁, htarget₁⟩ := h₁.pieces_eq
    obtain ⟨ps₂, heq₂, hbytes₂, hwrites₂, hforward₂, htarget₂⟩ := h₂.pieces_eq
    refine ⟨ps₁ ++ ps₂, by simp [heq₁, heq₂], ?_, ?_, ?_, ?_⟩
    · intro labelAt stringAt hat
      have hat₁ : ∀ p ∈ l₁.labels, labelAt p.1 = p.2 := by
        intro p hp
        exact hat p (by rw [h₂.labels_eq]; exact List.mem_append_right _ hp)
      rw [List.flatMap_append, hbytes₁ _ _ hat₁, hbytes₂ _ _ hat, h₁.stringCount_eq]
      simp only [Listing.strings_cons, Listing.strings_nil, Listing.bytes, List.append_nil, List.length_append,
        ← List.range'_append_1, List.map_append]
      rw [List.take_of_length_le (by simp), List.take_left' (by simp), List.drop_left' (by simp)]
    · intro labelAt stringAt
      have hwrites := hwrites₁ labelAt stringAt
      rw [Listing.strings_cons, Listing.strings_nil, List.append_nil] at hwrites
      obtain ⟨lineAt, hbytes⟩ := Listing.writes_singleton hwrites
      rw [List.take_of_length_le (by simp)] at hbytes
      have hmore := hwrites₂ labelAt stringAt
      rw [h₁.stringCount_eq, Listing.strings_cons, Listing.strings_nil, List.append_nil] at hmore
      rw [List.flatMap_append, hbytes, Listing.strings_cons, List.length_append, ← List.range'_append_1, List.map_append]
      refine Listing.writes_cons (by simp) lineAt hmore
    · intro label line column hm
      rw [Listing.targets_cons]
      rcases List.mem_append.mp hm with hm | hm
      · exact List.mem_append_left _ (by simpa using hforward₁ _ _ _ hm)
      · exact List.mem_append_right _ (hforward₂ _ _ _ hm)
    · intro label hm
      rw [Listing.targets_cons] at hm
      rcases List.mem_append.mp hm with hm | hm
      · rcases htarget₁ label (by simpa using hm) with hk | ⟨line, column, hf⟩
        · refine Or.inl ?_
          rw [h₂.labels_eq, List.map_append]
          exact List.mem_append_right _ hk
        · exact Or.inr ⟨line, column, List.mem_append_left _ hf⟩
      · rcases htarget₂ label hm with hk | ⟨line, column, hf⟩
        · exact Or.inl hk
        · exact Or.inr ⟨line, column, List.mem_append_right _ hf⟩

/-! ## One line -/

theorem define_eq_ok {l l' : Layout} {line : Nat} {labels : List LabelDef} :
    l.define line labels = .ok l' ↔ (labels ≠ [] → l.size ≤ lastOffset) ∧
      l' = { l with labels := (labels.map fun d => (d.name, l.size)).reverse ++ l.labels } := by
  induction labels generalizing l with
  | nil => simp [define, eq_comm]
  | cons d more ih =>
    rw [define]
    split_ifs with h
    · simp only [reduceCtorEq, ne_eq, not_false_eq_true, forall_const, false_iff, not_and]
      omega
    · rw [ih]
      have hle : l.size ≤ lastOffset := by omega
      simp [hle]

private theorem openLine_eq_ok {l l' : Layout} {kind : LineKind} {length line column : Nat} {fault : LineFault} :
    l.openLine kind length fault line column = .ok l' ↔ kind.Opens l.size length ∧
      l' = { l with
        pieces := ((kind.head length).map Piece.byte).reverse ++ l.pieces
        size := l.size + (kind.head length).length } := by
  cases kind with
  | header =>
    simp only [openLine, LineKind.Opens, LineKind.head, push]
    split_ifs <;> simp_all [Piece.size, eq_comm]
  | instruction opcode =>
    simp only [openLine, LineKind.Opens, LineKind.head, push]
    split_ifs <;> simp_all [Piece.size, eq_comm]
  | raw => exact ⟨fun h => ⟨trivial, by cases h; rfl⟩, fun h => by rw [h.2]; rfl⟩
  | trailer => exact ⟨fun h => ⟨trivial, by cases h; rfl⟩, fun h => by rw [h.2]; rfl⟩

theorem readLength_eq_ok {column length : Nat} {t : Text} :
    readLength column t = .ok length ↔ Text.readDigits? (t.takeWhile Char.isDigit) = some length := by
  simp only [readLength]
  split_ifs with h
  · simp [Text.readDigits?, List.isEmpty_iff.mp h]
  · split <;> simp [*]

private theorem readTokens_eq_ok {inTrailer : Bool} {free : Nat} {t : Text} {tokens : List Token} (column : Nat) :
    Token.readAll? inTrailer free t = some tokens ↔
      ∃ placed, readTokens inTrailer column free [] t = .ok placed ∧ placed.map Placed.token = tokens := by
  have h := readTokens_tokens inTrailer column free [] t
  simp only [List.map_nil, List.reverse_nil, List.nil_append, Option.map_id'] at h
  rw [← h]
  cases readTokens inTrailer column free [] t <;> simp [Except.toOption]

private theorem bind_eq_ok {ε α β : Type} {x : Except ε α} {f : α → Except ε β} {b : β} :
    (x >>= f) = .ok b ↔ ∃ a, x = .ok a ∧ f a = .ok b := by
  cases x <;> simp [bind, Except.bind]

private theorem mapError_eq_ok {ε ε' α : Type} {x : Except ε α} {f : ε → ε'} {a : α} :
    x.mapError f = .ok a ↔ x = .ok a := by
  cases x <;> simp [Except.mapError]

/-- A layout with labels defined at its end. -/
def defined (l : Layout) (labels : List Text) : Layout :=
  { l with labels := (labels.map (·, l.size)).reverse ++ l.labels }

/-- A layout with the bytes that open a line. -/
private def opened (l : Layout) (bytes : Bytes) : Layout :=
  { l with pieces := (bytes.map Piece.byte).reverse ++ l.pieces, size := l.size + bytes.length }

private theorem bytesOf_eq (placed : List Placed) :
    bytesOf placed = (placed.map Placed.token).filterMap Token.byte? := by
  rw [List.filterMap_map]
  rfl

/-- A line that writes nothing into the stream adds its labels and, if it is one, the trailer. -/
private theorem extends_unwritten {st : Statement} (hst : st.written? = none) (l : Layout) :
    l.Extends [st] { l.defined st.labels with trailer? := st.trailer?.or l.trailer? } where
  size_eq := by simp [defined, Statement.size, hst]
  labels_eq := by simp [defined, Listing.labelTable]
  strings_eq := by simp [defined, Statement.strings, hst]
  stringCount_eq := by simp [defined, Statement.strings, hst]
  trailer_eq := by simp [Listing.trailer?]
  pieces_eq := by
    refine ⟨[], rfl, by simp [Listing.bytes, Statement.bytes, hst], fun labelAt stringAt => ?_, by simp,
      by simp [Statement.targets, hst]⟩
    have hwrites : Listing.Writes ((List.range' l.stringCount st.strings.length).map stringAt) [st] _ :=
      .cons labelAt (.nil _)
    simpa [Statement.bytes, hst] using hwrites

private theorem map_tokenStrings (line : Nat) (name : Text) (placed : List Placed) :
    (tokenStrings line name placed).map (fun s => PoolString.mk s.content s.suffix) =
      (placed.map Placed.token).filterMap (Token.pooled? name) := by
  simp [tokenStrings, List.map_filterMap, List.filterMap_map, Function.comp_def]

/-- A line of the stream adds its labels, its head and its tokens. -/
private theorem extends_written {st : Statement} {c : Content} {placed : List Placed} (hst : st.written? = some c)
    (htrailer : st.trailer? = none) (hplaced : placed.map Placed.token = c.tokens)
    (hsize : (c.kind.head c.length).length + (c.tokens.map Token.size).sum = c.length) (l : Layout) (line : Nat) :
    l.Extends [st] (((l.defined st.labels).opened (c.kind.head c.length)).addTokens line c.name l.stringCount
      (l.stringCount + countStrings placed) placed) := by
  have hstrings : (tokenStrings line c.name placed).map (fun s => PoolString.mk s.content s.suffix) = st.strings := by
    rw [map_tokenStrings, hplaced]
    simp [Statement.strings, hst, Content.strings]
  have hcount : countStrings placed = st.strings.length := by
    rw [countStrings_eq line c.name, ← hstrings, List.length_map]
  have hsum : (placed.map fun p => p.token.size).sum = (c.tokens.map Token.size).sum := by
    rw [← hplaced, List.map_map, Function.comp_def]
  have htargets : st.targets = (placed.map Placed.token).filterMap Token.target? := by
    simp [Statement.targets, hst, Content.targets, hplaced]
  rw [addTokens_eq]
  refine ⟨?_, by simp [defined, opened, Listing.labelTable], ?_, ?_, by simp [Listing.trailer?, htrailer, defined, opened], ?_⟩
  · simp only [defined, opened, hsum, Listing.size_cons, Listing.size_nil, Statement.size, hst, Option.map_some,
      Option.getD_some]
    omega
  · simp [defined, opened, hstrings]
  · simp [defined, opened, hcount]
  · refine ⟨(c.kind.head c.length).map Piece.byte ++ tokenPieces ((l.defined st.labels).opened
      (c.kind.head c.length)).labels line l.stringCount (l.stringCount + countStrings placed) placed,
      by simp [defined, opened], ?_, ?_, ?_, ?_⟩
    · intro labelAt stringAt hat
      rw [List.flatMap_append, bytes_tokenPieces, lineAt_eq hat, hplaced, hcount]
      rw [Listing.bytes, List.take_of_length_le (by simp)]
      simp [Listing.bytes, Statement.bytes, hst, Content.bytes, List.flatMap_map, Piece.bytes]
    · intro labelAt stringAt
      rw [List.flatMap_append, bytes_tokenPieces, hplaced, hcount]
      have hwrites : Listing.Writes ((List.range' l.stringCount st.strings.length).map stringAt) [st] _ :=
        .cons (lineAt ((l.defined st.labels).opened (c.kind.head c.length)).labels labelAt) (.nil _)
      rw [List.take_of_length_le (by simp)] at hwrites
      simpa [Statement.bytes, hst, Content.bytes, List.flatMap_map, Piece.bytes] using hwrites
    · intro label line' column hm
      rw [Listing.targets_cons, htargets]
      rcases List.mem_append.mp hm with hm | hm
      · simp at hm
      · exact List.mem_append_left _ (target_of_forward hm)
    · intro label hm
      rw [Listing.targets_cons, htargets, Listing.targets_nil, List.append_nil] at hm
      rcases forward_of_target hm with hk | ⟨line', column, hf⟩
      · exact Or.inl hk
      · exact Or.inr ⟨line', column, List.mem_append_right _ hf⟩

/-- A line that is laid out is a statement that fits, and it adds what the statement says. -/
theorem addLine_ok {l l' : Layout} {inRecords : Bool} {line : Nat} {t : Text}
    (h : l.addLine inRecords line t = .ok l') :
    ∃ st, Statement.read? inRecords t = some st ∧ st.FitsAt l.size ∧ l.Extends [st] l' := by
  simp only [addLine, bind_eq_ok, define_eq_ok] at h
  obtain ⟨_, ⟨hlabels, rfl⟩, h⟩ := h
  have hmap : ((readLine 1 [] t).1.map fun d => (d.name, l.size)) = (lineLabels t).map (·, l.size) := by
    simp [lineLabels, Function.comp_def]
  rw [hmap] at h
  have hlabels' : lineLabels t ≠ [] → l.size ≤ lastOffset := by simpa [lineLabels] using hlabels
  cases hbody : (readLine 1 [] t).2 with
  | openLabel column => simp [hbody] at h
  | nothing =>
    have hread : Statement.read? inRecords t = some ⟨lineLabels t, none⟩ := by
      simp [Statement.read?, lineHeading?, hbody, LineBody.heading?]
    refine ⟨_, hread, ⟨hlabels', by simp⟩, ?_⟩
    rw [hbody] at h
    cases h
    exact extends_unwritten rfl l
  | named column name rest =>
    cases hkind : LineKind.ofName? inRecords name with
    | none => simp [hbody, hkind] at h
    | some kind =>
      simp only [hbody, hkind, bind_eq_ok, mapError_eq_ok, readLength_eq_ok, openLine_eq_ok] at h
      obtain ⟨length, hlength, _, ⟨hopens, rfl⟩, placed, hplaced, h⟩ := h
      have htokens := (readTokens_eq_ok _).mpr ⟨placed, hplaced, rfl⟩
      have hread : Statement.read? inRecords t =
          some ⟨lineLabels t, some ⟨kind, name, length, placed.map Placed.token⟩⟩ := by
        simp [Statement.read?, lineHeading?, hbody, LineBody.heading?, Content.read?, hkind, hlength, htokens]
      refine ⟨_, hread, ?_⟩
      by_cases htrailer : kind = .trailer
      · subst htrailer
        simp only [beq_self_eq_true, if_true, LineKind.head] at h
        split_ifs at h with hcount
        cases h
        rw [ne_eq, not_not, bytesOf_eq] at hcount
        refine ⟨⟨hlabels', ?_⟩, ?_⟩
        · rintro _ ⟨rfl⟩
          exact ⟨hopens, by simpa using hcount⟩
        · rw [bytesOf_eq]
          exact extends_unwritten rfl l
      · simp only [beq_iff_eq, htrailer, if_false] at h
        split_ifs at h with hcount
        cases h
        have hsize : (kind.head length).length + ((placed.map Placed.token).map Token.size).sum = length := by
          rw [ne_eq, not_not, addTokens_eq] at hcount
          simp only [List.map_map, Function.comp_def] at hcount ⊢
          omega
        refine ⟨⟨hlabels', ?_⟩, ?_⟩
        · rintro _ ⟨rfl⟩
          exact ⟨hopens, by simpa [htrailer] using hsize⟩
        · let st : Statement := ⟨lineLabels t, some ⟨kind, name, length, placed.map Placed.token⟩⟩
          have hwritten : st.written? = some ⟨kind, name, length, placed.map Placed.token⟩ := by
            simp [st, Statement.written?, htrailer]
          exact extends_written hwritten (by simp [st, Statement.trailer?, htrailer]) rfl hsize l line

/-- A statement that fits is laid out. -/
theorem exists_addLine {l : Layout} {inRecords : Bool} {t : Text} {st : Statement}
    (hread : Statement.read? inRecords t = some st) (hfits : st.FitsAt l.size) (line : Nat) :
    ∃ l', l.addLine inRecords line t = .ok l' := by
  simp only [addLine, bind_eq_ok, define_eq_ok]
  cases hbody : (readLine 1 [] t).2 with
  | openLabel column => simp [Statement.read?, lineHeading?, hbody, LineBody.heading?] at hread
  | nothing =>
    simp only [Statement.read?, lineHeading?, hbody, LineBody.heading?, Option.some.injEq] at hread
    subst hread
    exact ⟨_, _, ⟨by simpa [lineLabels] using hfits.1, rfl⟩, rfl⟩
  | named column name rest =>
    simp only [Statement.read?, lineHeading?, hbody, LineBody.heading?, Option.map_eq_some_iff] at hread
    obtain ⟨c, hc, rfl⟩ := hread
    obtain ⟨hopens, hlength⟩ := hfits.2 c rfl
    simp only [Content.read?, Option.bind_eq_bind, Option.bind_eq_some_iff, Option.some.injEq] at hc
    obtain ⟨kind, hkind, length, hdigits, tokens, htokens, rfl⟩ := hc
    obtain ⟨placed, hplaced, rfl⟩ :=
      (readTokens_eq_ok (column + name.length + 1 + (rest.takeWhile Char.isDigit).length)).mp htokens
    have hlabels : (readLine 1 [] t).1 ≠ [] → l.size ≤ lastOffset := by simpa [lineLabels] using hfits.1
    simp only [hkind, bind_eq_ok, mapError_eq_ok, readLength_eq_ok, openLine_eq_ok]
    by_cases htrailer : kind = .trailer
    · subst htrailer
      simp only [if_true, ← bytesOf_eq] at hlength
      exact ⟨_, _, ⟨hlabels, rfl⟩, length, hdigits, _, ⟨hopens, rfl⟩, placed, hplaced,
        by rw [if_pos (beq_self_eq_true _), if_neg (not_not.mpr hlength)]⟩
    · simp only [htrailer, if_false, List.map_map, Function.comp_def] at hlength
      exact ⟨_, _, ⟨hlabels, rfl⟩, length, hdigits, _, ⟨hopens, rfl⟩, placed, hplaced, by
        rw [if_neg (by simpa using htrailer), if_neg]
        rw [ne_eq, not_not, addTokens_eq]
        dsimp only
        omega⟩

/-! ## All lines -/

/-- Lines that are laid out are statements that fit one after the other. -/
theorem addLines_ok {l l' : Layout} {inRecords : Bool} {line : Nat} {lines : List Text}
    (h : l.addLines inRecords line lines = .ok l') :
    ∃ sts, Listing.read? inRecords lines = some sts ∧ sts.FitsAt l.size ∧ l.Extends sts l' := by
  induction lines generalizing l line with
  | nil =>
    obtain rfl : l = l' := by simpa [addLines] using h
    exact ⟨[], rfl, trivial, Extends.refl l⟩
  | cons t more ih =>
    rw [addLines] at h
    split at h
    · cases h
    · rename_i l₁ hline
      obtain ⟨st, hread, hfits, hst⟩ := addLine_ok hline
      obtain ⟨sts, hreads, hfitss, hsts⟩ := ih h
      refine ⟨st :: sts, by simp [Listing.read?, hread, hreads], ⟨hfits, ?_⟩, hst.cons hsts⟩
      have hsize := hst.size_eq
      simp only [Listing.size_cons, Listing.size_nil, Nat.add_zero] at hsize
      rwa [← hsize]

/-- Statements that fit one after the other are laid out. -/
theorem exists_addLines {l : Layout} {inRecords : Bool} {lines : List Text} {sts : Listing}
    (hread : Listing.read? inRecords lines = some sts) (hfits : sts.FitsAt l.size) (line : Nat) :
    ∃ l', l.addLines inRecords line lines = .ok l' ∧ l.Extends sts l' := by
  induction lines generalizing l line sts with
  | nil =>
    cases hread
    exact ⟨l, rfl, Extends.refl l⟩
  | cons t more ih =>
    simp only [Listing.read?, Option.bind_eq_bind, Option.bind_eq_some_iff, Option.some.injEq] at hread
    obtain ⟨st, hst, sts, hsts, rfl⟩ := hread
    obtain ⟨l₁, hline⟩ := exists_addLine hst hfits.1 line
    obtain ⟨st', hst', -, hextends⟩ := addLine_ok hline
    obtain rfl : st = st' := Option.some.inj (hst.symm.trans hst')
    have hsize := hextends.size_eq
    simp only [Listing.size_cons, Listing.size_nil, Nat.add_zero] at hsize
    obtain ⟨l', hlines, hextends'⟩ := ih hsts (hsize ▸ hfits.2) (line + 1)
    exact ⟨l', by rw [addLines, hline]; exact hlines, hextends.cons hextends'⟩

end Layout
end SceneScript
