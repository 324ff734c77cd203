import Mathlib
import SceneScript.Proofs.Script.Image
/-!
# Where everything stands in an assembled script

Each line of a listing fills its own stretch of the stream, each token of a line its own bytes, each label reference
holds the offset of the definition and each cell that of its string.
-/
namespace SceneScript

namespace Token

/-- The bytes of one token: `labelAt` tells where labels stand, `cellWord` what the next cell holds. -/
def image (labelAt : Text → Nat) (cellWord : Nat) : Token → Bytes
  | byte b => [b]
  | cell => Bytes.word16 cellWord
  | target label => Bytes.word16 (labelAt label)
  | string .. => []

theorem bytes_append (labelAt : Text → Nat) (offsets : List Nat) (tokens more : List Token) :
    bytes labelAt offsets (tokens ++ more) =
      bytes labelAt offsets tokens ++ bytes labelAt (offsets.drop (tokens.count cell)) more := by
  fun_induction bytes labelAt offsets tokens <;> simp_all [bytes]

theorem bytes_cons (labelAt : Text → Nat) (offsets : List Nat) (token : Token) (more : List Token) :
    bytes labelAt offsets (token :: more) =
      token.image labelAt (offsets.headD 0) ++ bytes labelAt (offsets.drop ([token].count cell)) more := by
  cases token with
  | cell => cases offsets <;> simp [bytes, image]
  | byte | target | string => simp [bytes, image]

theorem length_image (labelAt : Text → Nat) (cellWord : Nat) (token : Token) :
    (token.image labelAt cellWord).length = token.size := by
  cases token <;> rfl

/-- A token stands after the tokens before it, and a cell takes the offset that is its turn. -/
theorem take_drop_bytes {labelAt : Text → Nat} {offsets : List Nat} {tokens : List Token} {j : Nat} {token : Token}
    (h : tokens[j]? = some token) (after : Bytes) :
    ((bytes labelAt offsets tokens ++ after).drop ((tokens.take j).map size).sum).take token.size =
      token.image labelAt (offsets.getD ((tokens.take j).count cell) 0) := by
  obtain ⟨hj, rfl⟩ := List.getElem?_eq_some_iff.mp h
  have hsplit : tokens = tokens.take j ++ tokens[j] :: tokens.drop (j + 1) := by
    rw [List.cons_getElem_drop_succ, List.take_append_drop]
  have hbytes : bytes labelAt offsets tokens = bytes labelAt offsets (tokens.take j) ++
      (tokens[j].image labelAt (offsets.getD ((tokens.take j).count cell) 0) ++
        bytes labelAt ((offsets.drop ((tokens.take j).count cell)).drop ([tokens[j]].count cell))
          (tokens.drop (j + 1))) := by
    conv_lhs => rw [hsplit]
    rw [bytes_append, bytes_cons, List.headD_eq_head?_getD, List.head?_drop, List.getD_eq_getElem?_getD]
  rw [hbytes, List.append_assoc, List.drop_left' (length_bytes ..), List.append_assoc,
    List.take_left' (length_image ..)]

end Token

namespace Listing

/-- The offset at which a line begins. -/
def start (sts : Listing) (i : Nat) : Nat := size (sts.take i)

/-- The offset of a string by its number. -/
def stringOffset (sts : Listing) (parts : List Bytes) (k : Nat) : Nat := sts.size + (parts.take k).flatten.length

/-- The offsets of the strings of a line. -/
def lineOffsets (sts : Listing) (parts : List Bytes) (i : Nat) (st : Statement) : List Nat :=
  (List.range' (strings (sts.take i)).length st.strings.length).map (sts.stringOffset parts)

/-- How an assembled script is laid out: stream, pool and trailer one after the other, and in the stream each line and
each token of it in its place. -/
structure LaidOut (ts : Typesetter) (sts : Listing) (parts : List Bytes) (out : Bytes) : Prop where
  regions : ∃ stream trailer, out = stream ++ (parts.flatten ++ trailer) ∧ stream.length = sts.size ∧
    sts.trailer? = some trailer
  parts_eq : List.Forall₂ (fun s part => PoolString.part? ts s = some part) sts.strings parts
  string_eq : ∀ k part, parts[k]? = some part → sts.stringOffset parts k ≤ lastOffset ∧
    (out.drop (sts.stringOffset parts k)).take part.length = part
  label_eq : ∀ i st, sts[i]? = some st → ∀ label ∈ st.labels,
    sts.labelOffset label = sts.start i ∧ sts.start i ≤ lastOffset
  defined : ∀ label ∈ sts.targets, label ∈ sts.labels
  line_eq : ∀ i st c, sts[i]? = some st → st.written? = some c →
    (out.drop (sts.start i)).take c.length = c.bytes sts.labelOffset (sts.lineOffsets parts i st) ∧
      (c.kind.head c.length).length + (c.tokens.map Token.size).sum = c.length
  token_eq : ∀ i st c j token, sts[i]? = some st → st.written? = some c → c.tokens[j]? = some token →
    (out.drop (sts.start i + ((c.kind.head c.length).length + ((c.tokens.take j).map Token.size).sum))).take
        token.size =
      token.image sts.labelOffset ((sts.lineOffsets parts i st).getD ((c.tokens.take j).count .cell) 0)

theorem split_at {sts : Listing} {i : Nat} {st : Statement} (h : sts[i]? = some st) :
    sts = sts.take i ++ st :: sts.drop (i + 1) := by
  obtain ⟨hi, rfl⟩ := List.getElem?_eq_some_iff.mp h
  rw [List.cons_getElem_drop_succ, List.take_append_drop]

theorem fitsAt_of_getElem? {sts : Listing} (hfits : sts.FitsAt 0) {i : Nat} {st : Statement}
    (h : sts[i]? = some st) : st.FitsAt (sts.start i) := by
  rw [split_at h, fitsAt_append, Nat.zero_add] at hfits
  exact hfits.2.1

private theorem mem_labelTable {sts : Listing} {i : Nat} {st : Statement} (h : sts[i]? = some st) {label : Text}
    (hlabel : label ∈ st.labels) : (label, sts.start i) ∈ sts.labelTable 0 := by
  have htable : sts.labelTable 0 = labelTable 0 (sts.take i) ++ (st.labels.map (·, sts.start i) ++
      labelTable (sts.start i + st.size) (sts.drop (i + 1))) := by
    conv_lhs => rw [split_at h]
    rw [labelTable_append, Nat.zero_add]
    rfl
  rw [htable]
  simp [hlabel]

/-- The offsets that fall to a line are those of its own strings. -/
private theorem lineOffsets_eq {sts : Listing} {parts : List Bytes} (hlength : sts.strings.length = parts.length)
    {i : Nat} {st : Statement} (h : sts[i]? = some st) :
    ((poolOffsets sts.size parts).drop (strings (sts.take i)).length).take st.strings.length =
      sts.lineOffsets parts i st := by
  have hle : (strings (sts.take i)).length + st.strings.length ≤ parts.length := by
    have hstrings := congrArg (fun l => (strings l).length) (split_at h)
    simp only [strings, List.flatMap_append, List.flatMap_cons, List.length_append] at hstrings hlength ⊢
    omega
  rw [poolOffsets_eq, lineOffsets, ← List.map_drop, ← List.map_take, List.range_eq_range']
  congr 1
  apply List.ext_getElem
  · simp only [List.length_take, List.length_drop, List.length_range']
    omega
  · intro k _ _
    simp

/-- The bytes of a line stand in the stream after those of the lines before it. -/
private theorem drop_image {ts : Typesetter} {sts : Listing} {parts : List Bytes} {trailer : Bytes}
    (hsts : sts.Assembles ts parts trailer) {i : Nat} {st : Statement} (h : sts[i]? = some st) :
    ∃ after, (sts.image parts trailer).drop (sts.start i) =
      st.bytes sts.labelOffset (sts.lineOffsets parts i st) ++ after := by
  have hsplit := split_at h
  have hfits := hsts.fits
  rw [hsplit, fitsAt_append] at hfits
  have hstream : sts.bytes sts.labelOffset (poolOffsets sts.size parts) =
      bytes sts.labelOffset ((poolOffsets sts.size parts).take (strings (sts.take i)).length) (sts.take i) ++
        bytes sts.labelOffset ((poolOffsets sts.size parts).drop (strings (sts.take i)).length)
          (st :: sts.drop (i + 1)) := by
    rw [← bytes_append, ← hsplit]
  rw [image, hstream, start, List.append_assoc, List.drop_left' (length_bytes hfits.1 _ _), bytes,
    lineOffsets_eq hsts.parts_eq.length_eq h, List.append_assoc]
  exact ⟨_, rfl⟩

/-- The pool begins where the stream ends, and each part where the parts before it end. -/
private theorem drop_stringOffset {ts : Typesetter} {sts : Listing} {parts : List Bytes} {trailer : Bytes}
    (hsts : sts.Assembles ts parts trailer) {k : Nat} {part : Bytes} (h : parts[k]? = some part) :
    ∃ after, (sts.image parts trailer).drop (sts.stringOffset parts k) = part ++ after := by
  obtain ⟨hk, rfl⟩ := List.getElem?_eq_some_iff.mp h
  have hparts : parts.flatten = (parts.take k).flatten ++ (parts[k] ++ (parts.drop (k + 1)).flatten) := by
    rw [← List.flatten_cons, ← List.flatten_append, List.cons_getElem_drop_succ, List.take_append_drop]
  have hlength := length_bytes hsts.fits sts.labelOffset (poolOffsets sts.size parts)
  have himage : sts.image parts trailer =
      (sts.bytes sts.labelOffset (poolOffsets sts.size parts) ++ (parts.take k).flatten) ++
        (parts[k] ++ ((parts.drop (k + 1)).flatten ++ trailer)) := by
    rw [image]
    conv_lhs => rw [hparts]
    simp only [List.append_assoc]
  rw [himage, List.drop_left' (by rw [List.length_append, hlength, stringOffset])]
  exact ⟨_, rfl⟩

theorem Assembles.laidOut {ts : Typesetter} {sts : Listing} {parts : List Bytes} {trailer : Bytes}
    (hsts : sts.Assembles ts parts trailer) (hnodup : sts.labels.Nodup) :
    sts.LaidOut ts parts (sts.image parts trailer) where
  regions := ⟨_, trailer, rfl, length_bytes hsts.fits _ _, hsts.trailer_eq⟩
  parts_eq := hsts.parts_eq
  string_eq := by
    intro k part hk
    obtain ⟨after, hafter⟩ := drop_stringOffset hsts hk
    refine ⟨hsts.inReach _ ?_, by rw [hafter, List.take_left]⟩
    rw [poolOffsets_eq]
    exact List.mem_map.mpr ⟨k, List.mem_range.mpr (List.getElem?_eq_some_iff.mp hk).1, rfl⟩
  label_eq := by
    intro i st hi label hlabel
    refine ⟨labelOffset_eq hnodup (mem_labelTable hi hlabel), ?_⟩
    exact (fitsAt_of_getElem? hsts.fits hi).1 (List.ne_nil_of_mem hlabel)
  defined := hsts.defined
  line_eq := by
    intro i st c hi hc
    have hfits := fitsAt_of_getElem? hsts.fits hi
    obtain ⟨hcontent, hkind⟩ := Option.filter_eq_some_iff.mp hc
    have hlength := (hfits.2 c hcontent).2
    rw [if_neg (by simpa using hkind)] at hlength
    obtain ⟨after, hafter⟩ := drop_image hsts hi
    refine ⟨?_, hlength⟩
    have hsize : (st.bytes sts.labelOffset (sts.lineOffsets parts i st)).length = c.length := by
      rw [Statement.length_bytes hfits, Statement.size, hc]
      rfl
    rw [hafter, List.take_left' hsize, Statement.bytes, hc]
    rfl
  token_eq := by
    intro i st c j token hi hc hj
    obtain ⟨after, hafter⟩ := drop_image hsts hi
    rw [← List.drop_drop, hafter, Statement.bytes, hc, Option.map_some, Option.getD_some, Content.bytes,
      List.append_assoc, ← List.drop_drop, List.drop_left, Token.take_drop_bytes hj]

end Listing

/-! ## What may differ between two scripts -/

/-- Whether bytes, the first of them at an offset, are as many as others and the same outside some cells. -/
def AgreesOutside (cells : List Nat) (offset : Nat) (bytes bytes' : Bytes) : Prop :=
  bytes'.length = bytes.length ∧
    ∀ i, (∀ cell ∈ cells, offset + i ≠ cell ∧ offset + i ≠ cell + 1) → bytes'[i]? = bytes[i]?

theorem AgreesOutside.refl (cells : List Nat) (offset : Nat) (bytes : Bytes) : AgreesOutside cells offset bytes bytes :=
  ⟨rfl, fun _ _ => rfl⟩

theorem AgreesOutside.append {cells more : List Nat} {offset : Nat} {front front' back back' : Bytes}
    (h₁ : AgreesOutside cells offset front front') (h₂ : AgreesOutside more (offset + front.length) back back') :
    AgreesOutside (cells ++ more) offset (front ++ back) (front' ++ back') := by
  refine ⟨by rw [List.length_append, List.length_append, h₁.1, h₂.1], ?_⟩
  intro i hi
  rw [List.forall_mem_append] at hi
  by_cases hlt : i < front.length
  · rw [List.getElem?_append_left hlt, List.getElem?_append_left (h₁.1 ▸ hlt), h₁.2 i hi.1]
  · rw [List.getElem?_append_right (Nat.le_of_not_lt hlt), List.getElem?_append_right (by rw [h₁.1]; omega), h₁.1]
    apply h₂.2
    intro cell hcell
    have := hi.2 cell hcell
    omega

theorem AgreesOutside.word16 (offset m n : Nat) :
    AgreesOutside [offset] offset (Bytes.word16 m) (Bytes.word16 n) := by
  refine ⟨rfl, ?_⟩
  intro i hi
  have hne := hi offset (List.mem_singleton_self _)
  rw [List.getElem?_eq_none, List.getElem?_eq_none] <;>
  · simp only [Bytes.word16, List.length_cons, List.length_nil]
    omega

namespace Token

/-- Whether a token stands for the offset of a string or of one of some labels. -/
def moves (labels : List Text) : Token → Bool
  | cell => true
  | target label => labels.contains label
  | byte _ | string .. => false

/-- Where such tokens stand, the first token at an offset. -/
def movable (labels : List Text) : Nat → List Token → List Nat
  | _, [] => []
  | offset, token :: more => (if token.moves labels then [offset] else []) ++ movable labels (offset + token.size) more

theorem agreesOutside_bytes {labels : List Text} {f g : Text → Nat} {tokens : List Token}
    (h : ∀ label ∈ tokens.filterMap target?, label ∉ labels → f label = g label) (offset : Nat) (os os' : List Nat) :
    AgreesOutside (movable labels offset tokens) offset (bytes f os tokens) (bytes g os' tokens) := by
  induction tokens generalizing offset os os' with
  | nil => exact .refl ..
  | cons token more ih =>
    have hmore : ∀ label ∈ more.filterMap target?, label ∉ labels → f label = g label := by
      intro label hlabel
      exact h label ((List.sublist_cons_self token more).filterMap target? |>.subset hlabel)
    rw [bytes_cons, bytes_cons, movable]
    refine AgreesOutside.append ?_ (by rw [length_image]; exact ih hmore _ _ _)
    cases token with
    | byte | string => exact .refl ..
    | cell => exact .word16 ..
    | target label =>
      rw [moves]
      by_cases hlabel : label ∈ labels
      · rw [if_pos (List.contains_iff_mem.mpr hlabel)]
        exact .word16 ..
      · rw [if_neg (by simpa using hlabel), image, image, h label (by simp [target?]) hlabel]
        exact .refl ..

end Token

namespace Statement

def movable (labels : List Text) (offset : Nat) (st : Statement) : List Nat :=
  (st.written?.map fun c => Token.movable labels (offset + (c.kind.head c.length).length) c.tokens).getD []

theorem agreesOutside_bytes {labels : List Text} {f g : Text → Nat} {st : Statement}
    (h : ∀ label ∈ st.targets, label ∉ labels → f label = g label) (offset : Nat) (os os' : List Nat) :
    AgreesOutside (st.movable labels offset) offset (st.bytes f os) (st.bytes g os') := by
  rw [movable, bytes, bytes]
  rw [targets] at h
  cases hw : st.written? with
  | none => exact .refl ..
  | some c =>
    rw [hw] at h
    exact (AgreesOutside.refl [] offset _).append (Token.agreesOutside_bytes h _ os os')

end Statement

/-- Where the words of a listing stand that hold the offset of a string or of one of some labels. -/
def Listing.movable (labels : List Text) : Nat → Listing → List Nat
  | _, [] => []
  | offset, st :: more => st.movable labels offset ++ movable labels (offset + st.size) more

/-- Whether a string stands at an offset of a script. -/
def PoolString.StandsAt (ts : Typesetter) (out : Bytes) (s : PoolString) (offset : Nat) : Prop :=
  offset ≤ lastOffset ∧ ∃ part, s.part? ts = some part ∧ (out.drop offset).take part.length = part

/-- Whether a line stands at an offset of a script and its cells lead to its strings. -/
def Statement.StandsAt (ts : Typesetter) (out : Bytes) (labelAt : Text → Nat) (st : Statement) (offset : Nat) : Prop :=
  ∃ offsets, (out.drop offset).take st.size = st.bytes labelAt offsets ∧
    List.Forall₂ (PoolString.StandsAt ts out) st.strings offsets

/-- Whether lines stand at an offset one after the other. -/
def Listing.StandsAt (ts : Typesetter) (out : Bytes) (labelAt : Text → Nat) (sts : Listing) (offset : Nat) : Prop :=
  ∃ offsets, (out.drop offset).take sts.size = sts.bytes labelAt offsets ∧
    List.Forall₂ (PoolString.StandsAt ts out) sts.strings offsets

namespace Listing

theorem Assembles.strings_stand {ts : Typesetter} {sts : Listing} {parts : List Bytes} {trailer : Bytes}
    (hsts : sts.Assembles ts parts trailer) :
    List.Forall₂ (PoolString.StandsAt ts (sts.image parts trailer)) sts.strings (poolOffsets sts.size parts) := by
  have hlengths := hsts.parts_eq.length_eq
  refine List.forall₂_iff_get.mpr ⟨by rw [hlengths, length_poolOffsets], ?_⟩
  intro k hk hk'
  have hparts : k < parts.length := hlengths ▸ hk
  obtain ⟨after, hafter⟩ := drop_stringOffset hsts (List.getElem?_eq_getElem hparts)
  have hoffset : (poolOffsets sts.size parts)[k] = sts.stringOffset parts k := by
    simp only [poolOffsets_eq, List.getElem_map, List.getElem_range]
    rfl
  refine ⟨hsts.inReach _ (List.get_mem _ _), parts[k], (List.forall₂_iff_get.mp hsts.parts_eq).2 k hk hparts, ?_⟩
  rw [List.get_eq_getElem, hoffset, hafter, List.take_left]

/-- Lines one after the other fill their own stretch of the script. -/
theorem Assembles.segment {ts : Typesetter} {sts front block rest : Listing} {parts : List Bytes} {trailer : Bytes}
    (hsts : sts.Assembles ts parts trailer) (h : sts = front ++ (block ++ rest)) :
    block.StandsAt ts (sts.image parts trailer) sts.labelOffset front.size := by
  have hfits := hsts.fits
  rw [h, fitsAt_append, fitsAt_append] at hfits
  let offsets := poolOffsets sts.size parts
  let own := (offsets.drop (strings front).length).take (strings block).length
  have hstand := List.forall₂_drop (strings front).length hsts.strings_stand
  have hstrings : sts.strings = strings front ++ (strings block ++ strings rest) := by
    rw [h, strings_append, strings_append]
  have hblock := List.forall₂_take (strings block).length hstand
  rw [hstrings, List.drop_left, List.take_left] at hblock
  have himage : sts.image parts trailer = bytes sts.labelOffset (offsets.take (strings front).length) front ++
      (block.bytes sts.labelOffset own ++
        (rest.bytes sts.labelOffset ((offsets.drop (strings front).length).drop (strings block).length) ++
          (parts.flatten ++ trailer))) := by
    have hstream : sts.bytes sts.labelOffset offsets =
        bytes sts.labelOffset offsets (front ++ (block ++ rest)) := by
      rw [← h]
    rw [image, hstream, bytes_append, bytes_append]
    simp only [List.append_assoc]
    rfl
  have hlength := length_bytes hfits.2.1 sts.labelOffset own
  refine ⟨own, ?_, hblock⟩
  rw [himage, List.drop_left' (length_bytes hfits.1 _ _), List.take_left' hlength]

theorem standsAt_singleton {ts : Typesetter} {out : Bytes} {labelAt : Text → Nat} {st : Statement} {offset : Nat} :
    StandsAt ts out labelAt [st] offset ↔ st.StandsAt ts out labelAt offset := by
  rw [StandsAt, Statement.StandsAt, strings_cons, strings_nil, List.append_nil, size_cons, size_nil, Nat.add_zero]
  refine exists_congr fun offsets => and_congr_left fun hstand => ?_
  rw [bytes, bytes, List.append_nil, hstand.length_eq, List.take_length]

/-- A line fills its own stretch of the script. -/
theorem Assembles.line {ts : Typesetter} {sts : Listing} {parts : List Bytes} {trailer : Bytes}
    (hsts : sts.Assembles ts parts trailer) {i : Nat} {st : Statement} (h : sts[i]? = some st) :
    st.StandsAt ts (sts.image parts trailer) sts.labelOffset (sts.start i) := by
  have hsplit : sts = sts.take i ++ ([st] ++ sts.drop (i + 1)) := split_at h
  exact standsAt_singleton.mp (hsts.segment hsplit)

theorem movable_append (labels : List Text) (offset : Nat) (sts more : Listing) :
    movable labels offset (sts ++ more) = movable labels offset sts ++ movable labels (offset + sts.size) more := by
  induction sts generalizing offset with
  | nil => rfl
  | cons st sts ih => simp [movable, ih, Nat.add_assoc]

theorem movable_subset {sts : Listing} {i : Nat} {st : Statement} (h : sts[i]? = some st) (labels : List Text) :
    st.movable labels (sts.start i) ⊆ sts.movable labels 0 := by
  intro cell hcell
  rw [split_at h, movable_append, Nat.zero_add]
  exact List.mem_append_right _ (List.mem_append_left _ hcell)

theorem start_succ {sts : Listing} {i : Nat} {st : Statement} (h : sts[i]? = some st) :
    sts.start (i + 1) = sts.start i + st.size := by
  rw [start, start, List.take_add_one, h, Option.toList_some, size_append, size_cons, size_nil, Nat.add_zero]

/-- Each offset of the stream lies in a line. -/
theorem exists_line_of_lt_size {sts : Listing} {k : Nat} (h : k < sts.size) :
    ∃ i st, sts[i]? = some st ∧ sts.start i ≤ k ∧ k < sts.start i + st.size := by
  induction sts generalizing k with
  | nil => simp at h
  | cons st more ih =>
    by_cases hk : k < st.size
    · exact ⟨0, st, rfl, Nat.zero_le k, by simpa [start] using hk⟩
    · rw [size_cons] at h
      obtain ⟨i, st', hst', hle, hlt⟩ := ih (k := k - st.size) (by omega)
      refine ⟨i + 1, st', hst', ?_, ?_⟩ <;>
      · rw [start, List.take_succ_cons, size_cons]
        rw [start] at hle hlt
        omega

end Listing

/-- An assembled script without repeated labels is laid out as the lines of its dump say. -/
theorem assemble_laidOut {name : String} {source : Text} {ts : Typesetter} {out : Bytes}
    (h : (assemble name source ts).1 = .ok out) (hnodup : ((Text.lines source).flatMap lineLabels).Nodup) :
    ∃ sts parts, Listing.read? (isRecordFile name) (Text.lines source) = some sts ∧ sts.LaidOut ts parts out := by
  obtain ⟨sts, hread⟩ := read?_of_assemble h
  rw [← Listing.labels_of_read? hread] at hnodup
  obtain ⟨parts, trailer, hsts, rfl⟩ := (assemble_ok_iff hread hnodup).mp h
  exact ⟨sts, parts, hread, hsts.laidOut hnodup⟩

/-- Two jumps around a message, one forward to the jump after it and one back to the first. -/
theorem assemble_laidOut_jumps :
    let source := "header.2 00\n&a: Loop_Cond.4 &b\nmessage.4 S @Hi\n&b: Loop_Cond.4 &a\ntrailer.1 FF".toList
    let out : Bytes := [2, 0, 6, 4, 10, 0, 0x18, 4, 14, 0, 6, 4, 2, 0, 0x48, 0x69, 0, 0xFF]
    (assemble "SC01" source (.plain .big5)).1 = .ok out ∧
      ∃ sts parts, Listing.read? (isRecordFile "SC01") (Text.lines source) = some sts ∧
        sts.LaidOut (.plain .big5) parts out := by
  intro source out
  have h : (assemble "SC01" source (.plain .big5)).1 = .ok out := by decide +kernel
  exact ⟨h, assemble_laidOut h (by decide +kernel)⟩

end SceneScript
