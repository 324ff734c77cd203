import Mathlib
import SceneScript.Proofs.Script.Listing
import SceneScript.Script.Assembly
/-!
# The image of a listing

An assembled script in closed form: the bytes of the statements, then the pool with one part for each string, then the
trailer. Assembly succeeds exactly when the statements fit, every label is defined and every string is in reach and
encodable.
-/
namespace SceneScript

/-- The bytes a string takes in the pool. -/
def PoolString.part? (ts : Typesetter) (s : PoolString) : Option Bytes :=
  (ts.encode s.content).1.toOption.map (· ++ (s.suffix ++ [0]))

/-- Where the parts of a pool stand when the first stands at an offset. -/
def poolOffsets : Nat → List Bytes → List Nat
  | _, [] => []
  | offset, part :: more => offset :: poolOffsets (offset + part.length) more

theorem length_poolOffsets (offset : Nat) (parts : List Bytes) :
    (poolOffsets offset parts).length = parts.length := by
  induction parts generalizing offset with
  | nil => rfl
  | cons part more ih => simp [poolOffsets, ih]

theorem poolOffsets_append (offset : Nat) (parts more : List Bytes) :
    poolOffsets offset (parts ++ more) = poolOffsets offset parts ++ poolOffsets (offset + parts.flatten.length) more := by
  induction parts generalizing offset with
  | nil => rfl
  | cons part parts ih =>
    rw [List.cons_append, poolOffsets, poolOffsets, ih, List.flatten_cons, List.length_append, Nat.add_assoc]
    rfl

theorem poolOffsets_eq (offset : Nat) (parts : List Bytes) :
    poolOffsets offset parts = (List.range parts.length).map fun k => offset + (parts.take k).flatten.length := by
  induction parts generalizing offset with
  | nil => rfl
  | cons part more ih =>
    rw [poolOffsets, ih, List.length_cons, List.range_succ_eq_map, List.map_cons, List.map_map]
    simp [Function.comp_def, Nat.add_assoc]

/-- In a pool each part stands at its offset. -/
theorem drop_poolOffsets {bytes after : Bytes} {offset : Nat} {parts : List Bytes}
    (h : bytes.drop offset = parts.flatten ++ after) :
    List.Forall₂ (fun offset part => ∃ after, bytes.drop offset = part ++ after) (poolOffsets offset parts) parts := by
  induction parts generalizing offset with
  | nil => exact .nil
  | cons part more ih =>
    rw [List.flatten_cons, List.append_assoc] at h
    refine .cons ⟨_, h⟩ (ih ?_)
    rw [← List.drop_drop, h, List.drop_left]

/-- A pool is filled exactly when each string has its part and starts within reach. -/
private theorem add_eq_ok {ts : Typesetter} {strings : List Pooled} {offset : Nat} {pool pool' : Pool} {log : Log} :
    (Pool.add ts offset pool log strings).1 = .ok pool' ↔
      ∃ parts, List.Forall₂ (fun s part => PoolString.part? ts ⟨s.content, s.suffix⟩ = some part) strings parts ∧
        (∀ o ∈ poolOffsets offset parts, o ≤ lastOffset) ∧
        pool' = ⟨pool.offsets ++ (poolOffsets offset parts).toArray, parts.reverse ++ pool.parts⟩ := by
  induction strings generalizing offset pool log with
  | nil =>
    simp [Pool.add, poolOffsets, eq_comm]
  | cons s more ih =>
    rw [Pool.add]
    split_ifs with hreach
    · simp only [false_iff, not_exists, not_and]
      rintro parts hparts hbound
      cases hparts with
      | cons hpart _ =>
        have := hbound offset (by simp [poolOffsets])
        omega
    · dsimp only
      split
      · rename_i c hc
        simp only [reduceCtorEq, false_iff, not_exists, not_and]
        rintro parts hparts
        cases hparts with
        | cons hpart _ => simp [PoolString.part?, hc, Except.toOption] at hpart
      · rename_i bytes hbytes
        have hpart : PoolString.part? ts ⟨s.content, s.suffix⟩ = some (bytes ++ (s.suffix ++ [0])) := by
          simp [PoolString.part?, hbytes, Except.toOption]
        rw [ih]
        constructor
        · rintro ⟨parts, hparts, hbound, rfl⟩
          refine ⟨_ :: parts, .cons hpart hparts, ?_, ?_⟩
          · rw [poolOffsets, List.forall_mem_cons]
            exact ⟨by omega, hbound⟩
          · simp [poolOffsets]
        · rintro ⟨_, hparts, hbound, rfl⟩
          cases hparts with
          | @cons _ part _ parts hs hmore =>
            obtain rfl : part = bytes ++ (s.suffix ++ [0]) := Option.some.inj (hs.symm.trans hpart)
            rw [poolOffsets, List.forall_mem_cons] at hbound
            exact ⟨parts, hmore, hbound.2, by simp [poolOffsets]⟩

namespace Statement

theorem length_bytes {st : Statement} {offset : Nat} (hfits : st.FitsAt offset) (labelAt : Text → Nat)
    (offsets : List Nat) : (st.bytes labelAt offsets).length = st.size := by
  unfold bytes size
  cases hw : st.written? with
  | none => rfl
  | some c =>
    obtain ⟨hc, hkind⟩ := Option.filter_eq_some_iff.mp hw
    have hlength := (hfits.2 c hc).2
    rw [if_neg (by simpa using hkind)] at hlength
    simp only [Option.map_some, Option.getD_some, Content.bytes, List.length_append, Token.length_bytes]
    exact hlength

end Statement

namespace Listing

/-- The stream is as long as its lines declare. -/
theorem length_bytes {sts : Listing} {offset : Nat} (hfits : sts.FitsAt offset) (labelAt : Text → Nat)
    (offsets : List Nat) : (sts.bytes labelAt offsets).length = sts.size := by
  induction sts generalizing offset offsets with
  | nil => rfl
  | cons st more ih =>
    rw [bytes, List.length_append, Statement.length_bytes hfits.1, ih hfits.2, size_cons]

theorem Writes.length_eq {sts : Listing} {offsets : List Nat} {out : Bytes} (h : sts.Writes offsets out) {offset : Nat}
    (hfits : sts.FitsAt offset) : out.length = sts.size := by
  induction h generalizing offset with
  | nil => rfl
  | cons labelAt _ ih => rw [List.length_append, Statement.length_bytes hfits.1, ih hfits.2, size_cons]

theorem map_fst_labelTable (offset : Nat) (sts : Listing) : (sts.labelTable offset).map Prod.fst = sts.labels := by
  induction sts generalizing offset with
  | nil => rfl
  | cons st more ih => simp [labelTable, ih, Function.comp_def]

/-- The offset of a label. -/
def labelOffset (sts : Listing) (label : Text) : Nat := ((sts.labelTable 0).lookup label).getD 0

private theorem lookup_of_mem {table : List (Text × Nat)} (hnodup : (table.map Prod.fst).Nodup) {label : Text}
    {offset : Nat} (h : (label, offset) ∈ table) : table.lookup label = some offset := by
  induction table with
  | nil => simp at h
  | cons p more ih =>
    obtain ⟨label', offset'⟩ := p
    rw [List.map_cons, List.nodup_cons] at hnodup
    rcases List.mem_cons.mp h with heq | hmore
    · cases heq
      exact List.lookup_cons_self
    · have hne : label ≠ label' := by
        intro he
        exact hnodup.1 (List.mem_map.mpr ⟨_, hmore, he⟩)
      rw [List.lookup_cons, beq_false_of_ne hne]
      exact ih hnodup.2 hmore

theorem labelOffset_eq {sts : Listing} (hnodup : sts.labels.Nodup) {label : Text} {offset : Nat}
    (h : (label, offset) ∈ sts.labelTable 0) : sts.labelOffset label = offset := by
  rw [labelOffset, lookup_of_mem (by rwa [map_fst_labelTable]) h, Option.getD_some]

/-- What assembly asks of a listing: it fits, its labels are defined, its strings are encodable and within reach, and
it has a trailer. -/
structure Assembles (ts : Typesetter) (sts : Listing) (parts : List Bytes) (trailer : Bytes) : Prop where
  fits : sts.FitsAt 0
  defined : ∀ label ∈ sts.targets, label ∈ sts.labels
  parts_eq : List.Forall₂ (fun s part => PoolString.part? ts s = some part) sts.strings parts
  inReach : ∀ offset ∈ poolOffsets sts.size parts, offset ≤ lastOffset
  trailer_eq : sts.trailer? = some trailer

/-- The assembled script of a listing. -/
def image (sts : Listing) (parts : List Bytes) (trailer : Bytes) : Bytes :=
  sts.bytes sts.labelOffset (poolOffsets sts.size parts) ++ (parts.flatten ++ trailer)

end Listing

namespace Layout

private theorem lookup_eq_none_iff_notMem {table : List (Text × Nat)} {label : Text} :
    table.lookup label = none ↔ label ∉ table.map Prod.fst := by
  rw [List.lookup_eq_none_iff]
  simp only [bne_iff_ne, List.mem_map, not_exists, not_and]
  exact ⟨fun h p hp he => h p hp he.symm, fun h p hp he => h p hp he.symm⟩

private theorem undefined?_eq_none {l : Layout} :
    l.undefined? = none ↔
      ∀ label line column, Piece.forward label line column ∈ l.pieces → label ∈ l.labels.map Prod.fst := by
  rw [undefined?, List.findSome?_eq_none_iff]
  constructor
  · intro h label line column hm
    have hnone := h _ (List.mem_reverse.mpr hm)
    by_contra hlabel
    simp [lookup_eq_none_iff_notMem.mpr hlabel] at hnone
  · intro h piece hm
    rw [List.mem_reverse] at hm
    cases piece with
    | forward label line column =>
      have hlabel := h _ _ _ hm
      cases hlookup : l.labels.lookup label with
      | none => exact absurd hlabel (lookup_eq_none_iff_notMem.mp hlookup)
      | some offset => simp [hlookup]
    | byte | word | pointer => rfl

private theorem finish_eq_ok {l : Layout} {ts : Typesetter} {out : Bytes} :
    (l.finish ts).1 = .ok out ↔ l.undefined? = none ∧
      ∃ pool, (Pool.add ts l.size {} [] l.strings.reverse).1 = .ok pool ∧
        ∃ trailer, l.trailer? = some trailer ∧ out = l.stream pool.offsets ++ (pool.bytes ++ trailer) := by
  rw [finish]
  split
  · simp [*]
  · split
    · simp [*]
    · rename_i pool log hpool
      split <;> simp [*, eq_comm]

/-- The pieces of a layout with the offsets of the strings put in. -/
private theorem stream_pieces {l : Layout} {pieces : List Piece} (hpieces : l.pieces = pieces.reverse) (offsets : List Nat) :
    l.stream offsets.toArray = pieces.flatMap
      (Piece.bytes (fun label => (l.labels.lookup label).getD 0) (fun k => offsets.toArray.getD k 0)) := by
  have hpiece : l.pieceBytes offsets.toArray =
      Piece.bytes (fun label => (l.labels.lookup label).getD 0) (fun k => offsets.toArray.getD k 0) := by
    funext piece
    cases piece with
    | byte | word | forward => rfl
    | pointer string? => cases string? <;> rfl
  rw [stream, hpieces, hpiece, List.reverse_reverse]

private theorem map_range'_getD {offsets : List Nat} {count : Nat} (h : offsets.length = count) :
    (List.range' 0 count).map (fun k => offsets.toArray.getD k 0) = offsets := by
  apply List.ext_getElem
  · simp [h]
  · intro i h₁ h₂
    simp [h₂]

/-- In a layout the pieces stand for the bytes of the listing that was laid out. -/
private theorem stream_eq {l : Layout} {sts : Listing} (hl : Layout.Extends {} sts l) (hnodup : sts.labels.Nodup)
    {offsets : List Nat}
    (hlength : offsets.length = sts.strings.length) :
    l.stream offsets.toArray = sts.bytes sts.labelOffset offsets := by
  obtain ⟨pieces, hpieces, hbytes, -⟩ := hl.pieces_eq
  have hlabels : l.labels = (sts.labelTable 0).reverse := by simpa using hl.labels_eq
  have hat : ∀ p ∈ l.labels, sts.labelOffset p.1 = p.2 := by
    rintro ⟨label, offset⟩ hp
    rw [hlabels, List.mem_reverse] at hp
    exact Listing.labelOffset_eq hnodup hp
  have hlookup : (fun label => (l.labels.lookup label).getD 0) = sts.labelOffset := by
    funext label
    cases h : l.labels.lookup label with
    | none =>
      have hnotMem : label ∉ (sts.labelTable 0).map Prod.fst := by
        rw [lookup_eq_none_iff_notMem, hlabels, List.map_reverse, List.mem_reverse] at h
        exact h
      rw [Listing.labelOffset, lookup_eq_none_iff_notMem.mpr hnotMem]
    | some offset =>
      obtain ⟨before, after, heq, -⟩ := List.lookup_eq_some_iff.mp h
      exact (hat (label, offset) (by simp [heq])).symm
  rw [stream_pieces (by simpa using hpieces), hlookup, hbytes _ _ hat, map_range'_getD hlength]

/-- Whatever its labels are, the stream of a layout is written line by line. -/
private theorem writes_stream {l : Layout} {sts : Listing} (hl : Layout.Extends {} sts l) {offsets : List Nat}
    (hlength : offsets.length = sts.strings.length) : sts.Writes offsets (l.stream offsets.toArray) := by
  obtain ⟨pieces, hpieces, -, hwrites, -⟩ := hl.pieces_eq
  rw [stream_pieces (by simpa using hpieces)]
  have hstream := hwrites (fun label => (l.labels.lookup label).getD 0) fun k => offsets.toArray.getD k 0
  rwa [map_range'_getD hlength] at hstream

/-- A layout is finished exactly when its labels are defined, its strings are encodable and in reach, and it has a
trailer. -/
private theorem finish_ok_iff {l : Layout} {sts : Listing} {ts : Typesetter} {out : Bytes}
    (hl : Layout.Extends {} sts l) :
    (l.finish ts).1 = .ok out ↔ (∀ label ∈ sts.targets, label ∈ sts.labels) ∧ ∃ parts trailer,
      List.Forall₂ (fun s part => PoolString.part? ts s = some part) sts.strings parts ∧
        (∀ offset ∈ poolOffsets sts.size parts, offset ≤ lastOffset) ∧ sts.trailer? = some trailer ∧
        out = l.stream (poolOffsets sts.size parts).toArray ++ (parts.flatten ++ trailer) := by
  obtain ⟨pieces, hpieces, -, -, hforward, htarget⟩ := hl.pieces_eq
  have hlabels : l.labels.map Prod.fst = sts.labels.reverse := by
    rw [hl.labels_eq, List.append_nil, List.map_reverse, Listing.map_fst_labelTable]
  have hsize : l.size = sts.size := by simpa using hl.size_eq
  have hstrings : l.strings.reverse.map (fun s => PoolString.mk s.content s.suffix) = sts.strings := by
    simpa using hl.strings_eq
  have htrailer : l.trailer? = sts.trailer? := by simpa using hl.trailer_eq
  have hdefined : l.undefined? = none ↔ ∀ label ∈ sts.targets, label ∈ sts.labels := by
    simp only [undefined?_eq_none, hlabels, hpieces, List.append_nil, List.mem_reverse]
    constructor
    · intro h label hm
      rcases htarget label hm with hk | ⟨line, column, hf⟩
      · simpa [hlabels] using hk
      · exact h _ _ _ hf
    · intro h label line column hf
      exact h _ (hforward _ _ _ hf)
  have hparts : ∀ parts, List.Forall₂ (fun s part => PoolString.part? ts ⟨s.content, s.suffix⟩ = some part)
      l.strings.reverse parts ↔ List.Forall₂ (fun s part => PoolString.part? ts s = some part) sts.strings parts := by
    intro parts
    rw [← hstrings, List.forall₂_map_left_iff]
  rw [finish_eq_ok, hdefined, hsize, htrailer]
  apply and_congr_right
  intro
  constructor
  · rintro ⟨pool, hpool, trailer, htrailer, rfl⟩
    obtain ⟨parts, hforall, hreach, rfl⟩ := add_eq_ok.mp hpool
    exact ⟨parts, trailer, (hparts parts).mp hforall, hreach, htrailer, by simp [Pool.bytes]⟩
  · rintro ⟨parts, trailer, hforall, hreach, htrailer, rfl⟩
    exact ⟨_, add_eq_ok.mpr ⟨parts, (hparts parts).mpr hforall, hreach, rfl⟩, trailer, htrailer, by simp [Pool.bytes]⟩

private theorem length_offsets {ts : Typesetter} {sts : Listing} {parts : List Bytes}
    (h : List.Forall₂ (fun s part => PoolString.part? ts s = some part) sts.strings parts) :
    (poolOffsets sts.size parts).length = sts.strings.length := by
  rw [length_poolOffsets, h.length_eq]

end Layout

/-- A dump without repeated labels assembles exactly to the image of its listing. -/
theorem assemble_ok_iff {name : String} {source : Text} {ts : Typesetter} {sts : Listing} {out : Bytes}
    (hread : Listing.read? (isRecordFile name) (Text.lines source) = some sts) (hnodup : sts.labels.Nodup) :
    (assemble name source ts).1 = .ok out ↔
      ∃ parts trailer, sts.Assembles ts parts trailer ∧ out = sts.image parts trailer := by
  constructor
  · intro h
    rw [assemble] at h
    split at h
    · cases h
    · rename_i l hlines
      obtain ⟨sts', hread', hfits, hextends⟩ := Layout.addLines_ok hlines
      obtain rfl : sts = sts' := Option.some.inj (hread.symm.trans hread')
      obtain ⟨hdefined, parts, trailer, hparts, hreach, htrailer, rfl⟩ := (Layout.finish_ok_iff hextends).mp h
      refine ⟨parts, trailer, ⟨hfits, hdefined, hparts, hreach, htrailer⟩, ?_⟩
      rw [Layout.stream_eq hextends hnodup (Layout.length_offsets hparts), Listing.image]
  · rintro ⟨parts, trailer, hsts, rfl⟩
    obtain ⟨l, hlines, hextends⟩ := Layout.exists_addLines (l := {}) hread hsts.fits 1
    rw [assemble, hlines]
    refine (Layout.finish_ok_iff hextends).mpr
      ⟨hsts.defined, parts, trailer, hsts.parts_eq, hsts.inReach, hsts.trailer_eq, ?_⟩
    rw [Layout.stream_eq hextends hnodup (Layout.length_offsets hsts.parts_eq), Listing.image]

/-- What an assembled script consists of, whatever labels its dump repeats: the stream that its lines write, the pool and
the trailer. -/
structure Listing.Written (ts : Typesetter) (sts : Listing) (parts : List Bytes) (stream trailer out : Bytes) : Prop where
  fits : sts.FitsAt 0
  parts_eq : List.Forall₂ (fun s part => PoolString.part? ts s = some part) sts.strings parts
  inReach : ∀ offset ∈ poolOffsets sts.size parts, offset ≤ lastOffset
  writes : sts.Writes (poolOffsets sts.size parts) stream
  out_eq : out = stream ++ (parts.flatten ++ trailer)

/-- A dump that assembles is read line by line, and its lines write the script. -/
theorem exists_written_of_assemble {name : String} {source : Text} {ts : Typesetter} {out : Bytes}
    (h : (assemble name source ts).1 = .ok out) :
    ∃ sts parts stream trailer, Listing.read? (isRecordFile name) (Text.lines source) = some sts ∧
      sts.Written ts parts stream trailer out := by
  rw [assemble] at h
  split at h
  · cases h
  · rename_i l hlines
    obtain ⟨sts, hread, hfits, hextends⟩ := Layout.addLines_ok hlines
    obtain ⟨-, parts, trailer, hparts, hreach, -, hout⟩ := (Layout.finish_ok_iff hextends).mp h
    exact ⟨sts, parts, _, trailer, hread, hfits, hparts, hreach,
      Layout.writes_stream hextends (Layout.length_offsets hparts), hout⟩

/-- A dump that assembles is read line by line. -/
theorem read?_of_assemble {name : String} {source : Text} {ts : Typesetter} {out : Bytes}
    (h : (assemble name source ts).1 = .ok out) :
    ∃ sts, Listing.read? (isRecordFile name) (Text.lines source) = some sts := by
  obtain ⟨sts, -, -, -, hread, -⟩ := exists_written_of_assemble h
  exact ⟨sts, hread⟩

end SceneScript
