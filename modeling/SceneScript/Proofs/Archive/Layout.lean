import Mathlib
import SceneScript.Proofs.Archive.Reading
/-!
# The layout of an image

Where an image that is built puts its parts: the words of the table, the entries and the zeros behind them, the records
and the two words that tell where these are.
-/
namespace SceneScript

namespace Image

/-- Where an entry begins by the table of an image, or where the records begin if there are no more entries. -/
def boundary (image : Bytes) (count i : Nat) : Nat :=
  if i < count then offsetAt image i else wordAt image (headerEnd count - 8)

/-- The length of the image of entries of certain sizes. -/
def imageSize (sizes : List Nat) : Nat :=
  headerEnd sizes.length + ((sizes.map roundUp).sum + recordLength * sizes.length)

/-- Whether an image holds entries in order as its own words say. -/
structure LaidOut (contents : List Content) (image : Bytes) : Prop where
  magic_eq : image.take 3 = magic
  count_eq : wordAt image 4 = contents.length
  aligned : ∀ i ≤ contents.length, blockSize ∣ boundary image contents.length i
  size_eq : ∀ i c, contents[i]? = some c → sizeAt image i = c.data.length
  ordered : ∀ i c, contents[i]? = some c →
    boundary image contents.length i + c.data.length ≤ boundary image contents.length (i + 1)
  stands : ∀ i c, contents[i]? = some c →
    (image.drop (boundary image contents.length i)).take c.data.length = c.data
  zeros : ∀ i c, contents[i]? = some c → ∀ k, boundary image contents.length i + c.data.length ≤ k →
    k < boundary image contents.length (i + 1) → image[k]? = some 0
  /-- The words that tell where the records are stand between the table and the first entry. -/
  location_free : 8 + 8 * contents.length ≤ headerEnd contents.length - 8 ∧
    headerEnd contents.length ≤ boundary image contents.length 0
  records_eq : image.drop (boundary image contents.length contents.length) = contents.flatMap recordOf
  recordsLength_eq : wordAt image (headerEnd contents.length - 4) = recordLength * contents.length
  length_eq : image.length = boundary image contents.length contents.length + recordLength * contents.length

theorem wordAt_append {front : Bytes} {n v : Nat} (hfront : front.length = n) (hv : v < offsetBound) (rest : Bytes) :
    wordAt (front ++ (Bytes.word32 v ++ rest)) n = v := by
  rw [wordAt, List.drop_left' hfront, List.take_left' (length_word32 v), Bytes.value_word32 hv]

/-- Where an entry of an image begins, or where the records begin if there are no more entries. -/
def start (contents : List Content) (i : Nat) : Nat :=
  headerEnd contents.length + ((contents.take i).flatMap block).length

private theorem dvd_length_blocks (contents : List Content) : blockSize ∣ (contents.flatMap block).length := by
  induction contents with
  | nil => exact Nat.dvd_zero _
  | cons c contents ih =>
    rw [List.flatMap_cons, List.length_append, length_block]
    exact Nat.dvd_add (dvd_roundUp _) ih

theorem dvd_headerEnd (count : Nat) : blockSize ∣ headerEnd count := dvd_roundUp _

theorem dvd_start (contents : List Content) (i : Nat) : blockSize ∣ start contents i :=
  Nat.dvd_add (dvd_headerEnd _) (dvd_length_blocks _)

theorem start_succ {contents : List Content} {i : Nat} {c : Content} (hc : contents[i]? = some c) :
    start contents (i + 1) = start contents i + roundUp c.data.length := by
  rw [start, start, List.take_add_one, hc, Option.toList_some, List.flatMap_append, List.length_append,
    List.flatMap_singleton, length_block, Nat.add_assoc]

theorem start_length (contents : List Content) :
    start contents contents.length = recordsAt (headerEnd contents.length) contents := by
  rw [start, List.take_length, recordsAt]

private theorem getElem?_place {offset : Nat} (hoffset : blockSize ∣ offset) (contents : List Content) (i : Nat) :
    (place offset contents)[i]? = contents[i]?.map fun c => (offset + ((contents.take i).flatMap block).length, c) := by
  induction contents generalizing offset i with
  | nil => rfl
  | cons c contents ih =>
    cases i with
    | zero => rfl
    | succ i =>
      rw [place, List.getElem?_cons_succ, List.getElem?_cons_succ, ih (dvd_roundUp _), List.take_succ_cons,
        List.flatMap_cons, List.length_append, length_block, roundUp_add hoffset]
      simp only [Nat.add_assoc]

private theorem place_split {contents : List Content} {i : Nat} {c : Content} (hc : contents[i]? = some c) :
    ∃ before after, before.length = i ∧
      place (headerEnd contents.length) contents = before ++ (start contents i, c) :: after := by
  have hplace : (place (headerEnd contents.length) contents)[i]? = some (start contents i, c) := by
    rw [getElem?_place (dvd_headerEnd _), hc]
    rfl
  obtain ⟨hi, hget⟩ := List.getElem?_eq_some_iff.mp hplace
  refine ⟨(place (headerEnd contents.length) contents).take i, (place (headerEnd contents.length) contents).drop (i + 1),
    List.length_take_of_le hi.le, ?_⟩
  rw [← hget, List.cons_getElem_drop_succ, List.take_append_drop]

section

variable {contents : List Content} {image : Bytes} (h : build? contents = some image)

include h

/-- The two words of the table for an entry. -/
theorem wordAt_table {i : Nat} {c : Content} (hc : contents[i]? = some c) :
    offsetAt image i = start contents i ∧ sizeAt image i = c.data.length := by
  obtain ⟨hoffsets, hsizes, gap, -, himage⟩ := build?_eq h
  obtain ⟨before, after, hbefore, hplace⟩ := place_split hc
  have hmem : (start contents i, c) ∈ place (headerEnd contents.length) contents := by
    rw [hplace]
    exact List.mem_append_right _ List.mem_cons_self
  obtain ⟨hstart, hcontent⟩ := offset_of_mem_place hmem
  let cell : Nat × Content → Bytes := fun p => Bytes.word32 p.1 ++ Bytes.word32 p.2.data.length
  let front := magic ++ (0 :: (Bytes.word32 contents.length ++ before.flatMap cell))
  have hfront : front.length = 8 + 8 * i := by
    simp only [front, cell, List.length_append, List.length_cons, length_word32, length_table, hbefore, magic,
      List.length_nil]
    omega
  have hsplit : image = front ++ (Bytes.word32 (start contents i) ++ (Bytes.word32 c.data.length ++
      (after.flatMap cell ++ (gap ++ (location contents ++
        (contents.flatMap block ++ contents.flatMap recordOf)))))) := by
    rw [himage, hplace]
    simp only [front, cell, List.flatMap_append, List.flatMap_cons, List.append_assoc, List.cons_append]
  constructor
  · rw [offsetAt, hsplit, wordAt_append hfront (hoffsets _ hstart)]
  · have hfront' : (front ++ Bytes.word32 (start contents i)).length = 8 + 8 * i + 4 := by
      rw [List.length_append, hfront, length_word32]
    rw [sizeAt, hsplit, ← List.append_assoc, wordAt_append hfront' (hsizes _ hcontent)]

/-- The words in front of the first entry. -/
theorem wordAt_location (hcount : contents.length ≤ maxEntries) :
    wordAt image 4 = contents.length ∧ wordAt image (headerEnd contents.length - 8) = start contents contents.length ∧
      wordAt image (headerEnd contents.length - 4) = recordLength * contents.length := by
  obtain ⟨hoffsets, -, gap, hheader, himage⟩ := build?_eq h
  let table := (place (headerEnd contents.length) contents).flatMap fun p =>
    Bytes.word32 p.1 ++ Bytes.word32 p.2.data.length
  let front := magic ++ (0 :: (Bytes.word32 contents.length ++ (table ++ gap)))
  have hfront : front.length = headerEnd contents.length - 8 := by
    simp only [front, List.length_append, List.length_cons, table, length_table, length_place, length_word32, ← hheader,
      magic, List.length_nil]
    omega
  have hsplit : image = front ++ (Bytes.word32 (recordsAt (headerEnd contents.length) contents) ++
      (Bytes.word32 (recordLength * contents.length) ++ (contents.flatMap block ++ contents.flatMap recordOf))) := by
    rw [himage, location]
    simp only [front, List.append_assoc, List.cons_append]
    rfl
  have hrecords : recordsAt (headerEnd contents.length) contents < offsetBound := by
    apply hoffsets
    apply List.mem_of_getLast?
    exact getLast?_offsetsFrom (dvd_headerEnd _) contents
  have hbound : maxEntries * recordLength < offsetBound := by decide
  refine ⟨?_, ?_, ?_⟩
  · have hcountBound : contents.length < offsetBound := Nat.lt_of_le_of_lt hcount (by decide)
    have hfirst : (magic ++ [0]).length = 4 := rfl
    rw [himage, List.append_cons]
    exact wordAt_append hfirst hcountBound _
  · rw [hsplit, wordAt_append hfront hrecords, start_length]
  · have hfront' : (front ++ Bytes.word32 (recordsAt (headerEnd contents.length) contents)).length =
        headerEnd contents.length - 4 := by
      rw [List.length_append, hfront, length_word32]
      omega
    have hlength : recordLength * contents.length < offsetBound := by
      rw [Nat.mul_comm]
      exact Nat.lt_of_le_of_lt (Nat.mul_le_mul_right _ hcount) hbound
    rw [hsplit, ← List.append_assoc, wordAt_append hfront' hlength]

/-- An entry begins at its place, with zeros behind it. -/
theorem drop_start {i : Nat} {c : Content} (hc : contents[i]? = some c) :
    ∃ rest, image.drop (start contents i) = c.data ++ (padding c.data.length ++ rest) := by
  obtain ⟨header, hheader, himage⟩ := exists_header h
  obtain ⟨hi, hget⟩ := List.getElem?_eq_some_iff.mp hc
  have hblocks : contents.flatMap block = (contents.take i).flatMap block ++
      (block c ++ (contents.drop (i + 1)).flatMap block) := by
    conv_lhs => rw [← List.take_append_drop i contents, ← List.cons_getElem_drop_succ (h := hi), hget]
    rw [List.flatMap_append, List.flatMap_cons]
  have hfront : (header ++ (contents.take i).flatMap block).length = start contents i := by
    rw [List.length_append, hheader, start]
  refine ⟨(contents.drop (i + 1)).flatMap block ++ contents.flatMap recordOf, ?_⟩
  rw [himage, hblocks, List.append_assoc, ← List.append_assoc header, List.drop_left' hfront, block]
  simp only [List.append_assoc]

end

theorem start_zero (contents : List Content) : start contents 0 = headerEnd contents.length := by
  rw [start, List.take_zero, List.flatMap_nil, List.length_nil, Nat.add_zero]

/-- The boundaries that an image tells are where its parts begin. -/
theorem boundary_eq {contents : List Content} {image : Bytes} (h : build? contents = some image)
    (hcount : contents.length ≤ maxEntries) {i : Nat} (hi : i ≤ contents.length) :
    boundary image contents.length i = start contents i := by
  rw [boundary]
  split_ifs with hlt
  · exact (wordAt_table h (List.getElem?_eq_getElem hlt)).1
  · obtain rfl : i = contents.length := by omega
    exact (wordAt_location h hcount).2.1

theorem length_records (contents : List Content) :
    (contents.flatMap recordOf).length = recordLength * contents.length := by
  induction contents with
  | nil => rfl
  | cons c contents ih =>
    rw [List.flatMap_cons, List.length_append, length_recordOf, ih, List.length_cons, Nat.mul_add, Nat.mul_one,
      Nat.add_comm]

theorem length_blocks (contents : List Content) :
    (contents.flatMap block).length = ((contents.map fun c => c.data.length).map roundUp).sum := by
  induction contents with
  | nil => rfl
  | cons c contents ih =>
    rw [List.flatMap_cons, List.length_append, length_block, ih, List.map_cons, List.map_cons, List.sum_cons]

/-- The length of an image that is built. -/
theorem length_build? {contents : List Content} {image : Bytes} (h : build? contents = some image) :
    image.length = imageSize (contents.map fun c => c.data.length) := by
  obtain ⟨header, hheader, himage⟩ := exists_header h
  rw [himage, List.length_append, List.length_append, hheader, length_blocks, length_records, imageSize, List.length_map]

/-- An image that is built is laid out as its own words say. -/
theorem laidOut_build? {contents : List Content} {image : Bytes} (h : build? contents = some image)
    (hcount : contents.length ≤ maxEntries) : LaidOut contents image := by
  have hboundary : ∀ {i}, i ≤ contents.length → boundary image contents.length i = start contents i :=
    boundary_eq h hcount
  have hlt : ∀ {i c}, contents[i]? = some c → i < contents.length := fun hc => (List.getElem?_eq_some_iff.mp hc).1
  constructor
  · obtain ⟨-, -, gap, -, himage⟩ := build?_eq h
    rw [himage]
    rfl
  · exact (wordAt_location h hcount).1
  · intro i hi
    rw [hboundary hi]
    exact dvd_start contents i
  · exact fun i c hc => (wordAt_table h hc).2
  · intro i c hc
    rw [hboundary (hlt hc).le, hboundary (hlt hc), start_succ hc]
    exact Nat.add_le_add_left (le_roundUp _) _
  · intro i c hc
    obtain ⟨rest, hrest⟩ := drop_start h hc
    rw [hboundary (hlt hc).le, hrest, List.take_left]
  · intro i c hc k hle hlt'
    obtain ⟨rest, hrest⟩ := drop_start h hc
    rw [hboundary (hlt hc).le] at hle
    rw [hboundary (hlt hc), start_succ hc] at hlt'
    obtain ⟨m, rfl⟩ := Nat.exists_eq_add_of_le hle
    have hm : m < roundUp c.data.length - c.data.length := by omega
    rw [Nat.add_assoc, ← List.getElem?_drop, hrest, List.getElem?_append_right (Nat.le_add_right _ _),
      Nat.add_sub_cancel_left, padding, List.getElem?_append_left (by rwa [List.length_replicate]),
      List.getElem?_replicate, if_pos hm]
  · have hle : 8 + 8 * contents.length + 8 ≤ headerEnd contents.length := le_roundUp _
    rw [hboundary (Nat.zero_le _), start_zero]
    exact ⟨by omega, Nat.le_refl _⟩
  · rw [hboundary (Nat.le_refl _), start_length, drop_recordsAt h]
  · exact (wordAt_location h hcount).2.2
  · rw [hboundary (Nat.le_refl _), length_build? h, start_length, recordsAt, imageSize, length_blocks, List.length_map,
      Nat.add_assoc]

private theorem le_of_mem_offsetsFrom {offset : Nat} (hoffset : blockSize ∣ offset) {contents : List Content} {o : Nat}
    (h : o ∈ offsetsFrom offset contents) : o ≤ offset + (contents.flatMap block).length := by
  induction contents generalizing offset with
  | nil =>
    rw [List.mem_singleton.mp h]
    exact Nat.le_add_right _ _
  | cons c contents ih =>
    rw [List.flatMap_cons, List.length_append, length_block]
    rcases List.mem_cons.mp h with rfl | h
    · exact Nat.le_add_right _ _
    · have hle := ih (dvd_roundUp _) h
      rw [roundUp_add hoffset] at hle
      omega

private theorem length_le_blocks {contents : List Content} {c : Content} (h : c ∈ contents) :
    c.data.length ≤ (contents.flatMap block).length := by
  induction contents with
  | nil => cases h
  | cons d contents ih =>
    rw [List.flatMap_cons, List.length_append, length_block]
    rcases List.mem_cons.mp h with rfl | h
    · exact Nat.le_trans (le_roundUp _) (Nat.le_add_right _ _)
    · exact Nat.le_trans (ih h) (Nat.le_add_left _ _)

/-- An image is built if its length fits a word. -/
theorem exists_build? {contents : List Content} (h : imageSize (contents.map fun c => c.data.length) < offsetBound) :
    ∃ image, build? contents = some image := by
  rw [imageSize, ← length_blocks, List.length_map] at h
  have hoffsets : (offsetsFrom (headerEnd contents.length) contents).any (offsetBound ≤ ·) = false := by
    rw [List.any_eq_false]
    intro o ho
    have hle := le_of_mem_offsetsFrom (dvd_headerEnd _) ho
    simp only [decide_eq_true_eq]
    omega
  have hsizes : (contents.any fun c => offsetBound ≤ c.data.length) = false := by
    rw [List.any_eq_false]
    intro c hc
    have hle := length_le_blocks hc
    simp only [decide_eq_true_eq]
    omega
  rw [build?]
  dsimp only
  rw [hoffsets, hsizes]
  exact ⟨_, rfl⟩

end Image
end SceneScript
