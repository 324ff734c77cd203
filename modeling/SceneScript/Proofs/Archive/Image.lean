import Mathlib
import SceneScript.Archive.Image
import SceneScript.Proofs.Utf8
/-!
# Archive images read back

An image lists the entries it was built from, in order, and holds the bytes of each where the table says.
-/
namespace SceneScript

theorem le_roundUp (n : Nat) : n ≤ roundUp n := by
  simp only [roundUp, blockSize]
  omega

theorem dvd_roundUp (n : Nat) : blockSize ∣ roundUp n := Nat.dvd_mul_left _ _

theorem roundUp_add {m : Nat} (h : blockSize ∣ m) (n : Nat) : roundUp (m + n) = m + roundUp n := by
  obtain ⟨k, rfl⟩ := h
  simp only [roundUp, blockSize]
  omega

/-- Whether the name of an entry fits its field and is not cut off at a zero. -/
def FitsField (name : String) : Prop := (Utf8.encode name.toList).length ≤ nameLength ∧ '\x00' ∉ name.toList

namespace Timestamp

@[simp] theorem length_bytes (t : Timestamp) : t.bytes.length = 12 := rfl

/-- A timestamp is read back from its bytes. -/
theorem ofBytes_bytes (t : Timestamp) (rest : Bytes) : ofBytes (t.bytes ++ rest) = t := by
  have hword : ∀ w : UInt16, UInt16.ofNat (Bytes.value (Bytes.word16 w.toNat)) = w := by
    intro w
    rw [Bytes.value_word16 w.toNat_lt, UInt16.ofNat_toNat]
  have hyear : wordAt (t.bytes ++ rest) 0 = t.year := hword t.year
  have hmonth : wordAt (t.bytes ++ rest) 1 = t.month := hword t.month
  have hday : wordAt (t.bytes ++ rest) 2 = t.day := hword t.day
  have hhour : wordAt (t.bytes ++ rest) 3 = t.hour := hword t.hour
  have hminute : wordAt (t.bytes ++ rest) 4 = t.minute := hword t.minute
  have hsecond : wordAt (t.bytes ++ rest) 5 = t.second := hword t.second
  rw [ofBytes, hyear, hmonth, hday, hhour, hminute, hsecond]

end Timestamp

namespace Image

/-- The bytes of an entry and the zeros behind them. -/
def block (c : Content) : Bytes := c.data ++ padding c.data.length

theorem length_block (c : Content) : (block c).length = roundUp c.data.length := by
  rw [block, padding, List.length_append, List.length_replicate, Nat.add_sub_cancel' (le_roundUp _)]

theorem length_word32 (n : Nat) : (Bytes.word32 n).length = 4 := rfl

private theorem length_cell (offset size : Nat) : (Bytes.word32 offset ++ Bytes.word32 size).length = 8 := rfl

@[simp] theorem length_nameField (name : String) : (nameField name).length = nameLength := by
  rw [nameField]
  simp only [List.length_append, List.length_replicate]
  have hle : ((Utf8.encode name.toList).take nameLength).length ≤ nameLength := List.length_take_le _ _
  omega

theorem length_recordOf (c : Content) : (recordOf c).length = recordLength := by
  rw [recordOf, List.length_append, List.length_append, length_nameField, Timestamp.length_bytes]
  rfl

/-- A name that fits its field is read back. -/
theorem readName_nameField {name : String} (h : FitsField name) (rest : Bytes) :
    readName (nameField name ++ rest) = name := by
  have hfield : nameField name =
      Utf8.encode name.toList ++ List.replicate (nameLength - (Utf8.encode name.toList).length) 0 := by
    rw [nameField, List.take_of_length_le h.1]
  have hname : (nameField name).takeWhile (· != 0) = Utf8.encode name.toList := by
    have hbytes : ∀ b ∈ Utf8.encode name.toList, (b != 0) = true := by
      intro b hb
      exact bne_iff_ne.mpr (Utf8.ne_zero_of_mem_encode h.2 b hb)
    rw [hfield, List.takeWhile_append_of_pos hbytes, List.takeWhile_replicate]
    simp
  rw [readName, List.take_left' (length_nameField name), hname, Utf8.decodeLossy_encode, String.ofList_toList]

private theorem readTable_cells (cells : List (Nat × Nat)) (done : List (Nat × Nat)) (rest : Bytes)
    (h : ∀ cell ∈ cells, cell.1 < offsetBound ∧ cell.2 < offsetBound) :
    readTable cells.length done ((cells.flatMap fun (offset, size) => Bytes.word32 offset ++ Bytes.word32 size) ++ rest) =
      some (done.reverse ++ cells) := by
  induction cells generalizing done with
  | nil => exact congrArg some (List.append_nil _).symm
  | cons cell cells ih =>
    obtain ⟨offset, size⟩ := cell
    rw [List.forall_mem_cons] at h
    obtain ⟨⟨hoffset, hsize⟩, h⟩ := h
    rw [List.flatMap_cons, List.append_assoc, List.length_cons, readTable]
    dsimp only
    rw [List.take_left' (length_cell offset size), List.drop_left' (length_cell offset size), length_cell,
      if_neg (Nat.lt_irrefl 8), List.take_left' (length_word32 offset), List.drop_left' (length_word32 offset),
      Bytes.value_word32 hoffset, Bytes.value_word32 hsize, ih _ h, List.reverse_cons, List.append_assoc, List.singleton_append]

/-- How an image lists an entry at an offset. -/
private def listed (offset : Nat) (c : Content) : Listed := ⟨c.name, c.timestamp, offset, c.data.length⟩

/-- An entry as it is listed with its name cut to the field. -/
def cutName (l : Listed) : Listed := { l with name := readName (nameField l.name) }

private theorem readName_append (name : String) (rest : Bytes) :
    readName (nameField name ++ rest) = readName (nameField name) := by
  rw [readName, readName, List.take_left' (length_nameField name), List.take_of_length_le (length_nameField name).le]

private theorem readRecords_recordOf (placed : List (Nat × Content)) (done : List Listed) (rest : Bytes) :
    readRecords done ((placed.flatMap fun p => recordOf p.2) ++ rest) (placed.map fun p => (p.1, p.2.data.length)) =
      some (done.reverse ++ placed.map fun p => cutName (listed p.1 p.2)) := by
  induction placed generalizing done with
  | nil => exact congrArg some (List.append_nil _).symm
  | cons p placed ih =>
    obtain ⟨offset, c⟩ := p
    have hname : readName (recordOf c) = readName (nameField c.name) := readName_append c.name _
    have htime : Timestamp.ofBytes ((recordOf c).drop nameLength) = c.timestamp := by
      rw [recordOf, List.drop_left' (length_nameField _), Timestamp.ofBytes_bytes]
    rw [List.flatMap_cons, List.append_assoc, List.map_cons, readRecords]
    dsimp only
    rw [List.take_left' (length_recordOf c), List.drop_left' (length_recordOf c), length_recordOf,
      if_neg (Nat.lt_irrefl _), hname, htime, ih _, List.reverse_cons, List.append_assoc, List.singleton_append]
    rfl

/-- The entries of an image with their offsets. -/
def place (offset : Nat) : List Content → List (Nat × Content)
  | [] => []
  | c :: more => (offset, c) :: place (roundUp (offset + c.data.length)) more

private theorem zip_offsetsFrom (offset : Nat) (contents : List Content) :
    (offsetsFrom offset contents).zip contents = place offset contents := by
  induction contents generalizing offset with
  | nil => rfl
  | cons c contents ih => rw [offsetsFrom, List.zip_cons_cons, ih, place]

/-- The records begin where the table of offsets ends. -/
theorem getLast?_offsetsFrom {offset : Nat} (hoffset : blockSize ∣ offset) (contents : List Content) :
    (offsetsFrom offset contents).getLast? = some (offset + (contents.flatMap block).length) := by
  induction contents generalizing offset with
  | nil => rfl
  | cons c contents ih =>
    rw [offsetsFrom, List.getLast?_cons, ih (dvd_roundUp _), Option.getD_some, List.flatMap_cons, List.length_append,
      length_block, roundUp_add hoffset, Nat.add_assoc]

theorem map_snd_place (offset : Nat) (contents : List Content) :
    (place offset contents).map Prod.snd = contents := by
  induction contents generalizing offset with
  | nil => rfl
  | cons c contents ih => rw [place, List.map_cons, ih]

theorem offset_of_mem_place {offset : Nat} {contents : List Content} {p : Nat × Content}
    (h : p ∈ place offset contents) : p.1 ∈ offsetsFrom offset contents ∧ p.2 ∈ contents := by
  rw [← zip_offsetsFrom] at h
  exact List.of_mem_zip h

/-- Where the records begin. -/
def recordsAt (offset : Nat) (contents : List Content) : Nat := offset + (contents.flatMap block).length

/-- The words that tell where the records are and how long they are. -/
def location (contents : List Content) : Bytes :=
  Bytes.word32 (recordsAt (headerEnd contents.length) contents) ++ Bytes.word32 (recordLength * contents.length)

theorem length_location (contents : List Content) : (location contents).length = 8 := rfl

/-- Each entry stands at its offset. -/
private theorem slice_of_mem_place {offset : Nat} {contents : List Content} (hoffset : blockSize ∣ offset)
    {front rest : Bytes} (hfront : front.length = offset) {p : Nat × Content} (h : p ∈ place offset contents) :
    ((front ++ (contents.flatMap block ++ rest)).drop p.1).take p.2.data.length = p.2.data := by
  induction contents generalizing offset front with
  | nil => cases h
  | cons c contents ih =>
    rw [List.flatMap_cons]
    rcases List.mem_cons.mp h with rfl | h
    · dsimp only
      rw [List.drop_left' hfront, block, List.append_assoc, List.append_assoc, List.take_left]
    · have hnext : (front ++ block c).length = roundUp (offset + c.data.length) := by
        rw [List.length_append, hfront, length_block, roundUp_add hoffset]
      have hslice := ih (dvd_roundUp _) hnext h
      rwa [List.append_assoc, ← List.append_assoc (block c)] at hslice

/-- The records begin behind the entry that reaches farthest, which is the last one. -/
private theorem recordsOffset_place {offset stop : Nat} {c : Content} (contents : List Content)
    (hoffset : blockSize ∣ offset) (hstop : stop ≤ offset) :
    roundUp (((place offset (c :: contents)).map fun p => (p.1, p.2.data.length)).foldl
      (fun stop (offset, size) => max stop (offset + size)) stop) = recordsAt offset (c :: contents) := by
  induction contents generalizing offset stop c with
  | nil =>
    rw [recordsAt, List.flatMap_singleton, length_block, ← roundUp_add hoffset]
    change roundUp (max stop (offset + c.data.length)) = _
    rw [Nat.max_eq_right (Nat.le_trans hstop (Nat.le_add_right _ _))]
  | cons d contents ih =>
    have hnext : max stop (offset + c.data.length) ≤ roundUp (offset + c.data.length) :=
      Nat.max_le.mpr ⟨Nat.le_trans (Nat.le_trans hstop (Nat.le_add_right _ _)) (le_roundUp _), le_roundUp _⟩
    have hlength : ((c :: d :: contents).flatMap block).length =
        roundUp c.data.length + ((d :: contents).flatMap block).length := by
      rw [List.flatMap_cons, List.length_append, length_block]
    rw [place, List.map_cons, List.foldl_cons, ih (dvd_roundUp _) hnext, recordsAt, recordsAt, hlength,
      roundUp_add hoffset, Nat.add_assoc]

/-- How the image of entries lists them. -/
def listing (contents : List Content) : List Listed :=
  ((offsetsFrom (headerEnd contents.length) contents).zip contents).map fun (offset, c) =>
    ⟨c.name, c.timestamp, offset, c.data.length⟩

theorem build?_eq {contents : List Content} {image : Bytes} (h : build? contents = some image) :
    (∀ offset ∈ offsetsFrom (headerEnd contents.length) contents, offset < offsetBound) ∧
      (∀ c ∈ contents, c.data.length < offsetBound) ∧
      ∃ gap, 8 + (8 * contents.length + (gap.length + 8)) = headerEnd contents.length ∧
        image = magic ++ (0 :: (Bytes.word32 contents.length ++
          (((place (headerEnd contents.length) contents).flatMap fun p =>
            Bytes.word32 p.1 ++ Bytes.word32 p.2.data.length) ++
              (gap ++ (location contents ++ (contents.flatMap block ++ contents.flatMap recordOf)))))) := by
  rw [build?] at h
  split_ifs at h with hbounds
  rw [Bool.or_eq_true, not_or, Bool.not_eq_true, Bool.not_eq_true, List.any_eq_false, List.any_eq_false] at hbounds
  refine ⟨?_, ?_, List.replicate (headerEnd contents.length - (8 + 8 * contents.length + 8)) 0, ?_, ?_⟩
  · intro offset hoffset
    simpa using hbounds.1 offset hoffset
  · intro c hc
    simpa using hbounds.2 c hc
  · rw [List.length_replicate]
    have hle : 8 + 8 * contents.length + 8 ≤ headerEnd contents.length := le_roundUp _
    omega
  · have hlast : (offsetsFrom (headerEnd contents.length) contents).getLast? =
        some (recordsAt (headerEnd contents.length) contents) := getLast?_offsetsFrom (dvd_roundUp _) contents
    rw [hlast] at h
    rw [← zip_offsetsFrom]
    exact (Option.some.inj h).symm

theorem length_table (placed : List (Nat × Content)) :
    (placed.flatMap fun p => Bytes.word32 p.1 ++ Bytes.word32 p.2.data.length).length = 8 * placed.length := by
  induction placed with
  | nil => rfl
  | cons p placed ih =>
    rw [List.flatMap_cons, List.length_append, length_cell, ih, List.length_cons]
    omega

theorem length_place (offset : Nat) (contents : List Content) :
    (place offset contents).length = contents.length := by
  rw [← List.length_map Prod.snd, map_snd_place]

/-- An image is the part up to the first entry, the entries and the records. -/
theorem exists_header {contents : List Content} {image : Bytes} (h : build? contents = some image) :
    ∃ header, header.length = headerEnd contents.length ∧
      image = header ++ (contents.flatMap block ++ contents.flatMap recordOf) := by
  obtain ⟨-, -, gap, hheader, himage⟩ := build?_eq h
  let table := (place (headerEnd contents.length) contents).flatMap fun p =>
    Bytes.word32 p.1 ++ Bytes.word32 p.2.data.length
  refine ⟨magic ++ (0 :: (Bytes.word32 contents.length ++ (table ++ (gap ++ location contents)))), ?_, ?_⟩
  · simp only [List.length_append, List.length_cons, table, length_table, length_place, length_word32, length_location,
      ← hheader, magic, List.length_nil]
    omega
  · rw [himage]
    simp only [List.append_assoc, List.cons_append]
    rfl

/-- Behind the entries of an image there are the records. -/
theorem drop_recordsAt {contents : List Content} {image : Bytes} (h : build? contents = some image) :
    image.drop (recordsAt (headerEnd contents.length) contents) = contents.flatMap recordOf := by
  obtain ⟨header, hheader, himage⟩ := exists_header h
  rw [himage, ← List.append_assoc]
  apply List.drop_left'
  rw [List.length_append, hheader, recordsAt]

private theorem listing_eq (contents : List Content) :
    listing contents = (place (headerEnd contents.length) contents).map fun p => listed p.1 p.2 := by
  rw [listing, zip_offsetsFrom]
  rfl

/-- The offsets and sizes in the table of an image. -/
private def cells (contents : List Content) : List (Nat × Nat) :=
  (place (headerEnd contents.length) contents).map fun p => (p.1, p.2.data.length)

private theorem readTable_build? {contents : List Content} {image : Bytes} (h : build? contents = some image) :
    readTable contents.length [] (image.drop 8) = some (cells contents) := by
  obtain ⟨hoffsets, hsizes, gap, -, himage⟩ := build?_eq h
  have hlength : (cells contents).length = contents.length := by rw [cells, List.length_map, length_place]
  have hbounds : ∀ cell ∈ cells contents, cell.1 < offsetBound ∧ cell.2 < offsetBound := by
    intro cell hcell
    obtain ⟨p, hp, rfl⟩ := List.mem_map.mp hcell
    obtain ⟨hoffset, hc⟩ := offset_of_mem_place hp
    exact ⟨hoffsets _ hoffset, hsizes _ hc⟩
  have hdrop : image.drop 8 =
      ((cells contents).flatMap fun (offset, size) => Bytes.word32 offset ++ Bytes.word32 size) ++
        (gap ++ (location contents ++ (contents.flatMap block ++ contents.flatMap recordOf))) := by
    rw [himage, cells, List.flatMap_map]
    rfl
  rw [hdrop]
  conv_lhs => rw [← hlength]
  rw [readTable_cells _ [] _ hbounds]
  rfl

private theorem readRecords_build? {contents : List Content} {image : Bytes} (h : build? contents = some image) :
    readRecords [] (image.drop (recordsOffset (cells contents))) (cells contents) =
      some ((listing contents).map cutName) := by
  have hread : ∀ rest, readRecords [] (contents.flatMap recordOf ++ rest) (cells contents) =
      some ((listing contents).map cutName) := by
    intro rest
    have hrecords : contents.flatMap recordOf =
        (place (headerEnd contents.length) contents).flatMap fun p => recordOf p.2 := by
      conv_lhs => rw [← map_snd_place (headerEnd contents.length) contents, List.flatMap_map]
    rw [hrecords, cells, readRecords_recordOf _ [] rest, listing_eq, List.map_map]
    rfl
  cases hcontents : contents with
  | nil => rfl
  | cons c more =>
    have hstart : recordsOffset (cells contents) = recordsAt (headerEnd contents.length) contents := by
      rw [cells, hcontents]
      exact recordsOffset_place more (dvd_roundUp _) (Nat.zero_le _)
    rw [← hcontents, hstart, drop_recordsAt h, ← List.append_nil (contents.flatMap recordOf)]
    exact hread []

/-- An image lists the entries it was built from, with their names cut to the field. -/
theorem list_build?_cutName {contents : List Content} {image : Bytes} (h : build? contents = some image)
    (hcount : contents.length ≤ maxEntries) : list image = .ok ((listing contents).map cutName) := by
  obtain ⟨-, -, gap, -, himage⟩ := build?_eq h
  have hmagic : image.take 4 = magic ++ [0] := by
    rw [himage]
    rfl
  have hthree : image.take 3 = magic := by
    rw [himage]
    rfl
  have height : (image.take 8).length = 8 := by
    rw [himage]
    rfl
  have hcountBytes : Bytes.value ((image.drop 4).take 4) = contents.length := by
    rw [himage]
    exact Bytes.value_word32 (Nat.lt_of_le_of_lt hcount (by decide))
  rw [list, hmagic, if_neg (by decide), hthree, if_neg (not_not.mpr rfl), height, if_neg (by decide)]
  dsimp only
  rw [hcountBytes, if_neg (Nat.not_lt.mpr hcount), readTable_build? h]
  dsimp only
  rw [readRecords_build? h]

/-- An image lists each entry and holds its bytes where it lists them. -/
theorem forall₂_listing {contents : List Content} {image : Bytes} (h : build? contents = some image) :
    List.Forall₂ (fun c l => l.name = c.name ∧ l.timestamp = c.timestamp ∧ l.size = c.data.length ∧
      (image.drop l.offset).take l.size = c.data) contents (listing contents) := by
  obtain ⟨header, hheader, himage⟩ := exists_header h
  have hplaced : List.Forall₂ (fun c l => l.name = c.name ∧ l.timestamp = c.timestamp ∧ l.size = c.data.length ∧
      (image.drop l.offset).take l.size = c.data) ((place (headerEnd contents.length) contents).map Prod.snd)
        ((place (headerEnd contents.length) contents).map fun p => listed p.1 p.2) := by
    rw [List.forall₂_map_left_iff, List.forall₂_map_right_iff, List.forall₂_same]
    intro p hp
    refine ⟨rfl, rfl, rfl, ?_⟩
    change (image.drop p.1).take p.2.data.length = p.2.data
    rw [himage]
    exact slice_of_mem_place (dvd_roundUp _) hheader hp
  rwa [map_snd_place, ← listing_eq] at hplaced

end Image
end SceneScript
