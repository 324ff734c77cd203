import Mathlib
import SceneScript.Proofs.Archive.Image
/-!
# What an image lists

Whatever built it, an image that is accepted lists an entry for each cell of its table, named by the record of the same
number. The records are looked for behind the entry that reaches farthest, so an image that has them holds every entry.
-/
namespace SceneScript.Image

/-- The word of four bytes at an offset of an image. -/
def wordAt (image : Bytes) (offset : Nat) : Nat := Bytes.value ((image.drop offset).take 4)

/-- Where an entry begins by the table of an image. -/
def offsetAt (image : Bytes) (i : Nat) : Nat := wordAt image (8 + 8 * i)

/-- The size of an entry by the table of an image. -/
def sizeAt (image : Bytes) (i : Nat) : Nat := wordAt image (8 + 8 * i + 4)

def tableOf (image : Bytes) : List (Nat × Nat) :=
  (List.range (wordAt image 4)).map fun i => (offsetAt image i, sizeAt image i)

/-- The bytes of an entry by the table of an image. -/
def payloadAt (image : Bytes) (i : Nat) : Bytes := (image.drop (offsetAt image i)).take (sizeAt image i)

def recordAt (image : Bytes) (i : Nat) : Bytes :=
  (image.drop (recordsOffset (tableOf image) + recordLength * i)).take recordLength

/-- The bytes of the name in a record of an image, up to the first zero. -/
def nameAt (image : Bytes) (i : Nat) : Bytes := ((recordAt image i).take nameLength).takeWhile (· != 0)

/-- The entry of a cell of a table and its record. -/
def listedOf (record : Bytes) (cell : Nat × Nat) : Listed :=
  ⟨readName record, Timestamp.ofBytes (record.drop nameLength), cell.1, cell.2⟩

/-- An entry of an image by its number. -/
def listedAt (image : Bytes) (i : Nat) : Listed := listedOf (recordAt image i) (offsetAt image i, sizeAt image i)

theorem name_listedAt (image : Bytes) (i : Nat) :
    (listedAt image i).name = String.ofList (Utf8.decodeLossy (nameAt image i)) := rfl

private theorem wordAt_drop (bytes : Bytes) (n offset : Nat) :
    wordAt (bytes.drop n) offset = wordAt bytes (n + offset) := by
  rw [wordAt, wordAt, List.drop_drop]

private theorem readTable_eq_some {count : Nat} {done : List (Nat × Nat)} {bytes : Bytes} {table : List (Nat × Nat)}
    (h : readTable count done bytes = some table) :
    table = done.reverse ++ (List.range count).map fun i => (wordAt bytes (8 * i), wordAt bytes (8 * i + 4)) := by
  induction count generalizing done bytes with
  | zero =>
    obtain rfl := Option.some.inj h
    exact (List.append_nil _).symm
  | succ count ih =>
    rw [readTable] at h
    split_ifs at h
    have hoffset : Bytes.value ((bytes.take 8).take 4) = wordAt bytes (8 * 0) := by
      rw [List.take_take]
      rfl
    have hsize : Bytes.value ((bytes.take 8).drop 4) = wordAt bytes (8 * 0 + 4) := by
      rw [List.drop_take]
      rfl
    rw [ih h, hoffset, hsize, List.reverse_cons, List.append_assoc, List.singleton_append, List.range_succ_eq_map,
      List.map_cons, List.map_map]
    congr 2
    apply List.map_congr_left
    intro i _
    have hnext : 8 * (i + 1) = 8 + 8 * i := Nat.add_comm _ _
    rw [wordAt_drop, wordAt_drop, Function.comp_apply, Nat.succ_eq_add_one, hnext, Nat.add_assoc]

private theorem readRecords_eq_some {done listed : List Listed} {bytes : Bytes} {table : List (Nat × Nat)}
    (h : readRecords done bytes table = some listed) : recordLength * table.length ≤ bytes.length ∧
      listed = done.reverse ++ table.mapIdx fun i => listedOf ((bytes.drop (recordLength * i)).take recordLength) := by
  induction table generalizing done bytes with
  | nil =>
    obtain rfl := Option.some.inj h
    exact ⟨Nat.zero_le _, (List.append_nil _).symm⟩
  | cons cell table ih =>
    rw [readRecords] at h
    split_ifs at h with hlength
    obtain ⟨hmore, hlisted⟩ := ih h
    rw [List.length_take] at hlength
    rw [List.length_drop] at hmore
    refine ⟨?_, ?_⟩
    · rw [List.length_cons, Nat.mul_succ]
      omega
    · rw [hlisted, List.reverse_cons, List.append_assoc, List.singleton_append, List.mapIdx_cons]
      simp only [List.drop_drop, Nat.mul_succ, Nat.add_comm recordLength]
      rfl

private theorem value_lt_pow (bytes : Bytes) : Bytes.value bytes < 256 ^ bytes.length := by
  induction bytes with
  | nil => exact Nat.one_pos
  | cons b bytes ih =>
    have hb := b.toNat_lt
    rw [Bytes.value, List.length_cons, Nat.pow_succ]
    omega

theorem sizeAt_lt (image : Bytes) (i : Nat) : sizeAt image i < offsetBound := by
  have hlength : ((image.drop (8 + 8 * i + 4)).take 4).length ≤ 4 := List.length_take_le _ _
  exact (value_lt_pow _).trans_le (Nat.pow_le_pow_right (by decide) hlength)

/-- What an image lists that is accepted, and how much of it there is behind its entries. -/
theorem list_eq_ok {image : Bytes} {listed : List Listed} (h : list image = .ok listed) :
    wordAt image 4 ≤ maxEntries ∧ recordLength * wordAt image 4 ≤ image.length - recordsOffset (tableOf image) ∧
      listed = (List.range (wordAt image 4)).map (listedAt image) := by
  rw [list] at h
  dsimp only at h
  split_ifs at h with _ _ _ hcount
  split at h
  · cases h
  rename_i table htable
  split at h
  · cases h
  rename_i entries hentries
  obtain rfl := Except.ok.inj h
  have htable : table = tableOf image := by
    rw [readTable_eq_some htable]
    simp only [wordAt_drop]
    rfl
  subst htable
  obtain ⟨hlength, hlisted⟩ := readRecords_eq_some hentries
  rw [List.length_drop, tableOf, List.length_map, List.length_range] at hlength
  refine ⟨Nat.not_lt.mp hcount, hlength, ?_⟩
  rw [hlisted, List.reverse_nil, List.nil_append]
  apply List.ext_getElem?
  intro i
  rw [List.getElem?_mapIdx, tableOf, List.getElem?_map, List.getElem?_map, Option.map_map]
  by_cases hi : i < wordAt image 4
  · rw [List.getElem?_range hi, Option.map_some, Option.map_some, List.drop_drop]
    rfl
  · have hnone : (List.range (wordAt image 4))[i]? = none := by
      rwa [List.getElem?_eq_none_iff, List.length_range, ← Nat.not_lt]
    rw [hnone]
    rfl

theorem length_list_le {image : Bytes} {listed : List Listed} (h : list image = .ok listed) :
    listed.length ≤ maxEntries := by
  obtain ⟨hcount, -, hlisted⟩ := list_eq_ok h
  rwa [hlisted, List.length_map, List.length_range]

private theorem le_foldl_max (table : List (Nat × Nat)) (stop : Nat) :
    stop ≤ table.foldl (fun stop (offset, size) => max stop (offset + size)) stop ∧
      ∀ cell ∈ table, cell.1 + cell.2 ≤ table.foldl (fun stop (offset, size) => max stop (offset + size)) stop := by
  induction table generalizing stop with
  | nil => exact ⟨Nat.le_refl _, List.forall_mem_nil _⟩
  | cons first table ih =>
    obtain ⟨hstop, hcells⟩ := ih (max stop (first.1 + first.2))
    refine ⟨Nat.le_trans (Nat.le_max_left _ _) hstop, List.forall_mem_cons.mpr ⟨?_, hcells⟩⟩
    exact Nat.le_trans (Nat.le_max_right _ _) hstop

/-- The records begin behind every entry. -/
theorem le_recordsOffset {table : List (Nat × Nat)} {cell : Nat × Nat} (h : cell ∈ table) :
    cell.1 + cell.2 ≤ recordsOffset table :=
  Nat.le_trans ((le_foldl_max table 0).2 cell h) (le_roundUp _)

/-- An image that is accepted holds its entries, wherever its table puts them. -/
theorem offsetAt_add_sizeAt_le {image : Bytes} {listed : List Listed} (h : list image = .ok listed) {i : Nat}
    (hi : i < wordAt image 4) : offsetAt image i + sizeAt image i ≤ image.length := by
  obtain ⟨-, hrecords, -⟩ := list_eq_ok h
  have hmem : (offsetAt image i, sizeAt image i) ∈ tableOf image := List.mem_map_of_mem (List.mem_range.mpr hi)
  have hcell : offsetAt image i + sizeAt image i ≤ recordsOffset (tableOf image) := le_recordsOffset hmem
  have hone : recordLength * 1 ≤ recordLength * wordAt image 4 := Nat.mul_le_mul_left _ (Nat.zero_lt_of_lt hi)
  rw [recordLength] at hone hrecords
  omega

theorem length_payloadAt {image : Bytes} {i : Nat} (h : offsetAt image i + sizeAt image i ≤ image.length) :
    (payloadAt image i).length = sizeAt image i := by
  rw [payloadAt, List.length_take, List.length_drop]
  omega

/-- A name that is well-formed in its record fits the field. -/
theorem fitsField_listedAt {image : Bytes} {i : Nat} {t : Text} (h : Utf8.encode t = nameAt image i) :
    FitsField (listedAt image i).name := by
  have hname : (listedAt image i).name.toList = t := by
    rw [name_listedAt, ← h, Utf8.decodeLossy_encode, String.toList_ofList]
  rw [FitsField, hname]
  constructor
  · rw [h, nameAt]
    exact Nat.le_trans ((List.takeWhile_sublist _).length_le) (List.length_take_le _ _)
  · intro hzero
    have hmem : (0 : UInt8) ∈ nameAt image i := by
      rw [← h, Utf8.encode]
      exact List.mem_flatMap.mpr ⟨_, hzero, by decide⟩
    exact absurd (List.mem_takeWhile_imp hmem) (by decide)

end SceneScript.Image
