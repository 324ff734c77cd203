import Mathlib
import SceneScript.Proofs.Archive.Opening
/-!
# Rebuilding an archive

Every entry of a file that opens can be loaded, however its table arranges them. Laid out anew, the entries keep their
names, times and bytes.
-/
namespace SceneScript

/-- What stands in an image for one of the entries of another image. -/
def Image.contentAt (image : Bytes) (i : Nat) : Content :=
  ⟨(listedAt image i).name, (listedAt image i).timestamp, payloadAt image i⟩

/-- An entry of a file that opened is loaded while the file stays as it was. -/
theorem Listed.load_toEntry {image : Bytes} {i : Nat}
    (hinside : Image.offsetAt image i + Image.sizeAt image i ≤ image.length) {disk : Disk} {p : Path}
    (hread : disk.read p = .ok image) :
    (Image.listedAt image i).toEntry.load disk (some p) = .ok (Image.payloadAt image i) := by
  obtain ⟨loc, hfile⟩ := Disk.resolve_of_read hread
  apply Entry.load_onDisk rfl
  change disk.readPart p (Image.offsetAt image i) (Image.sizeAt image i) = _
  rw [Disk.readPart_of_resolve hfile, ← Image.payloadAt, if_pos (Image.length_payloadAt hinside)]

namespace Archive

section

variable {disk disk' : Disk} {p : Path} {a : Archive} (hopen : openFile disk p = .ok a) {image : Bytes}
  (hread : disk.read p = .ok image)

include hopen hread

/-- The entries of a file that opens are those of its table, which are all inside the file. -/
theorem entries_of_openFile :
    a.entries = (List.range (Image.wordAt image 4)).map (fun i => (Image.listedAt image i).toEntry) ∧
      ∀ i < Image.wordAt image 4, Image.offsetAt image i + Image.sizeAt image i ≤ image.length := by
  obtain ⟨image', listed, hread', hlist, rfl⟩ := openFile_eq_ok hopen
  obtain rfl := Except.ok.inj (hread.symm.trans hread')
  obtain ⟨-, -, hlisted⟩ := Image.list_eq_ok hlist
  refine ⟨?_, fun i hi => Image.offsetAt_add_sizeAt_le hlist hi⟩
  rw [hlisted, List.map_map]
  rfl

theorem length_of_openFile : a.entries.length = Image.wordAt image 4 := by
  rw [(entries_of_openFile hopen hread).1, List.length_map, List.length_range]

/-- Each entry of a file that opens is loaded with the bytes that the table tells, while the file stays as it was. -/
theorem load_of_openFile (hread' : disk'.read p = .ok image) {i : Nat} {e : Entry} (he : a.entries[i]? = some e) :
    Image.offsetAt image i + Image.sizeAt image i ≤ image.length ∧
      e.load disk' a.source? = .ok (Image.payloadAt image i) := by
  obtain ⟨hentries, hinside⟩ := entries_of_openFile hopen hread
  have hi : i < Image.wordAt image 4 := length_of_openFile hopen hread ▸ (List.getElem?_eq_some_iff.mp he).1
  rw [hentries, List.getElem?_map, List.getElem?_range hi] at he
  obtain rfl := Option.some.inj he
  rw [source_of_openFile hopen]
  exact ⟨hinside i hi, Listed.load_toEntry (hinside i hi) hread'⟩

/-- What a file that opens holds, while it stays as it was. -/
theorem contents?_of_openFile (hread' : disk'.read p = .ok image) :
    a.contents? disk' = .ok ((List.range (Image.wordAt image 4)).map (Image.contentAt image)) := by
  obtain ⟨hentries, hinside⟩ := entries_of_openFile hopen hread
  apply contents?_of_forall₂
  rw [hentries, source_of_openFile hopen, List.forall₂_map_left_iff, List.forall₂_map_right_iff, List.forall₂_same]
  intro i hi
  exact ⟨rfl, rfl, Listed.load_toEntry (hinside i (List.mem_range.mp hi)) hread'⟩

theorem sizes_of_openFile : a.entries.map Entry.size =
    ((List.range (Image.wordAt image 4)).map (Image.contentAt image)).map fun c => c.data.length := by
  obtain ⟨hentries, hinside⟩ := entries_of_openFile hopen hread
  rw [hentries, List.map_map, List.map_map]
  apply List.map_congr_left
  intro i hi
  exact (Image.length_payloadAt (hinside i (List.mem_range.mp hi))).symm

theorem fits_of_openFile (hnames : ∀ i < a.entries.length, ∃ t, Utf8.encode t = Image.nameAt image i) :
    ∀ e ∈ a.entries, FitsField e.name := by
  rw [length_of_openFile hopen hread] at hnames
  rw [(entries_of_openFile hopen hread).1, List.forall_mem_map]
  intro i hi
  obtain ⟨t, ht⟩ := hnames i (List.mem_range.mp hi)
  exact Image.fitsField_listedAt ht

end

/-- Whatever file opens, each of its entries is loaded with the bytes that the table tells, and if the names are
well-formed and the image is not too long, the archive can be laid out anew with the same entries. -/
theorem openFile_rebuild {disk disk' : Disk} {p : Path} {a : Archive} (hopen : openFile disk p = .ok a) {image : Bytes}
    (hread : disk.read p = .ok image) (hread' : disk'.read p = .ok image) :
    (a.entries.length = Image.wordAt image 4 ∧ ∀ i e, a.entries[i]? = some e →
      Image.offsetAt image i + Image.sizeAt image i ≤ image.length ∧
        e.load disk' a.source? = .ok (Image.payloadAt image i)) ∧
    ((∀ i < a.entries.length, ∃ t, Utf8.encode t = Image.nameAt image i) →
      Image.imageSize (a.entries.map Entry.size) < offsetBound →
      ∃ contents rebuilt, a.contents? disk' = .ok contents ∧ (a.toBytes disk').1 = .ok rebuilt ∧
        rebuilt.length = Image.imageSize (a.entries.map Entry.size) ∧
        ∀ disk'' q, disk''.read q = .ok rebuilt →
          ∃ b, openFile disk'' q = .ok b ∧ b.contents? disk'' = .ok contents) := by
  refine ⟨⟨length_of_openFile hopen hread, fun i e he => load_of_openFile hopen hread hread' he⟩, fun hnames hsize => ?_⟩
  have hcontents := contents?_of_openFile hopen hread hread'
  have hfits := fits_of_contents? hcontents (fits_of_openFile hopen hread hnames)
  have hcount := (forall₂_of_contents? hcontents).length_eq ▸ length_le_of_openFile hopen
  rw [sizes_of_openFile hopen hread] at hsize ⊢
  obtain ⟨rebuilt, hrebuilt⟩ := Image.exists_build? hsize
  refine ⟨_, rebuilt, hcontents, toBytes_of_contents? hcontents hrebuilt, Image.length_build? hrebuilt, ?_⟩
  intro disk'' q hread''
  obtain ⟨b, hopen', hagain, -⟩ := contents?_of_image hrebuilt hcount hfits hread''
  exact ⟨b, hopen', hagain⟩

/-- Two entries that overlap, the first one behind the second, neither at the beginning of a block. -/
theorem openFile_rebuild_overlapping :
    let image := magic ++ 0 :: (Bytes.word32 2 ++ (Bytes.word32 4 ++ Bytes.word32 4) ++
      (Bytes.word32 1 ++ Bytes.word32 6) ++ List.replicate (blockSize - 24) 0xFF ++
      (Image.recordOf ⟨"SC02", .zero, []⟩ ++ Image.recordOf ⟨"SC01", .zero, []⟩))
    let disk : Disk := ⟨[], [(["scene.afs"], .file image)]⟩
    let a : Archive := ⟨some "scene.afs", "scene.afs", [⟨"SC02", .zero, .onDisk 4 4⟩, ⟨"SC01", .zero, .onDisk 1 6⟩]⟩
    (openFile disk "scene.afs" = .ok a ∧ disk.read "scene.afs" = .ok image) ∧
      (a.entries.length = Image.wordAt image 4 ∧ ∀ i e, a.entries[i]? = some e →
        Image.offsetAt image i + Image.sizeAt image i ≤ image.length ∧
          e.load disk a.source? = .ok (Image.payloadAt image i)) ∧
      ∃ contents rebuilt, a.contents? disk = .ok contents ∧ (a.toBytes disk).1 = .ok rebuilt ∧
        rebuilt.length = Image.imageSize (a.entries.map Entry.size) ∧
        ∀ disk'' q, disk''.read q = .ok rebuilt →
          ∃ b, openFile disk'' q = .ok b ∧ b.contents? disk'' = .ok contents := by
  intro image disk a
  have hopen : openFile disk "scene.afs" = .ok a := by decide +kernel
  have hread : disk.read "scene.afs" = .ok image := by decide +kernel
  obtain ⟨hentries, hrebuild⟩ := openFile_rebuild hopen hread hread
  refine ⟨⟨hopen, hread⟩, hentries, hrebuild ?_ (by decide)⟩
  intro i hi
  change i < 2 at hi
  interval_cases i
  · exact ⟨"SC02".toList, by decide +kernel⟩
  · exact ⟨"SC01".toList, by decide +kernel⟩

end Archive
end SceneScript
