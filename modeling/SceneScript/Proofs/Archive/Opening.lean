import Mathlib
import SceneScript.Proofs.Archive.Layout
import SceneScript.Proofs.Archive.Loading
/-!
# Opening an image

A file that holds an image is opened as an archive with the entries the image was built from, and each is loaded with
its bytes. A name that does not fit its field comes back as the field holds it. Laid out anew, the archive is the image
it was opened from.
-/
namespace SceneScript

/-- An entry of an opened archive that holds what an image was built from. -/
structure Entry.Reads (disk : Disk) (p : Path) (c : Image.Content) (e : Entry) : Prop where
  name_eq : e.name = Image.readName (Image.nameField c.name)
  timestamp_eq : e.timestamp = c.timestamp
  size_eq : e.size = c.data.length
  load_eq : e.load disk (some p) = .ok c.data

theorem Entry.Reads.name_of_fits {disk : Disk} {p : Path} {c : Image.Content} {e : Entry} (h : Entry.Reads disk p c e)
    (hfits : FitsField c.name) : e.name = c.name := by
  have hname := Image.readName_nameField hfits []
  rw [List.append_nil] at hname
  rw [h.name_eq, hname]

theorem Entry.Reads.holds {disk : Disk} {p : Path} {c : Image.Content} {e : Entry} (h : Entry.Reads disk p c e)
    (hfits : FitsField c.name) : e.Holds disk (some p) c :=
  ⟨(h.name_of_fits hfits).symm, h.timestamp_eq.symm, h.load_eq⟩

/-- An entry in memory. -/
def Image.Content.toEntry (c : Image.Content) : Entry := ⟨c.name, c.timestamp, .loaded c.data⟩

/-- The entry of an archive that is opened, for one that its image lists. -/
def Listed.toEntry (l : Listed) : Entry := ⟨l.name, l.timestamp, .onDisk l.offset l.size⟩

namespace Archive

theorem openFile_eq_ok {disk : Disk} {p : Path} {a : Archive} (h : openFile disk p = .ok a) :
    ∃ image listed, disk.read p = .ok image ∧ Image.list image = .ok listed ∧
      a = ⟨some p, p, listed.map Listed.toEntry⟩ := by
  rw [openFile] at h
  split at h
  · cases h
  rename_i image hread
  split at h
  · cases h
  rename_i listed hlist
  exact ⟨image, listed, hread, hlist, (Except.ok.inj h).symm⟩

theorem openFile_of_list {disk : Disk} {p : Path} {image : Bytes} {listed : List Listed} (hread : disk.read p = .ok image)
    (hlist : Image.list image = .ok listed) : openFile disk p = .ok ⟨some p, p, listed.map Listed.toEntry⟩ := by
  rw [openFile, hread]
  dsimp only
  rw [hlist]
  rfl

theorem source_of_openFile {disk : Disk} {p : Path} {a : Archive} (h : openFile disk p = .ok a) :
    a.source? = some p := by
  obtain ⟨_, _, -, -, rfl⟩ := openFile_eq_ok h
  rfl

theorem destination_of_openFile {disk : Disk} {p : Path} {a : Archive} (h : openFile disk p = .ok a) :
    a.destination = p := by
  obtain ⟨_, _, -, -, rfl⟩ := openFile_eq_ok h
  rfl

/-- An archive that opens lists no more entries than an image holds. -/
theorem length_le_of_openFile {disk : Disk} {p : Path} {a : Archive} (h : openFile disk p = .ok a) :
    a.entries.length ≤ maxEntries := by
  obtain ⟨_, listed, -, hlist, rfl⟩ := openFile_eq_ok h
  rw [List.length_map]
  exact Image.length_list_le hlist

/-- What an entry is loaded with that was listed is no longer than a word of its table tells. -/
theorem length_lt_of_openFile {disk : Disk} {p : Path} {a : Archive} (h : openFile disk p = .ok a) {e : Entry}
    (he : e ∈ a.entries) {bytes : Bytes} (hload : e.load disk a.source? = .ok bytes) : bytes.length < offsetBound := by
  obtain ⟨image, listed, -, hlist, rfl⟩ := openFile_eq_ok h
  obtain ⟨-, -, rfl⟩ := Image.list_eq_ok hlist
  rw [List.map_map] at he
  obtain ⟨i, -, rfl⟩ := List.mem_map.mp he
  exact Entry.length_of_load rfl hload ▸ Image.sizeAt_lt image i

/-- A file that holds an image opens. -/
theorem openFile_image {contents : List Image.Content} {image : Bytes} (himage : Image.build? contents = some image)
    (hcount : contents.length ≤ maxEntries) {disk : Disk} {p : Path} {loc : Location}
    (hfile : disk.resolve p = .ok (loc, some (.file image))) :
    ∃ a, openFile disk p = .ok a ∧ List.Forall₂ (Entry.Reads disk p) contents a.entries := by
  refine ⟨_, openFile_of_list (Disk.read_of_resolve hfile) (Image.list_build?_cutName himage hcount), ?_⟩
  rw [List.forall₂_map_right_iff, List.forall₂_map_right_iff]
  refine (Image.forall₂_listing himage).imp ?_
  rintro c l ⟨hname, htime, hsize, hslice⟩
  refine ⟨congrArg (fun name => Image.readName (Image.nameField name)) hname, htime, hsize, Entry.load_onDisk rfl ?_⟩
  change disk.readPart p l.offset l.size = _
  rw [Disk.readPart_of_resolve hfile, hslice, if_pos hsize.symm]

/-- What an image was built from is read back when every name fits its field. -/
theorem contents?_of_image {contents : List Image.Content} {image : Bytes} (himage : Image.build? contents = some image)
    (hcount : contents.length ≤ maxEntries) (hfits : ∀ c ∈ contents, FitsField c.name) {disk : Disk} {p : Path}
    (hread : disk.read p = .ok image) : ∃ a, openFile disk p = .ok a ∧ a.contents? disk = .ok contents ∧
      a.entries.map Entry.size = contents.map fun c => c.data.length := by
  obtain ⟨loc, hfile⟩ := Disk.resolve_of_read hread
  obtain ⟨a, hopen, hreads⟩ := openFile_image himage hcount hfile
  refine ⟨a, hopen, contents?_of_forall₂ ?_, map_eq_of_forall₂ hreads fun c e h => h.size_eq⟩
  rw [source_of_openFile hopen]
  exact List.Forall₂.flip (((List.forall₂_and_left _ _).mpr ⟨hfits, hreads⟩).imp fun c e h => h.2.holds h.1)

theorem toBytes_of_contents? {a : Archive} {disk : Disk} {contents : List Image.Content}
    (hcontents : a.contents? disk = .ok contents) {image : Bytes} (himage : Image.build? contents = some image) :
    (a.toBytes disk).1 = .ok image := by
  rw [toBytes_fst, hcontents]
  dsimp only
  rw [himage]

theorem fits_of_contents? {a : Archive} {disk : Disk} {contents : List Image.Content}
    (hcontents : a.contents? disk = .ok contents) (hnames : ∀ e ∈ a.entries, FitsField e.name) :
    ∀ c ∈ contents, FitsField c.name := by
  intro c hc
  obtain ⟨e, he, hholds⟩ := exists_of_forall₂ (forall₂_of_contents? hcontents) hc
  exact hholds.name_eq ▸ hnames e he

theorem contents?_ofEntries (destination : Path) (contents : List Image.Content) (disk : Disk) :
    (ofEntries destination (contents.map Image.Content.toEntry)).contents? disk = .ok contents := by
  apply contents?_of_forall₂
  exact List.forall₂_map_left_iff.mpr (List.forall₂_same.mpr fun _ _ => ⟨rfl, rfl, rfl⟩)

/-- Entries in memory whose names fit their fields are laid out as their image says itself, if it is not too long. The
image opens with the same entries, and the opened archive has the same image. -/
theorem toBytes_openFile {contents : List Image.Content} (hnames : ∀ c ∈ contents, FitsField c.name)
    (hcount : contents.length ≤ maxEntries)
    (hsize : Image.imageSize (contents.map fun c => c.data.length) < offsetBound) (destination : Path) (disk : Disk) :
    ∃ image, ((ofEntries destination (contents.map Image.Content.toEntry)).toBytes disk).1 = .ok image ∧
      Image.LaidOut contents image ∧ image.length = Image.imageSize (contents.map fun c => c.data.length) ∧
      ∀ disk' p, disk'.read p = .ok image → ∃ b, openFile disk' p = .ok b ∧ b.contents? disk' = .ok contents ∧
        b.entries.map Entry.size = (contents.map fun c => c.data.length) ∧ (b.toBytes disk').1 = .ok image := by
  obtain ⟨image, himage⟩ := Image.exists_build? hsize
  have hbytes := toBytes_of_contents? (contents?_ofEntries destination contents disk) himage
  refine ⟨image, hbytes, Image.laidOut_build? himage hcount, Image.length_build? himage, ?_⟩
  intro disk' p hread
  obtain ⟨b, hopen, hagain, hsizes⟩ := contents?_of_image himage hcount hnames hread
  exact ⟨b, hopen, hagain, hsizes, toBytes_of_contents? hagain himage⟩

/-- An entry that is empty before one that is not. -/
theorem toBytes_openFile_empty_entry :
    let contents : List Image.Content := [⟨"INIT", ⟨2004, 11, 30, 12, 5, 59⟩, []⟩, ⟨"SC01", .zero, [1, 2, 3]⟩]
    (∀ c ∈ contents, FitsField c.name) ∧
      ∃ image, ((ofEntries "out.afs" (contents.map Image.Content.toEntry)).toBytes (.empty [])).1 = .ok image ∧
        Image.LaidOut contents image ∧ image.length = 0x1060 ∧
        ∀ disk' p, disk'.read p = .ok image → ∃ b, openFile disk' p = .ok b ∧ b.contents? disk' = .ok contents ∧
          b.entries.map Entry.size = [0, 3] ∧ (b.toBytes disk').1 = .ok image := by
  intro contents
  have hnames : ∀ c ∈ contents, FitsField c.name := by
    unfold FitsField
    decide +kernel
  have hlength : Image.imageSize (contents.map fun c => c.data.length) = 0x1060 := by decide
  refine ⟨hnames, ?_⟩
  rw [← hlength]
  exact toBytes_openFile hnames (by decide) (by decide) "out.afs" (.empty [])

end Archive
end SceneScript
