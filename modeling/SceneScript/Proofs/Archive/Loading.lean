import Mathlib
import SceneScript.Archive.Basic
import SceneScript.Proofs.Correspondence
import SceneScript.Proofs.Files.Disk
/-!
# Loading entries

What loading leaves of an archive and what its image is laid out from. Loading an entry changes nothing that is seen of
it later, so an image is the same whatever was loaded before.
-/
namespace SceneScript

namespace Entry

theorem load_loaded {e : Entry} {data : Bytes} (h : e.payload = .loaded data) (disk : Disk) (source? : Option Path) :
    e.load disk source? = .ok data := by
  rw [load, h]

theorem setData_self {e : Entry} {data : Bytes} (h : e.payload = .loaded data) : e.setData data = e := by
  rw [setData, ← h]

theorem load_onDisk {e : Entry} {offset size : Nat} (h : e.payload = .onDisk offset size) {disk : Disk} {p : Path}
    {data : Bytes} (hpart : disk.readPart p offset size = .ok (some data)) : e.load disk (some p) = .ok data := by
  rw [load, h]
  dsimp only
  rw [hpart]

/-- What is read of a file for an entry is as long as the entry. -/
theorem length_of_load {e : Entry} {offset size : Nat} (h : e.payload = .onDisk offset size) {disk : Disk}
    {source? : Option Path} {data : Bytes} (hload : e.load disk source? = .ok data) : data.length = size := by
  rw [load, h] at hload
  dsimp only at hload
  split at hload
  · cases hload
  split at hload
  · cases hload
  · cases hload
  · rename_i hpart
    obtain rfl := Except.ok.inj hload
    exact Disk.length_of_readPart hpart

/-- An entry is loaded alike from files with the same contents. -/
theorem load_congr (e : Entry) {disk disk' : Disk} {p : Path} {loc loc' : Location} {data : Bytes}
    (h : disk.resolve p = .ok (loc, some (.file data))) (h' : disk'.resolve p = .ok (loc', some (.file data))) :
    e.load disk' (some p) = e.load disk (some p) := by
  rw [load, load]
  split
  · rfl
  · dsimp only
    rw [Disk.readPart_of_resolve h, Disk.readPart_of_resolve h']

end Entry

/-- Whether an entry is another one, which may have been loaded. -/
def Entry.MaybeLoaded (disk : Disk) (source? : Option Path) (e e' : Entry) : Prop :=
  e' = e ∨ ∃ data, e.load disk source? = .ok data ∧ e' = e.setData data

theorem Entry.MaybeLoaded.name_eq {disk : Disk} {source? : Option Path} {e e' : Entry}
    (h : e.MaybeLoaded disk source? e') : e'.name = e.name := by
  rcases h with rfl | ⟨data, -, rfl⟩
  · rfl
  · rfl

/-- What stands in an image for an entry. -/
def Entry.content? (disk : Disk) (source? : Option Path) (e : Entry) : Except ArchiveError Image.Content :=
  (e.load disk source?).map fun data => ⟨e.name, e.timestamp, data⟩

/-- Whether an entry can be loaded and stands in an image as certain contents. -/
structure Entry.Holds (disk : Disk) (source? : Option Path) (e : Entry) (c : Image.Content) : Prop where
  name_eq : c.name = e.name
  timestamp_eq : c.timestamp = e.timestamp
  load_eq : e.load disk source? = .ok c.data

theorem Entry.content?_eq_ok {disk : Disk} {source? : Option Path} {e : Entry} {c : Image.Content} :
    e.content? disk source? = .ok c ↔ e.Holds disk source? c := by
  rw [content?]
  constructor
  · intro h
    cases hload : e.load disk source? with
    | error err =>
      rw [hload] at h
      cases h
    | ok data =>
      rw [hload] at h
      obtain rfl := Except.ok.inj h
      exact ⟨rfl, rfl, hload⟩
  · intro h
    rw [h.load_eq, ← h.name_eq, ← h.timestamp_eq]
    rfl

namespace Archive

theorem getElem?_of_find? {a : Archive} {name : String} {e : Entry} {place : Nat} (h : a.find? name = some (e, place)) :
    a.entries[place]? = some e :=
  List.mem_zipIdx_iff_getElem?.mp (List.mem_of_find?_eq_some h)

theorem getElem?_setDataAt (a : Archive) (place : Nat) (data : Bytes) (i : Nat) :
    (a.setDataAt place data).entries[i]? = a.entries[i]?.map fun e => if place = i then e.setData data else e :=
  List.getElem?_modify _ _ _ _

theorem map_name_setDataAt (a : Archive) (place : Nat) (data : Bytes) :
    (a.setDataAt place data).entries.map Entry.name = a.entries.map Entry.name := by
  apply List.ext_getElem?
  intro i
  rw [List.getElem?_map, List.getElem?_map, getElem?_setDataAt, Option.map_map]
  congr 1
  funext e
  dsimp only [Function.comp_apply]
  split_ifs <;> rfl

theorem loadEntries_spec (disk : Disk) (source? : Option Path) (done entries : List Entry) :
    ∃ entries', (loadEntries disk source? done entries).2 = done.reverse ++ entries' ∧
      List.Forall₂ (Entry.MaybeLoaded disk source?) entries entries' ∧
      ((loadEntries disk source? done entries).1 = none → ∀ e ∈ entries', e.isLoaded = true) := by
  induction entries generalizing done with
  | nil => exact ⟨[], (List.append_nil _).symm, .nil, fun _ _ he => nomatch he⟩
  | cons e more ih =>
    rw [loadEntries]
    split
    · refine ⟨e :: more, rfl, List.forall₂_same.mpr fun _ _ => Or.inl rfl, ?_⟩
      intro h
      cases h
    · rename_i data hdata
      obtain ⟨entries', heq, hmaybe, hloaded⟩ := ih (e.setData data :: done)
      refine ⟨e.setData data :: entries', ?_, .cons (Or.inr ⟨data, hdata, rfl⟩) hmaybe, ?_⟩
      · rw [heq, List.reverse_cons, List.append_assoc, List.singleton_append]
      · intro hnone
        exact List.forall_mem_cons.mpr ⟨rfl, hloaded hnone⟩

/-- Laying an archive out loads its entries. -/
theorem toBytes_snd (a : Archive) (disk : Disk) :
    (a.toBytes disk).2 = { a with entries := (loadEntries disk a.source? [] a.entries).2 } := by
  rw [toBytes]
  rcases loadEntries disk a.source? [] a.entries with ⟨failure, entries⟩
  cases failure with
  | some e => rfl
  | none =>
    dsimp only
    cases Image.build? (entries.map contentOf) <;> rfl

/-- What laying an archive out makes of it, and what the image is laid out from. -/
theorem toBytes_spec {a a' : Archive} {disk : Disk} {result : Except ArchiveError Bytes}
    (h : a.toBytes disk = (result, a')) :
    a'.source? = a.source? ∧ a'.destination = a.destination ∧
      List.Forall₂ (Entry.MaybeLoaded disk a.source?) a.entries a'.entries ∧
      ∀ image, result = .ok image →
        (∀ e ∈ a'.entries, e.isLoaded = true) ∧ Image.build? (a'.entries.map contentOf) = some image := by
  obtain ⟨entries, heq, hmaybe, hloaded⟩ := loadEntries_spec disk a.source? [] a.entries
  rw [List.reverse_nil, List.nil_append] at heq
  have ha' : a' = { a with entries := entries } := by
    rw [← heq, ← toBytes_snd, h]
  subst ha'
  refine ⟨rfl, rfl, hmaybe, fun image hresult => ?_⟩
  rw [toBytes] at h
  rcases hload : loadEntries disk a.source? [] a.entries with ⟨failure, entries'⟩
  rw [hload] at h heq hloaded
  obtain rfl : entries' = entries := heq
  cases failure with
  | some e =>
    obtain ⟨rfl, -⟩ := Prod.mk.inj h
    cases hresult
  | none =>
    dsimp only at h
    cases himage : Image.build? (entries'.map contentOf) with
    | none =>
      rw [himage] at h
      obtain ⟨rfl, -⟩ := Prod.mk.inj h
      cases hresult
    | some built =>
      rw [himage] at h
      obtain ⟨rfl, -⟩ := Prod.mk.inj h
      obtain rfl := Except.ok.inj hresult
      exact ⟨hloaded rfl, rfl⟩

/-- What saving makes of an archive, and what it writes. -/
theorem save_spec {a a' : Archive} {disk : Disk} {result : Except ArchiveError (Disk × Log)}
    (h : a.save disk = (result, a')) :
    a'.source? = a.source? ∧ a'.destination = a.destination ∧
      List.Forall₂ (Entry.MaybeLoaded disk a.source?) a.entries a'.entries ∧
      ∀ disk' log, result = .ok (disk', log) → (∀ e ∈ a'.entries, e.isLoaded = true) ∧
        ∃ image, Image.build? (a'.entries.map contentOf) = some image ∧ disk.write a.destination image = .ok disk' := by
  rcases hbytes : a.toBytes disk with ⟨laid, a₁⟩
  obtain ⟨hsource, hdestination, hmaybe, hlaid⟩ := toBytes_spec hbytes
  rw [save, hbytes] at h
  cases laid with
  | error e =>
    obtain ⟨rfl, rfl⟩ := Prod.mk.inj h
    exact ⟨hsource, hdestination, hmaybe, fun _ _ h => nomatch h⟩
  | ok image =>
    dsimp only at h
    rw [hdestination] at h
    cases hwrite : disk.write a.destination image with
    | error e =>
      rw [hwrite] at h
      obtain ⟨rfl, rfl⟩ := Prod.mk.inj h
      exact ⟨hsource, hdestination, hmaybe, fun _ _ h => nomatch h⟩
    | ok written =>
      rw [hwrite] at h
      obtain ⟨rfl, rfl⟩ := Prod.mk.inj h
      obtain ⟨hloaded, himage⟩ := hlaid image rfl
      refine ⟨hsource, hdestination, hmaybe, fun disk' log h => ⟨hloaded, image, himage, ?_⟩⟩
      obtain ⟨rfl, -⟩ := Prod.mk.inj (Except.ok.inj h)
      exact hwrite

/-- Saving an archive that is loaded leaves it as it is. -/
theorem save_of_loaded {a : Archive} {disk disk' : Disk} (h : ∀ e ∈ a.entries, e.isLoaded = true) {image : Bytes}
    (himage : Image.build? (a.entries.map contentOf) = some image) (hwrite : disk.write a.destination image = .ok disk') :
    ∃ log, a.save disk = (.ok (disk', log), a) := by
  have hload : ∀ done entries, (∀ e ∈ entries, e.isLoaded = true) →
      loadEntries disk a.source? done entries = (none, done.reverse ++ entries) := by
    intro done entries hentries
    induction entries generalizing done with
    | nil => rw [loadEntries, List.append_nil]
    | cons e more ih =>
      rw [List.forall_mem_cons] at hentries
      cases hpayload : e.payload with
      | onDisk offset size => simp [Entry.isLoaded, hpayload] at hentries
      | loaded data =>
        rw [loadEntries, Entry.load_loaded hpayload]
        dsimp only
        rw [Entry.setData_self hpayload, ih _ hentries.2, List.reverse_cons, List.append_assoc, List.singleton_append]
  rw [save, toBytes, hload [] a.entries h, List.reverse_nil, List.nil_append]
  dsimp only
  rw [himage]
  dsimp only
  rw [hwrite]
  exact ⟨_, rfl⟩

/-- What an archive is laid out from, or the failure of the first entry that cannot be loaded. -/
def contents? (a : Archive) (disk : Disk) : Except ArchiveError (List Image.Content) :=
  a.entries.mapM (Entry.content? disk a.source?)

theorem forall₂_of_contents? {a : Archive} {disk : Disk} {contents : List Image.Content}
    (h : a.contents? disk = .ok contents) : List.Forall₂ (Entry.Holds disk a.source?) a.entries contents :=
  (forall₂_of_mapM h).imp fun _ _ => Entry.content?_eq_ok.mp

theorem contents?_of_forall₂ {a : Archive} {disk : Disk} {contents : List Image.Content}
    (h : List.Forall₂ (Entry.Holds disk a.source?) a.entries contents) : a.contents? disk = .ok contents := by
  rw [contents?]
  generalize a.entries = entries at h ⊢
  induction h with
  | nil => rfl
  | cons hholds _ ih =>
    rw [List.mapM_cons, Entry.content?_eq_ok.mpr hholds, ih]
    rfl

private theorem loadEntries_eq (disk : Disk) (source? : Option Path) (done entries : List Entry) :
    match entries.mapM (Entry.content? disk source?) with
    | .error e => (loadEntries disk source? done entries).1 = some e
    | .ok contents => ∃ entries', loadEntries disk source? done entries = (none, entries') ∧
        entries'.map contentOf = (done.reverse.map contentOf) ++ contents := by
  induction entries generalizing done with
  | nil => exact ⟨done.reverse, rfl, (List.append_nil _).symm⟩
  | cons e more ih =>
    rw [List.mapM_cons, loadEntries, Entry.content?]
    cases hload : e.load disk source? with
    | error err => rfl
    | ok data =>
      have ih := ih (e.setData data :: done)
      cases hmore : more.mapM (Entry.content? disk source?) with
      | error err =>
        rw [hmore] at ih
        exact ih
      | ok contents =>
        rw [hmore] at ih
        obtain ⟨entries', hload', hcontents⟩ := ih
        refine ⟨entries', hload', ?_⟩
        rw [hcontents, List.reverse_cons, List.map_append, List.append_assoc]
        rfl

/-- The image of an archive is laid out from its contents. -/
theorem toBytes_fst (a : Archive) (disk : Disk) :
    (a.toBytes disk).1 = match a.contents? disk with
      | .error e => .error e
      | .ok contents =>
        match Image.build? contents with
        | none => .error .tooLarge
        | some image => .ok image := by
  have hload := loadEntries_eq disk a.source? [] a.entries
  rw [toBytes, contents?]
  cases hcontents : a.entries.mapM (Entry.content? disk a.source?) with
  | error e =>
    rw [hcontents] at hload
    rcases hentries : loadEntries disk a.source? [] a.entries with ⟨failure, entries⟩
    rw [hentries] at hload
    obtain rfl : failure = some e := hload
    rfl
  | ok contents =>
    rw [hcontents] at hload
    obtain ⟨entries, hentries, hmap⟩ := hload
    rw [hentries]
    dsimp only
    rw [hmap, List.reverse_nil, List.map_nil, List.nil_append]
    cases Image.build? contents <;> rfl

/-- What saving an archive comes to. -/
def written (a : Archive) (disk : Disk) : Except ArchiveError (Disk × Log) :=
  match a.contents? disk with
  | .error e => .error e
  | .ok contents =>
    match Image.build? contents with
    | none => .error .tooLarge
    | some image =>
      match disk.write a.destination image with
      | .error e => .error (.file e)
      | .ok disk => .ok (disk, [Log.info ("Saved to " ++ a.destination)])

theorem save_fst (a : Archive) (disk : Disk) : (a.save disk).1 = a.written disk := by
  have hbytes := a.toBytes_fst disk
  have hdestination : (a.toBytes disk).2.destination = a.destination := by rw [toBytes_snd]
  rw [save, written]
  generalize a.toBytes disk = laid at hbytes hdestination ⊢
  obtain ⟨result, a'⟩ := laid
  obtain rfl : result = _ := hbytes
  cases a.contents? disk with
  | error e => rfl
  | ok contents =>
    dsimp only
    cases Image.build? contents with
    | none => rfl
    | some image =>
      dsimp only at hdestination ⊢
      rw [hdestination]
      cases disk.write a.destination image <;> rfl

theorem written_eq_ok {a : Archive} {disk disk' : Disk} {log : Log} (h : a.written disk = .ok (disk', log)) :
    ∃ contents image, List.Forall₂ (Entry.Holds disk a.source?) a.entries contents ∧
      Image.build? contents = some image ∧ disk.write a.destination image = .ok disk' := by
  rw [written] at h
  cases hcontents : a.contents? disk with
  | error e =>
    rw [hcontents] at h
    cases h
  | ok contents =>
    rw [hcontents] at h
    dsimp only at h
    cases himage : Image.build? contents with
    | none =>
      rw [himage] at h
      cases h
    | some image =>
      rw [himage] at h
      dsimp only at h
      cases hwrite : disk.write a.destination image with
      | error e =>
        rw [hwrite] at h
        cases h
      | ok disk₁ =>
        rw [hwrite] at h
        obtain ⟨rfl, -⟩ := Prod.mk.inj (Except.ok.inj h)
        exact ⟨contents, image, forall₂_of_contents? hcontents, himage, hwrite⟩

end Archive
end SceneScript
