import Mathlib
import SceneScript.Archive.Shelf
import SceneScript.Proofs.Archive.Rebuilding
/-!
# Views of an archive

An archive that was opened may be viewed, changed and saved in any order, also to the file its entries are still in. An
entry that was not yet loaded is loaded before any file is written, so no entry is ever looked for in a file that was
laid out anew.
-/
namespace SceneScript

/-- What a view of an archive loads of an entry: these bytes, which are in memory or in the file as it was opened. -/
structure Entry.Stays (disk : Disk) (p : Path) (image data : Bytes) (e : Entry) : Prop where
  load_eq : e.load disk (some p) = .ok data
  backed : e.isLoaded = true ∨ disk.read p = .ok image

namespace Entry.Stays

variable {disk disk' : Disk} {p : Path} {image data : Bytes} {e e' : Entry}

theorem setData (e : Entry) : (e.setData data).Stays disk p image data := ⟨rfl, .inl rfl⟩

/-- Loading an entry changes nothing that is seen of it. -/
theorem maybeLoaded (h : e.Stays disk p image data) (hmaybe : e.MaybeLoaded disk (some p) e') :
    e'.Stays disk p image data := by
  rcases hmaybe with rfl | ⟨data', hload, rfl⟩
  · exact h
  · obtain rfl := Except.ok.inj (h.load_eq.symm.trans hload)
    exact .setData e

/-- An entry in memory stays, whatever becomes of the files. -/
theorem with_disk_of_loaded (h : e.Stays disk p image data) (hloaded : e.isLoaded = true) :
    e.Stays disk' p image data := by
  cases hpayload : e.payload with
  | onDisk offset size => simp [isLoaded, hpayload] at hloaded
  | loaded data' =>
    obtain rfl := Except.ok.inj (h.load_eq.symm.trans (load_loaded hpayload disk _))
    exact ⟨load_loaded hpayload _ _, .inl hloaded⟩

/-- An entry stays while nobody writes the file it was listed from. -/
theorem with_disk (h : e.Stays disk p image data) (hread : disk'.read p = disk.read p) :
    e.Stays disk' p image data := by
  rcases h.backed with hloaded | hbacked
  · exact h.with_disk_of_loaded hloaded
  · obtain ⟨loc, hfile⟩ := Disk.resolve_of_read hbacked
    obtain ⟨loc', hfile'⟩ := Disk.resolve_of_read (hread.trans hbacked)
    exact ⟨(e.load_congr hfile hfile').trans h.load_eq, .inr (hread.trans hbacked)⟩

end Entry.Stays

/-- Files and the views that were taken of an archive. -/
structure Storage where
  disk : Disk
  shelf : Shelf

namespace Storage

/-- What is called on a view. An entry is called by its place. -/
inductive Call where
  | load (view place : Nat)
  | setData (view place : Nat) (data : Bytes)
  | toBytes (view : Nat)
  | save (view : Nat)
  | cloneTo (view : Nat) (destination : Path)

/-- What a call leaves, be it a failure; none if there is no such view or entry. -/
def Call.act (s : Storage) : Call → Option Storage
  | load view place => do
    let a ← s.shelf.archive? view
    let e ← a.entries[place]?
    match a.loadAt s.disk e place with
    | .error _ => some s
    | .ok (_, a) => some { s with shelf := s.shelf.update view a }
  | setData view place data => do
    let a ← s.shelf.archive? view
    some { s with shelf := s.shelf.update view (a.setDataAt place data) }
  | toBytes view => do
    let a ← s.shelf.archive? view
    some { s with shelf := s.shelf.update view (a.toBytes s.disk).2 }
  | save view => do
    let a ← s.shelf.archive? view
    match a.save s.disk with
    | (.error _, a) => some { s with shelf := s.shelf.update view a }
    | (.ok (disk, _), a) => some ⟨disk, s.shelf.update view a⟩
  | cloneTo view destination => do
    let shelf ← s.shelf.addView? view destination
    some { s with shelf := shelf }

/-- The bytes given last to the entry at a place; the latest call is the first. -/
def lastGiven (place : Nat) : List Call → Option Bytes
  | [] => none
  | .setData _ other data :: calls => if other = place then some data else lastGiven place calls
  | _ :: calls => lastGiven place calls

/-- The bytes of an entry after calls: those given last, or else those of the file that was opened. -/
def latest (image : Bytes) (calls : List Call) (place : Nat) : Bytes :=
  (lastGiven place calls).getD (Image.payloadAt image place)

/-- What may become of an archive that was opened, and the calls that led there, while nobody else writes its file. -/
inductive Reaches (p : Path) (opened : Storage) : List Call → Storage → Prop where
  | opened : Reaches p opened [] opened
  | call {calls : List Call} {s s' : Storage} {c : Call} (h : Reaches p opened calls s) (hact : c.act s = some s') :
      Reaches p opened (c :: calls) s'
  /-- A save that breaks off while it writes, whatever it leaves of the files. -/
  | brokenOff {calls : List Call} {s : Storage} {view : Nat} {a : Archive} {image : Bytes} (h : Reaches p opened calls s)
      (hview : s.shelf.archive? view = some a) (hbytes : (a.toBytes s.disk).1 = .ok image) (disk : Disk) :
      Reaches p opened (.save view :: calls) ⟨disk, s.shelf.update view (a.toBytes s.disk).2⟩
  | others {calls : List Call} {s : Storage} {disk : Disk} (h : Reaches p opened calls s)
      (hread : disk.read p = s.disk.read p) : Reaches p opened calls { s with disk := disk }

/-- What all views share: entries with certain names and bytes. -/
structure Tracks (p : Path) (image : Bytes) (names : List String) (bytes : Nat → Bytes) (disk : Disk)
    (entries : List Entry) : Prop where
  names_eq : entries.map Entry.name = names
  stays : ∀ (i : Nat) (e : Entry), entries[i]? = some e → e.Stays disk p image (bytes i)

namespace Tracks

variable {p : Path} {image : Bytes} {names : List String} {bytes : Nat → Bytes} {disk : Disk}
  {entries entries' : List Entry}

theorem maybeLoaded (h : Tracks p image names bytes disk entries)
    (hmaybe : List.Forall₂ (Entry.MaybeLoaded disk (some p)) entries entries') :
    Tracks p image names bytes disk entries' where
  names_eq := (map_eq_of_forall₂ hmaybe fun _ _ h => h.name_eq).trans h.names_eq
  stays i e' he' := by
    have hi : i < entries.length := hmaybe.length_eq ▸ (List.getElem?_eq_some_iff.mp he').1
    have he : entries[i]? = some entries[i] := List.getElem?_eq_getElem hi
    exact (h.stays i _ he).maybeLoaded (of_forall₂_getElem? hmaybe he he')

theorem with_disk_of_loaded (h : Tracks p image names bytes disk entries) (hloaded : ∀ e ∈ entries, e.isLoaded = true)
    (disk' : Disk) : Tracks p image names bytes disk' entries where
  names_eq := h.names_eq
  stays i e he := (h.stays i e he).with_disk_of_loaded (hloaded e (List.mem_of_getElem? he))

theorem with_disk (h : Tracks p image names bytes disk entries) {disk' : Disk} (hread : disk'.read p = disk.read p) :
    Tracks p image names bytes disk' entries where
  names_eq := h.names_eq
  stays i e he := (h.stays i e he).with_disk hread

theorem loadAt {a : Archive} (h : Tracks p image names bytes disk a.entries) {place : Nat} {e : Entry}
    (he : a.entries[place]? = some e) {data : Bytes} (hload : e.load disk (some p) = .ok data) :
    Tracks p image names bytes disk (a.setDataAt place data).entries := by
  apply h.maybeLoaded
  refine forall₂_of_getElem? (List.length_modify _ _ _).symm fun i e₀ e' he₀ he' => ?_
  rw [Archive.getElem?_setDataAt, he₀] at he'
  obtain rfl := Option.some.inj he'
  split_ifs with hplace
  · subst hplace
    obtain rfl := Option.some.inj (he.symm.trans he₀)
    exact .inr ⟨data, hload, rfl⟩
  · exact .inl rfl

theorem setDataAt {a : Archive} {calls : List Call} (h : Tracks p image names (latest image calls) disk a.entries)
    (view place : Nat) (data : Bytes) :
    Tracks p image names (latest image (.setData view place data :: calls)) disk (a.setDataAt place data).entries where
  names_eq := (a.map_name_setDataAt place data).trans h.names_eq
  stays i e' he' := by
    rw [Archive.getElem?_setDataAt, Option.map_eq_some_iff] at he'
    obtain ⟨e, he, rfl⟩ := he'
    rw [latest, lastGiven]
    split_ifs
    · exact .setData e
    · exact h.stays i e he

end Tracks

/-- Whether all views are of one list of entries that was opened. -/
structure Shared (p : Path) (image : Bytes) (names : List String) (bytes : Nat → Bytes) (s : Storage) : Prop where
  tracks : ∃ entries, s.shelf.groups = [entries] ∧ Tracks p image names bytes s.disk entries
  views : ∀ v ∈ s.shelf.views, v.group = 0 ∧ v.source? = some p

namespace Shared

variable {p : Path} {image : Bytes} {names : List String} {bytes bytes' : Nat → Bytes} {s : Storage} {view : Nat}
  {a : Archive}

/-- A view shows the entries that are shared. -/
theorem of_archive? (h : Shared p image names bytes s) (hview : s.shelf.archive? view = some a) :
    (∃ v, s.shelf.views[view]? = some v ∧ v.group = 0) ∧ a.source? = some p ∧ s.shelf.groups = [a.entries] ∧
      Tracks p image names bytes s.disk a.entries := by
  obtain ⟨entries, hgroups, htracks⟩ := h.tracks
  rw [Shelf.archive?] at hview
  obtain ⟨v, hv, hview⟩ := Option.bind_eq_some_iff.mp hview
  obtain ⟨group, hgroup, ha⟩ := Option.bind_eq_some_iff.mp hview
  obtain ⟨hzero, hsource⟩ := h.views v (List.mem_of_getElem? hv)
  rw [hgroups, hzero] at hgroup
  obtain rfl : entries = group := Option.some.inj hgroup
  obtain rfl := Option.some.inj ha
  exact ⟨⟨v, hv, hzero⟩, hsource, hgroups, htracks⟩

theorem update (h : Shared p image names bytes s) (hview : s.shelf.archive? view = some a) {a' : Archive} {disk : Disk}
    (htracks : Tracks p image names bytes' disk a'.entries) :
    Shared p image names bytes' ⟨disk, s.shelf.update view a'⟩ := by
  obtain ⟨⟨v, hv, hzero⟩, -, hgroups, -⟩ := h.of_archive? hview
  have hupdate : s.shelf.update view a' = { s.shelf with groups := [a'.entries] } := by
    rw [Shelf.update, hv, hgroups]
    dsimp only
    rw [hzero]
    rfl
  rw [hupdate]
  exact ⟨⟨a'.entries, rfl, htracks⟩, h.views⟩

theorem with_disk (h : Shared p image names bytes s) {disk : Disk} (hread : disk.read p = s.disk.read p) :
    Shared p image names bytes { s with disk := disk } := by
  obtain ⟨entries, hgroups, htracks⟩ := h.tracks
  exact ⟨⟨entries, hgroups, htracks.with_disk hread⟩, h.views⟩

theorem addView (h : Shared p image names bytes s) {destination : Path} {shelf : Shelf}
    (hview : s.shelf.addView? view destination = some shelf) :
    Shared p image names bytes { s with shelf := shelf } := by
  rw [Shelf.addView?] at hview
  obtain ⟨v, hv, hshelf⟩ := Option.bind_eq_some_iff.mp hview
  obtain rfl := Option.some.inj hshelf
  refine ⟨h.tracks, fun w hw => ?_⟩
  rcases List.mem_append.mp hw with hw | hw
  · exact h.views w hw
  · rw [List.mem_singleton.mp hw]
    exact h.views v (List.mem_of_getElem? hv)

/-- A call keeps what the views share, and only bytes that are given change it. -/
theorem act {calls : List Call} (h : Shared p image names (latest image calls) s) {c : Call} {s' : Storage}
    (hact : c.act s = some s') : Shared p image names (latest image (c :: calls)) s' := by
  cases c with
  | load view place =>
    obtain ⟨a, hview, hact⟩ := Option.bind_eq_some_iff.mp hact
    obtain ⟨e, he, hact⟩ := Option.bind_eq_some_iff.mp hact
    obtain ⟨-, hsource, -, htracks⟩ := h.of_archive? hview
    have hload := (htracks.stays place e he).load_eq
    rw [Archive.loadAt, hsource, hload] at hact
    obtain rfl := Option.some.inj hact
    exact h.update hview (htracks.loadAt he hload)
  | setData view place data =>
    obtain ⟨a, hview, hact⟩ := Option.bind_eq_some_iff.mp hact
    obtain rfl := Option.some.inj hact
    exact h.update hview ((h.of_archive? hview).2.2.2.setDataAt view place data)
  | toBytes view =>
    obtain ⟨a, hview, hact⟩ := Option.bind_eq_some_iff.mp hact
    obtain rfl := Option.some.inj hact
    obtain ⟨-, hsource, -, htracks⟩ := h.of_archive? hview
    obtain ⟨-, -, hmaybe, -⟩ := Archive.toBytes_spec (Prod.eta (a.toBytes s.disk)).symm
    exact h.update hview (htracks.maybeLoaded (hsource ▸ hmaybe))
  | save view =>
    obtain ⟨a, hview, hact⟩ := Option.bind_eq_some_iff.mp hact
    obtain ⟨-, hsource, -, htracks⟩ := h.of_archive? hview
    rcases hsave : a.save s.disk with ⟨result, a'⟩
    obtain ⟨-, -, hmaybe, hwritten⟩ := Archive.save_spec hsave
    have htracks' := htracks.maybeLoaded (hsource ▸ hmaybe)
    rw [hsave] at hact
    cases result with
    | error e =>
      obtain rfl := Option.some.inj hact
      exact h.update hview htracks'
    | ok written =>
      obtain ⟨disk, log⟩ := written
      obtain rfl := Option.some.inj hact
      exact h.update hview (htracks'.with_disk_of_loaded (hwritten disk log rfl).1 disk)
  | cloneTo view destination =>
    obtain ⟨shelf, hview, hact⟩ := Option.bind_eq_some_iff.mp hact
    obtain rfl := Option.some.inj hact
    exact h.addView hview

end Shared

theorem shared_opened {disk : Disk} {p : Path} {a : Archive} (hopen : Archive.openFile disk p = .ok a) {image : Bytes}
    (hread : disk.read p = .ok image) :
    Shared p image (a.entries.map Entry.name) (latest image []) ⟨disk, Shelf.empty.add a⟩ where
  tracks := by
    refine ⟨a.entries, rfl, rfl, fun i e he => ⟨?_, .inr hread⟩⟩
    rw [← Archive.source_of_openFile hopen]
    exact (Archive.load_of_openFile hopen hread hread he).2
  views v hv := by
    rw [List.mem_singleton.mp hv]
    exact ⟨rfl, Archive.source_of_openFile hopen⟩

theorem Reaches.shared {p : Path} {image : Bytes} {names : List String} {opened s : Storage} {calls : List Call}
    (hopened : Shared p image names (latest image []) opened) (h : Reaches p opened calls s) :
    Shared p image names (latest image calls) s := by
  induction h with
  | opened => exact hopened
  | call _ hact ih => exact ih.act hact
  | @brokenOff calls s view a image h hview hbytes disk ih =>
    obtain ⟨-, hsource, -, htracks⟩ := ih.of_archive? hview
    obtain ⟨-, -, hmaybe, hlaid⟩ := Archive.toBytes_spec (Prod.eta (a.toBytes s.disk)).symm
    exact ih.update hview ((htracks.maybeLoaded (hsource ▸ hmaybe)).with_disk_of_loaded (hlaid image hbytes).1 disk)
  | others _ hread ih => exact ih.with_disk hread

/-- At every point, an entry is loaded through any view with the bytes given last for it, or if there were none with
those it had in the file that was opened. -/
theorem load_of_reaches {disk : Disk} {p : Path} {a : Archive} (hopen : Archive.openFile disk p = .ok a) {image : Bytes}
    (hread : disk.read p = .ok image) {calls : List Call} {s : Storage}
    (hreaches : Reaches p ⟨disk, Shelf.empty.add a⟩ calls s) {view : Nat} {b : Archive}
    (hview : s.shelf.archive? view = some b) :
    b.entries.map Entry.name = a.entries.map Entry.name ∧ ∀ (i : Nat) (e : Entry), b.entries[i]? = some e →
      ∃ b', b.loadAt s.disk e i = .ok ((lastGiven i calls).getD (Image.payloadAt image i), b') := by
  obtain ⟨-, hsource, -, htracks⟩ := (hreaches.shared (shared_opened hopen hread)).of_archive? hview
  refine ⟨htracks.names_eq, fun i e he => ⟨b.setDataAt i (latest image calls i), ?_⟩⟩
  rw [Archive.loadAt, hsource, (htracks.stays i e he).load_eq]
  rfl

/-- An entry is loaded through a second view after the first one was saved to the file both were opened from, where the
entry has moved. -/
theorem load_of_reaches_moved :
    let image := (Image.build? [⟨"SC01", .zero, [1]⟩, ⟨"SC02", .zero, [2, 3]⟩]).getD []
    let disk : Disk := ⟨[], [(["scene.afs"], .file image)]⟩
    let calls : List Call := [.save 0, .cloneTo 0 "copy.afs", .setData 0 0 (List.replicate 0x801 7)]
    ∃ a s b, Archive.openFile disk "scene.afs" = .ok a ∧ Reaches "scene.afs" ⟨disk, Shelf.empty.add a⟩ calls s ∧
      s.shelf.archive? 1 = some b ∧ (s.disk.read "scene.afs").map (Image.offsetAt · 1) = .ok 0x1800 ∧
      b.entries.map Entry.name = a.entries.map Entry.name ∧ ∀ (i : Nat) (e : Entry), b.entries[i]? = some e →
        ∃ b', b.loadAt s.disk e i = .ok ((lastGiven i calls).getD (Image.payloadAt image i), b') := by
  intro image disk calls
  let a : Archive :=
    ⟨some "scene.afs", "scene.afs", [⟨"SC01", .zero, .onDisk 0x800 1⟩, ⟨"SC02", .zero, .onDisk 0x1000 2⟩]⟩
  let s₀ : Storage := ⟨disk, Shelf.empty.add a⟩
  let s₁ := ((Call.setData 0 0 (List.replicate 0x801 7)).act s₀).get (by decide +kernel)
  let s₂ := ((Call.cloneTo 0 "copy.afs").act s₁).get (by decide +kernel)
  let s₃ := ((Call.save 0).act s₂).get (by decide +kernel)
  let b := (s₃.shelf.archive? 1).get (by decide +kernel)
  have hopen : Archive.openFile disk "scene.afs" = .ok a := by decide +kernel
  have hread : disk.read "scene.afs" = .ok image := by rfl
  have hset : (Call.setData 0 0 (List.replicate 0x801 7)).act s₀ = some s₁ := (Option.some_get _).symm
  have hclone : (Call.cloneTo 0 "copy.afs").act s₁ = some s₂ := (Option.some_get _).symm
  have hsave : (Call.save 0).act s₂ = some s₃ := (Option.some_get _).symm
  have hview : s₃.shelf.archive? 1 = some b := (Option.some_get _).symm
  have hmoved : (s₃.disk.read "scene.afs").map (Image.offsetAt · 1) = .ok 0x1800 := by decide +kernel
  have hreaches : Reaches "scene.afs" s₀ calls s₃ := .call (.call (.call .opened hset) hclone) hsave
  exact ⟨a, s₃, b, hopen, hreaches, hview, hmoved, load_of_reaches hopen hread hreaches hview⟩

end Storage
end SceneScript
