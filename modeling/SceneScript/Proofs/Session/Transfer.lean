import Mathlib
import SceneScript.Proofs.Files.Below
import SceneScript.Proofs.Session.Edits
import SceneScript.Proofs.Session.SceneFile
import SceneScript.Proofs.Utf8
/-!
# Dumps handed from session to session

The dumps that a session exports are taken by another one on the same files. Then both have the same dumps and are saved
with the same result.
-/
namespace SceneScript

/-- A text that was written to a file is read back. -/
theorem Disk.readText_of_encode {d : Disk} {p : Path} {t : Text} (h : d.read p = .ok (Utf8.encode t)) :
    d.readText p = .ok t := by
  have hdecode := Utf8.decode?_encode t
  simp [readText, h, hdecode, bind, Except.bind]

namespace Bench

open Act

/-! ## What an export leaves -/

/-- How a session stands that exported the dumps of some names to a directory without files: each dump is in the file of
its name, and there are no other files. -/
structure Exported (b₀ : Bench) (names : List String) (b : Bench) : Prop where
  home_eq : b.workplace.disk.home = b₀.workplace.disk.home
  directory : b.workplace.disk.resolve b₀.dumpsDirectory = .ok (b₀.dumpsLocation, some .dir)
  files : ∀ name ∈ names, ∃ dump, b.session.dumps.get? name = some dump ∧
    b.workplace.disk.read (b₀.dumpPath name) = .ok (Utf8.encode dump)
  listed : (b.workplace.disk.listed b₀.dumpsLocation).map Prod.fst = names.reverse.map fun name => [name ++ ".txt"]

section

variable {b₀ b s : Bench} {names : List String} {name : String}

theorem Exported.looked (h : Exported b₀ names b) (hlooked : Looked b s) : Exported b₀ names s where
  home_eq := hlooked.disk_eq ▸ h.home_eq
  directory := hlooked.disk_eq ▸ h.directory
  files := by
    intro name hname
    obtain ⟨dump, hdump, hread⟩ := h.files name hname
    exact ⟨dump, hlooked.kept name dump hdump, hlooked.disk_eq ▸ hread⟩
  listed := hlooked.disk_eq ▸ h.listed

private theorem textFile_injective : Function.Injective fun name : String => name ++ ".txt" := by
  intro name other h
  have hlist := congrArg String.toList h
  simp only [String.toList_append, List.append_cancel_right_eq] at hlist
  exact String.toList_injective hlist

/-- The next dump goes to a file of its own. -/
theorem Exported.write (h : Exported b₀ names b) (hslash : ∀ other ∈ name :: names, '/' ∉ other.toList) (hname : name ∉ names)
    {dump : Text} (hdump : b.session.dumps.get? name = some dump) {disk : Disk}
    (hwrite : b.workplace.disk.write (b₀.dumpPath name) (Utf8.encode dump) = .ok disk) :
    Exported b₀ (names ++ [name]) { b with workplace := { b.workplace with disk := disk } } := by
  have hlocate : ∀ other ∈ name :: names,
      b.workplace.disk.locate (b₀.dumpPath other) = b₀.dumpsLocation ++ [other ++ ".txt"] := fun other hother =>
    (Disk.locate_congr h.home_eq _).trans (b₀.dumpLocation_eq (hslash other hother))
  have hsame : Disk.SameFiles (· = b₀.dumpsLocation ++ [name ++ ".txt"]) b.workplace.disk disk :=
    Disk.sameFiles_write (b₀.getLast?_dumpPath name) (by decide) (hlocate name List.mem_cons_self) hwrite
  obtain ⟨loc, hresolve, hfile⟩ := Disk.resolve_write (b₀.getLast?_dumpPath name) (by decide) hwrite
  refine ⟨hsame.home_eq.trans h.home_eq, ?_, ?_, ?_⟩
  · exact Disk.resolve_of_keepsDirectories hsame.toKeepsDirectories h.directory
      (hsame.dirs _ (Disk.node?_of_resolve h.directory))
  · intro other hother
    rcases List.mem_append.mp hother with hother | hother
    · obtain ⟨dump', hdump', hread⟩ := h.files other hother
      obtain ⟨loc', hfile'⟩ := Disk.resolve_of_read hread
      obtain rfl := Disk.eq_locate_of_resolve hfile'
      refine ⟨dump', hdump', (hsame.sameFile hfile' ?_ _).mpr hread⟩
      rw [hlocate other (List.mem_cons_of_mem _ hother), List.append_cancel_left_eq, List.cons.injEq]
      rintro ⟨heq, -⟩
      exact hname (textFile_injective heq ▸ hother)
    · obtain rfl := List.mem_singleton.mp hother
      exact ⟨dump, hdump, Disk.read_of_resolve hfile⟩
  · obtain ⟨-, loc', hresolve', -, rfl⟩ := Disk.write_eq_ok hwrite
    rw [Path.dropEndSlashes_eq (b₀.getLast?_dumpPath name) (by decide)] at hresolve'
    obtain rfl : loc' = b₀.dumpsLocation ++ [name ++ ".txt"] :=
      (Disk.eq_locate_of_resolve hresolve').trans (hlocate name List.mem_cons_self)
    have hbelow := b₀.below?_dumpLocation (hslash name List.mem_cons_self)
    rw [b₀.dumpLocation_eq (hslash name List.mem_cons_self)] at hbelow
    have hothers : ∀ file ∈ b.workplace.disk.listed b₀.dumpsLocation, file.1 ≠ [name ++ ".txt"] := by
      intro file hfile heq
      have hmem := List.mem_map_of_mem (f := Prod.fst) hfile
      rw [h.listed, heq] at hmem
      obtain ⟨other, hother, heq⟩ := List.mem_map.mp hmem
      rw [List.cons.injEq] at heq
      exact hname (textFile_injective heq.1 ▸ List.mem_reverse.mp hother)
    rw [Disk.listed_put_file hbelow, List.filter_eq_self.mpr fun file hfile => decide_eq_true (hothers file hfile),
      List.map_cons, h.listed, List.reverse_append]
    rfl

theorem leads_exportEntry (hslash : ∀ other ∈ name :: names, '/' ∉ other.toList) (hname : name ∉ names) :
    (exportEntry b₀.dumpsDirectory name).Leads (Exported b₀ names) (fun _ => Exported b₀ (names ++ [name])) fun _ => True := by
  intro b hb
  obtain ⟨s, hrun, hlooked, hcached⟩ := decompile_spec b name
  rw [exportEntry]
  cases hdump : b.dumpOf b.session.preferred name with
  | error e =>
    rw [hdump] at hrun
    rw [bind_error hrun]
    trivial
  | ok dump =>
    rw [hdump] at hrun
    rw [bind_ok hrun]
    cases hwrite : s.workplace.disk.write (b₀.dumpsDirectory.join (name ++ ".txt")) (Utf8.encode dump) with
    | error e =>
      have hchange : Workplace.change (·.write (b₀.dumpsDirectory.join (name ++ ".txt")) (Utf8.encode dump)) s.workplace = _ :=
        Workplace.change_eq_error hwrite
      rw [atWorkplace_eq hchange]
      trivial
    | ok disk =>
      have hchange : Workplace.change (·.write (b₀.dumpsDirectory.join (name ++ ".txt")) (Utf8.encode dump)) s.workplace = _ :=
        Workplace.change_eq_ok hwrite
      rw [atWorkplace_eq hchange]
      exact (hb.looked hlooked).write hslash hname (hcached dump hdump) hwrite

theorem leads_exportEntries {entries : List (Entry × Nat)} (hnodup : (names ++ entries.map (·.1.name)).Nodup)
    (hslash : ∀ other ∈ names ++ entries.map (·.1.name), '/' ∉ other.toList) :
    Leads (Exported b₀ names) (entries.forM fun (e, _) => exportEntry b₀.dumpsDirectory e.name)
      (fun _ => Exported b₀ (names ++ entries.map (·.1.name))) fun _ => True := by
  induction entries generalizing names with
  | nil =>
    rw [List.map_nil, List.append_nil]
    exact leads_pure fun _ h => h
  | cons p entries ih =>
    obtain ⟨e, place⟩ := p
    rw [List.map_cons, List.append_cons] at hnodup hslash ⊢
    have hfirst : (names ++ [e.name]).Nodup := (List.nodup_append.mp hnodup).1
    have hname : e.name ∉ names := fun hmem =>
      (List.nodup_append.mp hfirst).2.2 e.name hmem e.name List.mem_cons_self rfl
    refine (leads_exportEntry (fun other hother => hslash other ?_) hname).bind fun _ => ih hnodup hslash
    simp only [List.mem_cons, List.mem_append] at hother ⊢
    tauto

/-- Where relative or absolute paths of a session begin there is a directory. -/
private theorem node?_start {root : Path} {disk : Disk} {loc : Location} {n : Option Node}
    (h : disk.resolve (root.join scenePath) = .ok (loc, n)) :
    disk.node? (if (root.join dumpsPath).isAbsolute then [] else disk.home) = some .dir := by
  obtain ⟨front, hfront⟩ := Path.exists_parts_join root
  obtain ⟨hparts, habsolute⟩ := hfront scenePath (by decide)
  have habsolute' := (hfront dumpsPath (by decide)).2
  obtain ⟨-, -, hfollow⟩ := Disk.resolve_eq_ok h
  rw [hparts, habsolute, ← habsolute'] at hfollow
  cases front with
  | nil => exact (Disk.follow_cons_eq_ok (show Disk.follow disk _ ("FILE" :: ["SCENE00.afs"]) = _ from hfollow)).1
  | cons part front => exact (Disk.follow_cons_eq_ok hfollow).1

theorem exported_of_exportDumps {b' : Bench} {directory : Path} (h : exportDumps b = (.ok directory, b'))
    (hnodup : b.namesInScope.Nodup) (hslash : ∀ name ∈ b.namesInScope, '/' ∉ name.toList)
    (hempty : b.workplace.disk.filesBelow b.dumpsLocation = []) {loc : Location} {n : Option Node}
    (hscene : b.workplace.disk.resolve b.session.scene = .ok (loc, n)) :
    directory = b.dumpsDirectory ∧ Exported b b.namesInScope b' := by
  have hlisted : b.workplace.disk.listed b.dumpsLocation = [] :=
    (hempty ▸ b.workplace.disk.filesBelow_perm b.dumpsLocation).nil_eq.symm
  have hleads : exportDumps.Leads (· = b)
      (fun directory b' => directory = b.dumpsDirectory ∧ Exported b b.namesInScope b') fun _ => True := by
    apply leads_get_bind
    intro start hstart
    rw [show start = b from hstart]
    have hmake : (atWorkplace (Workplace.change (·.makeDirectory b.dumpsDirectory))).Leads (· = b)
        (fun _ => Exported b []) fun _ => True := by
      intro start hstart
      rw [show start = b from hstart]
      cases hdisk : b.workplace.disk.makeDirectory b.dumpsDirectory with
      | error e =>
        rw [atWorkplace_eq (Workplace.change_eq_error hdisk)]
        trivial
      | ok disk =>
        rw [atWorkplace_eq (Workplace.change_eq_ok hdisk)]
        have hsame : Disk.SameFiles (fun _ => False) b.workplace.disk disk := Disk.sameFiles_makeDirectory hdisk
        refine ⟨hsame.home_eq, ?_, fun _ hname => absurd hname List.not_mem_nil, ?_⟩
        · exact Disk.resolve_of_makeDirectory hdisk b.dumpsDirectory_isEmpty (node?_start hscene)
        · dsimp only
          rw [Disk.listed_makeDirectory hdisk, hlisted]
          rfl
    refine hmake.bind fun _ => (@leads_exportEntries b [] _ hnodup hslash).bind fun _ => ?_
    refine Leads.bind (Q := fun _ => Exported b b.namesInScope) ?_ fun _ => leads_pure fun _ h => ⟨rfl, h⟩
    exact fun s hs => hs.looked ((Looked.refl s).with_log _)
  exact hleads.of_ok rfl h

/-! ## Taking the dumps -/

/-- Files that are each for an entry are all counted, and the texts in them are then the dumps of these entries. -/
theorem foldlM_applyFile {text : String → Text} {files : List Path} (count : Nat)
    (hfiles : ∀ file ∈ files, ∃ name found, Path.stem? file = some name ∧ b.session.archive.find? name = some found ∧
      b.workplace.disk.readText file = .ok (text name)) :
    ∃ dumps, (files.foldlM (fun count file => do return if ← applyFile file then count + 1 else count) count : Act Bench Nat) b =
        (.ok (count + files.length), { b with session := { b.session with dumps := dumps } }) ∧
      ∀ name, b.session.dumps.get? name = some (text name) ∨ (∃ file ∈ files, Path.stem? file = some name) →
        dumps.get? name = some (text name) := by
  induction files generalizing b count with
  | nil => exact ⟨b.session.dumps, rfl, fun name h => h.resolve_right fun ⟨_, hfile, _⟩ => List.not_mem_nil hfile⟩
  | cons file files ih =>
    rw [List.forall_mem_cons] at hfiles
    obtain ⟨⟨name, found, hname, hfind, htext⟩, hmore⟩ := hfiles
    obtain ⟨dumps, hrun, htaken⟩ :=
      ih (b := { b with session := { b.session with dumps := b.session.dumps.edit name (text name) } }) (count + 1) hmore
    refine ⟨dumps, ?_, fun other hother => htaken other ?_⟩
    · have hstep : (do return if ← applyFile file then count + 1 else count : Act Bench Nat) b =
          (.ok (count + 1), { b with session := { b.session with dumps := b.session.dumps.edit name (text name) } }) := by
        rw [bind_ok (applyFile_eq hname hfind htext)]
        rfl
      rw [List.foldlM_cons, bind_ok hstep, hrun, List.length_cons, Nat.add_assoc, Nat.add_comm 1]
    · dsimp only
      rw [DumpCache.get?_edit]
      split_ifs with heq
      · exact .inl (heq ▸ rfl)
      · refine hother.imp_right ?_
        rintro ⟨other', hmem, hstem⟩
        rcases List.mem_cons.mp hmem with rfl | hmem
        · exact absurd (Option.some.inj (hstem.symm.trans hname)) heq
        · exact ⟨other', hmem, hstem⟩

/-- A session with entries of the exported names takes all the dumps. -/
theorem Exported.applyDumps_eq (h : Exported b₀ names b) (hdisk : s.workplace.disk = b.workplace.disk)
    (hfound : ∀ name ∈ names, ∃ found, s.session.archive.find? name = some found)
    (hnames : ∀ name ∈ names, name ≠ "" ∧ '/' ∉ name.toList) :
    ∃ dumps log, applyDumps b₀.dumpsDirectory s = (.ok names.length,
        ⟨{ s.session with dumps := dumps }, { s.workplace with log := log }⟩) ∧
      ∀ name ∈ names, ∃ dump, b.session.dumps.get? name = some dump ∧ dumps.get? name = some dump := by
  have hperm : (s.workplace.disk.pathsBelow b₀.dumpsDirectory).Perm (names.reverse.map b₀.dumpPath) := by
    have hlisted : (b.workplace.disk.listed b₀.dumpsLocation).map Prod.fst = (names.reverse.map (· ++ ".txt")).map ([·]) := by
      rw [h.listed, List.map_map]
      rfl
    have hpaths := Disk.pathsBelow_perm h.directory hlisted
    rwa [List.map_map, ← hdisk] at hpaths
  have hof : ∀ file ∈ s.workplace.disk.pathsBelow b₀.dumpsDirectory, ∃ name ∈ names, file = b₀.dumpPath name := by
    intro file hfile
    obtain ⟨name, hname, rfl⟩ := List.mem_map.mp (hperm.subset hfile)
    exact ⟨name, List.mem_reverse.mp hname, rfl⟩
  have hfiles : s.filesBelow b₀.dumpsDirectory "txt".toList = s.workplace.disk.pathsBelow b₀.dumpsDirectory := by
    refine List.filter_eq_self.mpr fun file hfile => ?_
    obtain ⟨name, hname, rfl⟩ := hof file hfile
    exact (Path.stem?_textFile _ (hnames name hname).2 (hnames name hname).1).2
  have hlength : (s.workplace.disk.pathsBelow b₀.dumpsDirectory).length = names.length := by
    rw [hperm.length_eq, List.length_map, List.length_reverse]
  let text (name : String) : Text := (b.session.dumps.get? name).getD []
  have hread : ∀ file ∈ s.workplace.disk.pathsBelow b₀.dumpsDirectory, ∃ name found, Path.stem? file = some name ∧
      s.session.archive.find? name = some found ∧ s.workplace.disk.readText file = .ok (text name) := by
    intro file hfile
    obtain ⟨name, hname, rfl⟩ := hof file hfile
    obtain ⟨found, hfind⟩ := hfound name hname
    obtain ⟨dump, hdump, hread⟩ := h.files name hname
    refine ⟨name, found, (Path.stem?_textFile _ (hnames name hname).2 (hnames name hname).1).1, hfind, ?_⟩
    dsimp only [text]
    rw [hdisk, Disk.readText_of_encode hread, hdump]
    rfl
  obtain ⟨dumps, hrun, htaken⟩ := foldlM_applyFile 0 hread
  have hcount : countFiles (s.workplace.disk.pathsBelow b₀.dumpsDirectory) applyFile s =
      (.ok names.length, { s with session := { s.session with dumps := dumps } }) := by
    rw [countFiles, hrun, hlength, Nat.zero_add]
  refine ⟨dumps, s.workplace.log ++ [Log.info ("Applied " ++ Text.showNumber names.length ++ " edited scripts from " ++
    b₀.dumpsDirectory)], ?_, ?_⟩
  · rw [applyDumps, bind_ok (filesWith_eq s b₀.dumpsDirectory _), hfiles, bind_ok hcount]
    rfl
  · intro name hname
    obtain ⟨dump, hdump, -⟩ := h.files name hname
    have hmem := hperm.mem_iff.mpr (List.mem_map_of_mem (f := b₀.dumpPath) (List.mem_reverse.mpr hname))
    have hstem := (Path.stem?_textFile b₀.dumpsDirectory (hnames name hname).2 (hnames name hname).1).1
    have hdump' := htaken name (.inr ⟨_, hmem, hstem⟩)
    dsimp only [text] at hdump'
    rw [hdump] at hdump'
    exact ⟨dump, hdump, hdump'⟩

end

/-- After an export to a directory without files a session that is loaded on the same files takes a dump for each entry in
scope, the one that the first session has, and is saved with the same result and the same bytes. For this the scene file
must not have been saved since it was opened, or the names of the entries have to fit their fields. -/
theorem applyDumps_of_exportDumps {settings : Settings} {w₀ w : Workplace} {s : Session}
    (hopen : Session.load settings w₀ = (.ok s, w) ∨ Session.prepare settings w₀ = (.ok s, w))
    {base b b' : Bench} (hserves : Serves ⟨s, w⟩ base b) (hnodup : b.namesInScope.Nodup)
    (hnames : ∀ name ∈ b.namesInScope, name ≠ "" ∧ '/' ∉ name.toList)
    (hempty : b.workplace.disk.filesBelow b.dumpsLocation = []) {directory : Path}
    (hexport : exportDumps b = (.ok directory, b'))
    (hspeakers : ∀ p ∈ settings.speakers?, Disk.SameFile p w.disk b'.workplace.disk)
    (hheld : b.workplace.disk.read s.scene = base.workplace.disk.read s.scene ∨
      ∀ e ∈ base.session.archive.entries, FitsField e.name) :
    ∃ s' w' b'', Session.load settings b'.workplace = (.ok s', w') ∧
      applyDumps directory ⟨s', w'⟩ = (.ok b.namesInScope.length, b'') ∧
      (∀ name ∈ b.namesInScope, ∃ dump, b'.session.dumps.get? name = some dump ∧
        b''.session.dumps.get? name = some dump ∧ ∀ edited, b.session.dumps.get? name = some edited → dump = edited) ∧
      (save b'').1 = (save b').1 ∧ (save b'').2.workplace.disk = (save b').2.workplace.disk := by
  have hopened := (Session.fresh_of_opened hopen).opened
  have hserved := hserves.served hopened
  obtain ⟨loc, data, hscene, -⟩ := hserved.upkeep.file
  rw [show base.session.scene = b.session.scene from congrArg (Path.join · scenePath) hserved.upkeep.root_eq.symm] at hscene
  obtain ⟨rfl, hexported⟩ := exported_of_exportDumps hexport hnodup (fun name hname => (hnames name hname).2) hempty hscene
  have hact : (Call.exportDumps.act b).2 = b' := (snd_discard Bench.exportDumps b).trans (congrArg Prod.snd hexport)
  have hserved' : Served ⟨s, w⟩ base b' := hact ▸ hserved.call .exportDumps
  have hcontinues : Continues (fun _ => True) b b' := hact ▸ continues_act (c := .exportDumps) trivial
  have hheldOn : base.HeldOn b'.workplace.disk := by
    have hbefore : base.HeldOn b.workplace.disk := by
      rcases hheld with hsame | hfits
      · exact (heldOn_opened hserved.base_opened).congr (hserved.scene_eq ▸ hsame)
      · exact hserves.heldOn hopened hfits
    have hafter := hbefore.exportDumps hserved
    rwa [hexport] at hafter
  obtain ⟨a, log, hload, hsource, hdestination, hagrees⟩ := hserved'.exists_load hopen hheldOn hspeakers
  have hscopeNames : ∀ name, name ∈ b'.namesInScope ↔ name ∈ b.namesInScope := by
    intro name
    rw [mem_namesInScope, mem_namesInScope, hcontinues.names_eq]
  have hfound : ∀ name ∈ b.namesInScope, ∃ found, a.find? name = some found := by
    intro name hname
    obtain ⟨e, he, rfl⟩ := List.mem_map.mp (mem_namesInScope.mp ((hscopeNames name).mpr hname)).1
    obtain ⟨e', place, hfind, -⟩ := Archive.exists_find? he
    obtain ⟨hnone, -⟩ | ⟨_, found, place', -, hfind', -⟩ := Archive.find?_of_forall₂ (fun _ _ h => h.name_eq) hagrees e.name
    · rw [hfind] at hnone
      cases hnone
    · exact ⟨_, hfind'⟩
  let fresh : Bench := ⟨Session.openedOn settings a b'.session.typesetter, { b'.workplace with log := log }⟩
  obtain ⟨dumps, log', happly, htaken⟩ := hexported.applyDumps_eq (s := fresh) rfl hfound hnames
  refine ⟨_, _, _, hload, happly, ?_, ?_⟩
  · intro name hname
    obtain ⟨dump, hdump, hdump'⟩ := htaken name hname
    refine ⟨dump, hdump, hdump', fun edited hedited => ?_⟩
    exact Option.some.inj (hdump.symm.trans (hcontinues.kept name trivial edited hedited))
  · apply Alike.save
    refine ⟨rfl, hsource, hdestination, rfl, hagrees, fun name hname cs cs' => ?_⟩
    obtain ⟨dump, hdump, hdump'⟩ := htaken name ((hscopeNames name).mp hname)
    rw [dumpOf_cached hdump cs', dumpOf_cached hdump' cs]

/-- Names with full stops in them, an entry out of scope, a script that is edited before a save and one that is not. -/
theorem applyDumps_of_exportDumps_stops :
    let image := (Image.build? [⟨"SC.01", .zero, [1, 0x18, 8, 0, 0, 0, 0, 0x0B, 0, 0x0D, 2, 0x48, 0x69, 0]⟩,
      ⟨"INIT", .zero, [1, 2, 3]⟩, ⟨".txt", .zero, [1, 0x0D, 2]⟩]).getD []
    let w₀ : Workplace := ⟨⟨[], [(["FILE"], .dir), (["FILE", "SCENE00.afs"], .file image)]⟩, []⟩
    let settings := { Settings.default with english := false, wraps := false }
    let edited := "header.1\nmessage.8 00-00-00-00-S @Yo\nret2.2\ntrailer.0".toList
    ∃ s w b directory b', Session.load settings w₀ = (.ok s, w) ∧
      (Call.save.act ((Call.edit "SC.01" edited).act ⟨s, w⟩).2).2 = b ∧ b.namesInScope = ["SC.01", ".txt"] ∧
      b.workplace.disk.filesBelow b.dumpsLocation = [] ∧ exportDumps b = (.ok directory, b') ∧
      ∃ s' w' b'', Session.load settings b'.workplace = (.ok s', w') ∧
        applyDumps directory ⟨s', w'⟩ = (.ok b.namesInScope.length, b'') ∧
        (∀ name ∈ b.namesInScope, ∃ dump, b'.session.dumps.get? name = some dump ∧
          b''.session.dumps.get? name = some dump ∧
          ∀ edited, b.session.dumps.get? name = some edited → dump = edited) ∧
        (save b'').1 = (save b').1 ∧ (save b'').2.workplace.disk = (save b').2.workplace.disk := by
  intro image w₀ settings edited
  have hrun : passes (Session.load settings w₀) (fun s w =>
      let b := (Call.save.act ((Call.edit "SC.01" edited).act ⟨s, w⟩).2).2
      decide (s.archive.entries.map Entry.name = ["SC.01", "INIT", ".txt"]) &&
        (decide (b.namesInScope = ["SC.01", ".txt"]) &&
          ((b.workplace.disk.filesBelow b.dumpsLocation).isEmpty && (exportDumps b).1.toBool))) = true := by
    decide +kernel
  obtain ⟨s, w, hload, hrun⟩ := exists_of_passes hrun
  rw [Bool.and_eq_true, Bool.and_eq_true, Bool.and_eq_true, decide_eq_true_eq, decide_eq_true_eq, List.isEmpty_iff] at hrun
  obtain ⟨hentries, hnames, hempty, hexported⟩ := hrun
  have hserves : Serves ⟨s, w⟩ ⟨s, w⟩ _ := .call .save (.call (.edit "SC.01" edited) .opened)
  have hfits : ∀ e ∈ s.archive.entries, FitsField e.name := by
    have hlist : ∀ name ∈ ["SC.01", "INIT", ".txt"], FitsField name := by
      unfold FitsField
      decide
    exact fun e he => hlist e.name (hentries ▸ List.mem_map_of_mem he)
  rcases hexport : exportDumps (Call.save.act ((Call.edit "SC.01" edited).act ⟨s, w⟩).2).2 with ⟨directory, b'⟩
  rw [hexport] at hexported
  cases directory with
  | error e => cases hexported
  | ok directory =>
    exact ⟨s, w, _, directory, b', hload, rfl, hnames, hempty, hexport, applyDumps_of_exportDumps (.inl hload) hserves
      (by rw [hnames]; decide) (by rw [hnames]; decide) hempty hexport (fun _ h => nomatch h) (.inr hfits)⟩

end Bench
end SceneScript
