import Mathlib
import SceneScript.Proofs.Archive.Loading
import SceneScript.Proofs.Session.Actions
import SceneScript.Proofs.Session.DumpCache
/-!
# What a session keeps

Whatever is done in a session, its archive stays that of the scene file: the entries keep their names, their times and
their order, and the bytes of an entry out of scope are those it had when the session was opened.
-/
namespace SceneScript

/-- The scene archive of a session. -/
def Session.scene (s : Session) : Path := s.root.join scenePath

theorem Session.getLast?_scenePath (root : Path) : (root.join scenePath).toList.getLast? = some 's' :=
  (Path.getLast?_join root (by decide)).trans (by decide)

theorem Session.getLast?_scene (s : Session) : s.scene.toList.getLast? = some 's' := getLast?_scenePath s.root

/-- What became of an entry of a session that was opened with some files. -/
structure Entry.Descends (opened : Bench) (e₀ e : Entry) : Prop where
  name_eq : e.name = e₀.name
  timestamp_eq : e.timestamp = e₀.timestamp
  loaded : isInScope e.name = false → ∀ data, e.payload = .loaded data →
    e₀.load opened.workplace.disk opened.session.archive.source? = .ok data
  unloaded : isInScope e.name = false → e.isLoaded = false → e.payload = e₀.payload

/-- Whether a session is still about the archive it was opened with: `known` are dumps that it has. -/
structure Bench.Upkeep (opened : Bench) (known : String → Text → Prop) (b : Bench) : Prop where
  root_eq : b.session.root = opened.session.root
  typesetter_eq : b.session.typesetter = opened.session.typesetter
  source_eq : b.session.archive.source? = some opened.session.scene
  destination_eq : b.session.archive.destination = opened.session.scene
  entries : List.Forall₂ (Entry.Descends opened) opened.session.archive.entries b.session.archive.entries
  /-- The scene file is there, unchanged or with every entry loaded. -/
  file : ∃ loc data, b.workplace.disk.resolve opened.session.scene = .ok (loc, some (.file data)) ∧
    (opened.workplace.disk.read opened.session.scene = .ok data ∨ ∀ e ∈ b.session.archive.entries, e.isLoaded = true)
  known : ∀ name dump, known name dump → b.session.dumps.get? name = some dump

/-- An entry may be loaded, and one in scope may get any bytes. -/
theorem Entry.Descends.setData {opened : Bench} {e₀ e : Entry} (h : Entry.Descends opened e₀ e) {data : Bytes}
    (hdata : isInScope e.name = false →
      e₀.load opened.workplace.disk opened.session.archive.source? = .ok data) :
    Entry.Descends opened e₀ (e.setData data) where
  name_eq := h.name_eq
  timestamp_eq := h.timestamp_eq
  loaded := by
    intro hscope data' heq
    obtain rfl := Payload.loaded.inj heq
    exact hdata hscope
  unloaded := by
    intro _ hunloaded
    cases hunloaded

namespace Bench

open Act

/-- Nothing is known of the dumps. -/
def unknown : String → Text → Prop := fun _ _ => False

/-- The dumps a session has. -/
def cached (b : Bench) : String → Text → Prop := fun name dump => b.session.dumps.get? name = some dump

variable {opened : Bench} {known : String → Text → Prop}

theorem Upkeep.with_known {b : Bench} (h : Upkeep opened known b) {known' : String → Text → Prop}
    (hknown : ∀ name dump, known' name dump → b.session.dumps.get? name = some dump) : Upkeep opened known' b :=
  { h with known := hknown }

/-- An entry out of scope is loaded as it was at first. -/
theorem Upkeep.load_out_of_scope {b : Bench} (h : Upkeep opened known b)
    (hsource : opened.session.archive.source? = some opened.session.scene) {e₀ e : Entry}
    (hdescends : Entry.Descends opened e₀ e) (hmem : e ∈ b.session.archive.entries) (hscope : isInScope e.name = false) :
    e.load b.workplace.disk b.session.archive.source? = e₀.load opened.workplace.disk opened.session.archive.source? := by
  cases hpayload : e.payload with
  | loaded data => rw [Entry.load_loaded hpayload, hdescends.loaded hscope data hpayload]
  | onDisk offset size =>
    have hunloaded : e.isLoaded = false := by rw [Entry.isLoaded, hpayload]
    obtain ⟨loc, file, hfile, hread | hloaded⟩ := h.file
    · have heq : e₀ = e := by
        obtain ⟨name, timestamp, payload⟩ := e
        obtain ⟨name₀, timestamp₀, payload₀⟩ := e₀
        obtain rfl : name = name₀ := hdescends.name_eq
        obtain rfl : timestamp = timestamp₀ := hdescends.timestamp_eq
        obtain rfl : payload = payload₀ := hdescends.unloaded hscope hunloaded
        rfl
      obtain ⟨loc₀, hfile₀⟩ := Disk.resolve_of_read hread
      rw [heq, hsource, h.source_eq, Entry.load_congr e hfile hfile₀]
    · rw [hloaded e hmem] at hunloaded
      cases hunloaded

/-- The bytes of an entry out of scope are those it had. -/
theorem Upkeep.load_eq {b : Bench} (h : Upkeep opened known b)
    (hsource : opened.session.archive.source? = some opened.session.scene) {e₀ e : Entry}
    (hdescends : Entry.Descends opened e₀ e) (hmem : e ∈ b.session.archive.entries) (hscope : isInScope e.name = false)
    {data : Bytes} (hload : e.load b.workplace.disk b.session.archive.source? = .ok data) :
    e₀.load opened.workplace.disk opened.session.archive.source? = .ok data :=
  (h.load_out_of_scope hsource hdescends hmem hscope).symm.trans hload

theorem Upkeep.with_archive {b : Bench} (h : Upkeep opened known b) {a : Archive}
    (hsource : a.source? = b.session.archive.source?) (hdestination : a.destination = b.session.archive.destination)
    (hentries : List.Forall₂ (Entry.Descends opened) opened.session.archive.entries a.entries)
    (hloaded : (∀ e ∈ b.session.archive.entries, e.isLoaded = true) → ∀ e ∈ a.entries, e.isLoaded = true) :
    Upkeep opened known { b with session := { b.session with archive := a } } where
  root_eq := h.root_eq
  typesetter_eq := h.typesetter_eq
  source_eq := hsource.trans h.source_eq
  destination_eq := hdestination.trans h.destination_eq
  entries := hentries
  file := by
    obtain ⟨loc, data, hfile, hread⟩ := h.file
    exact ⟨loc, data, hfile, hread.imp_right hloaded⟩
  known := h.known

theorem Upkeep.setDataAt {b : Bench} (h : Upkeep opened known b) {place : Nat} {data : Bytes}
    (hdata : ∀ e₀ e, b.session.archive.entries[place]? = some e → Entry.Descends opened e₀ e →
      isInScope e.name = false → e₀.load opened.workplace.disk opened.session.archive.source? = .ok data) :
    Upkeep opened known { b with session := { b.session with archive := b.session.archive.setDataAt place data } } := by
  apply h.with_archive (a := b.session.archive.setDataAt place data) rfl rfl
  · apply forall₂_modify h.entries
    intro e₀ e he hdescends
    exact hdescends.setData (hdata e₀ e he hdescends)
  · intro hloaded e he
    obtain ⟨i, hi⟩ := List.getElem?_of_mem he
    rw [Archive.getElem?_setDataAt] at hi
    obtain ⟨e', he', rfl⟩ := Option.map_eq_some_iff.mp hi
    split_ifs
    · rfl
    · exact hloaded e' (List.mem_of_getElem? he')

/-- Nothing but the log and the character set for the next script may change otherwise. -/
theorem Upkeep.with_log {b : Bench} (h : Upkeep opened known b) (log : Log) :
    Upkeep opened known { b with workplace := { b.workplace with log := log } } := { h with }

theorem Upkeep.with_dumps {b : Bench} (h : Upkeep opened known b) (preferred : Charset) {dumps : DumpCache}
    {known' : String → Text → Prop} (hknown : ∀ name dump, known' name dump → dumps.get? name = some dump) :
    Upkeep opened known' { b with session := { b.session with preferred := preferred, dumps := dumps } } :=
  { h with known := hknown }

/-- The files may change as long as the scene file is the same. -/
theorem Upkeep.with_disk {b : Bench} (h : Upkeep opened known b) {disk : Disk} (log : Log)
    (hdisk : ∀ loc data, b.workplace.disk.resolve opened.session.scene = .ok (loc, some (.file data)) →
      disk.resolve opened.session.scene = .ok (loc, some (.file data))) :
    Upkeep opened known { b with workplace := ⟨disk, log⟩ } where
  root_eq := h.root_eq
  typesetter_eq := h.typesetter_eq
  source_eq := h.source_eq
  destination_eq := h.destination_eq
  entries := h.entries
  file := by
    obtain ⟨loc, data, hfile, hread⟩ := h.file
    exact ⟨loc, data, hdisk loc data hfile, hread⟩
  known := h.known

/-! ## Actions one by one -/

theorem keeps_report (lines : Log) : Keeps (Upkeep opened known) (report lines) := fun _ h => h.with_log _

theorem leads_atWorkplace {α : Type} {act : Act Workplace α} {P : Bench → Prop} {Q : α → Bench → Prop} {F : Bench → Prop}
    (h : ∀ b, P b → act.Leads (· = b.workplace) (fun a w => Q a { b with workplace := w }) fun w => F { b with workplace := w }) :
    (atWorkplace act).Leads P Q F := by
  intro b hb
  have hact := h b hb b.workplace rfl
  have hrun : atWorkplace act b = ((act b.workplace).1, { b with workplace := (act b.workplace).2 }) := rfl
  rw [hrun]
  rcases hstep : act b.workplace with ⟨result, w⟩
  rw [hstep] at hact
  cases result with
  | ok a => exact hact
  | error e => exact hact

/-- Looking at the files changes nothing. -/
theorem leads_inspect {α : Type} (look : Disk → Except FileError α) :
    (atWorkplace (Workplace.inspect look)).Leads (Upkeep opened known)
      (fun _ => Upkeep opened known) (Upkeep opened known) := by
  apply leads_atWorkplace
  intro b hb
  apply leads_get_bind
  rintro w rfl
  cases look b.workplace.disk with
  | ok a => exact leads_return hb
  | error e => exact leads_fail hb

/-- A change to the files that spares the scene file. -/
theorem keeps_change {f : Disk → Except FileError Disk}
    (h : ∀ d d' loc data, f d = .ok d' → d.resolve opened.session.scene = .ok (loc, some (.file data)) →
      d'.resolve opened.session.scene = .ok (loc, some (.file data))) :
    Keeps (Upkeep opened known) (atWorkplace (Workplace.change f)) := by
  apply leads_atWorkplace
  intro b hb
  refine Leads.bind (Q := fun disk w => w = b.workplace ∧ f b.workplace.disk = .ok disk) ?_ fun disk => leads_modify ?_
  · apply leads_get_bind
    rintro w rfl
    cases hf : f b.workplace.disk with
    | ok disk =>
      exact leads_return ⟨rfl, rfl⟩
    | error e =>
      exact leads_fail hb
  · rintro _ ⟨rfl, hf⟩
    exact hb.with_disk _ fun loc data => h _ _ loc data hf

theorem leads_entry (name : String) :
    (entry name).Leads (Upkeep opened known)
      (fun (e, place) b => Upkeep opened known b ∧ b.session.archive.entries[place]? = some e)
      (Upkeep opened known) := by
  apply leads_get_bind
  intro b hb
  cases hfind : b.session.archive.find? name with
  | some found => exact leads_return ⟨hb, Archive.getElem?_of_find? hfind⟩
  | none => exact leads_fail hb

theorem leads_loadEntry (hsource : opened.session.archive.source? = some opened.session.scene) (e : Entry) (place : Nat) :
    (loadEntry e place).Leads (fun b => Upkeep opened known b ∧ b.session.archive.entries[place]? = some e)
      (fun _ => Upkeep opened known) (Upkeep opened known) := by
  apply leads_get_bind
  rintro b ⟨hb, he⟩
  cases hload : b.session.archive.loadAt b.workplace.disk e place with
  | error err => exact leads_fail hb
  | ok loaded =>
    obtain ⟨data, archive⟩ := loaded
    rw [Archive.loadAt] at hload
    split at hload
    · cases hload
    rename_i data' hdata
    obtain ⟨rfl, rfl⟩ := Prod.mk.inj (Except.ok.inj hload)
    refine Leads.bind (Q := fun _ => Upkeep opened known) (leads_modify_of_eq ?_) fun _ => leads_pure fun _ h => h
    apply hb.setDataAt
    intro e₀ e' he' hdescends hscope
    obtain rfl := Option.some.inj (he.symm.trans he')
    exact hb.load_eq hsource hdescends (List.mem_of_getElem? he) hscope hdata

/-- The dump of an entry is in the cache once it was asked for. -/
theorem leads_decompile (hsource : opened.session.archive.source? = some opened.session.scene) (name : String) :
    (decompile name).Leads (Upkeep opened known)
      (fun dump b => Upkeep opened known b ∧ b.session.dumps.get? name = some dump) (Upkeep opened known) := by
  apply leads_get_bind
  intro b hb
  cases hcached : b.session.dumps.get? name with
  | some dump => exact leads_return ⟨hb, hcached⟩
  | none =>
    refine ((leads_entry name).start hb).bind fun (e, place) => ?_
    refine (leads_loadEntry hsource e place).bind fun bytes => ?_
    apply leads_get_bind
    intro b₁ hb₁
    dsimp only
    rcases disassemble name bytes b₁.session.preferred with ⟨result, log⟩
    dsimp only
    refine ((keeps_report log).start hb₁).bind fun _ => ?_
    cases result with
    | error e => exact leads_throw fun _ h => h
    | ok dump =>
      apply leads_get_bind
      intro b₂ hb₂
      refine Leads.bind (Q := fun _ b => Upkeep opened known b ∧
        b.session.dumps.get? name = some (b₂.session.dumps.insertFirst name dump.text).2) (leads_modify_of_eq ?_) fun _ =>
          leads_pure fun _ h => h
      exact ⟨hb₂.with_dumps _ fun other kept h => DumpCache.get?_insertFirst_of_some (hb₂.known other kept h),
        DumpCache.get?_insertFirst _ _ _⟩

theorem keeps_edit (name : String) (dump : Text) : Keeps (Upkeep opened unknown) (edit name dump) := by
  refine ((leads_entry name).weaken fun _ _ h => h.1).bind fun _ => leads_modify ?_
  intro b hb
  exact hb.with_dumps _ fun _ _ h => h.elim

/-- The scene file stays as it was when a dump is written. -/
theorem resolve_scene_of_export {d d' : Disk} {root directory : Path} {name : String} {dump data : Bytes} {loc : Location}
    (h : d.write (directory.join (name ++ ".txt")) dump = .ok d')
    (hscene : d.resolve (root.join scenePath) = .ok (loc, some (.file data))) :
    d'.resolve (root.join scenePath) = .ok (loc, some (.file data)) := by
  have hfile : (directory.join (name ++ ".txt")).toList.getLast? = some 't' := by
    have hname : (name ++ ".txt").toList.getLast? = some 't' := by
      rw [String.toList_append, List.getLast?_append_of_ne_nil _ (by decide)]
      decide
    rw [Path.getLast?_join _ (by rintro heq; rw [heq] at hname; cases hname), hname]
  exact Disk.resolve_write_of_ne (Session.getLast?_scenePath root) (by decide) (by decide) hfile (by decide) (by decide)
    (by decide) h hscene

theorem keeps_exportEntry (hsource : opened.session.archive.source? = some opened.session.scene) (directory : Path)
    (name : String) : Keeps (Upkeep opened known) (exportEntry directory name) :=
  ((leads_decompile hsource name).weaken fun _ _ h => h.1).bind fun _ => keeps_change fun _ _ _ _ =>
    resolve_scene_of_export

theorem keeps_exportDumps (hsource : opened.session.archive.source? = some opened.session.scene) :
    Keeps (Upkeep opened known) exportDumps := by
  apply leads_get_bind
  intro b hb
  refine Leads.bind (Q := fun _ => Upkeep opened known) ?_ fun _ => ?_
  · exact (keeps_change fun _ _ _ _ => Disk.resolve_makeDirectory).start hb
  refine (keeps_forM fun (e, place) _ => keeps_exportEntry hsource _ e.name).bind fun _ => ?_
  exact (keeps_report _).bind fun _ => leads_pure fun _ h => h

theorem keeps_entryOfFile? (file : Path) : Keeps (Upkeep opened known) (entryOfFile? file) := by
  rw [entryOfFile?]
  split
  · exact leads_pure fun _ h => h
  · apply leads_get_bind
    intro b hb
    split_ifs
    · exact leads_return hb
    · refine Leads.bind (Q := fun _ => Upkeep opened known) ?_ fun _ => leads_pure fun _ h => h
      exact (keeps_report _).start hb

theorem keeps_applyFile (file : Path) : Keeps (Upkeep opened unknown) (applyFile file) := by
  refine (keeps_entryOfFile? file).bind fun found => ?_
  cases found with
  | none => exact leads_pure fun _ h => h
  | some name =>
    refine (leads_inspect _).bind fun dump => ?_
    refine Leads.bind (Q := fun _ => Upkeep opened unknown) (leads_modify ?_) fun _ => leads_pure fun _ h => h
    intro b hb
    exact hb.with_dumps _ fun _ _ h => h.elim

theorem keeps_loadSet (file : Path) : Keeps (Upkeep opened known) (loadSet file) := by
  refine (leads_inspect _).bind fun t => ?_
  split
  · exact leads_pure fun _ h => h
  · exact leads_throw fun _ h => h

theorem keeps_importFile (hsource : opened.session.archive.source? = some opened.session.scene) (file : Path) :
    Keeps (Upkeep opened unknown) (importFile file) := by
  refine (keeps_entryOfFile? file).bind fun found => ?_
  cases found with
  | none => exact leads_pure fun _ h => h
  | some name =>
    refine (keeps_loadSet _).bind fun set => ?_
    refine ((leads_decompile hsource name).weaken fun _ _ h => h.1).bind fun dump => ?_
    dsimp only
    rcases Replacement.merge name dump set with ⟨merged, log⟩
    dsimp only
    refine (keeps_report _).bind fun _ => ?_
    rcases merged with e | merged
    · exact (keeps_report _).bind fun _ => leads_pure fun _ h => h
    · cases merged with
      | none => exact (keeps_report _).bind fun _ => leads_pure fun _ h => h
      | some dump =>
        refine Leads.bind (Q := fun _ => Upkeep opened unknown) (leads_modify ?_) fun _ => ?_
        · intro b hb
          exact hb.with_dumps _ fun _ _ h => h.elim
        · split_ifs
          · exact (keeps_report _).bind fun _ => leads_pure fun _ h => h
          · exact leads_pure fun _ h => h

theorem keeps_countFiles {act : Path → Act Bench Bool} (h : ∀ file, Keeps (Upkeep opened known) (act file))
    (files : List Path) : Keeps (Upkeep opened known) (countFiles files act) :=
  keeps_foldlM (fun _ file _ => (h file).bind fun _ => leads_pure fun _ h => h) 0

theorem keeps_filesWith (directory : Path) (extension : Text) :
    Keeps (Upkeep opened known) (filesWith directory extension) := by
  apply leads_get_bind
  intro b hb
  exact leads_return hb

theorem keeps_applyDumps (directory : Path) : Keeps (Upkeep opened unknown) (applyDumps directory) :=
  (keeps_filesWith _ _).bind fun _ => (keeps_countFiles keeps_applyFile _).bind fun _ =>
    (keeps_report _).bind fun _ => leads_pure fun _ h => h

theorem keeps_importSets (hsource : opened.session.archive.source? = some opened.session.scene) (directory : Path) :
    Keeps (Upkeep opened unknown) (importSets directory) :=
  (keeps_filesWith _ _).bind fun _ => (keeps_countFiles (keeps_importFile hsource) _).bind fun _ =>
    (keeps_report _).bind fun _ => leads_pure fun _ h => h

end Bench
end SceneScript
