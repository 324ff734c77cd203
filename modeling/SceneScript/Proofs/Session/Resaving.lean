import Mathlib
import SceneScript.Proofs.Script.Typesetting
import SceneScript.Proofs.Session.Service
import SceneScript.Proofs.Session.Steadiness
/-!
# Saving again in another session

A save reads every script in scope, sets it and writes it in the target character set. A session that is opened on what
was written reads each script in that character set right away, and where all texts are set once for all its own save
writes the same bytes again.
-/
namespace SceneScript.Bench

open Act

/-- The dump that a session without dumps works out is read from an entry. -/
theorem exists_disassemble_of_dumpOf {b : Bench} (hdumps : b.session.dumps = DumpCache.empty) {cs : Charset} {name : String}
    {text : Text} (h : b.dumpOf cs name = .ok text) :
    ∃ e place bytes dump, b.session.archive.find? name = some (e, place) ∧
      e.load b.workplace.disk b.session.archive.source? = .ok bytes ∧ (disassemble name bytes cs).1 = .ok dump ∧
      dump.text = text := by
  have hcached : b.session.dumps.get? name = none := by
    rw [hdumps]
    rfl
  cases hfind : b.session.archive.find? name with
  | none =>
    rw [dumpOf, hcached, hfind] at h
    cases h
  | some found =>
    obtain ⟨e, place⟩ := found
    cases hload : e.load b.workplace.disk b.session.archive.source? with
    | error err =>
      rw [dumpOf, hcached, hfind] at h
      dsimp only at h
      rw [hload] at h
      cases h
    | ok bytes =>
      rw [dumpOf_of_load hcached hfind hload] at h
      cases hdisassemble : (disassemble name bytes cs).1 with
      | error err =>
        rw [hdisassemble] at h
        cases h
      | ok dump =>
        rw [hdisassemble] at h
        exact ⟨e, place, bytes, dump, rfl, hload, hdisassemble, Except.ok.inj h⟩

/-! ## Scripts that come back -/

/-- Whether each script in scope is read in the target character set right away, and its dump assembles to it again. Entries
of one name have the same script. -/
def Reproduces (b : Bench) : Prop :=
  ∀ e ∈ b.session.archive.entries, isInScope e.name = true → ∃ data text,
    (disassemble e.name data b.session.typesetter.target).1 = .ok ⟨text, b.session.typesetter.target⟩ ∧
    (assemble e.name text b.session.typesetter).1 = .ok data ∧
    ∀ e' ∈ b.session.archive.entries, e'.name = e.name → e'.load b.workplace.disk b.session.archive.source? = .ok data

/-- Whether a session is an earlier one in which dumps were asked for and all were read in one character set. -/
structure LookedIn (cs : Charset) (b s : Bench) : Prop where
  looked : Looked b s
  preferred_eq : s.session.preferred = cs
  dumps : ∀ name dump, s.session.dumps.get? name = some dump → b.dumpOf cs name = .ok dump

section

variable {b s b' : Bench}

theorem LookedIn.refl {cs : Charset} (hdumps : b.session.dumps = DumpCache.empty) (hpreferred : b.session.preferred = cs) :
    LookedIn cs b b := by
  refine ⟨.refl b, hpreferred, fun name dump hdump => ?_⟩
  rw [hdumps] at hdump
  cases hdump

/-- The dump of a script that comes back. -/
theorem Reproduces.dumpOf_eq (h : b.Reproduces) (hdumps : b.session.dumps = DumpCache.empty) {e : Entry}
    (he : e ∈ b.session.archive.entries) (hscope : isInScope e.name = true) : ∃ data text,
      b.dumpOf b.session.typesetter.target e.name = .ok text ∧ (assemble e.name text b.session.typesetter).1 = .ok data ∧
      e.load b.workplace.disk b.session.archive.source? = .ok data := by
  obtain ⟨data, text, hdisassemble, hassemble, hload⟩ := h e he hscope
  obtain ⟨e', place, hfind, he', hname⟩ := Archive.exists_find? he
  refine ⟨data, text, ?_, hassemble, hload e he rfl⟩
  have hcached : b.session.dumps.get? e.name = none := hdumps ▸ rfl
  rw [dumpOf_of_load hcached hfind (hload e' he' hname), hdisassemble]
  rfl

/-- The character set stays when another script is read. -/
theorem LookedIn.decompile (hb : b.Reproduces) (h : LookedIn b.session.typesetter.target b s) {name : String}
    (hname : name ∈ b.namesInScope) : LookedIn b.session.typesetter.target b (Bench.decompile name s).2 := by
  obtain ⟨hmem, hscope⟩ := mem_namesInScope.mp hname
  obtain ⟨e, he, rfl⟩ := List.mem_map.mp hmem
  obtain ⟨data, text, hdisassemble, -, hload⟩ := hb e he hscope
  obtain ⟨e₁, place, hfind, he₁, hname₁⟩ := Archive.exists_find? he
  cases hcached : s.session.dumps.get? e.name with
  | some dump =>
    rw [decompile_of_cached hcached]
    exact h
  | none =>
    obtain ⟨hnone, -⟩ | ⟨e₀, e', place', hfind₀, hfind', hsame⟩ := Archive.find?_same h.looked.entries e.name
    · rw [hfind] at hnone
      cases hnone
    obtain ⟨rfl, -⟩ := Prod.mk.inj (Option.some.inj (hfind.symm.trans hfind₀))
    have hload' : e'.load s.workplace.disk s.session.archive.source? = .ok data := by
      rw [h.looked.disk_eq, h.looked.source_eq, hsame.load_eq, hload e₁ he₁ hname₁]
    rw [← h.preferred_eq] at hdisassemble
    have hrun := decompile_of_load_ok hcached hfind' hload' (Prod.ext hdisassemble rfl)
    obtain ⟨s', hspec, hlooked, -⟩ := decompile_spec s e.name
    rw [hrun] at hspec ⊢
    obtain ⟨-, rfl⟩ := Prod.mk.inj hspec
    refine ⟨h.looked.trans hlooked, h.preferred_eq, fun other dump hdump => ?_⟩
    by_cases heq : other = e.name
    · subst heq
      rw [DumpCache.get?_insertFirst, DumpCache.snd_insertFirst_of_none hcached] at hdump
      have huncached : b.session.dumps.get? e.name = none := by
        cases hb : b.session.dumps.get? e.name with
        | none => rfl
        | some dump =>
          rw [h.looked.kept _ dump hb] at hcached
          cases hcached
      rw [h.preferred_eq] at hdisassemble
      rw [dumpOf_of_load huncached hfind (hload e₁ he₁ hname₁), hdisassemble]
      exact congrArg Except.ok (Option.some.inj hdump)
    · rw [DumpCache.get?_insertFirst_ne _ heq] at hdump
      exact h.dumps other dump hdump

theorem keeps_tryAll_of {P : Bench → Prop} (hlog : ∀ s lines, P s → P { s with workplace := { s.workplace with log := lines } })
    {entries : List (Entry × Nat)} (hdecompile : ∀ p ∈ entries, Keeps P (Bench.decompile p.1.name)) :
    Keeps P (tryAll entries) := by
  have hreport : ∀ lines, Keeps P (report lines) := fun lines s hs => hlog s _ hs
  refine keeps_mapM ?_
  rintro ⟨e, place⟩ hp
  have hassemble : Keeps P (assembleEntry e.name) := by
    refine (hdecompile _ hp).bind fun dump => leads_get_bind fun s hs => ?_
    refine Leads.bind (Q := fun _ => P) ((hreport _).start hs) fun _ => ?_
    split
    · exact leads_pure fun _ h => h
    · exact leads_throw fun _ h => h
  have hattempt : Keeps P (attempt (assembleEntry e.name)) := by
    refine (leads_attempt hassemble P).weaken ?_
    rintro (_ | _) s hs <;> exact hs
  have htry : Keeps P (tryAssembleEntry e.name) := by
    refine hattempt.bind fun result => ?_
    cases result with
    | ok data => exact leads_pure fun _ h => h
    | error e => exact (hreport _).bind fun _ => leads_pure fun _ h => h
  exact htry.bind fun _ => leads_pure fun _ h => h

theorem keeps_tryAll_lookedIn (hb : b.Reproduces) :
    Keeps (LookedIn b.session.typesetter.target b) (tryAll (inScope b.session.archive)) := by
  refine keeps_tryAll_of (fun s lines hs => ⟨hs.looked.with_log lines, hs.preferred_eq, hs.dumps⟩) fun p hp => ?_
  have hname : p.1.name ∈ b.namesInScope := List.mem_map_of_mem (f := fun p : Entry × Nat => p.1.name) hp
  intro s hs
  have hafter := hs.decompile hb hname
  rcases hrun : Bench.decompile p.1.name s with ⟨_ | _, s'⟩ <;> rw [hrun] at hafter <;> exact hafter

/-- The dumps that a save leaves in a session are those with which it tried the entries. -/
theorem exists_dump_of_save (hopened : b.Opened) {P : Bench → Prop} (hkeeps : Keeps P (tryAll (inScope b.session.archive)))
    (hP : P b) (hsave : save b = (.ok (), b')) {e : Entry} (he : e ∈ b.session.archive.entries)
    (hscope : isInScope e.name = true) :
    ∃ s dump, P s ∧ s.session.dumps.get? e.name = some dump ∧ b'.session.dumps.get? e.name = some dump := by
  obtain ⟨results, s, htry, -⟩ := tryAll_spec (inScope b.session.archive) b
  cases hcollect : collect results with
  | error err =>
    rw [save_of_collect_error htry hcollect] at hsave
    cases hsave
  | ok built =>
    obtain ⟨dump, hdump, hdump'⟩ :=
      cached_of_collect (upkeep_opened hopened) (source_of_opened hopened).1 htry hcollect e he hscope
    rw [hsave] at hdump'
    exact ⟨s, dump, hkeeps.of_ok hP htry, hdump, hdump'⟩

/-- A session that was just opened and in which all scripts come back is saved with the bytes that its entries have. -/
theorem Reproduces.saved (h : b.Reproduces) (hopened : b.Opened) (hdumps : b.session.dumps = DumpCache.empty)
    (hpreferred : b.session.preferred = b.session.typesetter.target) (hsave : save b = (.ok (), b')) :
    List.Forall₂ (fun e e' => e'.name = e.name ∧ e'.timestamp = e.timestamp ∧ ∃ data,
      e.load b.workplace.disk b.session.archive.source? = .ok data ∧ e'.payload = .loaded data)
      b.session.archive.entries b'.session.archive.entries := by
  have hsaved := (leads_save (source_of_opened hopened).1 (upkeep_opened hopened)).of_ok rfl hsave
  have hmem : List.Forall₂ (fun e' e => e' ∈ b'.session.archive.entries ∧ Entry.Descends b e e') b'.session.archive.entries
      b.session.archive.entries := (List.forall₂_and_left _ _).mpr ⟨fun _ he => he, hsaved.entries.flip⟩
  refine forall₂_imp_mem hmem.flip ?_
  rintro e he e' ⟨he', hdescends⟩
  refine ⟨hdescends.name_eq, hdescends.timestamp_eq, ?_⟩
  cases hscope : isInScope e.name with
  | false =>
    rw [← hdescends.name_eq] at hscope
    cases hpayload : e'.payload with
    | onDisk offset size =>
      have hloaded := hsaved.all_loaded e' he'
      rw [Entry.isLoaded, hpayload] at hloaded
      cases hloaded
    | loaded data => exact ⟨data, hdescends.loaded hscope data hpayload, rfl⟩
  | true =>
    obtain ⟨data', hpayload, dump', hdump', hassembled⟩ := hsaved.filled e' he' (hdescends.name_eq ▸ hscope)
    rw [hdescends.name_eq] at hdump' hassembled
    obtain ⟨s, dump, hs, hdump, hkept⟩ :=
      exists_dump_of_save hopened (keeps_tryAll_lookedIn h) (.refl hdumps hpreferred) hsave he hscope
    obtain rfl := Option.some.inj (hkept.symm.trans hdump')
    obtain ⟨data, text, htext, hassemble, hload⟩ := h.dumpOf_eq hdumps he hscope
    obtain rfl := Except.ok.inj (htext.symm.trans (hs.dumps _ _ hdump))
    obtain rfl := Except.ok.inj (hassemble.symm.trans hassembled)
    exact ⟨data, hload, hpayload⟩

end

/-! ## Saving twice -/

/-- Whether the strings of each script in scope are set once for all. -/
def SetsOnce (b : Bench) : Prop :=
  ∀ e ∈ b.session.archive.entries, isInScope e.name = true → ∀ bytes,
    e.load b.workplace.disk b.session.archive.source? = .ok bytes → SetOnce b.session.typesetter e.name bytes

theorem keeps_tryAll_looked (b : Bench) (entries : List (Entry × Nat)) : Keeps (Looked b) (tryAll entries) := by
  intro s hs
  obtain ⟨results, s', htry, hlooked, -⟩ := tryAll_spec entries s
  rw [htry]
  exact hs.trans hlooked

section

variable {b b' : Bench}

/-- What a script was assembled to is read in the target character set, and its dump assembles to it again. -/
theorem SetsOnce.exists_disassemble (h : b.SetsOnce) (hopened : b.Opened) (hdumps : b.session.dumps = DumpCache.empty)
    (hspeakers : b.session.typesetter.speakers = .empty) (hsave : save b = (.ok (), b')) {e : Entry}
    (he : e ∈ b.session.archive.entries) (hscope : isInScope e.name = true) {data : Bytes}
    (hassembled : Assembled b b' e.name data) : ∃ text,
      (disassemble e.name data b.session.typesetter.target).1 = .ok ⟨text, b.session.typesetter.target⟩ ∧
      (assemble e.name text b.session.typesetter).1 = .ok data := by
  obtain ⟨dump', hdump', hdata⟩ := hassembled
  obtain ⟨s, dump, hlooked, hdump, hkept⟩ :=
    exists_dump_of_save hopened (keeps_tryAll_looked b _) (.refl b) hsave he hscope
  obtain rfl := Option.some.inj (hkept.symm.trans hdump')
  obtain ⟨cs, hcs⟩ := hlooked.found e.name dump (hdumps ▸ rfl) hdump
  obtain ⟨e₀, place, bytes, dis, hfind, hload, hdisassemble, rfl⟩ := exists_disassemble_of_dumpOf hdumps hcs
  have he₀ : e₀ ∈ b.session.archive.entries := List.mem_of_getElem? (Archive.getElem?_of_find? hfind)
  have hname : e₀.name = e.name := Archive.name_of_find? hfind
  have honce := h e₀ he₀ (hname ▸ hscope) bytes hload
  rw [hname] at honce
  obtain ⟨row, walked, hwalks, hsettles⟩ := honce cs dis hdisassemble
  have hlength : bytes.length < Text.numberBound :=
    (Archive.length_lt_of_openFile hopened he₀ hload).trans (by decide)
  exact exists_disassemble_of_assemble hspeakers hdisassemble hwalks hsettles hlength hdata

private theorem Assembled.eq {opened : Bench} {name : String} {data data' : Bytes} (h : Assembled opened b name data)
    (h' : Assembled opened b name data') : data' = data := by
  obtain ⟨dump, hdump, hdata⟩ := h
  obtain ⟨dump', hdump', hdata'⟩ := h'
  obtain rfl := Option.some.inj (hdump.symm.trans hdump')
  exact Except.ok.inj (hdata'.symm.trans hdata)

/-- A session that is opened on what another one saved has its entries, and all scripts come back. -/
theorem SetsOnce.reproduces (h : b.SetsOnce) (hopened : b.Opened) (hdumps : b.session.dumps = DumpCache.empty)
    (hspeakers : b.session.typesetter.speakers = .empty) (hfits : ∀ e ∈ b.session.archive.entries, FitsField e.name)
    (hsave : save b = (.ok (), b')) {s : Bench} (hs : s.Opened) (hscene : s.session.scene = b.session.scene)
    (hread : s.workplace.disk.read b.session.scene = b'.workplace.disk.read b.session.scene)
    (hts : s.session.typesetter = b.session.typesetter) :
    s.Reproduces ∧ List.Forall₂ (fun e e' => e'.name = e.name ∧ e'.timestamp = e.timestamp ∧ ∃ data,
      e.payload = .loaded data ∧ e'.load s.workplace.disk s.session.archive.source? = .ok data)
      b'.session.archive.entries s.session.archive.entries := by
  obtain ⟨hsource, -, hcount, -⟩ := source_of_opened hopened
  have hsaved := (leads_save hsource (upkeep_opened hopened)).of_ok rfl hsave
  have hentries : List.Forall₂ (fun e e' => e'.name = e.name ∧ e'.timestamp = e.timestamp ∧ ∃ data,
      e.payload = .loaded data ∧ e'.load s.workplace.disk s.session.archive.source? = .ok data)
      b'.session.archive.entries s.session.archive.entries := by
    obtain ⟨loc, image, himage, hfile⟩ := hsaved.image
    obtain ⟨loc', hfile'⟩ := Disk.resolve_of_read (hread.trans (Disk.read_of_resolve hfile))
    have hfits' : ∀ e ∈ b'.session.archive.entries, FitsField e.name := by
      intro e he
      obtain ⟨e₀, he₀, hdescends⟩ := exists_of_forall₂ hsaved.entries he
      exact hdescends.name_eq ▸ hfits e₀ he₀
    obtain ⟨a, hopen, hentries⟩ :=
      Archive.openFile_build? himage (hsaved.entries.length_eq ▸ hcount) hfits' hsaved.all_loaded hfile'
    rw [Opened, hscene, hopen] at hs
    rw [← Except.ok.inj hs, Archive.source_of_openFile hopen]
    exact hentries
  -- What an entry in scope holds is what the dump of its name assembles to.
  have hholds : ∀ e' ∈ s.session.archive.entries, isInScope e'.name = true →
      ∃ e ∈ b.session.archive.entries, e.name = e'.name ∧ ∃ data, Assembled b b' e.name data ∧
        e'.load s.workplace.disk s.session.archive.source? = .ok data := by
    intro e' he' hscope
    obtain ⟨e, he, hname, -, data, hpayload, hload⟩ := exists_of_forall₂ hentries he'
    obtain ⟨e₀, he₀, hdescends⟩ := exists_of_forall₂ hsaved.entries he
    obtain ⟨data', hpayload', hassembled⟩ := hsaved.filled e he (hname ▸ hscope)
    obtain rfl := Payload.loaded.inj (hpayload.symm.trans hpayload')
    exact ⟨e₀, he₀, (hname.trans hdescends.name_eq).symm, data, hdescends.name_eq ▸ hassembled, hload⟩
  refine ⟨fun e' he' hscope => ?_, hentries⟩
  obtain ⟨e, he, hname, data, hassembled, -⟩ := hholds e' he' hscope
  obtain ⟨text, hdisassemble, hassemble⟩ :=
    h.exists_disassemble hopened hdumps hspeakers hsave he (hname ▸ hscope) hassembled
  rw [hname] at hdisassemble hassemble hassembled
  rw [hts]
  refine ⟨data, text, hdisassemble, hassemble, fun e₁ he₁ hname₁ => ?_⟩
  obtain ⟨e₂, -, hname₂, data₁, hassembled₁, hload₁⟩ := hholds e₁ he₁ (hname₁ ▸ hscope)
  rw [hname₂, hname₁] at hassembled₁
  exact hassembled.eq hassembled₁ ▸ hload₁

end

/-- When a session that was just opened is saved and another one is opened on the scene file with the same settings and
fonts, its save leaves the scene file as it is. For this the names of the entries have to fit their fields, and the strings
of each script have to be set once for all; there are no tables of speakers. -/
theorem save_of_saved {settings : Settings} {w₀ w : Workplace} {s : Session}
    (hopen : Session.load settings w₀ = (.ok s, w) ∨ Session.prepare settings w₀ = (.ok s, w))
    (hspeakers : s.typesetter.speakers = .empty) {b : Bench} (hsave : save ⟨s, w⟩ = (.ok (), b))
    {w₀' w' : Workplace} {s' : Session}
    (hopen' : Session.load settings w₀' = (.ok s', w') ∨ Session.prepare settings w₀' = (.ok s', w'))
    (hspeakers' : s'.typesetter.speakers = .empty) {b' : Bench} (hsave' : save ⟨s', w'⟩ = (.ok (), b'))
    (hscene : w'.disk.read s.scene = b.workplace.disk.read s.scene)
    (hfonts : Disk.SameFile (settings.gamePath.join fontsPath) b.workplace.disk w'.disk)
    (hfits : ∀ e ∈ s.archive.entries, FitsField e.name) (hsets : SetsOnce ⟨s, w⟩) :
    b'.workplace.disk.read s.scene = b.workplace.disk.read s.scene := by
  have hfresh := Session.fresh_of_opened hopen
  have hfresh' := Session.fresh_of_opened hopen'
  have hsceneEq : s'.scene = s.scene := congrArg (Path.join · scenePath) (hfresh'.root_eq.trans hfresh.root_eq.symm)
  have hts : s'.typesetter = s.typesetter := by
    have hserved : Served ⟨s, w⟩ ⟨s, w⟩ b := by
      have hcall := (Serves.opened.served hfresh.opened).call .save
      rwa [show (Call.save.act ⟨s, w⟩).2 = b from congrArg Prod.snd hsave] at hcall
    have hsame := hserved.fonts.trans (show Disk.SameFile (fontsFile ⟨s, w⟩) _ _ by rwa [fontsFile, hfresh.root_eq])
    rw [fontsFile, hfresh.root_eq] at hsame
    obtain ⟨a, ts, -, hts, rfl⟩ := Session.eq_of_opened hopen
    obtain ⟨a', ts', -, hts', rfl⟩ := Session.eq_of_opened hopen'
    exact Settings.typesetter_eq_of_fonts hsame hts hts' (hspeakers'.trans hspeakers.symm)
  have hpreferred : s'.preferred = s'.typesetter.target := by
    obtain ⟨a', ts', -, hts', rfl⟩ := Session.eq_of_opened hopen'
    exact (congrArg Typesetter.target (Settings.eq_of_typesetterOn hts')).symm
  obtain ⟨hreproduces, hentries⟩ := hsets.reproduces hfresh.opened hfresh.dumps_eq hspeakers hfits hsave hfresh'.opened
    hsceneEq hscene hts
  have hsaved := (leads_save (source_of_opened hfresh.opened).1 (upkeep_opened hfresh.opened)).of_ok rfl hsave
  have hsaved' := (leads_save (source_of_opened hfresh'.opened).1 (upkeep_opened hfresh'.opened)).of_ok rfl hsave'
  have hcontents : b'.session.archive.entries.map Archive.contentOf = b.session.archive.entries.map Archive.contentOf := by
    have hagain := hreproduces.saved hfresh'.opened hfresh'.dumps_eq hpreferred hsave'
    refine map_eq_of_forall₂ (forall₂_comp hentries hagain ?_) fun _ _ h => h
    rintro e e' e'' - ⟨hname, htime, data, hpayload, hload⟩ ⟨hname', htime', data', hload', hpayload'⟩
    obtain rfl := Except.ok.inj (hload'.symm.trans hload)
    rw [Archive.contentOf, Archive.contentOf, hname', hname, htime', htime, hpayload, hpayload']
  obtain ⟨loc, image, himage, hfile⟩ := hsaved.image
  obtain ⟨loc', image', himage', hfile'⟩ := hsaved'.image
  rw [hcontents, himage] at himage'
  obtain rfl := Option.some.inj himage'
  rw [show (Bench.session ⟨s', w'⟩).scene = s.scene from hsceneEq] at hfile'
  rw [Disk.read_of_resolve hfile', Disk.read_of_resolve hfile]

/-- The first save takes the asterisks out of a line. -/
theorem save_of_saved_asterisks :
    let bytes : Bytes := [1, 0x18, 8, 0, 0, 0, 0, 11, 0, 0x0D, 2, 0x48, 0x69, 0x2A, 0x2A, 0x21, 0]
    let image := (Image.build? [⟨"SC01", .zero, bytes⟩]).getD []
    let w₀ : Workplace := ⟨⟨[], [(["FILE"], .dir), (["FILE", "SCENE00.afs"], .file image)]⟩, []⟩
    let settings := { Settings.default with wraps := false }
    ∃ s w b s' w' b', Session.load settings w₀ = (.ok s, w) ∧ save ⟨s, w⟩ = (.ok (), b) ∧
      Session.load settings b.workplace = (.ok s', w') ∧ s'.archive.entries.map (·.load w'.disk s'.archive.source?) =
        [.ok [1, 0x18, 8, 0, 0, 0, 0, 11, 0, 0x0D, 2, 0x48, 0x69, 0x21, 0]] ∧
      save ⟨s', w'⟩ = (.ok (), b') ∧ b'.workplace.disk.read s.scene = b.workplace.disk.read s.scene := by
  intro bytes image w₀ settings
  have hrun : passes (Session.load settings w₀) (fun s w =>
      decide (s.archive.entries.map (fun e => (e.name, e.load w.disk s.archive.source?)) = [("SC01", .ok bytes)]) &&
      (decide (s.typesetter.speakers = .empty) && passes (save ⟨s, w⟩) fun _ b =>
        passes (Session.load settings b.workplace) fun s' w' =>
          decide (s'.typesetter.speakers = .empty) &&
            (decide (s'.archive.entries.map (·.load w'.disk s'.archive.source?) =
              [.ok [1, 0x18, 8, 0, 0, 0, 0, 11, 0, 0x0D, 2, 0x48, 0x69, 0x21, 0]]) &&
              passes (save ⟨s', w'⟩) fun _ _ => true))) = true := by decide +kernel
  obtain ⟨s, w, hopen, hrun⟩ := exists_of_passes hrun
  rw [Bool.and_eq_true, Bool.and_eq_true, decide_eq_true_eq, decide_eq_true_eq] at hrun
  obtain ⟨hentries, hspeakers, hrun⟩ := hrun
  obtain ⟨⟨⟩, b, hsave, hrun⟩ := exists_of_passes hrun
  obtain ⟨s', w', hopen', hrun⟩ := exists_of_passes hrun
  rw [Bool.and_eq_true, Bool.and_eq_true, decide_eq_true_eq, decide_eq_true_eq] at hrun
  obtain ⟨hspeakers', hentries', hrun⟩ := hrun
  obtain ⟨⟨⟩, b', hsave', -⟩ := exists_of_passes hrun
  have hentry : ∀ e ∈ s.archive.entries, e.name = "SC01" ∧ e.load w.disk s.archive.source? = .ok bytes := by
    intro e he
    have hmem := List.mem_map_of_mem (f := fun e : Entry => (e.name, e.load w.disk s.archive.source?)) he
    rw [hentries, List.mem_singleton] at hmem
    exact Prod.mk.inj hmem
  have honce : ∀ ts, SetOnce ts "SC01" bytes := by
    intro ts cs dump _
    let message : Row :=
      ⟨some 1, "message".toList, 8, [.byte 0, .byte 0, .byte 0, .byte 0, .pointer 11], [['H', 'i', '*', '*', '!']]⟩
    let ret2 : Row := ⟨some 9, "ret2".toList, 2, [], []⟩
    refine ⟨Reading.headerRow [], ⟨[message, ret2], 11, ⟨some 11, 17⟩⟩, ?_, ?_⟩
    · cases dump.charset <;> exact ⟨1, by decide +kernel, by decide +kernel⟩
    · have hstring : ∀ row ∈ [message, ret2], ∀ s ∈ row.strings, s = ['H', 'i', '*', '*', '!'] := by decide
      refine ⟨.inl (.inr (.inl ⟨ret2, rfl, rfl⟩)), by decide +kernel, by decide +kernel, by decide +kernel, ?_⟩
      intro row hrow t ht
      rw [hstring row hrow t ht]
      exact ⟨fun _ => ⟨by decide, by decide, by decide, by decide, by simp⟩, fun _ => by decide, fun _ => by decide,
        fun _ => by decide⟩
  have hdisk : w'.disk = b.workplace.disk := (Session.load_spec hopen').1
  refine ⟨s, w, b, s', w', b', hopen, hsave, hopen', hentries', hsave',
    save_of_saved (.inl hopen) hspeakers hsave (.inl hopen') hspeakers' hsave' (by rw [hdisk]) (by rw [hdisk]; exact .refl _ _)
      (fun e he => ?_) (fun e he _ bytes' hload => ?_)⟩
  · rw [(hentry e he).1]
    unfold FitsField
    decide
  · obtain ⟨hname, hbytes⟩ := hentry e he
    obtain rfl := Except.ok.inj (hbytes.symm.trans hload)
    exact hname ▸ honce _

end SceneScript.Bench
