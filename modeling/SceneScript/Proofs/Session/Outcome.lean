import Mathlib
import SceneScript.Proofs.Session.Saving
/-!
# What entries come to

The dump of an entry and the bytes it assembles to, said without the session that works them out. Working them out
loads entries and fills the cache, and nothing of that is seen by who asks again.
-/
namespace SceneScript

theorem Archive.name_of_find? {a : Archive} {name : String} {e : Entry} {place : Nat} (h : a.find? name = some (e, place)) :
    e.name = name := by
  have hname : (e.name == name) = true := List.find?_some (p := fun p : Entry × Nat => p.1.name == name) h
  exact eq_of_beq hname

theorem Archive.mem_names_of_find? {a : Archive} {name : String} {found : Entry × Nat} (h : a.find? name = some found) :
    name ∈ a.entries.map Entry.name := by
  obtain ⟨e, place⟩ := found
  rw [← Archive.name_of_find? h]
  exact List.mem_map_of_mem (List.mem_of_getElem? (Archive.getElem?_of_find? h))

/-- The name of an entry leads to an entry of that name. -/
theorem Archive.exists_find? {a : Archive} {e : Entry} (he : e ∈ a.entries) :
    ∃ e' place, a.find? e.name = some (e', place) ∧ e' ∈ a.entries ∧ e'.name = e.name := by
  obtain ⟨i, hi⟩ := List.getElem?_of_mem he
  have hfound : (a.find? e.name).isSome := by
    rw [Archive.find?, List.find?_isSome]
    exact ⟨(e, i), List.mem_zipIdx_iff_getElem?.mpr hi, beq_self_eq_true _⟩
  obtain ⟨⟨e', place⟩, hfind⟩ := Option.isSome_iff_exists.mp hfound
  exact ⟨e', place, hfind, List.mem_of_getElem? (Archive.getElem?_of_find? hfind), Archive.name_of_find? hfind⟩

/-- Whether an entry is the same one, loaded or not. -/
structure Entry.Same (disk : Disk) (source? : Option Path) (e e' : Entry) : Prop where
  name_eq : e'.name = e.name
  timestamp_eq : e'.timestamp = e.timestamp
  load_eq : e'.load disk source? = e.load disk source?

section

variable {disk : Disk} {source? : Option Path}

theorem Entry.Same.refl (e : Entry) : Entry.Same disk source? e e := ⟨rfl, rfl, rfl⟩

theorem Entry.Same.trans {e₁ e₂ e₃ : Entry} (h : Entry.Same disk source? e₁ e₂) (h' : Entry.Same disk source? e₂ e₃) :
    Entry.Same disk source? e₁ e₃ :=
  ⟨h'.name_eq.trans h.name_eq, h'.timestamp_eq.trans h.timestamp_eq, h'.load_eq.trans h.load_eq⟩

theorem Entry.Same.symm {e e' : Entry} (h : Entry.Same disk source? e e') : Entry.Same disk source? e' e :=
  ⟨h.name_eq.symm, h.timestamp_eq.symm, h.load_eq.symm⟩

/-- Loading an entry leaves it the same. -/
theorem Entry.same_setData {e : Entry} {data : Bytes} (h : e.load disk source? = .ok data) :
    Entry.Same disk source? e (e.setData data) := ⟨rfl, rfl, h.symm⟩

private theorem find?_zipIdx_of_forall₂ {Fits : Entry → Entry → Prop} (hname : ∀ e e', Fits e e' → e'.name = e.name)
    {entries entries' : List Entry} (h : List.Forall₂ Fits entries entries') (name : String) (k : Nat) :
    ((entries.zipIdx k).find? (fun (e, _) => e.name == name) = none ∧
      (entries'.zipIdx k).find? (fun (e, _) => e.name == name) = none) ∨
    ∃ e e' place, (entries.zipIdx k).find? (fun (e, _) => e.name == name) = some (e, place) ∧
      (entries'.zipIdx k).find? (fun (e, _) => e.name == name) = some (e', place) ∧ Fits e e' := by
  induction h generalizing k with
  | nil => exact .inl ⟨rfl, rfl⟩
  | @cons e e' entries entries' hfits _ ih =>
    rw [List.zipIdx_cons, List.zipIdx_cons, List.find?_cons, List.find?_cons]
    dsimp only
    rw [hname e e' hfits]
    cases e.name == name with
    | true => exact .inr ⟨e, e', k, rfl, rfl, hfits⟩
    | false => exact ih (k + 1)

/-- A name leads to the same place in archives whose entries have the same names. -/
theorem Archive.find?_of_forall₂ {Fits : Entry → Entry → Prop} (hname : ∀ e e', Fits e e' → e'.name = e.name)
    {a a' : Archive} (h : List.Forall₂ Fits a.entries a'.entries) (name : String) :
    (a.find? name = none ∧ a'.find? name = none) ∨ ∃ e e' place, a.find? name = some (e, place) ∧
      a'.find? name = some (e', place) ∧ Fits e e' :=
  find?_zipIdx_of_forall₂ hname h name 0

/-- A name leads to the same entry, whatever is loaded. -/
theorem Archive.find?_same {a a' : Archive} (h : List.Forall₂ (Entry.Same disk source?) a.entries a'.entries)
    (name : String) :
    (a.find? name = none ∧ a'.find? name = none) ∨ ∃ e e' place, a.find? name = some (e, place) ∧
      a'.find? name = some (e', place) ∧ Entry.Same disk source? e e' :=
  Archive.find?_of_forall₂ (fun _ _ hsame => hsame.name_eq) h name

theorem Archive.forall₂_setDataAt {a a' : Archive} (h : List.Forall₂ (Entry.Same disk source?) a.entries a'.entries)
    {e : Entry} {place : Nat} (he : a'.entries[place]? = some e) {data : Bytes} (hload : e.load disk source? = .ok data) :
    List.Forall₂ (Entry.Same disk source?) a.entries (a'.setDataAt place data).entries := by
  apply forall₂_modify h
  intro e₀ e' he' hsame
  obtain rfl := Option.some.inj (he.symm.trans he')
  exact hsame.trans (Entry.same_setData hload)

end

namespace Bench

/-- The dump that an entry has, or gets when its strings are first read in a character set. -/
def dumpOf (b : Bench) (cs : Charset) (name : String) : Except SessionError Text :=
  match b.session.dumps.get? name with
  | some dump => .ok dump
  | none =>
    match b.session.archive.find? name with
    | none => .error (.unknownEntry name)
    | some (e, _) =>
      match e.load b.workplace.disk b.session.archive.source? with
      | .error e => .error (.archive e)
      | .ok bytes =>
        match (disassemble name bytes cs).1 with
        | .error e => .error (.script e)
        | .ok dump => .ok dump.text

/-- The bytes that the dump of an entry assembles to. -/
def bytesOf (b : Bench) (cs : Charset) (name : String) : Except SessionError Bytes :=
  match b.dumpOf cs name with
  | .error e => .error e
  | .ok dump => (assemble name dump b.session.typesetter).1.mapError (.compile name)

/-- Whether a session is an earlier one in which dumps were asked for. -/
structure Looked (b s : Bench) : Prop where
  root_eq : s.session.root = b.session.root
  typesetter_eq : s.session.typesetter = b.session.typesetter
  source_eq : s.session.archive.source? = b.session.archive.source?
  destination_eq : s.session.archive.destination = b.session.archive.destination
  disk_eq : s.workplace.disk = b.workplace.disk
  entries : List.Forall₂ (Entry.Same b.workplace.disk b.session.archive.source?) b.session.archive.entries
    s.session.archive.entries
  edited_eq : s.session.dumps.edited = b.session.dumps.edited
  kept : ∀ name dump, b.session.dumps.get? name = some dump → s.session.dumps.get? name = some dump
  found : ∀ name dump, b.session.dumps.get? name = none → s.session.dumps.get? name = some dump →
    ∃ cs, b.dumpOf cs name = .ok dump

theorem Looked.refl (b : Bench) : Looked b b where
  root_eq := rfl
  typesetter_eq := rfl
  source_eq := rfl
  destination_eq := rfl
  disk_eq := rfl
  entries := List.forall₂_same.mpr fun e _ => .refl e
  edited_eq := rfl
  kept := fun _ _ h => h
  found := by
    intro name dump hnone hsome
    rw [hnone] at hsome
    cases hsome

theorem Looked.with_log {b s : Bench} (h : Looked b s) (log : Log) :
    Looked b { s with workplace := { s.workplace with log := log } } := { h with }

/-- What an entry comes to that has no dump yet. -/
theorem Looked.dumpOf_eq {b s : Bench} (h : Looked b s) {name : String} (hb : b.session.dumps.get? name = none)
    (hs : s.session.dumps.get? name = none) (cs : Charset) : s.dumpOf cs name = b.dumpOf cs name := by
  rw [dumpOf, dumpOf, hb, hs, h.disk_eq, h.source_eq]
  obtain ⟨hnone, hnone'⟩ | ⟨e, e', place, hfind, hfind', hsame⟩ := Archive.find?_same h.entries name
  · rw [hnone, hnone']
  · rw [hfind, hfind']
    dsimp only
    rw [hsame.load_eq]

theorem dumpOf_cached {b : Bench} {name : String} {dump : Text} (h : b.session.dumps.get? name = some dump)
    (cs : Charset) : b.dumpOf cs name = .ok dump := by
  rw [dumpOf, h]

/-- The dump of an entry that has none yet, from its bytes. -/
theorem dumpOf_of_load {b : Bench} {name : String} {e : Entry} {place : Nat} {bytes : Bytes}
    (hcached : b.session.dumps.get? name = none) (hfind : b.session.archive.find? name = some (e, place))
    (hload : e.load b.workplace.disk b.session.archive.source? = .ok bytes) (cs : Charset) :
    b.dumpOf cs name = ((disassemble name bytes cs).1.map Disassembly.text).mapError .script := by
  rw [dumpOf, hcached, hfind]
  dsimp only
  rw [hload]
  cases hdisassemble : (disassemble name bytes cs).1 with
  | error e =>
    dsimp only
    rw [hdisassemble]
    rfl
  | ok dump =>
    dsimp only
    rw [hdisassemble]
    rfl

/-- Asking again gives what asking at first would have given, for some order of the character sets. -/
theorem Looked.exists_dumpOf_eq {b s : Bench} (h : Looked b s) (cs : Charset) (name : String) :
    ∃ cs', s.dumpOf cs name = b.dumpOf cs' name := by
  cases hb : b.session.dumps.get? name with
  | some dump => exact ⟨cs, by rw [dumpOf_cached hb, dumpOf_cached (h.kept _ _ hb)]⟩
  | none =>
    cases hs : s.session.dumps.get? name with
    | some dump =>
      obtain ⟨cs', hcs'⟩ := h.found name dump hb hs
      exact ⟨cs', by rw [hcs', dumpOf_cached hs]⟩
    | none => exact ⟨cs, h.dumpOf_eq hb hs cs⟩

theorem Looked.trans {b s t : Bench} (h : Looked b s) (h' : Looked s t) : Looked b t where
  root_eq := h'.root_eq.trans h.root_eq
  typesetter_eq := h'.typesetter_eq.trans h.typesetter_eq
  source_eq := h'.source_eq.trans h.source_eq
  destination_eq := h'.destination_eq.trans h.destination_eq
  disk_eq := h'.disk_eq.trans h.disk_eq
  entries := by
    have hentries := h'.entries
    rw [h.disk_eq, h.source_eq] at hentries
    exact forall₂_comp h.entries hentries fun _ _ _ _ hsame hsame' => hsame.trans hsame'
  edited_eq := h'.edited_eq.trans h.edited_eq
  kept := fun name dump hdump => h'.kept name dump (h.kept name dump hdump)
  found := by
    intro name dump hb ht
    cases hs : s.session.dumps.get? name with
    | some kept =>
      rw [h'.kept name kept hs] at ht
      obtain rfl := Option.some.inj ht
      exact h.found name kept hb hs
    | none =>
      obtain ⟨cs, hcs⟩ := h'.found name dump hs ht
      exact ⟨cs, (h.dumpOf_eq hb hs cs).symm.trans hcs⟩

theorem Looked.exists_bytesOf_eq {b s : Bench} (h : Looked b s) (cs : Charset) (name : String) :
    ∃ cs', s.bytesOf cs name = b.bytesOf cs' name := by
  obtain ⟨cs', hcs'⟩ := h.exists_dumpOf_eq cs name
  exact ⟨cs', by rw [bytesOf, bytesOf, hcs', h.typesetter_eq]⟩

/-! ## Asking for dumps -/

open Act

theorem entry_eq {b : Bench} {name : String} {found : Entry × Nat} (h : b.session.archive.find? name = some found) :
    entry name b = (.ok found, b) := by
  rw [entry, get_bind, h]
  rfl

theorem entry_eq_error {b : Bench} {name : String} (h : b.session.archive.find? name = none) :
    entry name b = (.error (.unknownEntry name), b) := by
  rw [entry, get_bind, h]
  rfl

theorem report_eq (b : Bench) (lines : Log) :
    report lines b = (.ok (), { b with workplace := { b.workplace with log := b.workplace.log ++ lines } }) := rfl

theorem update_eq (b : Bench) (f : Session → Session) : update f b = (.ok (), { b with session := f b.session }) := rfl

theorem edit_eq {b : Bench} {name : String} {found : Entry × Nat} (h : b.session.archive.find? name = some found)
    (dump : Text) : edit name dump b =
      (.ok (), { b with session := { b.session with dumps := b.session.dumps.edit name dump } }) := by
  rw [edit, bind_ok (entry_eq h)]
  rfl

theorem edit_eq_error {b : Bench} {name : String} (h : b.session.archive.find? name = none) (dump : Text) :
    edit name dump b = (.error (.unknownEntry name), b) := by
  rw [edit, bind_error (entry_eq_error h)]

private theorem loadEntry_eq {b : Bench} {e : Entry} {bytes : Bytes}
    (h : e.load b.workplace.disk b.session.archive.source? = .ok bytes) (place : Nat) :
    loadEntry e place b =
      (.ok bytes, { b with session := { b.session with archive := b.session.archive.setDataAt place bytes } }) := by
  rw [loadEntry, get_bind, Archive.loadAt, h]
  rfl

private theorem loadEntry_eq_error {b : Bench} {e : Entry} {err : ArchiveError}
    (h : e.load b.workplace.disk b.session.archive.source? = .error err) (place : Nat) :
    loadEntry e place b = (.error (.archive err), b) := by
  rw [loadEntry, get_bind, Archive.loadAt, h]
  rfl

/-- A session in which an entry was loaded. -/
private theorem looked_setDataAt {b : Bench} {e : Entry} {place : Nat} (he : b.session.archive.entries[place]? = some e)
    {data : Bytes} (hload : e.load b.workplace.disk b.session.archive.source? = .ok data) :
    Looked b { b with session := { b.session with archive := b.session.archive.setDataAt place data } } :=
  { Looked.refl b with entries := Archive.forall₂_setDataAt (Looked.refl b).entries he hload }

/-- A session in which a dump was stored that it did not have. -/
private theorem Looked.with_dump {b s : Bench} (h : Looked b s) {name : String} {dump : Text} {cs : Charset}
    (hnone : s.session.dumps.get? name = none) (hdump : b.dumpOf cs name = .ok dump) (preferred : Charset) :
    Looked b { s with session := { s.session with
      preferred := preferred, dumps := (s.session.dumps.insertFirst name dump).1 } } where
  root_eq := h.root_eq
  typesetter_eq := h.typesetter_eq
  source_eq := h.source_eq
  destination_eq := h.destination_eq
  disk_eq := h.disk_eq
  entries := h.entries
  edited_eq := (DumpCache.edited_insertFirst _ _ _).trans h.edited_eq
  kept := fun other kept hkept => DumpCache.get?_insertFirst_of_some (h.kept other kept hkept)
  found := by
    intro other kept hother hkept
    by_cases heq : other = name
    · subst heq
      dsimp only at hkept
      rw [DumpCache.get?_insertFirst, DumpCache.snd_insertFirst_of_none hnone] at hkept
      obtain rfl := Option.some.inj hkept
      exact ⟨cs, hdump⟩
    · rw [DumpCache.get?_insertFirst_ne _ heq] at hkept
      exact h.found other kept hother hkept

/-- A dump that is there is not worked out again. -/
theorem decompile_of_cached {b : Bench} {name : String} {dump : Text} (h : b.session.dumps.get? name = some dump) :
    decompile name b = (.ok dump, b) := by
  rw [decompile, get_bind, h]
  rfl

theorem decompile_of_unknown {b : Bench} {name : String} (hcached : b.session.dumps.get? name = none)
    (hfind : b.session.archive.find? name = none) : decompile name b = (.error (.unknownEntry name), b) := by
  rw [decompile, get_bind, hcached]
  dsimp only
  rw [bind_error (entry_eq_error hfind)]

theorem decompile_of_load_error {b : Bench} {name : String} {e : Entry} {place : Nat} {err : ArchiveError}
    (hcached : b.session.dumps.get? name = none) (hfind : b.session.archive.find? name = some (e, place))
    (hload : e.load b.workplace.disk b.session.archive.source? = .error err) :
    decompile name b = (.error (.archive err), b) := by
  rw [decompile, get_bind, hcached]
  dsimp only
  rw [bind_ok (entry_eq hfind)]
  dsimp only
  rw [bind_error (loadEntry_eq_error hload place)]

section

variable {b : Bench} {name : String} {e : Entry} {place : Nat} {bytes : Bytes} {log : Log}
  (hcached : b.session.dumps.get? name = none) (hfind : b.session.archive.find? name = some (e, place))
  (hload : e.load b.workplace.disk b.session.archive.source? = .ok bytes)

include hcached hfind hload

/-- A script that cannot be read stays loaded. -/
theorem decompile_of_load_ok_error {err : ScriptError}
    (hdisassemble : disassemble name bytes b.session.preferred = (.error err, log)) :
    decompile name b = (.error (.script err), ⟨{ b.session with archive := b.session.archive.setDataAt place bytes },
      { b.workplace with log := b.workplace.log ++ log }⟩) := by
  rw [decompile, get_bind, hcached]
  dsimp only
  rw [bind_ok (entry_eq hfind)]
  dsimp only
  rw [bind_ok (loadEntry_eq hload place), get_bind]
  dsimp only
  rw [hdisassemble]
  dsimp only
  rw [bind_ok (report_eq _ log)]
  rfl

/-- A script that is read is loaded, its dump stored, and its character set tried first from then on. -/
theorem decompile_of_load_ok {dump : Disassembly}
    (hdisassemble : disassemble name bytes b.session.preferred = (.ok dump, log)) :
    decompile name b = (.ok dump.text, ⟨{ b.session with
      archive := b.session.archive.setDataAt place bytes
      preferred := dump.charset
      dumps := (b.session.dumps.insertFirst name dump.text).1 }, { b.workplace with log := b.workplace.log ++ log }⟩) := by
  rw [decompile, get_bind, hcached]
  dsimp only
  rw [bind_ok (entry_eq hfind)]
  dsimp only
  rw [bind_ok (loadEntry_eq hload place), get_bind]
  dsimp only
  rw [hdisassemble]
  dsimp only
  rw [bind_ok (report_eq _ log), get_bind, bind_ok (update_eq _ _), DumpCache.snd_insertFirst_of_none hcached]
  rfl

end

/-- Asking for a dump gives what the entry comes to, and leaves it in the cache. -/
theorem decompile_spec (b : Bench) (name : String) :
    ∃ s, decompile name b = (b.dumpOf b.session.preferred name, s) ∧ Looked b s ∧
      ∀ dump, b.dumpOf b.session.preferred name = .ok dump → s.session.dumps.get? name = some dump := by
  cases hcached : b.session.dumps.get? name with
  | some dump =>
    have hdump := dumpOf_cached hcached b.session.preferred
    exact ⟨b, hdump ▸ decompile_of_cached hcached, .refl b, fun dump' h => Except.ok.inj (hdump.symm.trans h) ▸ hcached⟩
  | none =>
    cases hfind : b.session.archive.find? name with
    | none =>
      have hdump : b.dumpOf b.session.preferred name = .error (.unknownEntry name) := by rw [dumpOf, hcached, hfind]
      rw [hdump]
      exact ⟨b, decompile_of_unknown hcached hfind, .refl b, fun _ h => nomatch h⟩
    | some found =>
      obtain ⟨e, place⟩ := found
      cases hload : e.load b.workplace.disk b.session.archive.source? with
      | error err =>
        have hdump : b.dumpOf b.session.preferred name = .error (.archive err) := by
          rw [dumpOf, hcached, hfind]
          dsimp only
          rw [hload]
        rw [hdump]
        exact ⟨b, decompile_of_load_error hcached hfind hload, .refl b, fun _ h => nomatch h⟩
      | ok bytes =>
        have hlooked := looked_setDataAt (Archive.getElem?_of_find? hfind) hload
        have hdump := dumpOf_of_load hcached hfind hload b.session.preferred
        rcases hdisassemble : disassemble name bytes b.session.preferred with ⟨err | dump, log⟩
        · rw [hdisassemble] at hdump
          rw [hdump]
          exact ⟨_, decompile_of_load_ok_error hcached hfind hload hdisassemble, hlooked.with_log _, fun _ h => nomatch h⟩
        · rw [hdisassemble] at hdump
          rw [hdump]
          refine ⟨_, decompile_of_load_ok hcached hfind hload hdisassemble,
            (hlooked.with_log (b.workplace.log ++ log)).with_dump hcached hdump dump.charset, ?_⟩
          rintro _ ⟨⟩
          dsimp only
          rw [DumpCache.get?_insertFirst, DumpCache.snd_insertFirst_of_none hcached]

theorem assembleEntry_spec (b : Bench) (name : String) :
    ∃ s, assembleEntry name b = (b.bytesOf b.session.preferred name, s) ∧ Looked b s := by
  obtain ⟨s, hrun, hlooked, -⟩ := decompile_spec b name
  rw [assembleEntry, bytesOf]
  cases hdump : b.dumpOf b.session.preferred name with
  | error e =>
    rw [hdump] at hrun
    rw [bind_error hrun]
    exact ⟨s, rfl, hlooked⟩
  | ok dump =>
    rw [hdump] at hrun
    rw [bind_ok hrun, get_bind, hlooked.typesetter_eq]
    dsimp only
    rcases assemble name dump b.session.typesetter with ⟨result, log⟩
    dsimp only
    rw [bind_ok (report_eq s log)]
    cases result with
    | error e => exact ⟨_, rfl, hlooked.with_log _⟩
    | ok bytes => exact ⟨_, rfl, hlooked.with_log _⟩

/-- Trying an entry gives what it comes to, failure or not. -/
theorem tryAssembleEntry_spec (b : Bench) (name : String) :
    ∃ s, tryAssembleEntry name b = (.ok (b.bytesOf b.session.preferred name), s) ∧ Looked b s ∧
      ∀ data, b.bytesOf b.session.preferred name = .ok data → s = (assembleEntry name b).2 := by
  obtain ⟨s, hrun, hlooked⟩ := assembleEntry_spec b name
  have hattempt : attempt (assembleEntry name) b = (.ok (b.bytesOf b.session.preferred name), s) := by
    change ((Except.ok (assembleEntry name b).1 : Except SessionError _), (assembleEntry name b).2) = _
    rw [hrun]
  rw [tryAssembleEntry, bind_ok hattempt, hrun]
  cases b.bytesOf b.session.preferred name with
  | ok data => exact ⟨s, rfl, hlooked, fun _ _ => rfl⟩
  | error e => exact ⟨_, rfl, hlooked.with_log _, fun _ h => nomatch h⟩

end Bench
end SceneScript
