import Mathlib
import SceneScript.Proofs.Session.Upkeep
/-!
# What saving leads to

Every entry in scope is assembled from its dump before anything is changed. Then the whole archive is loaded, laid out
and written, so that afterwards the scene file is the image of the session's archive.
-/
namespace SceneScript

/-! ## Archives -/

namespace Archive

/-- After several changes an entry has the bytes that it was given last. -/
theorem getElem?_foldl_setDataAt (built : List (Nat × Bytes)) (a : Archive) (i : Nat) :
    (built.foldl (fun a (place, data) => a.setDataAt place data) a).entries[i]? =
      a.entries[i]?.map fun e => ((built.reverse.lookup i).map e.setData).getD e := by
  induction built using List.reverseRecOn with
  | nil =>
    change _ = a.entries[i]?.map id
    rw [Option.map_id]
    rfl
  | append_singleton built p ih =>
    obtain ⟨place, data⟩ := p
    rw [List.foldl_concat, List.reverse_concat, List.lookup_cons, getElem?_setDataAt, ih]
    by_cases hplace : place = i
    · rw [hplace, beq_self_eq_true]
      cases a.entries[i]? with
      | none => rfl
      | some e => cases built.reverse.lookup i <;> simp [Entry.setData]
    · rw [beq_eq_false_iff_ne.mpr (Ne.symm hplace)]
      simp only [hplace, if_false]
      exact congrFun Option.map_id _

/-- Nothing changes when every entry is given the bytes it has. -/
theorem foldl_setDataAt_self {built : List (Nat × Bytes)} {a : Archive}
    (h : ∀ p ∈ built, ∀ e, a.entries[p.1]? = some e → e.payload = .loaded p.2) :
    built.foldl (fun a (place, data) => a.setDataAt place data) a = a := by
  induction built with
  | nil => rfl
  | cons p built ih =>
    obtain ⟨place, data⟩ := p
    rw [List.forall_mem_cons] at h
    have hset : a.setDataAt place data = a := by
      have hentries : (a.setDataAt place data).entries = a.entries := by
        apply List.ext_getElem?
        intro i
        rw [getElem?_setDataAt]
        cases he : a.entries[i]? with
        | none => rfl
        | some e =>
          rw [Option.map_some]
          split_ifs with hplace
          · subst hplace
            rw [Entry.setData_self (h.1 e he)]
          · rfl
      exact congrArg (Archive.mk a.source? a.destination) hentries
    rw [List.foldl_cons]
    dsimp only
    rw [hset]
    exact ih h.2

end Archive

theorem mem_of_lookup {α β : Type} [BEq α] [LawfulBEq α] {l : List (α × β)} {a : α} {b : β}
    (h : l.lookup a = some b) : (a, b) ∈ l := by
  induction l with
  | nil => cases h
  | cons p l ih =>
    rw [List.lookup_cons] at h
    cases heq : a == p.1 with
    | true =>
      rw [heq] at h
      rw [eq_of_beq heq, ← Option.some.inj h]
      exact List.mem_cons_self
    | false =>
      rw [heq] at h
      exact List.mem_cons_of_mem _ (ih h)

theorem lookup_isSome {α β : Type} [BEq α] [LawfulBEq α] {l : List (α × β)} {p : α × β} (h : p ∈ l) :
    ∃ b, l.lookup p.1 = some b := by
  induction l with
  | nil => cases h
  | cons q l ih =>
    rw [List.lookup_cons]
    cases heq : p.1 == q.1 with
    | true => exact ⟨_, rfl⟩
    | false =>
      rcases List.mem_cons.mp h with rfl | h
      · rw [beq_self_eq_true] at heq
        cases heq
      · exact ih h

/-! ## Assembling -/

namespace Bench

open Act

variable {opened : Bench} {known : String → Text → Prop}

/-- Whether the dump of an entry assembles to certain bytes. -/
def Assembled (opened b : Bench) (name : String) (data : Bytes) : Prop :=
  ∃ dump, b.session.dumps.get? name = some dump ∧
    (assemble name dump opened.session.typesetter).1 = .ok data

theorem leads_attempt {α : Type} {act : Act Bench α} {P F : Bench → Prop} {Q : α → Bench → Prop} (h : act.Leads P Q F)
    (F' : Bench → Prop) :
    (attempt act).Leads P (fun result b => match result with | .ok a => Q a b | .error _ => F b) F' := by
  intro b hb
  have hact := h b hb
  have hrun : attempt act b = (.ok (act b).1, (act b).2) := rfl
  rw [hrun]
  rcases hstep : act b with ⟨result, b'⟩
  rw [hstep] at hact
  cases result <;> exact hact

theorem leads_assembleEntry (hsource : opened.session.archive.source? = some opened.session.scene) (name : String) :
    (assembleEntry name).Leads (Upkeep opened known) (fun data b => Upkeep opened known b ∧ Assembled opened b name data)
      (Upkeep opened known) := by
  refine (leads_decompile hsource name).bind fun dump => ?_
  apply leads_get_bind
  rintro b ⟨hb, hcached⟩
  rcases hassemble : assemble name dump b.session.typesetter with ⟨result, log⟩
  rw [hb.typesetter_eq] at hassemble
  dsimp only
  refine Leads.bind (Q := fun _ b => Upkeep opened known b ∧ b.session.dumps.get? name = some dump) ?_ fun _ => ?_
  · rintro _ rfl
    exact ⟨hb.with_log _, hcached⟩
  · cases result with
    | ok data => exact leads_pure fun b hb => ⟨hb.1, dump, hb.2, congrArg Prod.fst hassemble⟩
    | error e => exact leads_throw fun b hb => hb.1

theorem leads_tryAssembleEntry (hsource : opened.session.archive.source? = some opened.session.scene) (name : String)
    {F : Bench → Prop} :
    (tryAssembleEntry name).Leads (Upkeep opened known)
      (fun result b => Upkeep opened known b ∧ ∀ data, result = .ok data → Assembled opened b name data) F := by
  refine (leads_attempt (leads_assembleEntry hsource name) F).bind fun result => ?_
  cases result with
  | ok data =>
    apply leads_pure
    rintro b ⟨hb, hassembled⟩
    exact ⟨hb, fun _ h => Except.ok.inj h ▸ hassembled⟩
  | error e =>
    refine Leads.bind (Q := fun _ => Upkeep opened known) (fun _ h => h.with_log _) fun _ => leads_pure ?_
    intro b hb
    exact ⟨hb, fun _ h => nomatch h⟩

/-- Entries are assembled one after the other while the dumps stay. -/
theorem leads_assembleAll (hsource : opened.session.archive.source? = some opened.session.scene)
    (entries : List (Entry × Nat)) {b : Bench} (hb : Upkeep opened unknown b) {F : Bench → Prop} :
    Leads (· = b) (entries.mapM fun (e, place) => do return (place, ← tryAssembleEntry e.name))
      (fun results b' => Upkeep opened (cached b) b' ∧
        List.Forall₂ (fun (e : Entry × Nat) (r : Nat × Except SessionError Bytes) =>
          r.1 = e.2 ∧ ∀ data, r.2 = .ok data → Assembled opened b' e.1.name data) entries results) F := by
  let Grows : Bench → Bench → Prop := fun s s' =>
    ∀ name dump, s.session.dumps.get? name = some dump → s'.session.dumps.get? name = some dump
  have hall : Leads (· = b) (entries.mapM fun (e, place) => do return (place, ← tryAssembleEntry e.name))
      (fun results b' => Upkeep opened unknown b' ∧ Grows b b' ∧
        List.Forall₂ (fun (e : Entry × Nat) (r : Nat × Except SessionError Bytes) =>
          r.1 = e.2 ∧ ∀ data, r.2 = .ok data → Assembled opened b' e.1.name data) entries results) F := by
    apply leads_mapM
    · exact fun _ _ _ _ h => h
    · exact fun _ _ _ h h' name dump hdump => h' name dump (h name dump hdump)
    · rintro e r s s' ⟨hplace, hassembled⟩ hgrows
      refine ⟨hplace, fun data hdata => ?_⟩
      obtain ⟨dump, hdump, hbytes⟩ := hassembled data hdata
      exact ⟨dump, hgrows _ _ hdump, hbytes⟩
    · rintro ⟨e, place⟩ - s hs
      have hs' : Upkeep opened (cached s) s := hs.with_known fun _ _ h => h
      refine ((leads_tryAssembleEntry hsource e.name).start hs').bind fun result => leads_pure ?_
      rintro b' ⟨hb', hassembled⟩
      exact ⟨hb'.with_known fun _ _ h => h.elim, hb'.known, rfl, hassembled⟩
    · exact hb
  apply hall.weaken
  rintro results b' ⟨hb', hgrows, hresults⟩
  exact ⟨hb'.with_known hgrows, hresults⟩

/-! ## Laying out and writing -/

/-- Whether every entry in scope has the bytes that its dump assembles to. -/
def Filled (opened b : Bench) : Prop :=
  ∀ e ∈ b.session.archive.entries, isInScope e.name = true → ∃ data, e.payload = .loaded data ∧ Assembled opened b e.name data

/-- How a session is left when it was saved. -/
structure Saved (opened : Bench) (known : String → Text → Prop) (b : Bench) : Prop extends Upkeep opened known b where
  all_loaded : ∀ e ∈ b.session.archive.entries, e.isLoaded = true
  filled : Filled opened b
  image : ∃ loc bytes, Image.build? (b.session.archive.entries.map Archive.contentOf) = some bytes ∧
    b.workplace.disk.resolve opened.session.scene = .ok (loc, some (.file bytes))

theorem Saved.with_log {b : Bench} (h : Saved opened known b) (log : Log) :
    Saved opened known { b with workplace := { b.workplace with log := log } } := { h with }

/-- Entries in scope may get any bytes. -/
theorem Upkeep.foldl_setDataAt {b : Bench} (h : Upkeep opened known b) {built : List (Nat × Bytes)}
    (hscope : ∀ p ∈ built, ∀ e, b.session.archive.entries[p.1]? = some e → isInScope e.name = true) :
    Upkeep opened known { b with session := { b.session with
      archive := built.foldl (fun a (place, data) => a.setDataAt place data) b.session.archive } } := by
  induction built generalizing b with
  | nil => exact h
  | cons p built ih =>
    obtain ⟨place, data⟩ := p
    rw [List.forall_mem_cons] at hscope
    have hset : Upkeep opened known
        { b with session := { b.session with archive := b.session.archive.setDataAt place data } } := by
      apply h.setDataAt
      intro e₀ e he _ hout
      rw [hscope.1 e he] at hout
      cases hout
    refine ih hset fun p hp e he => ?_
    rw [Archive.getElem?_setDataAt] at he
    obtain ⟨e', he', rfl⟩ := Option.map_eq_some_iff.mp he
    have hname : isInScope e'.name = true := hscope.2 p hp e' he'
    split_ifs <;> exact hname

theorem leads_saveArchive (hsource : opened.session.archive.source? = some opened.session.scene) :
    saveArchive.Leads (fun b => Upkeep opened known b ∧ Filled opened b) (fun _ => Saved opened known)
      (Upkeep opened known) := by
  apply leads_get_bind
  rintro b ⟨hb, hfilled⟩
  rcases hsave : b.session.archive.save b.workplace.disk with ⟨result, archive⟩
  obtain ⟨hsourceEq, hdestination, hmaybe, hwritten⟩ := Archive.save_spec hsave
  dsimp only
  let b₁ : Bench := { b with session := { b.session with archive := archive } }
  have hb₁ : Upkeep opened known b₁ := by
    apply hb.with_archive hsourceEq hdestination
    · refine forall₂_comp hb.entries hmaybe ?_
      rintro e₀ e _ he hdescends (rfl | ⟨data, hload, rfl⟩)
      · exact hdescends
      · exact hdescends.setData fun hscope => hb.load_eq hsource hdescends he hscope hload
    · intro hloaded e' he'
      obtain ⟨e, he, rfl | ⟨data, -, rfl⟩⟩ := exists_of_forall₂ hmaybe he'
      · exact hloaded _ he
      · rfl
  have hfilled₁ : Filled opened b₁ := by
    intro e' he' hscope
    obtain ⟨e, he, rfl | ⟨data, hload, rfl⟩⟩ := exists_of_forall₂ hmaybe he'
    · exact hfilled _ he hscope
    · obtain ⟨data', hpayload, hassembled⟩ := hfilled e he hscope
      rw [Entry.load_loaded hpayload] at hload
      obtain rfl := Except.ok.inj hload
      exact ⟨_, rfl, hassembled⟩
  refine Leads.bind (Q := fun _ => (· = b₁)) (leads_modify_of_eq rfl) fun _ => ?_
  cases result with
  | error e =>
    exact leads_fail hb₁
  | ok written =>
    obtain ⟨disk, log⟩ := written
    obtain ⟨hloaded, image, himage, hwrite⟩ := hwritten disk log rfl
    rw [hb.destination_eq] at hwrite
    obtain ⟨loc, -, hfile⟩ := Disk.resolve_write opened.session.getLast?_scene (by decide) hwrite
    have hsaved : ∀ log, Saved opened known { b₁ with workplace := ⟨disk, log⟩ } := fun log =>
      { hb₁ with
        file := ⟨loc, image, hfile, Or.inr hloaded⟩
        all_loaded := hloaded
        filled := hfilled₁
        image := ⟨loc, image, himage, hfile⟩ }
    refine Leads.bind (Q := fun _ b => ∃ log, b = { b₁ with workplace := ⟨disk, log⟩ }) ?_ fun _ => ?_
    · rintro _ rfl
      exact ⟨_, rfl⟩
    · rintro _ ⟨log', rfl⟩
      exact hsaved _

/-- The entries in scope by their places. -/
theorem mem_inScope {a : Archive} {p : Entry × Nat} :
    p ∈ inScope a ↔ a.entries[p.2]? = some p.1 ∧ isInScope p.1.name = true := by
  rw [inScope, List.mem_filter, List.mem_zipIdx_iff_getElem?]

/-- Entries keep their places and names. -/
theorem Upkeep.name_eq {b b' : Bench} (h : Upkeep opened known b) {known' : String → Text → Prop}
    (h' : Upkeep opened known' b') {i : Nat} {e e' : Entry} (he : b.session.archive.entries[i]? = some e)
    (he' : b'.session.archive.entries[i]? = some e') : e'.name = e.name := by
  obtain ⟨hi, rfl⟩ := List.getElem?_eq_some_iff.mp he
  obtain ⟨hi', rfl⟩ := List.getElem?_eq_some_iff.mp he'
  have hlen := h.entries.length_eq
  have hdescends := (List.forall₂_iff_get.mp h.entries).2 i (hlen ▸ hi) hi
  have hdescends' := (List.forall₂_iff_get.mp h'.entries).2 i (hlen ▸ hi) hi'
  exact hdescends'.name_eq.trans hdescends.name_eq.symm

/-! ## What a save does -/

/-- Tries entries one after the other, each with its place. -/
def tryAll (entries : List (Entry × Nat)) : Act Bench (List (Nat × Except SessionError Bytes)) :=
  entries.mapM fun (e, place) => do return (place, ← tryAssembleEntry e.name)

/-- The bytes of entries with their places, or the first failure. -/
def collect (results : List (Nat × Except SessionError Bytes)) : Except SessionError (List (Nat × Bytes)) :=
  results.mapM fun (place, result) => result.map (place, ·)

/-- The archive of a session whose entries were given the bytes made for them. -/
def filled (s : Bench) (built : List (Nat × Bytes)) : Archive :=
  built.foldl (fun a (place, data) => a.setDataAt place data) s.session.archive

/-- What is done when the entries were tried. -/
def finish (count : Nat) (results : List (Nat × Except SessionError Bytes)) : Act Bench Unit :=
  match collect results with
  | .error e => throw e
  | .ok built => do
    update fun s =>
      { s with archive := built.foldl (fun archive (place, data) => archive.setDataAt place data) s.archive }
    saveArchive
    report [Log.info ("Saved " ++ Text.showNumber count ++ " scripts")]

theorem save_eq : save = (get >>= fun b : Bench => tryAll (inScope b.session.archive) >>=
    finish (inScope b.session.archive).length) := rfl

/-- A session is left saved, or with nothing written. -/
theorem leads_save (hsource : opened.session.archive.source? = some opened.session.scene) {b₀ : Bench}
    (hb : Upkeep opened unknown b₀) :
    save.Leads (· = b₀) (fun _ => Saved opened (cached b₀)) (Upkeep opened (cached b₀)) := by
  apply leads_get_bind
  intro b hb'
  subst hb'
  refine (leads_assembleAll hsource (inScope b.session.archive) hb).bind fun results => ?_
  split
  · exact leads_throw fun _ h => h.1
  rename_i built hbuilt
  apply leads_of_forall
  rintro b₁ ⟨hb₁, hresults⟩
  have hplaces : List.Forall₂ (fun (e : Entry × Nat) (p : Nat × Bytes) =>
      p.1 = e.2 ∧ Assembled opened b₁ e.1.name p.2) (inScope b.session.archive) built := by
    refine forall₂_comp hresults (forall₂_of_mapM hbuilt) ?_
    rintro ⟨e, place⟩ ⟨place', result⟩ p - ⟨rfl, hassembled⟩ hp
    cases result with
    | error e => cases hp
    | ok data =>
      obtain rfl := Except.ok.inj hp
      exact ⟨rfl, hassembled data rfl⟩
  have hscope : ∀ p ∈ built, ∀ e, b₁.session.archive.entries[p.1]? = some e →
      isInScope e.name = true ∧ Assembled opened b₁ e.name p.2 := by
    intro p hp e he
    obtain ⟨⟨e', place⟩, he', hplace, hassembled⟩ := exists_of_forall₂ hplaces hp
    obtain rfl : p.1 = place := hplace
    obtain ⟨hentry, hname⟩ := mem_inScope.mp he'
    rw [hb.name_eq hb₁ hentry he]
    exact ⟨hname, hassembled⟩
  let b₂ : Bench := { b₁ with session := { b₁.session with
    archive := built.foldl (fun a (place, data) => a.setDataAt place data) b₁.session.archive } }
  have hb₂ : Upkeep opened (cached b) b₂ := hb₁.foldl_setDataAt fun p hp e he => (hscope p hp e he).1
  have hfilled : Filled opened b₂ := by
    intro e he hname
    obtain ⟨i, hi⟩ := List.getElem?_of_mem he
    rw [Archive.getElem?_foldl_setDataAt] at hi
    obtain ⟨e₁, he₁, rfl⟩ := Option.map_eq_some_iff.mp hi
    cases hlookup : built.reverse.lookup i with
    | some data =>
      have hmem : (i, data) ∈ built := List.mem_reverse.mp (mem_of_lookup hlookup)
      exact ⟨data, rfl, (hscope _ hmem e₁ he₁).2⟩
    | none =>
      rw [hlookup] at hname
      have hlen : b.session.archive.entries.length = b₁.session.archive.entries.length :=
        hb.entries.length_eq.symm.trans hb₁.entries.length_eq
      obtain ⟨hi₁, -⟩ := List.getElem?_eq_some_iff.mp he₁
      obtain ⟨e₀, he₀⟩ : ∃ e₀, b.session.archive.entries[i]? = some e₀ := ⟨_, List.getElem?_eq_getElem (hlen ▸ hi₁)⟩
      rw [Option.map_none, Option.getD_none, hb.name_eq hb₁ he₀ he₁] at hname
      have hmem : (e₀, i) ∈ inScope b.session.archive := mem_inScope.mpr ⟨he₀, hname⟩
      obtain ⟨p, hp, hplace, -⟩ := exists_of_forall₂_left hplaces hmem
      obtain ⟨data, hdata⟩ := lookup_isSome (List.mem_reverse.mpr hp)
      rw [hplace, hlookup] at hdata
      cases hdata
  refine Leads.bind (Q := fun _ => (· = b₂)) (leads_modify_of_eq rfl) fun _ => ?_
  refine ((leads_saveArchive hsource).start ⟨hb₂, hfilled⟩).bind fun _ => ?_
  exact fun _ h => h.with_log _

/-! ## Saving again -/

/-- Whether only the log is another. -/
def Still (b s : Bench) : Prop := s.session = b.session ∧ s.workplace.disk = b.workplace.disk

theorem leads_decompile_cached {b : Bench} {name : String} {dump : Text} (h : b.session.dumps.get? name = some dump)
    {F : Bench → Prop} : (decompile name).Leads (Still b) (fun d s => Still b s ∧ d = dump) F := by
  apply leads_get_bind
  intro s hs
  rw [hs.1, h]
  exact leads_return ⟨hs, rfl⟩

theorem leads_tryAssembleEntry_again {b : Bench} (hb : b.session.typesetter = opened.session.typesetter) {name : String}
    {data : Bytes} (h : Assembled opened b name data) {F : Bench → Prop} :
    (tryAssembleEntry name).Leads (Still b) (fun result s => Still b s ∧ result = .ok data) F := by
  obtain ⟨dump, hdump, hdata⟩ := h
  have hassemble : (assembleEntry name).Leads (Still b) (fun d s => Still b s ∧ d = data) fun _ => False := by
    refine (leads_decompile_cached hdump).bind fun d => ?_
    apply leads_get_bind
    rintro s ⟨hs, rfl⟩
    rw [hs.1, hb]
    rcases hassemble : assemble name d opened.session.typesetter with ⟨result, log⟩
    obtain rfl : result = .ok data := (congrArg Prod.fst hassemble).symm.trans hdata
    dsimp only
    refine Leads.bind (Q := fun _ => Still b) (leads_modify_of_eq hs) fun _ => ?_
    exact leads_pure fun _ h => ⟨h, rfl⟩
  refine (leads_attempt hassemble F).bind fun result => ?_
  cases result with
  | ok d =>
    apply leads_pure
    rintro s ⟨hs, rfl⟩
    exact ⟨hs, rfl⟩
  | error e => exact fun _ h => h.elim

/-- A session that was saved is saved again with the same bytes. -/
theorem Saved.save_again {b : Bench} (h : Saved opened known b) :
    ∃ b', save b = (.ok (), b') ∧
      b'.workplace.disk.read opened.session.scene = b.workplace.disk.read opened.session.scene := by
  obtain ⟨loc, image, himage, hfile⟩ := h.image
  have hwrite : b.workplace.disk.write opened.session.scene image = .ok (b.workplace.disk.put loc (.file image)) :=
    Disk.write_of_resolve opened.session.getLast?_scene (by decide) hfile
  have hleads : save.Leads (Still b)
      (fun _ s => s.workplace.disk = b.workplace.disk.put loc (.file image)) fun _ => False := by
    rw [save_eq]
    apply leads_get_bind
    intro s hs
    have hall : (tryAll (inScope s.session.archive)).Leads (· = s)
        (fun results s' => Still b s' ∧ True ∧
          List.Forall₂ (fun (e : Entry × Nat) (r : Nat × Except SessionError Bytes) =>
            r.1 = e.2 ∧ ∃ data, r.2 = .ok data ∧ e.1.payload = .loaded data) (inScope s.session.archive) results)
        fun _ => False := by
      apply leads_mapM
      · exact fun _ _ => trivial
      · exact fun _ _ _ _ _ => trivial
      · exact fun _ _ _ _ h _ => h
      · rintro ⟨e, place⟩ he s' hs'
        obtain ⟨hentry, hname⟩ := mem_inScope.mp he
        rw [hs.1] at hentry
        obtain ⟨data, hpayload, hassembled⟩ := h.filled e (List.mem_of_getElem? hentry) hname
        refine ((leads_tryAssembleEntry_again h.typesetter_eq hassembled).start hs').bind fun result => leads_pure ?_
        rintro s'' ⟨hs'', rfl⟩
        exact ⟨hs'', trivial, rfl, data, rfl, hpayload⟩
      · exact hs
    refine hall.bind fun results => leads_of_forall ?_
    rintro s₁ ⟨hs₁, -, hresults⟩
    obtain ⟨built, hbuilt⟩ : ∃ built, collect results = .ok built := by
      apply exists_mapM
      rintro ⟨place, result⟩ hr
      obtain ⟨e, -, -, data, rfl, -⟩ := exists_of_forall₂ hresults hr
      exact ⟨_, rfl⟩
    rw [finish, hbuilt]
    have hself : ∀ p ∈ built, ∀ e, s₁.session.archive.entries[p.1]? = some e → e.payload = .loaded p.2 := by
      intro p hp e he
      obtain ⟨⟨place, result⟩, hr, hp⟩ := exists_of_forall₂ (forall₂_of_mapM hbuilt) hp
      obtain ⟨⟨e', place'⟩, he', hplace, data, hdata, hpayload⟩ := exists_of_forall₂ hresults hr
      obtain rfl : place = place' := hplace
      obtain rfl : result = .ok data := hdata
      obtain rfl := Except.ok.inj hp
      have hentry := (mem_inScope.mp he').1
      rw [hs₁.1] at he
      rw [hs.1] at hentry
      obtain rfl := Option.some.inj (he.symm.trans hentry)
      exact hpayload
    refine Leads.bind (Q := fun _ => Still b) (leads_modify_of_eq ?_) fun _ => ?_
    · dsimp only
      rw [Archive.foldl_setDataAt_self hself]
      exact hs₁
    refine Leads.bind (Q := fun _ s => s.workplace.disk = b.workplace.disk.put loc (.file image)) ?_ fun _ => ?_
    · apply leads_get_bind
      intro s₂ hs₂
      obtain ⟨log, hsave⟩ := Archive.save_of_loaded h.all_loaded himage (h.destination_eq ▸ hwrite)
      rw [hs₂.1, hs₂.2, hsave]
      exact fun _ _ => rfl
    · exact fun _ h => h
  obtain ⟨⟨⟩, b', hsave, hdisk⟩ := hleads.exists_ok ⟨rfl, rfl⟩
  refine ⟨b', hsave, ?_⟩
  obtain ⟨loc', -, hfile'⟩ := Disk.resolve_write opened.session.getLast?_scene (by decide) hwrite
  rw [hdisk, Disk.read_of_resolve hfile', Disk.read_of_resolve hfile]

end Bench
end SceneScript
