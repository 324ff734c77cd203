import Mathlib
import SceneScript.Proofs.Correspondence
import SceneScript.Proofs.Script.Retry
import SceneScript.Proofs.Script.RoundTrip
/-!
# The character set that is tried first

Which character set is tried first matters only to a script whose strings can all be read in both. Any other script
comes to the same dump or to the same failure.
-/
namespace SceneScript

/-- Whether the walk over a script, in a character set in which it comes to its end, follows a pointer to an offset. -/
def Follows (name : String) (bytes : Bytes) (pointer : Nat) : Prop :=
  ∃ cs rows, Reading.rows ⟨name, bytes, cs⟩ = .ok rows ∧ pointer ∈ rows.flatMap Row.pointers

/-- Whether the string at an offset decodes in a character set. -/
def Decodes (name : String) (bytes : Bytes) (cs : Charset) (pointer : Nat) : Prop :=
  ∃ t, Reading.Resolves ⟨name, bytes, cs⟩ pointer t

private theorem flatMap_pointers_sameFrame {rows rows' : List Row} (h : List.Forall₂ Row.SameFrame rows rows') :
    rows'.flatMap Row.pointers = rows.flatMap Row.pointers := by
  induction h with
  | nil => rfl
  | cons hrow _ ih =>
    rw [List.flatMap_cons, List.flatMap_cons, Row.pointers, Row.pointers, hrow.operands_eq, ih]

namespace Reading

variable {name : String} {bytes : Bytes} {cs cs' : Charset}

/-- The pointers of a script are those that its walk meets. -/
theorem exists_walks {r : Reading} {rows : List Row} (h : r.rows = .ok rows) :
    ∃ row w, r.Walks row w ∧ rows.flatMap Row.pointers = w.rows.flatMap Row.pointers := by
  obtain ⟨row, w, hwalks, rfl⟩ := rows_eq_ok.mp h
  obtain ⟨content, -, hrow, -⟩ := hwalks.dissect
  have hpadding : (r.padding w).flatMap Row.pointers = [] := by
    rw [padding]
    split
    · split_ifs
      · rw [List.flatMap_singleton, Row.pointers_raw]
      · rfl
    · rfl
  have hheader : row.pointers = [] := hrow ▸ Row.pointers_raw _ _ _
  have htrailer : (r.trailer w).pointers = [] := Row.pointers_raw _ _ _
  refine ⟨row, w, hwalks, ?_⟩
  rw [List.flatMap_cons, List.flatMap_append, List.flatMap_append, List.flatMap_singleton, hheader, hpadding, htrailer,
    List.nil_append, List.nil_append, List.append_nil]

theorem decodes_of_rows {rows : List Row} (h : Reading.rows ⟨name, bytes, cs⟩ = .ok rows) :
    ∀ p ∈ rows.flatMap Row.pointers, Decodes name bytes cs p := by
  obtain ⟨row, w, hwalks, hpointers⟩ := exists_walks h
  obtain ⟨-, -, -, -, -, hresolves, -⟩ := hwalks.dissect
  rw [hpointers]
  intro p hp
  obtain ⟨row, hrow, hp⟩ := List.mem_flatMap.mp hp
  obtain ⟨t, -, ht⟩ := exists_of_forall₂_left (hresolves row hrow) hp
  exact ⟨t, ht⟩

variable {r : Reading}

private theorem operands_of_decodes {cells : List Nat} {jump? : Option Nat} {pool pool' : PoolExtent} {payload : Bytes}
    {ops : List Operand} {texts : List Text} (h : r.operands cells jump? pool payload = .ok (ops, texts, pool'))
    (hdecodes : ∀ p ∈ ops.filterMap Operand.pointer?, Decodes r.name r.bytes cs' p) :
    ∃ texts', operands ⟨r.name, r.bytes, cs'⟩ cells jump? pool payload = .ok (ops, texts', pool') := by
  obtain ⟨hshape, hpayload, -, hpool⟩ := operands_eq_ok.mp h
  obtain ⟨texts', htexts'⟩ := exists_forall₂ hdecodes
  exact ⟨texts', operands_eq_ok.mpr ⟨hshape, hpayload, htexts', hpool⟩⟩

private theorem walkInstructions_of_decodes {position : Nat} {done : List Row} {pool : PoolExtent} {rest : Bytes}
    {w : Walked} (h : r.walkInstructions position done pool rest = .ok w)
    (hdecodes : ∀ p ∈ w.rows.flatMap Row.pointers, Decodes r.name r.bytes cs' p) :
    ∀ done', ∃ w', walkInstructions ⟨r.name, r.bytes, cs'⟩ position done' pool rest = .ok w' := by
  fun_induction walkInstructions r position done pool rest with
  | case1 position done pool opcode size tail hreached =>
    intro done'
    rw [walkInstructions, if_pos hreached]
    exact ⟨_, rfl⟩
  | case2 | case3 | case4 | case5 => cases h
  | case6 position done pool size tail hreached hsize name payload next hlength ops texts pool' more hname hops =>
    obtain rfl := Except.ok.inj h
    have hrow : ∀ p ∈ ops.filterMap Operand.pointer?, Decodes r.name r.bytes cs' p := fun p hp =>
      hdecodes p (List.mem_flatMap_of_mem (List.mem_reverse.mpr List.mem_cons_self) hp)
    obtain ⟨texts', hops'⟩ := operands_of_decodes hops hrow
    intro done'
    rw [walkInstructions, if_neg hreached, if_neg hsize, hname]
    dsimp only
    rw [if_neg hlength, hops']
    dsimp only
    rw [if_pos rfl]
    exact ⟨_, rfl⟩
  | case7 position done pool opcode size tail hreached hsize name hname payload next hlength ops texts pool' hops more
      hne ih =>
    obtain ⟨rows, -, -, -, -, hw, -⟩ := walkInstructions_ok h
    have hrow : ∀ p ∈ ops.filterMap Operand.pointer?, Decodes r.name r.bytes cs' p := by
      intro p hp
      have hmem : (⟨some position, name, size.toNat, ops, texts⟩ : Row) ∈ w.rows := by
        rw [hw]
        exact List.mem_append_left _ (List.mem_reverse.mpr List.mem_cons_self)
      exact hdecodes p (List.mem_flatMap_of_mem hmem hp)
    obtain ⟨texts', hops'⟩ := operands_of_decodes hops hrow
    intro done'
    rw [walkInstructions, if_neg hreached, if_neg hsize, hname]
    dsimp only
    rw [if_neg hlength, hops']
    dsimp only
    rw [if_neg hne]
    exact ih h _
  | case8 position done pool rest hrest =>
    intro done'
    rw [walkInstructions.eq_def]
    split
    · exact absurd rfl (hrest _ _ _)
    · exact ⟨_, rfl⟩

private theorem walkRecords_of_decodes {position : Nat} {done done' : List Row} {pool : PoolExtent} {rest : Bytes}
    {sections : List Section} {w : Walked} (h : r.walkRecords position done pool rest sections = .ok w)
    (hnames : ∀ s ∈ sections, s.name ∉ Row.reserved)
    (hdecodes : ∀ p ∈ w.rows.flatMap Row.pointers, Decodes r.name r.bytes cs' p) :
    ∃ w', walkRecords ⟨r.name, r.bytes, cs'⟩ position done' pool rest sections = .ok w' := by
  induction sections generalizing position done done' pool rest with
  | nil => exact ⟨_, rfl⟩
  | cons s more ih =>
    rw [List.forall_mem_cons] at hnames
    rw [walkRecords] at h ⊢
    split_ifs at h ⊢ with hlength
    split at h
    · cases h
    · rename_i ops texts pool' hops
      obtain ⟨rows, -, -, -, -, hw⟩ := walkRecords_ok hnames.2 h
      have hrow : ∀ p ∈ ops.filterMap Operand.pointer?, Decodes r.name r.bytes cs' p := by
        intro p hp
        have hmem : (⟨none, s.name, s.recordLength, ops, texts⟩ : Row) ∈ w.rows := by
          rw [hw]
          exact List.mem_append_left _ (List.mem_reverse.mpr List.mem_cons_self)
        exact hdecodes p (List.mem_flatMap_of_mem hmem hp)
      obtain ⟨texts', hops'⟩ := operands_of_decodes hops hrow
      rw [hops']
      exact ih h hnames.2

/-- A script can be read in every character set in which its strings decode. -/
theorem rows_of_decodes {rows : List Row} (h : r.rows = .ok rows)
    (hdecodes : ∀ p ∈ rows.flatMap Row.pointers, Decodes r.name r.bytes cs' p) :
    ∃ rows', Reading.rows ⟨r.name, r.bytes, cs'⟩ = .ok rows' := by
  obtain ⟨row, w, ⟨start, hheader, hwalk⟩, hpointers⟩ := exists_walks h
  rw [hpointers] at hdecodes
  have hbody : ∃ w', walkBody ⟨r.name, r.bytes, cs'⟩ start = .ok w' := by
    rw [walkBody] at hwalk ⊢
    split_ifs at hwalk ⊢
    · exact walkRecords_of_decodes hwalk (fun _ hs => (of_mem_records hs).2.1) hdecodes
    · exact walkInstructions_of_decodes hwalk hdecodes []
  obtain ⟨w', hwalk'⟩ := hbody
  exact ⟨_, rows_eq_ok.mpr ⟨row, w', ⟨start, hheader, hwalk'⟩, rfl⟩⟩

end Reading

/-- A script that can be read can be read in both character sets exactly if all strings of its walk decode in both. -/
theorem decodes_iff_dumpIn {name : String} {bytes : Bytes} {cs₀ : Charset} {dump₀ : Disassembly}
    (h₀ : dumpIn name bytes cs₀ = .ok dump₀) :
    (∀ p, Follows name bytes p → ∀ cs, Decodes name bytes cs p) ↔ ∀ cs, ∃ dump, dumpIn name bytes cs = .ok dump := by
  obtain ⟨rows₀, hrows₀, -⟩ := dumpIn_eq_ok.mp h₀
  constructor
  · intro h cs
    obtain ⟨rows, hrows⟩ := Reading.rows_of_decodes hrows₀ fun p hp => h p ⟨cs₀, rows₀, hrows₀, hp⟩ cs
    exact ⟨_, dumpIn_eq_ok.mpr ⟨rows, hrows, rfl⟩⟩
  · rintro h p ⟨cs, rows, hrows, hp⟩ cs'
    obtain ⟨dump', hdump'⟩ := h cs'
    obtain ⟨rows', hrows', -⟩ := dumpIn_eq_ok.mp hdump'
    have halike := Reading.rows_endsAlike name bytes cs cs'
    rw [hrows, hrows'] at halike
    cases halike with
    | ok hsame =>
      rw [← flatMap_pointers_sameFrame hsame] at hp
      exact Reading.decodes_of_rows hrows' p hp

/-- Whichever character set is tried first, a script comes to a dump or to the same failure. The dumps are the same
unless all strings of the walk decode in both character sets; then each is in the one that was tried first. -/
theorem disassemble_preference (name : String) (bytes : Bytes) :
    (∃ e, (disassemble name bytes .big5).1 = .error e ∧ (disassemble name bytes .shiftJis).1 = .error e) ∨
    ∃ d d', (disassemble name bytes .big5).1 = .ok d ∧ (disassemble name bytes .shiftJis).1 = .ok d' ∧
      (d.charset = d'.charset → d.text = d'.text) ∧
      (d.charset ≠ d'.charset ↔ ∀ p, Follows name bytes p → ∀ cs, Decodes name bytes cs p) ∧
      (d.charset ≠ d'.charset → d.charset = .big5 ∧ d'.charset = .shiftJis) := by
  cases hbig5 : (disassemble name bytes .big5).1 with
  | error e => exact .inl ⟨e, rfl, disassemble_error name bytes .big5 .shiftJis hbig5⟩
  | ok d =>
    cases hsjis : (disassemble name bytes .shiftJis).1 with
    | error e =>
      rw [disassemble_error name bytes .shiftJis .big5 hsjis] at hbig5
      cases hbig5
    | ok d' =>
      refine .inr ⟨d, d', rfl, rfl, ?_⟩
      have hcases : (dumpIn name bytes .big5 = .ok d ∧ dumpIn name bytes .shiftJis = .ok d') ∨
          d = d' ∧ ∃ cs, dumpIn name bytes cs = .error .undecodable ∧ dumpIn name bytes cs.flipped = .ok d := by
        rcases disassemble_eq_ok.mp hbig5 with hd | ⟨hfail, hd⟩ <;>
          rcases disassemble_eq_ok.mp hsjis with hd' | ⟨hfail', hd'⟩
        · exact .inl ⟨hd, hd'⟩
        · exact .inr ⟨Except.ok.inj (hd.symm.trans hd'), .shiftJis, hfail', hd⟩
        · exact .inr ⟨Except.ok.inj (hd.symm.trans hd'), .big5, hfail, hd⟩
        · rw [show Charset.big5.flipped = .shiftJis from rfl, hfail'] at hd
          cases hd
      obtain ⟨hd, hd'⟩ | ⟨rfl, cs, hfail, hd⟩ := hcases
      · obtain ⟨rows, -, rfl⟩ := dumpIn_eq_ok.mp hd
        obtain ⟨rows', -, rfl⟩ := dumpIn_eq_ok.mp hd'
        have hboth : ∀ cs, ∃ dump, dumpIn name bytes cs = .ok dump := by
          rintro (_ | _)
          · exact ⟨_, hd⟩
          · exact ⟨_, hd'⟩
        have hne : Charset.big5 ≠ .shiftJis := by decide
        exact ⟨fun heq => absurd heq hne, ⟨fun _ => (decodes_iff_dumpIn hd).mpr hboth, fun _ => hne⟩, fun _ => ⟨rfl, rfl⟩⟩
      · refine ⟨fun _ => rfl, ⟨fun hne => absurd rfl hne, fun hall => ?_⟩, fun hne => absurd rfl hne⟩
        obtain ⟨dump, hdump⟩ := (decodes_iff_dumpIn hd).mp hall cs
        rw [hfail] at hdump
        cases hdump

/-- Whether a script comes to one dump: its strings do not decode in both character sets, or they read the same. -/
def ReadsOneWay (name : String) (bytes : Bytes) : Prop :=
  ∀ dump, dumpIn name bytes .big5 = .ok dump → ∀ dump', dumpIn name bytes .shiftJis = .ok dump' → dump.text = dump'.text

/-- What is said of a result if there is one. -/
instance decidableForallOk {ε α : Type} (result : Except ε α) (P : α → Prop) [DecidablePred P] :
    Decidable (∀ a, result = .ok a → P a) :=
  match result with
  | .ok a => decidable_of_iff (P a) ⟨fun h _ heq => Except.ok.inj heq ▸ h, fun h => h a rfl⟩
  | .error _ => isTrue fun _ heq => nomatch heq

instance (name : String) (bytes : Bytes) : Decidable (ReadsOneWay name bytes) :=
  inferInstanceAs (Decidable (∀ dump, dumpIn name bytes .big5 = .ok dump →
    ∀ dump', dumpIn name bytes .shiftJis = .ok dump' → dump.text = dump'.text))

theorem ReadsOneWay.text_eq {name : String} {bytes : Bytes} (h : ReadsOneWay name bytes) {cs cs' : Charset}
    {dump dump' : Disassembly} (hdump : dumpIn name bytes cs = .ok dump) (hdump' : dumpIn name bytes cs' = .ok dump') :
    dump.text = dump'.text := by
  cases cs <;> cases cs'
  case big5.shiftJis => exact h _ hdump _ hdump'
  case shiftJis.big5 => exact (h _ hdump' _ hdump).symm
  all_goals rw [Except.ok.inj (hdump.symm.trans hdump')]

theorem exists_dumpIn_of_disassemble {name : String} {bytes : Bytes} {preferred : Charset} {dump : Disassembly}
    (h : (disassemble name bytes preferred).1 = .ok dump) : ∃ cs, dumpIn name bytes cs = .ok dump := by
  rcases disassemble_eq_ok.mp h with h | ⟨-, h⟩
  · exact ⟨_, h⟩
  · exact ⟨_, h⟩

/-- Such a script comes to the same whichever character set is tried first. -/
theorem ReadsOneWay.disassemble_eq {name : String} {bytes : Bytes} (h : ReadsOneWay name bytes) (cs cs' : Charset) :
    (disassemble name bytes cs).1.map Disassembly.text = (disassemble name bytes cs').1.map Disassembly.text := by
  cases hdump : (disassemble name bytes cs).1 with
  | error e => rw [disassemble_error name bytes cs cs' hdump]
  | ok dump =>
    cases hdump' : (disassemble name bytes cs').1 with
    | error e =>
      rw [disassemble_error name bytes cs' cs hdump'] at hdump
      cases hdump
    | ok dump' =>
      obtain ⟨_, hin⟩ := exists_dumpIn_of_disassemble hdump
      obtain ⟨_, hin'⟩ := exists_dumpIn_of_disassemble hdump'
      exact congrArg Except.ok (h.text_eq hin hin')

end SceneScript
