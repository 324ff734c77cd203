import Mathlib
import SceneScript.Patch.Apply
import SceneScript.Proofs.Correspondence
import SceneScript.Proofs.Patch.Lines
import SceneScript.Proofs.Script.Listing
/-!
# The slots of patches

What patches do to the lines of a dump, followed as a listing: each slot gets other content of the same length, each line
after a slot that became a jump gets a label, and the overflow grows by one block after the other.
-/
namespace SceneScript

/-- What a line says. -/
def Listing.contentAt? (sts : Listing) (i : Nat) : Option Content := sts[i]?.bind Statement.content?

/-- A patch with its number and what became of its slot. -/
structure Settled where
  index : Nat
  patch : Patch
  application : Application

namespace Settled

/-- The lines a patch puts behind the script. -/
def overflow (d : Settled) : List Text :=
  match d.application with
  | .branched _ _ overflow => overflow
  | _ => []

/-- What the slot says afterwards. -/
def slot (d : Settled) (c : Content) : Content :=
  match d.application with
  | .alreadyApplied => c
  | .erased _ => nopContent c.length
  | .branched .. => jumpContent (overflowLabel d.index) c.length

/-- The labels that the line after the slot gets. -/
def resumes (d : Settled) : List Text :=
  match d.application with
  | .branched .. => [resumeLabel d.index]
  | _ => []

/-- What a patch makes of a listing. -/
def rewrite (d : Settled) (sts : Listing) : Listing :=
  (sts.modify (d.patch.line - 1) fun st => ⟨st.labels, st.content?.map d.slot⟩).modify d.patch.line
    (Statement.withLabels d.resumes)

/-- Whether a patch was settled in accordance with a listing, where its slot has some content. -/
structure Sound (sts : Listing) (d : Settled) (c : Content) : Prop where
  content_eq : sts.contentAt? (d.patch.line - 1) = some c
  skipped : d.application = .alreadyApplied → c.name = Opcode.loopCondName ∨
    d.patch.mode = .replace ∧ d.patch.payload? = none ∧ c.name = Opcode.nopName
  erased : ∀ slot, d.application = .erased slot →
    minSlotLength ≤ c.length ∧ d.patch.mode = .replace ∧ d.patch.payload? = none
  branched : ∀ slot label overflow, d.application = .branched slot label overflow →
    minSlotLength ≤ c.length ∧ d.patch.line < sts.length ∧ ∃ payload body, d.patch.payload? = some payload ∧
      '\n' ∉ body ∧ Statement.readEnded? body = some ⟨[], some c⟩ ∧
      overflow = overflowBlock d.patch.mode d.index payload body

end Settled

/-- What planning a patch comes to. -/
theorem Patch.plan_ok {p : Patch} {entry : String} {index : Nat} {lines : List Text} {application : Application}
    (h : p.plan entry index lines = .ok application) :
    ∃ target, lines[p.line - 1]? = some target ∧
      ((application = .alreadyApplied ∧ p.looksApplied (splitLabels target).2 = true ∧
          p.expects (splitLabels target).2 = false) ∨
        ∃ length, p.expects (splitLabels target).2 = true ∧ declaredLength? (splitLabels target).2 = some length ∧
          minSlotLength ≤ length ∧
          ((p.mode = .replace ∧ p.payload? = none ∧ application = .erased ((splitLabels target).1 ++ nopOf length)) ∨
            ∃ payload next, p.payload? = some payload ∧ lines[p.line]? = some next ∧ isTrailer next = false ∧
              application = .branched ((splitLabels target).1 ++ jumpTo (overflowLabel index) length)
                (resumeLabel index) (overflowBlock p.mode index payload (splitLabels target).2))) := by
  rw [plan] at h
  split at h
  · cases h
  rename_i target htarget
  refine ⟨target, htarget, ?_⟩
  dsimp only at h
  split at h
  · rename_i hexpects
    split_ifs at h with hlooks
    exact Or.inl ⟨(Except.ok.inj h).symm, hlooks, by simpa using hexpects⟩
  rename_i hexpects
  refine Or.inr ?_
  split at h
  · cases h
  rename_i length hlength
  split at h
  · cases h
  rename_i hlong
  refine ⟨length, by simpa using hexpects, hlength, Nat.le_of_not_lt hlong, ?_⟩
  split at h
  · rename_i hpayload
    split_ifs at h with hmode
    exact Or.inl ⟨not_not.mp hmode, hpayload, (Except.ok.inj h).symm⟩
  · rename_i payload hpayload
    split at h
    · cases h
    rename_i next hnext
    split_ifs at h with htrailer
    exact Or.inr ⟨payload, next, hpayload, hnext, Bool.eq_false_iff.mpr htrailer, (Except.ok.inj h).symm⟩

/-- Lines of a dump that read as a listing. -/
structure ReadAs (lines : List Text) (sts : Listing) : Prop where
  read_eq : lines.map Statement.readEnded? = sts.map some
  noFeed : ∀ t ∈ lines, '\n' ∉ t

namespace ReadAs

variable {lines : List Text} {sts : Listing}

theorem length_eq (h : ReadAs lines sts) : lines.length = sts.length := by
  simpa using congrArg List.length h.read_eq

theorem exists_line (h : ReadAs lines sts) {i : Nat} {st : Statement} (hst : sts[i]? = some st) :
    ∃ t, lines[i]? = some t ∧ Statement.readEnded? t = some st := by
  have hi := congrArg (·[i]?) h.read_eq
  simp only [List.getElem?_map, hst, Option.map_some, Option.map_eq_some_iff] at hi
  exact hi

theorem exists_statement (h : ReadAs lines sts) {i : Nat} {t : Text} (ht : lines[i]? = some t) :
    ∃ st, sts[i]? = some st ∧ Statement.readEnded? t = some st := by
  have hi := congrArg (·[i]?) h.read_eq
  simp only [List.getElem?_map, ht, Option.map_some] at hi
  obtain ⟨st, hst, heq⟩ := Option.map_eq_some_iff.mp hi.symm
  exact ⟨st, hst, heq.symm⟩

theorem set (h : ReadAs lines sts) (i : Nat) {t : Text} {st : Statement} (ht : Statement.readEnded? t = some st)
    (hfeed : '\n' ∉ t) : ReadAs (lines.set i t) (sts.set i st) where
  read_eq := by rw [List.map_set, List.map_set, h.read_eq, ht]
  noFeed := by
    intro t' ht'
    rcases List.mem_or_eq_of_mem_set ht' with ht' | rfl
    · exact h.noFeed t' ht'
    · exact hfeed

end ReadAs

private theorem modify_eq_set {α : Type} {l : List α} {i : Nat} {a : α} (h : l[i]? = some a) (f : α → α) :
    l.modify i f = l.set i (f a) := by
  apply List.ext_getElem?
  intro j
  rw [List.getElem?_modify, List.getElem?_set]
  by_cases hij : i = j
  · subst hij
    obtain ⟨hlt, rfl⟩ := List.getElem?_eq_some_iff.mp h
    simp [hlt]
  · simp [hij]

namespace Settled

variable {sts : Listing} {p : Patch} {st : Statement} {c : Content}

theorem withLabels_nil : Statement.withLabels [] = id := rfl

private theorem rewrite_skipped (index : Nat) (p : Patch) (sts : Listing) :
    rewrite ⟨index, p, .alreadyApplied⟩ sts = sts := by
  have hslot : (fun st : Statement => (⟨st.labels, st.content?.map (slot ⟨index, p, .alreadyApplied⟩)⟩ : Statement)) =
      id := by
    funext st
    obtain ⟨labels, content?⟩ := st
    cases content? <;> rfl
  rw [rewrite, hslot, List.modify_id, resumes, withLabels_nil, List.modify_id]

private theorem rewrite_erased (index : Nat) (slot : Text) (hst : sts[p.line - 1]? = some st)
    (hc : st.content? = some c) :
    rewrite ⟨index, p, .erased slot⟩ sts = sts.set (p.line - 1) ⟨st.labels, some (nopContent c.length)⟩ := by
  rw [rewrite, resumes, withLabels_nil, List.modify_id, modify_eq_set hst, hc]
  rfl

private theorem rewrite_branched (index : Nat) (slot label : Text) (overflow : List Text)
    (hst : sts[p.line - 1]? = some st) (hc : st.content? = some c) (hline : p.line ≠ 0) {next : Statement}
    (hnext : sts[p.line]? = some next) :
    rewrite ⟨index, p, .branched slot label overflow⟩ sts =
      (sts.set (p.line - 1) ⟨st.labels, some (jumpContent (overflowLabel index) c.length)⟩).set p.line
        (next.withLabels [resumeLabel index]) := by
  have hnext' : (sts.set (p.line - 1) ⟨st.labels, some (jumpContent (overflowLabel index) c.length)⟩)[p.line]? =
      some next := by
    rw [List.getElem?_set_ne (by omega), hnext]
  rw [rewrite, modify_eq_set hst, hc]
  exact modify_eq_set hnext' _

end Settled

/-- A slot keeps the labels in front of it. -/
private theorem readEnded?_slot {pre slot : Text} {names : List Text} {c : Content} (hadds : AddsLabels pre names)
    (hfeed : '\n' ∉ pre) (hread : Statement.read? false slot = some ⟨[], some c⟩)
    (hplain : ∀ ch ∈ slot, ch ≠ '\n' ∧ ch ≠ '\r') (hne : slot ≠ []) :
    Statement.readEnded? (pre ++ slot) = some ⟨names, some c⟩ ∧ '\n' ∉ pre ++ slot := by
  have hreturn : slot.getLast? ≠ some '\r' := by
    intro hlast
    exact (hplain _ (List.mem_of_getLast? hlast)).2 rfl
  constructor
  · rw [Statement.readEnded?, Text.withoutReturn_append fun h => absurd h hne, Text.withoutReturn_eq hreturn,
      Statement.read?_addsLabels hadds, hread, Option.map_some, Statement.withLabels, List.append_nil]
  · rw [List.mem_append, not_or]
    exact ⟨hfeed, fun hm => (hplain _ hm).1 rfl⟩

/-- One step: a patch that can be planned is carried out on the lines as on their listing. -/
theorem Patching.carryOut_ok {s : Patching} {entry : String} {index : Nat} {p : Patch} {application : Application}
    {sts : Listing} {c : Content} {open' rest : List Text} {part : Text} (hlines : s.lines = open' ++ part :: rest)
    (htrailer : isTrailer part = true) (hreads : ReadAs open' sts) (hline : p.line ≠ 0)
    (hcontent : sts.contentAt? (p.line - 1) = some c) (hlength : c.length < Text.numberBound)
    (hplan : p.plan entry index s.lines = .ok application) :
    let d : Settled := ⟨index, p, application⟩
    d.Sound sts c ∧ ∃ open'', (s.carryOut entry index p.line application).lines = open'' ++ part :: rest ∧
      ReadAs open'' (d.rewrite sts) ∧
      (s.carryOut entry index p.line application).overflow = s.overflow ++ d.overflow := by
  intro d
  obtain ⟨st, hst, hc⟩ := Option.bind_eq_some_iff.mp hcontent
  obtain ⟨t, ht, hread⟩ := hreads.exists_line hst
  obtain ⟨hsplit, hadds, hbody, hdeclared, hname⟩ := readEnded?_splitLabels hread hc
  have hlt : p.line - 1 < open'.length := (List.getElem?_eq_some_iff.mp ht).1
  have hfeed : '\n' ∉ t := hreads.noFeed t (List.mem_of_getElem? ht)
  have hlabelsFeed : '\n' ∉ (splitLabels t).1 := by
    intro hm
    rw [hsplit] at hfeed
    exact hfeed (List.mem_append_left _ hm)
  obtain ⟨target, htarget, hcases⟩ := Patch.plan_ok hplan
  rw [hlines, List.getElem?_append_left hlt, ht] at htarget
  obtain rfl := Option.some.inj htarget
  rcases hcases with ⟨rfl, hlooks, -⟩ | ⟨length, -, hdeclared', hlong, hcases⟩
  · refine ⟨⟨hcontent, fun _ => ?_, by simp [d], by simp [d]⟩, open', hlines, ?_, (List.append_nil _).symm⟩
    · simp only [Patch.looksApplied, isErasedSlot, hname, Bool.or_eq_true, Bool.and_eq_true, beq_iff_eq,
        Option.some.injEq, Option.isNone_iff_eq_none] at hlooks
      exact hlooks.imp_right fun h => ⟨h.1.1, h.1.2, h.2.1.1⟩
    · rw [Settled.rewrite_skipped]
      exact hreads
  rw [hdeclared] at hdeclared'
  obtain rfl := Option.some.inj hdeclared'
  rcases hcases with ⟨hmode, hpayload, rfl⟩ | ⟨payload, next, hpayload, hnext, hnotTrailer, rfl⟩
  · obtain ⟨hslot, hslotFeed⟩ := readEnded?_slot hadds hlabelsFeed (read?_nopOf hlength) plain_of_mem_nopOf
      (by simp [nopOf])
    refine ⟨⟨hcontent, by simp [d], ?_, by simp [d]⟩, open'.set (p.line - 1) ((splitLabels t).1 ++ nopOf c.length),
      ?_, ?_, (List.append_nil s.overflow).symm⟩
    · intro _ _
      exact ⟨hlong, hmode, hpayload⟩
    · rw [carryOut, hlines, List.set_append_left _ _ hlt]
    · rw [Settled.rewrite_erased _ _ hst hc]
      exact hreads.set _ hslot hslotFeed
  · -- The line after the slot is no trailer, so it stands in front of the trailer as well.
    have hnextLt : p.line < open'.length := by
      by_contra hge
      have heq : p.line = open'.length := by omega
      rw [hlines, heq, List.getElem?_append_right (Nat.le_refl _), Nat.sub_self] at hnext
      obtain rfl := Option.some.inj hnext
      rw [htrailer] at hnotTrailer
      cases hnotTrailer
    rw [hlines, List.getElem?_append_left hnextLt] at hnext
    obtain ⟨nextSt, hnextSt, hnextRead⟩ := hreads.exists_statement hnext
    have hlabel := isLabelChar_of_mem_overflowLabel index
    obtain ⟨hslot, hslotFeed⟩ := readEnded?_slot hadds hlabelsFeed
      (read?_jumpTo (List.cons_ne_nil _ _) hlabel hlength) (plain_of_mem_jumpTo hlabel) (by simp [jumpTo])
    have hresume := readEnded?_defining (isLabelChar_of_mem_resumeLabel index) next
    rw [hnextRead, Option.map_some] at hresume
    have hnextFeed : '\n' ∉ defining (resumeLabel index) ++ next := by
      rw [List.mem_append, not_or]
      exact ⟨notMem_feed_defining (isLabelChar_of_mem_resumeLabel index), hreads.noFeed next (List.mem_of_getElem? hnext)⟩
    refine ⟨⟨hcontent, by simp [d], by simp [d], ?_⟩,
      (open'.set (p.line - 1) ((splitLabels t).1 ++ jumpTo (overflowLabel index) c.length)).set p.line
        (defining (resumeLabel index) ++ next), ?_, ?_, rfl⟩
    · intro slot label overflow heq
      cases heq
      refine ⟨hlong, hreads.length_eq ▸ hnextLt, payload, _, hpayload, ?_, hbody, rfl⟩
      intro hm
      rw [hsplit] at hfeed
      exact hfeed (List.mem_append_right _ hm)
    · have hnext' : (open'.set (p.line - 1) ((splitLabels t).1 ++ jumpTo (overflowLabel index) c.length) ++
          part :: rest)[p.line]? = some next := by
        rw [List.getElem?_append_left (by rwa [List.length_set]), List.getElem?_set_ne (by omega), hnext]
      rw [carryOut, hlines, List.set_append_left _ _ hlt]
      dsimp only
      rw [modify_eq_set hnext', List.set_append_left _ _ (by rwa [List.length_set])]
    · rw [Settled.rewrite_branched _ _ _ _ hst hc hline hnextSt]
      exact (hreads.set _ hslot hslotFeed).set _ hresume hnextFeed

/-! ## Runs of patches -/

namespace Settled

/-- What patches make of a listing one after the other. -/
def rewriteAll (settled : List Settled) (sts : Listing) : Listing := settled.foldl (fun sts d => d.rewrite sts) sts

theorem getElem?_rewrite (d : Settled) {sts : Listing} {i : Nat} {st : Statement} (h : sts[i]? = some st) :
    (d.rewrite sts)[i]? = some ⟨(if d.patch.line = i then d.resumes else []) ++ st.labels,
      if d.patch.line - 1 = i then st.content?.map d.slot else st.content?⟩ := by
  rw [rewrite, List.getElem?_modify, List.getElem?_modify, h]
  simp only [Option.map_eq_map, Option.map_some]
  split_ifs <;> rfl

theorem length_rewrite (d : Settled) (sts : Listing) : (d.rewrite sts).length = sts.length := by
  rw [rewrite, List.length_modify, List.length_modify]

theorem contentAt?_rewrite (d : Settled) (sts : Listing) (i : Nat) :
    (d.rewrite sts).contentAt? i =
      if d.patch.line - 1 = i then (sts.contentAt? i).map d.slot else sts.contentAt? i := by
  rw [Listing.contentAt?, Listing.contentAt?]
  cases h : sts[i]? with
  | none =>
    have hlength : (d.rewrite sts)[i]? = none := by
      rw [List.getElem?_eq_none_iff] at h ⊢
      rwa [length_rewrite]
    rw [hlength]
    split_ifs <;> rfl
  | some st =>
    rw [getElem?_rewrite d h]
    rfl

theorem Sound.of_rewrite {d d' : Settled} {sts : Listing} {c : Content} (h : d'.Sound (d.rewrite sts) c)
    (hne : d.patch.line - 1 ≠ d'.patch.line - 1) : d'.Sound sts c where
  content_eq := by
    have hc := h.content_eq
    rwa [contentAt?_rewrite, if_neg hne] at hc
  skipped := h.skipped
  erased := h.erased
  branched := by
    intro slot label overflow heq
    obtain ⟨hlong, hlt, hblock⟩ := h.branched slot label overflow heq
    rw [length_rewrite] at hlt
    exact ⟨hlong, hlt, hblock⟩

end Settled

/-- What becomes of patches as they are applied one after the other. -/
def Patching.settle (s : Patching) (entry : String) (index : Nat) : List Patch → List Settled
  | [] => []
  | p :: more =>
    match p.plan entry index s.lines with
    | .error _ => []
    | .ok application =>
      ⟨index, p, application⟩ :: (s.carryOut entry index p.line application).settle entry (index + 1) more

/-- The run: patches of distinct lines are carried out on the lines of a dump as on their listing. -/
theorem Patching.applyAll_ok {s s' : Patching} {entry : String} {index : Nat} {patches : List Patch} {sts : Listing}
    {open' rest : List Text} {part : Text} (hlines : s.lines = open' ++ part :: rest) (htrailer : isTrailer part = true)
    (hreads : ReadAs open' sts) (hdistinct : (patches.map Patch.line).Nodup)
    (htargets : ∀ p ∈ patches, p.line ≠ 0 ∧ ∃ c, sts.contentAt? (p.line - 1) = some c ∧ c.length < Text.numberBound)
    (h : (s.applyAll entry index patches).1 = .ok s') :
    let settled := s.settle entry index patches
    settled.map Settled.patch = patches ∧ settled.map Settled.index = List.range' index patches.length ∧
      (∀ d ∈ settled, ∃ c, d.Sound sts c) ∧
      ∃ open'', s'.lines = open'' ++ part :: rest ∧ ReadAs open'' (Settled.rewriteAll settled sts) ∧
        s'.overflow = s.overflow ++ settled.flatMap Settled.overflow := by
  induction patches generalizing s index sts open' with
  | nil =>
    obtain rfl := Except.ok.inj h
    exact ⟨rfl, rfl, by simp [settle], open', hlines, hreads, by simp [settle]⟩
  | cons p more ih =>
    rw [List.map_cons, List.nodup_cons] at hdistinct
    rw [List.forall_mem_cons] at htargets
    obtain ⟨⟨hline, c, hcontent, hlength⟩, htargets⟩ := htargets
    rw [applyAll] at h
    split at h
    · cases h
    rename_i application hplan
    obtain ⟨hsound, open₁, hlines₁, hreads₁, hoverflow₁⟩ :=
      carryOut_ok hlines htrailer hreads hline hcontent hlength hplan
    let d : Settled := ⟨index, p, application⟩
    have hne : ∀ p' ∈ more, p.line - 1 ≠ p'.line - 1 := by
      intro p' hp' heq
      have hline' := (htargets p' hp').1
      have hsame : p.line = p'.line := by omega
      exact hdistinct.1 (hsame ▸ List.mem_map_of_mem hp')
    have htargets₁ : ∀ p' ∈ more, p'.line ≠ 0 ∧
        ∃ c, (d.rewrite sts).contentAt? (p'.line - 1) = some c ∧ c.length < Text.numberBound := by
      intro p' hp'
      rw [Settled.contentAt?_rewrite, if_neg (hne p' hp')]
      exact htargets p' hp'
    obtain ⟨hpatches, hindices, hsettled, open₂, hlines₂, hreads₂, hoverflow₂⟩ :=
      ih hlines₁ hreads₁ hdistinct.2 htargets₁ h
    rw [settle, hplan]
    refine ⟨?_, ?_, ?_, open₂, hlines₂, hreads₂, ?_⟩
    · rw [List.map_cons, hpatches]
    · rw [List.map_cons, hindices, List.length_cons, List.range'_succ]
    · rw [List.forall_mem_cons]
      refine ⟨⟨c, hsound⟩, fun d' hd' => ?_⟩
      obtain ⟨c', hc'⟩ := hsettled d' hd'
      have hmem : d'.patch ∈ more := hpatches ▸ List.mem_map_of_mem hd'
      exact ⟨c', hc'.of_rewrite (hne _ hmem)⟩
    · rw [hoverflow₂, hoverflow₁, List.flatMap_cons, List.append_assoc]

/-! ## What patches leave -/

/-- What patches make of a line: it says what it said, or an instruction became a jump or a no-op of the same length. -/
inductive Statement.Redirected (st st' : Statement) : Prop
  | kept (h : st'.content? = st.content?)
  | jumped {c : Content} {opcode : UInt8} {label : Text} (hc : st.content? = some c) (hkind : c.kind = .instruction opcode)
    (hlong : minSlotLength ≤ c.length) (h : st'.content? = some (jumpContent label c.length))
  | erased {c : Content} {opcode : UInt8} (hc : st.content? = some c) (hkind : c.kind = .instruction opcode)
    (hlong : minSlotLength ≤ c.length) (h : st'.content? = some (nopContent c.length))

/-- A line with content says something of the same kind and length afterwards. -/
theorem Statement.Redirected.exists_content {st st' : Statement} (h : st.Redirected st') {c : Content}
    (hc : st.content? = some c) :
    ∃ c', st'.content? = some c' ∧ c'.length = c.length ∧
      ∀ opcode, c.kind = .instruction opcode → ∃ opcode', c'.kind = .instruction opcode' := by
  cases h with
  | kept h => exact ⟨c, h.trans hc, rfl, fun opcode hkind => ⟨opcode, hkind⟩⟩
  | jumped hc' _ _ h | erased hc' _ _ h =>
    obtain rfl := Option.some.inj (hc.symm.trans hc')
    exact ⟨_, h, rfl, fun _ _ => ⟨_, rfl⟩⟩

theorem Statement.Redirected.trans {st st' st'' : Statement} (h : st.Redirected st') (h' : st'.Redirected st'') :
    st.Redirected st'' := by
  have hlength : ∀ c' opcode', st'.content? = some c' → c'.kind = .instruction opcode' → minSlotLength ≤ c'.length →
      ∃ c opcode, st.content? = some c ∧ c.kind = .instruction opcode ∧ minSlotLength ≤ c.length ∧ c'.length = c.length := by
    intro c' opcode' hc' hkind' hlong'
    cases h with
    | kept h => exact ⟨c', opcode', h.symm.trans hc', hkind', hlong', rfl⟩
    | jumped hc hkind hlong h | erased hc hkind hlong h =>
      obtain rfl := Option.some.inj (h.symm.trans hc')
      exact ⟨_, _, hc, hkind, hlong, rfl⟩
  cases h' with
  | kept hkept =>
    cases h with
    | kept h => exact .kept (hkept.trans h)
    | jumped hc hkind hlong h => exact .jumped hc hkind hlong (hkept.trans h)
    | erased hc hkind hlong h => exact .erased hc hkind hlong (hkept.trans h)
  | jumped hc' hkind' hlong' hjumped =>
    obtain ⟨c, opcode, hc, hkind, hlong, hsame⟩ := hlength _ _ hc' hkind' hlong'
    exact .jumped hc hkind hlong (hsame ▸ hjumped)
  | erased hc' hkind' hlong' herased =>
    obtain ⟨c, opcode, hc, hkind, hlong, hsame⟩ := hlength _ _ hc' hkind' hlong'
    exact .erased hc hkind hlong (hsame ▸ herased)

namespace Settled

variable {sts : Listing} {d : Settled} {c : Content} {opcode : UInt8}

private theorem slot_cases (h : d.Sound sts c) :
    (d.slot c = c ∧ (d.patch.payload? ≠ none → c.name = Opcode.loopCondName)) ∨
      minSlotLength ≤ c.length ∧ (d.slot c = jumpContent (overflowLabel d.index) c.length ∨
        d.patch.payload? = none ∧ d.slot c = nopContent c.length) := by
  rw [slot]
  cases happlication : d.application with
  | alreadyApplied =>
    refine Or.inl ⟨rfl, fun hpayload => ?_⟩
    exact (h.skipped happlication).resolve_right fun herased => hpayload herased.2.1
  | erased slot =>
    obtain ⟨hlong, -, hpayload⟩ := h.erased slot happlication
    exact Or.inr ⟨hlong, Or.inr ⟨hpayload, rfl⟩⟩
  | branched slot label overflow => exact Or.inr ⟨(h.branched slot label overflow happlication).1, Or.inl rfl⟩

/-- The step: only the slot may become a jump or a no-op. -/
theorem redirected_rewrite (h : d.Sound sts c) (hkind : c.kind = .instruction opcode) :
    List.Forall₂ Statement.Redirected sts (d.rewrite sts) := by
  refine forall₂_of_getElem? (length_rewrite d sts).symm fun i st st' hst hst' => ?_
  rw [getElem?_rewrite d hst] at hst'
  obtain rfl := Option.some.inj hst'
  by_cases hline : d.patch.line - 1 = i
  · subst hline
    have hc : st.content? = some c := by
      have hcontent := h.content_eq
      rwa [Listing.contentAt?, hst, Option.bind_some] at hcontent
    rw [if_pos rfl, hc, Option.map_some]
    rcases slot_cases h with ⟨hsame, -⟩ | ⟨hlong, hjump | ⟨-, hnop⟩⟩
    · exact .kept (by rw [hsame, hc])
    · exact .jumped hc hkind hlong (by rw [hjump])
    · exact .erased hc hkind hlong (by rw [hnop])
  · exact .kept (if_neg hline)

/-- The step: the slot of a patch with a payload is a jump afterwards, and the other jumps stay. -/
theorem jump_rewrite (h : d.Sound sts c) (hpayload : d.patch.payload? ≠ none) :
    (∃ c', (d.rewrite sts).contentAt? (d.patch.line - 1) = some c' ∧ c'.name = Opcode.loopCondName) ∧
      ∀ i c, sts.contentAt? i = some c → c.name = Opcode.loopCondName →
        ∃ c', (d.rewrite sts).contentAt? i = some c' ∧ c'.name = Opcode.loopCondName := by
  have hslot : (d.rewrite sts).contentAt? (d.patch.line - 1) = some (d.slot c) ∧ (d.slot c).name = Opcode.loopCondName := by
    rw [contentAt?_rewrite, if_pos rfl, h.content_eq]
    refine ⟨rfl, ?_⟩
    rcases slot_cases h with ⟨hsame, hname⟩ | ⟨-, hjump | ⟨hnone, -⟩⟩
    · rw [hsame, hname hpayload]
    · rw [hjump]
      rfl
    · exact absurd hnone hpayload
  refine ⟨⟨d.slot c, hslot⟩, fun i c' hc' hname => ?_⟩
  by_cases hi : d.patch.line - 1 = i
  · exact ⟨d.slot c, hi ▸ hslot⟩
  · exact ⟨c', by rw [contentAt?_rewrite, if_neg hi, hc'], hname⟩

end Settled

/-- The run: patches of instructions, whatever lines they share, leave every line as it was or a jump or a no-op of the same
length; if all of them have payloads, each leaves a jump in its slot. -/
theorem Patching.redirected_applyAll {s s' : Patching} {entry : String} {index : Nat} {patches : List Patch} {sts : Listing}
    {open' rest : List Text} {part : Text} (hlines : s.lines = open' ++ part :: rest) (htrailer : isTrailer part = true)
    (hreads : ReadAs open' sts)
    (htargets : ∀ p ∈ patches, p.line ≠ 0 ∧ ∃ c opcode, sts.contentAt? (p.line - 1) = some c ∧
      c.kind = .instruction opcode ∧ c.length < Text.numberBound)
    (h : (s.applyAll entry index patches).1 = .ok s') :
    ∃ open'' sts', s'.lines = open'' ++ part :: rest ∧ ReadAs open'' sts' ∧ List.Forall₂ Statement.Redirected sts sts' ∧
      ((∀ p ∈ patches, p.payload? ≠ none) →
        (∀ p ∈ patches, ∃ c, sts'.contentAt? (p.line - 1) = some c ∧ c.name = Opcode.loopCondName) ∧
          ∀ i c, sts.contentAt? i = some c → c.name = Opcode.loopCondName →
            ∃ c', sts'.contentAt? i = some c' ∧ c'.name = Opcode.loopCondName) := by
  induction patches generalizing s index sts open' with
  | nil =>
    obtain rfl := Except.ok.inj h
    exact ⟨open', sts, hlines, hreads, List.forall₂_same.mpr fun _ _ => .kept rfl,
      fun _ => ⟨List.forall_mem_nil _, fun _ c hc hname => ⟨c, hc, hname⟩⟩⟩
  | cons p more ih =>
    rw [List.forall_mem_cons] at htargets
    obtain ⟨⟨hline, c, opcode, hcontent, hkind, hlength⟩, htargets⟩ := htargets
    rw [applyAll] at h
    split at h
    · cases h
    rename_i application hplan
    obtain ⟨hsound, open₁, hlines₁, hreads₁, -⟩ := carryOut_ok hlines htrailer hreads hline hcontent hlength hplan
    have hredirected := Settled.redirected_rewrite hsound hkind
    have htargets₁ : ∀ p' ∈ more, p'.line ≠ 0 ∧ ∃ c' opcode', (Settled.rewrite ⟨index, p, application⟩ sts).contentAt?
        (p'.line - 1) = some c' ∧ c'.kind = .instruction opcode' ∧ c'.length < Text.numberBound := by
      intro p' hp'
      obtain ⟨hline', c', opcode', hc', hkind', hlength'⟩ := htargets p' hp'
      obtain ⟨st, hst, hcontent'⟩ := Option.bind_eq_some_iff.mp hc'
      have hi : p'.line - 1 < (Settled.rewrite ⟨index, p, application⟩ sts).length :=
        hredirected.length_eq ▸ (List.getElem?_eq_some_iff.mp hst).1
      have hst' := List.getElem?_eq_getElem hi
      obtain ⟨c'', hc'', hsame, hkinds⟩ := (of_forall₂_getElem? hredirected hst hst').exists_content hcontent'
      obtain ⟨opcode'', hkind''⟩ := hkinds opcode' hkind'
      refine ⟨hline', c'', opcode'', ?_, hkind'', hsame ▸ hlength'⟩
      rw [Listing.contentAt?, hst', Option.bind_some, hc'']
    obtain ⟨open₂, sts₂, hlines₂, hreads₂, hredirected₂, hjumps⟩ := ih hlines₁ hreads₁ htargets₁ h
    refine ⟨open₂, sts₂, hlines₂, hreads₂, ?_, fun hpayload => ?_⟩
    · exact forall₂_comp hredirected hredirected₂ fun _ _ _ _ => Statement.Redirected.trans
    · rw [List.forall_mem_cons] at hpayload
      obtain ⟨hmore, hkept⟩ := hjumps hpayload.2
      obtain ⟨⟨c₁, hc₁, hname₁⟩, hkept₁⟩ := Settled.jump_rewrite hsound hpayload.1
      refine ⟨List.forall_mem_cons.mpr ⟨hkept _ c₁ hc₁ hname₁, hmore⟩, fun i c hc hname => ?_⟩
      obtain ⟨c', hc', hname'⟩ := hkept₁ i c hc hname
      exact hkept i c' hc' hname'

namespace Settled

/-! ## What the listing is in the end -/

theorem length_rewriteAll (settled : List Settled) (sts : Listing) : (rewriteAll settled sts).length = sts.length := by
  induction settled generalizing sts with
  | nil => rfl
  | cons d more ih =>
    change (rewriteAll more (d.rewrite sts)).length = _
    rw [ih, length_rewrite]

/-- A line that is not the slot of a patch says what it said. -/
theorem contentAt?_rewriteAll_of_untouched {settled : List Settled} {i : Nat}
    (h : ∀ d ∈ settled, d.patch.line - 1 = i → d.application = .alreadyApplied) (sts : Listing) :
    (rewriteAll settled sts).contentAt? i = sts.contentAt? i := by
  induction settled generalizing sts with
  | nil => rfl
  | cons d more ih =>
    rw [List.forall_mem_cons] at h
    change (rewriteAll more (d.rewrite sts)).contentAt? i = _
    rw [ih h.2, contentAt?_rewrite]
    split_ifs with hi
    · have hslot : d.slot = id := by
        funext c
        rw [slot, h.1 hi]
        rfl
      rw [hslot, Option.map_id, id]
    · rfl

/-- The slot of a patch says what the patch put there. -/
theorem contentAt?_rewriteAll_of_mem {settled : List Settled} (hdistinct : (settled.map (·.patch.line - 1)).Nodup)
    {d : Settled} (hd : d ∈ settled) (sts : Listing) :
    (rewriteAll settled sts).contentAt? (d.patch.line - 1) = (sts.contentAt? (d.patch.line - 1)).map d.slot := by
  induction settled generalizing sts with
  | nil => simp at hd
  | cons d' more ih =>
    rw [List.map_cons, List.nodup_cons] at hdistinct
    change (rewriteAll more (d'.rewrite sts)).contentAt? _ = _
    rcases List.mem_cons.mp hd with rfl | hmem
    · have huntouched : ∀ e ∈ more, e.patch.line - 1 = d.patch.line - 1 → e.application = .alreadyApplied := by
        intro e he heq
        exact absurd (List.mem_map.mpr ⟨e, he, heq⟩) hdistinct.1
      rw [contentAt?_rewriteAll_of_untouched huntouched, contentAt?_rewrite, if_pos rfl]
    · have hne : d'.patch.line - 1 ≠ d.patch.line - 1 := by
        intro heq
        exact hdistinct.1 (List.mem_map.mpr ⟨d, hmem, heq.symm⟩)
      rw [ih hdistinct.2 hmem, contentAt?_rewrite, if_neg hne]

/-- A line keeps its labels, and the line after a slot that became a jump has its label. -/
theorem labels_rewriteAll (settled : List Settled) {sts : Listing} {i : Nat} {st : Statement} (h : sts[i]? = some st) :
    ∃ st', (rewriteAll settled sts)[i]? = some st' ∧ st.labels ⊆ st'.labels ∧
      ∀ d ∈ settled, d.patch.line = i → d.resumes ⊆ st'.labels := by
  induction settled generalizing sts st with
  | nil => exact ⟨st, h, List.Subset.refl _, by simp⟩
  | cons d more ih =>
    obtain ⟨st', hst', hlabels, hresumes⟩ := ih (getElem?_rewrite d h)
    refine ⟨st', hst', fun label hlabel => hlabels (List.mem_append_right _ hlabel), ?_⟩
    rw [List.forall_mem_cons]
    refine ⟨fun hi label hlabel => hlabels (List.mem_append_left _ ?_), hresumes⟩
    rwa [if_pos hi]

private theorem labels_modify_perm {sts : Listing} {i : Nat} {names : List Text} (f : Statement → Statement)
    (hf : ∀ st, (f st).labels = names ++ st.labels) (hi : names ≠ [] → i < sts.length) :
    (Listing.labels (sts.modify i f)).Perm (names ++ sts.labels) := by
  by_cases hlt : i < sts.length
  · obtain ⟨front, st, back, rfl, -, hmodify⟩ := List.exists_of_modify f hlt
    rw [hmodify, Listing.labels_append, Listing.labels_append, Listing.labels_cons, Listing.labels_cons, hf,
      List.append_assoc, ← List.append_assoc, ← List.append_assoc names]
    exact List.perm_append_comm.append_right _
  · have hnil : names = [] := by
      by_contra hne
      exact hlt (hi hne)
    rw [List.modify_eq_self (Nat.le_of_not_lt hlt), hnil, List.nil_append]

private theorem labels_rewrite_perm {d : Settled} {sts : Listing} (h : d.resumes ≠ [] → d.patch.line < sts.length) :
    (d.rewrite sts).labels.Perm (d.resumes ++ sts.labels) := by
  have hslot : (Listing.labels (sts.modify (d.patch.line - 1) fun st => ⟨st.labels, st.content?.map d.slot⟩)).Perm
      ([] ++ sts.labels) :=
    labels_modify_perm _ (fun _ => rfl) (fun hne => absurd rfl hne)
  rw [rewrite]
  refine (labels_modify_perm _ (fun _ => rfl) ?_).trans (.append_left _ hslot)
  rwa [List.length_modify]

/-- Only the labels after the slots are new. -/
theorem labels_rewriteAll_perm {settled : List Settled} {sts : Listing}
    (h : ∀ d ∈ settled, d.resumes ≠ [] → d.patch.line < sts.length) :
    (rewriteAll settled sts).labels.Perm (settled.flatMap resumes ++ sts.labels) := by
  induction settled generalizing sts with
  | nil => exact .refl _
  | cons d more ih =>
    rw [List.forall_mem_cons] at h
    have hmore : (rewriteAll more (d.rewrite sts)).labels.Perm (more.flatMap resumes ++ (d.rewrite sts).labels) := by
      apply ih
      rw [length_rewrite]
      exact h.2
    have hfirst := (labels_rewrite_perm h.1).append_left (more.flatMap resumes)
    rw [List.flatMap_cons]
    refine (hmore.trans hfirst).trans ?_
    rw [← List.append_assoc]
    exact List.perm_append_comm.append_right _

theorem Sound.resumes_lt {d : Settled} {sts : Listing} {c : Content} (h : d.Sound sts c) :
    d.resumes ≠ [] → d.patch.line < sts.length := by
  intro hne
  rw [resumes] at hne
  split at hne
  · rename_i slot label overflow heq
    exact (h.branched slot label overflow heq).2.1
  · exact absurd rfl hne

private theorem size_eq {st st' : Statement} {c c' : Content} (h : st.content? = some c) (h' : st'.content? = some c')
    (hkind : c.kind ≠ .trailer) (hkind' : c'.kind ≠ .trailer) (hlength : c'.length = c.length) : st'.size = st.size := by
  rw [Statement.size, Statement.size, Statement.written?_eq h hkind, Statement.written?_eq h' hkind', Option.map_some,
    Option.map_some, hlength]

theorem slot_length (d : Settled) (c : Content) : (d.slot c).length = c.length := by
  rw [slot]
  split <;> rfl

theorem slot_kind (d : Settled) {c : Content} {opcode : UInt8} (h : c.kind = .instruction opcode) :
    ∃ opcode', (d.slot c).kind = .instruction opcode' := by
  rw [slot]
  split
  · exact ⟨opcode, h⟩
  · exact ⟨_, rfl⟩
  · exact ⟨_, rfl⟩

/-- No line changes its size. -/
theorem map_size_rewriteAll {settled : List Settled} {sts : Listing}
    (hdistinct : (settled.map (·.patch.line - 1)).Nodup)
    (hslots : ∀ d ∈ settled, ∃ c opcode, sts.contentAt? (d.patch.line - 1) = some c ∧ c.kind = .instruction opcode) :
    (rewriteAll settled sts).map Statement.size = sts.map Statement.size := by
  apply List.ext_getElem?
  intro i
  rw [List.getElem?_map, List.getElem?_map]
  cases hst : sts[i]? with
  | none =>
    rw [List.getElem?_eq_none_iff] at hst
    rw [List.getElem?_eq_none (by rwa [length_rewriteAll])]
  | some st =>
    obtain ⟨st', hst', -⟩ := labels_rewriteAll settled hst
    rw [hst', Option.map_some, Option.map_some]
    congr 1
    by_cases hd : ∃ d ∈ settled, d.patch.line - 1 = i
    · obtain ⟨d, hmem, rfl⟩ := hd
      obtain ⟨c, opcode, hc, hkind⟩ := hslots d hmem
      have hc' := contentAt?_rewriteAll_of_mem hdistinct hmem sts
      obtain ⟨opcode', hkind'⟩ := d.slot_kind hkind
      rw [hc, Option.map_some, Listing.contentAt?, hst'] at hc'
      rw [Listing.contentAt?, hst] at hc
      exact size_eq hc hc' (by simp [hkind]) (by simp [hkind']) (d.slot_length c)
    · have huntouched : ∀ d ∈ settled, d.patch.line - 1 = i → d.application = .alreadyApplied :=
        fun d hmem heq => absurd ⟨d, hmem, heq⟩ hd
      have hc := contentAt?_rewriteAll_of_untouched huntouched sts
      rw [Listing.contentAt?, Listing.contentAt?, hst, hst'] at hc
      have hc : st'.content? = st.content? := hc
      rw [Statement.size, Statement.size, Statement.written?, Statement.written?, hc]

end Settled

/-- The overflow is put in front of the last trailer line. -/
theorem insertOverflow?_eq {s : Patching} {open' rest : List Text} {part : Text}
    (hlines : s.lines = open' ++ part :: rest) (htrailer : isTrailer part = true)
    (hrest : ∀ t ∈ rest, isTrailer t = false) : s.insertOverflow? = some (open' ++ (s.overflow ++ part :: rest)) := by
  have hback : ∀ t ∈ rest.reverse, (!isTrailer t) = true := by
    intro t ht
    rw [hrest t (List.mem_reverse.mp ht)]
    rfl
  have hspan : s.lines.reverse.span (fun line => !isTrailer line) = (rest.reverse, part :: open'.reverse) := by
    rw [List.span_eq_takeWhile_dropWhile, hlines, List.reverse_append, List.reverse_cons, List.append_assoc,
      List.takeWhile_append_of_pos hback, List.dropWhile_append_of_pos hback]
    simp [htrailer]
  rw [Patching.insertOverflow?, hspan]
  simp

/-- What becomes of the patches of a dump. -/
def settledPatches (entry : String) (dump : Text) (patches : List Patch) : List Settled :=
  Patching.settle ⟨dump.splitOn '\n', [], []⟩ entry 1 patches

/-- A patched dump is what the run leaves, with the overflow in front of the last trailer line. -/
theorem exists_applyAll_of_applyPatches {entry : String} {dump patched : Text} {patches : List Patch}
    (h : (applyPatches entry dump patches).1 = .ok patched) :
    ∃ s, (Patching.applyAll ⟨dump.splitOn '\n', [], []⟩ entry 1 patches).1 = .ok s ∧
      ∀ open' part rest, s.lines = open' ++ part :: rest → isTrailer part = true → (∀ t ∈ rest, isTrailer t = false) →
        patched = Text.joinLines (open' ++ (s.overflow ++ part :: rest)) := by
  rw [applyPatches] at h
  split_ifs at h with hempty
  · obtain rfl := Except.ok.inj h
    obtain rfl := List.isEmpty_iff.mp hempty
    refine ⟨⟨dump.splitOn '\n', [], []⟩, rfl, fun open' part rest hlines _ _ => ?_⟩
    rw [List.nil_append, ← hlines, Text.joinLines, List.intercalate_splitOn]
  · split at h
    · cases h
    rename_i s log hrun
    refine ⟨s, congrArg Prod.fst hrun, fun open' part rest hlines htrailer hrest => ?_⟩
    have hlines? : (if s.overflow.isEmpty then some s.lines else s.insertOverflow?) =
        some (open' ++ (s.overflow ++ part :: rest)) := by
      split_ifs with hnil
      · rw [hlines, List.isEmpty_iff.mp hnil, List.nil_append]
      · exact insertOverflow?_eq hlines htrailer hrest
    dsimp only at h
    rw [hlines?] at h
    exact (Except.ok.inj h).symm

/-- A patched dump: its lines up to the trailer as the patches leave them, the overflow and the trailer. -/
theorem applyPatches_ok {entry : String} {dump patched : Text} {patches : List Patch} {sts : Listing}
    {open' rest : List Text} {part : Text} (hsplit : dump.splitOn '\n' = open' ++ part :: rest)
    (htrailer : isTrailer part = true) (hrest : rest = [] ∨ rest = [[]]) (hreads : ReadAs open' sts)
    (hdistinct : (patches.map Patch.line).Nodup)
    (htargets : ∀ p ∈ patches, p.line ≠ 0 ∧ ∃ c, sts.contentAt? (p.line - 1) = some c ∧ c.length < Text.numberBound)
    (h : (applyPatches entry dump patches).1 = .ok patched) :
    let settled := settledPatches entry dump patches
    settled.map Settled.patch = patches ∧ settled.map Settled.index = List.range' 1 patches.length ∧
      (∀ d ∈ settled, ∃ c, d.Sound sts c) ∧
      ∃ open'', ReadAs open'' (Settled.rewriteAll settled sts) ∧
        patched = Text.joinLines (open'' ++ (settled.flatMap Settled.overflow ++ part :: rest)) := by
  intro settled
  obtain ⟨s, hrun, hpatched⟩ := exists_applyAll_of_applyPatches h
  obtain ⟨hpatches, hindices, hsettled, open'', hlines, hreads', hoverflow⟩ :=
    Patching.applyAll_ok hsplit htrailer hreads hdistinct htargets hrun
  have hnoTrailer : ∀ t ∈ rest, isTrailer t = false := by
    rcases hrest with rfl | rfl
    · exact List.forall_mem_nil _
    · exact List.forall_mem_singleton.mpr (by decide +kernel)
  rw [List.nil_append] at hoverflow
  refine ⟨hpatches, hindices, hsettled, open'', hreads', ?_⟩
  rw [hpatched open'' part rest hlines htrailer hnoTrailer, hoverflow]
  rfl

end SceneScript
