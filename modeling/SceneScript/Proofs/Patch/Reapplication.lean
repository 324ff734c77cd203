import Mathlib
import SceneScript.Proofs.Dump.Mnemonic
import SceneScript.Proofs.Patch.Labels
import SceneScript.Patch.Apply
/-!
# Patches applied again

A patch that knows its slot again is skipped the second time: its slot is then a jump or a no-op, which is not what it
expects. If no patch reaches the trailer the whole dump stays as the first application left it.
-/
namespace SceneScript

/-! ## What follows the labels -/

section Names

variable {name : Text} (hname : Row.isName name = true) (rest : Text)
include hname

theorem trimStart_name : Text.trimStart (name ++ '.' :: rest) = name ++ '.' :: rest := by
  obtain ⟨hne, hprintable⟩ := Row.isName_iff.mp hname
  obtain ⟨c, name, rfl⟩ := List.exists_cons_of_ne_nil hne
  obtain ⟨hlow, hhigh⟩ := hprintable c List.mem_cons_self
  exact List.dropWhile_cons_of_neg (by simp [isBlank_eq_false_of_printable (by omega) hhigh])

theorem head?_name {c : Char} (hc : c.toNat ≤ 0x2E) :
    (Text.trimStart (name ++ '.' :: rest)).head? ≠ some c := by
  obtain ⟨hne, hprintable⟩ := Row.isName_iff.mp hname
  rw [trimStart_name hname]
  obtain ⟨c', name, rfl⟩ := List.exists_cons_of_ne_nil hne
  intro heq
  obtain rfl := Option.some.inj heq
  have hlow := (hprintable c' List.mem_cons_self).1
  omega

private theorem dot_notMem_name : '.' ∉ name :=
  fun hm => absurd ((Row.isName_iff.mp hname).2 _ hm).1 (by decide)

theorem lineName?_name : lineName? (name ++ '.' :: rest) = some name :=
  lineName?_eq (trimStart_name hname rest) (dot_notMem_name hname) (head?_name hname rest (by decide))
    (head?_name hname rest (by decide))

/-- The labels of a line stay when what follows them is replaced by a text with a name. -/
theorem afterLabels_splitLabels_append (t : Text) :
    afterLabels ((splitLabels t).1 ++ (name ++ '.' :: rest)) = name ++ '.' :: rest := by
  obtain ⟨pre, hpre, -, hafter⟩ := exists_labels_append t
  rw [splitLabels_eq hpre rfl, hafter _ (Or.inr (trimStart_name hname rest)),
    afterLabels_self (head?_name hname rest (by decide))]

end Names

theorem afterLabels_trimStart (t : Text) : afterLabels (Text.trimStart t) = Text.trimStart (afterLabels t) := by
  fun_induction afterLabels t with
  | case1 body rest hbody name tail hcut ih =>
    obtain ⟨rfl, hname⟩ := Text.cutAt_eq_some hcut
    rw [trimStart_trimStart] at ih
    rw [← ih]
    exact afterLabels_eq_of_label ((trimStart_trimStart body).trans hbody) hname
  | case2 body rest hbody hcut =>
    rw [afterLabels.eq_def]
    split
    · rename_i rest' hrest'
      rw [trimStart_trimStart, hbody, List.cons.injEq] at hrest'
      obtain ⟨-, rfl⟩ := hrest'
      rw [hcut]
    · rfl
  | case3 body hbody =>
    rw [afterLabels.eq_def]
    split
    · rename_i rest hrest
      rw [trimStart_trimStart] at hrest
      exact absurd hrest (hbody rest)
    · rfl

/-- A label in front of a line is one of its labels; what follows them is trimmed. -/
theorem afterLabels_defining_append {label : Text} (h : ∀ c ∈ label, isLabelChar c = true) (t : Text) :
    afterLabels (defining label ++ t) = Text.trimStart (afterLabels t) := by
  have hcolon : ':' ∉ label := fun hm => absurd (h _ hm) (by decide)
  have htrim : Text.trimStart (defining label ++ t) = '&' :: (label ++ ':' :: (' ' :: t)) := by
    rw [defining, List.cons_append, List.append_assoc]
    exact List.dropWhile_cons_of_neg (by decide)
  have hblank : Text.trimStart (' ' :: t) = Text.trimStart t := List.dropWhile_cons_of_pos (by decide)
  rw [afterLabels_eq_of_label htrim hcolon, hblank, afterLabels_trimStart]

/-! ## Slots that look applied -/

theorem lineName?_trimStart (t : Text) : lineName? (Text.trimStart t) = lineName? t := by
  rw [lineName?.eq_def, lineName?.eq_def t, trimStart_trimStart]

private theorem snd_cutAt_append {sep : Char} {before : Text} (h : sep ∉ before) (t : Text) :
    (Text.cutAt sep (before ++ t)).map Prod.snd = (Text.cutAt sep t).map Prod.snd := by
  induction before with
  | nil => rfl
  | cons c before ih =>
    rw [List.mem_cons, not_or] at h
    rw [List.cons_append, Text.cutAt_cons_of_ne (Ne.symm h.1), Option.map_map, ← ih h.2]
    rfl

theorem declaredLength?_trimStart (t : Text) : declaredLength? (Text.trimStart t) = declaredLength? t := by
  have hdot : '.' ∉ t.takeWhile isBlank := fun hm => absurd (List.mem_takeWhile_imp hm) (by decide)
  have hcut := snd_cutAt_append hdot (Text.trimStart t)
  rw [Text.takeWhile_append_trimStart] at hcut
  have hlength : ∀ u, declaredLength? u =
      ((Text.cutAt '.' u).map Prod.snd).bind fun rest => Text.readDigits? (rest.takeWhile Char.isDigit) := by
    intro u
    rw [declaredLength?, Option.bind_map]
    rfl
  rw [hlength, hlength t, hcut]

private theorem mem_dropWhile {α : Type} {p : α → Bool} {l : List α} {a : α} (ha : a ∈ l) (hp : p a = false) :
    a ∈ l.dropWhile p := by
  rw [← List.takeWhile_append_dropWhile (p := p) (l := l)] at ha
  rcases List.mem_append.mp ha with ha | ha
  · rw [List.mem_takeWhile_imp ha] at hp
    cases hp
  · exact ha

private theorem mem_trim {t : Text} {c : Char} (hc : c ∈ t) (hblank : isBlank c = false) : c ∈ Text.trim t := by
  have hstart : c ∈ (Text.trimStart t).reverse := List.mem_reverse.mpr (mem_dropWhile hc hblank)
  exact List.mem_reverse.mpr (mem_dropWhile hstart hblank)

private theorem mem_of_mem_intercalate {sep c : Char} (hne : c ≠ sep) {parts : List Text}
    (h : c ∈ [sep].intercalate parts) : ∃ part ∈ parts, c ∈ part := by
  induction parts with
  | nil => cases h
  | cons part more ih =>
    cases more with
    | nil =>
      rw [List.intercalate_singleton] at h
      exact ⟨part, List.mem_cons_self, h⟩
    | cons part' more =>
      rw [List.intercalate_cons_cons, List.mem_append, List.mem_append, List.mem_singleton] at h
      rcases h with (h | h) | h
      · exact ⟨part, List.mem_cons_self, h⟩
      · exact absurd h hne
      · obtain ⟨other, hother, hc⟩ := ih h
        exact ⟨other, List.mem_cons_of_mem _ hother, hc⟩

/-- A no-op is one also without the blanks in front of it. -/
private theorem isErasedSlot_trimStart {body : Text} {length? : Option Nat} (h : isErasedSlot body length? = true) :
    isErasedSlot (Text.trimStart body) length? = true := by
  rw [isErasedSlot, Bool.and_eq_true, Bool.and_eq_true, beq_iff_eq] at h
  obtain ⟨⟨hname, hlength⟩, hzeros⟩ := h
  have hspace : ' ' ∉ body.takeWhile isBlank := by
    intro hm
    obtain ⟨front, back, hblanks, hfront⟩ := List.eq_append_cons_of_mem hm
    have hcut : Text.cutAt ' ' body = some (front, back ++ Text.trimStart body) := by
      conv_lhs => rw [← Text.takeWhile_append_trimStart body, hblanks, List.append_assoc, List.cons_append]
      exact Text.cutAt_append hfront _
    rw [hcut] at hzeros
    have hn : 'n' ∈ back ++ Text.trimStart body := by
      apply List.mem_append_right
      exact lineName?_subset ((lineName?_trimStart body).trans hname) (by decide)
    rw [← (List.intercalate_splitOn '-' : ['-'].intercalate ((back ++ Text.trimStart body).splitOn '-') = _)] at hn
    obtain ⟨part, hpart, hnPart⟩ := mem_of_mem_intercalate (by decide) hn
    have hzero := mem_trim hnPart (by decide)
    rw [eq_of_beq (List.all_eq_true.mp hzeros part hpart)] at hzero
    exact absurd hzero (by decide)
  have hcut := snd_cutAt_append hspace (Text.trimStart body)
  rw [Text.takeWhile_append_trimStart] at hcut
  rw [isErasedSlot, lineName?_trimStart, declaredLength?_trimStart, hname, hlength]
  cases htrimmed : Text.cutAt ' ' (Text.trimStart body) with
  | none =>
    rw [htrimmed, Option.map_none, Option.map_eq_none_iff] at hcut
    rw [hcut] at hzeros
    cases hzeros
  | some parts =>
    obtain ⟨front, bytes⟩ := parts
    rw [htrimmed] at hcut
    obtain ⟨⟨front', bytes'⟩, hcut', rfl⟩ := Option.map_eq_some_iff.mp hcut
    rw [hcut'] at hzeros
    rw [beq_self_eq_true, Bool.true_and, Bool.true_and]
    exact hzeros

/-! ## The lines that patches leave -/

theorem lt_numberBound_of_declaredLength? {body : Text} {length : Nat} (h : declaredLength? body = some length) :
    length < Text.numberBound := by
  rw [declaredLength?] at h
  obtain ⟨⟨front, rest⟩, -, hdigits⟩ := Option.bind_eq_some_iff.mp h
  dsimp only at hdigits
  rw [Text.readDigits?] at hdigits
  split_ifs at hdigits with _ hlt
  obtain rfl := Option.some.inj hdigits
  exact hlt

theorem declaredLength?_nopOf {length : Nat} (hlength : length < Text.numberBound) :
    declaredLength? (nopOf length) = some length := by
  have hdot : '.' ∉ Opcode.nopName := by decide
  have hdigits : ∀ c ∈ Text.decimal length, c.isDigit = true := List.all_eq_true.mp (Text.all_isDigit_decimal length)
  have hstop : ∀ c ∈ (' ' :: zeroBytes (length - 2)).head?, c.isDigit = false := by
    rintro c ⟨rfl⟩
    rfl
  rw [nopOf, declaredLength?_eq hdot, (Token.takeWhile_boundary hdigits hstop).1]
  exact Text.readDigits?_decimal hlength

theorem isErasedSlot_nopOf {length : Nat} (hlength : length < Text.numberBound) (hlong : minSlotLength ≤ length) :
    isErasedSlot (nopOf length) (some length) = true := by
  have hdigits : ∀ c ∈ Text.decimal length, c.isDigit = true := List.all_eq_true.mp (Text.all_isDigit_decimal length)
  have hspace : ' ' ∉ Opcode.nopName ++ '.' :: Text.decimal length := by
    rw [List.mem_append, List.mem_cons, not_or, not_or]
    exact ⟨by decide, by decide, fun hm => absurd (hdigits _ hm) (by decide)⟩
  have hcut : Text.cutAt ' ' (nopOf length) =
      some (Opcode.nopName ++ '.' :: Text.decimal length, zeroBytes (length - 2)) := by
    have happend := Text.cutAt_append hspace (zeroBytes (length - 2))
    rwa [List.append_assoc, List.cons_append] at happend
  have hbytes : (zeroBytes (length - 2)).splitOn '-' = List.replicate (length - 2) ['0', '0'] := by
    apply List.splitOn_intercalate
    · intro t ht
      rw [List.eq_of_mem_replicate ht]
      decide
    · intro hnil
      rw [List.replicate_eq_nil_iff] at hnil
      rw [minSlotLength] at hlong
      omega
  rw [isErasedSlot, declaredLength?_nopOf hlength, hcut, nopOf, lineName?_name (by decide)]
  dsimp only
  rw [hbytes, beq_self_eq_true, beq_self_eq_true, Bool.true_and, Bool.true_and, List.all_replicate]
  split_ifs
  · rfl
  · decide

/-! ## Slots at rest -/

theorem takeWhile_append_of_exists {α : Type} {p : α → Bool} {l : List α} (h : ∃ a ∈ l, p a = false) (more : List α) :
    (l ++ more).takeWhile p = l.takeWhile p := by
  obtain ⟨a, ha, hp⟩ := h
  rw [List.takeWhile_append, if_neg]
  intro hlength
  have hall := List.takeWhile_eq_self_iff.mp ((List.takeWhile_prefix p).eq_of_length hlength)
  rw [hall a ha] at hp
  cases hp

namespace Patch

/-- Whether a patch knows its slot again: it expects neither a jump nor a no-op, and what it expects of a line that it
erases tells the length of the line. -/
structure Recognises (p : Patch) : Prop where
  not_slot : ∀ body, p.expects body = true →
    lineName? body ≠ some Opcode.loopCondName ∧ lineName? body ≠ some Opcode.nopName
  length_eq : p.payload? = none → ∀ body, p.expects body = true → declaredLength? body = declaredLength? p.expected

/-- A patch that expects a name of another kind knows its slot again, provided that its directive tells the length of a
line that it erases. -/
theorem recognises_of_name {p : Patch} {name rest : Text} (hexpected : p.expected = name ++ '.' :: rest)
    (hname : Row.isName name = true) (hne : name ≠ Opcode.loopCondName ∧ name ≠ Opcode.nopName)
    (hlength : p.payload? = none → p.mayGoOn = false ∨ ∃ c ∈ rest, c.isDigit = false) : p.Recognises := by
  have hbody : ∀ body, p.expects body = true → ∃ more, body = name ++ '.' :: (rest ++ more) ∧
      (p.mayGoOn = false → more = []) := by
    intro body h
    rw [expects, hexpected] at h
    split_ifs at h with hmore
    · obtain ⟨more, rfl⟩ := List.isPrefixOf_iff_prefix.mp h
      exact ⟨more, by simp, fun hexact => absurd hmore (by simp [hexact])⟩
    · exact ⟨[], by simpa using h, fun _ => rfl⟩
  constructor
  · intro body h
    obtain ⟨more, rfl, -⟩ := hbody body h
    rw [lineName?_name hname, ne_eq, ne_eq, Option.some.injEq, Option.some.injEq]
    exact hne
  · intro hpayload body h
    obtain ⟨more, rfl, hexact⟩ := hbody body h
    have hdot : '.' ∉ name := dot_notMem_name hname
    have hdigits : (rest ++ more).takeWhile Char.isDigit = rest.takeWhile Char.isDigit := by
      rcases hlength hpayload with hwhole | hstop
      · rw [hexact hwhole, List.append_nil]
      · exact takeWhile_append_of_exists hstop more
    rw [hexpected, declaredLength?_eq hdot, declaredLength?_eq hdot, hdigits]

/-- A patch expects no jump if it expects a text that starts with another letter. -/
theorem expects_no_jump {p : Patch} {c : Char} {rest : Text} (hexpected : p.expected = c :: rest)
    (hc : isBlank c = false ∧ c ≠ '&' ∧ c ≠ '#' ∧ c ≠ 'L') :
    ∀ body, p.expects body = true → lineName? body ≠ some Opcode.loopCondName := by
  intro body hexpects hname
  obtain ⟨more, rfl⟩ : ∃ more, body = c :: more := by
    rw [expects, hexpected] at hexpects
    split_ifs at hexpects
    · obtain ⟨more, rfl⟩ := List.isPrefixOf_iff_prefix.mp hexpects
      exact ⟨rest ++ more, rfl⟩
    · exact ⟨rest, by simpa using hexpects⟩
  have htrim : Text.trimStart (c :: more) = c :: more := List.dropWhile_cons_of_neg (by simp [hc.1])
  have hand : ∀ tail, c :: more = '&' :: tail → False := fun tail heq => hc.2.1 (List.cons.inj heq).1
  have hsharp : ∀ tail, c :: more = '#' :: tail → False := fun tail heq => hc.2.2.1 (List.cons.inj heq).1
  rw [lineName?.eq_def] at hname
  split at hname
  · rename_i tail htail
    exact hand tail (htrim.symm.trans htail)
  · rename_i tail htail
    exact hsharp tail (htrim.symm.trans htail)
  · obtain ⟨⟨name, after⟩, hcut, rfl⟩ := Option.map_eq_some_iff.mp hname
    obtain ⟨heq, -⟩ := Text.cutAt_eq_some hcut
    rw [htrim] at heq
    exact hc.2.2.2 (List.cons.inj heq).1

/-- Whether a patch takes its slot as it finds it in a dump and as it leaves it: it expects no jump, a directive that
erases tells the length of what it erases or expects the no-op as well, and it sees a no-op through the blanks in front of
it. -/
structure KnowsSlot (p : Patch) (lines : List Text) : Prop where
  not_jump : ∀ body, p.expects body = true → lineName? body ≠ some Opcode.loopCondName
  tells_length : p.payload? = none → ∀ body length, p.expects body = true → declaredLength? body = some length →
    declaredLength? p.expected = some length ∨ p.expects (nopOf length) = true
  sees_indented : p.payload? = none → ∀ t, lines[p.line - 1]? = some t →
    lineName? (afterLabels t) = some Opcode.nopName → p.expects (Text.trimStart (afterLabels t)) = true →
      p.expects (afterLabels t) = true

theorem Recognises.knowsSlot {p : Patch} (h : p.Recognises) (lines : List Text) : p.KnowsSlot lines where
  not_jump := fun body hexpects => (h.not_slot body hexpects).1
  tells_length := fun hpayload body _ hexpects hlength =>
    Or.inl ((h.length_eq hpayload body hexpects).symm.trans hlength)
  sees_indented := fun _ _ _ hname hexpects =>
    absurd ((lineName?_trimStart _).trans hname) (h.not_slot _ hexpects).2

/-- What a patch leaves in its slot: a jump; or, if it erases, a no-op that it skips, with the blanks in front and without
them, or one that it expects and writes again. -/
inductive Rests (p : Patch) (body : Text) : Prop
  | jump (hname : lineName? body = some Opcode.loopCondName)
  | skipped (hmode : p.mode = .replace) (hpayload : p.payload? = none)
    (herased : isErasedSlot body (declaredLength? p.expected) = true) (hbody : p.expects body = false)
    (htrimmed : p.expects (Text.trimStart body) = false)
  | rewritten (hmode : p.mode = .replace) (hpayload : p.payload? = none) {length : Nat} (heq : body = nopOf length)
    (hlength : length < Text.numberBound) (hlong : minSlotLength ≤ length) (hexpects : p.expects body = true)

/-- Whether a patch finds its slot as it leaves it. -/
def Done (p : Patch) (lines : List Text) : Prop := ∃ t, lines[p.line - 1]? = some t ∧ p.Rests (afterLabels t)

section Bodies

variable {p : Patch} {body : Text}

theorem trimStart_nopOf (length : Nat) : Text.trimStart (nopOf length) = nopOf length :=
  trimStart_name (by decide) _

theorem lineName?_jumpTo (label : Text) (length : Nat) : lineName? (jumpTo label length) = some Opcode.loopCondName :=
  lineName?_name (by decide) _

theorem rests_nopOf (hmode : p.mode = .replace) (hpayload : p.payload? = none) {length : Nat}
    (hlength : length < Text.numberBound) (hlong : minSlotLength ≤ length)
    (hknown : declaredLength? p.expected = some length ∨ p.expects (nopOf length) = true) : p.Rests (nopOf length) := by
  cases hexpects : p.expects (nopOf length) with
  | true => exact .rewritten hmode hpayload rfl hlength hlong hexpects
  | false =>
    have hdeclared := hknown.resolve_right (by simp [hexpects])
    exact .skipped hmode hpayload (hdeclared ▸ isErasedSlot_nopOf hlength hlong) hexpects
      ((trimStart_nopOf length).symm ▸ hexpects)

theorem Rests.trimStart (h : p.Rests body) : p.Rests (Text.trimStart body) := by
  cases h with
  | jump hname => exact .jump ((lineName?_trimStart body).trans hname)
  | skipped hmode hpayload herased hbody htrimmed =>
    exact .skipped hmode hpayload (isErasedSlot_trimStart herased) htrimmed
      ((trimStart_trimStart body).symm ▸ htrimmed)
  | rewritten hmode hpayload heq hlength hlong hexpects =>
    subst heq
    rw [trimStart_nopOf]
    exact .rewritten hmode hpayload rfl hlength hlong hexpects

/-- A no-op in which one patch rests stays one if another erases it. -/
theorem Rests.nopOf (h : p.Rests body) (hname : lineName? body ≠ some Opcode.loopCondName) {length : Nat}
    (hdeclared : declaredLength? body = some length) (hlong : minSlotLength ≤ length) : p.Rests (nopOf length) := by
  have hlength := lt_numberBound_of_declaredLength? hdeclared
  cases h with
  | jump hjump => exact absurd hjump hname
  | skipped hmode hpayload herased =>
    rw [isErasedSlot, Bool.and_eq_true, Bool.and_eq_true, beq_iff_eq, beq_iff_eq] at herased
    exact rests_nopOf hmode hpayload hlength hlong (Or.inl (herased.1.2.symm.trans hdeclared))
  | rewritten hmode hpayload heq hlength' hlong' hexpects =>
    subst heq
    rw [declaredLength?_nopOf hlength', Option.some.injEq] at hdeclared
    subst hdeclared
    exact .rewritten hmode hpayload rfl hlength hlong hexpects

end Bodies

/-- What carrying out a patch makes of a line: the slot is at rest, or becomes a jump or a no-op, and the line after it
may get a label. -/
inductive Leaves (p : Patch) (i : Nat) (t : Text) : Text → Prop
  | kept (h : i = p.line - 1 → p.expects (afterLabels t) = false ∧ p.looksApplied (afterLabels t) = true) : p.Leaves i t t
  | jumped {t' : Text} (hline : i = p.line - 1) (hname : lineName? (afterLabels t') = some Opcode.loopCondName) :
    p.Leaves i t t'
  | erased {t' : Text} {length : Nat} (hline : i = p.line - 1) (hmode : p.mode = .replace) (hpayload : p.payload? = none)
    (hexpects : p.expects (afterLabels t) = true) (hlength : declaredLength? (afterLabels t) = some length)
    (hlong : minSlotLength ≤ length) (hbody : afterLabels t' = nopOf length) : p.Leaves i t t'
  | labelled {label : Text} (hlabel : ∀ c ∈ label, isLabelChar c = true) (hline : i ≠ p.line - 1) :
    p.Leaves i t (defining label ++ t)

theorem lineName?_of_isErasedSlot {body : Text} {length? : Option Nat} (h : isErasedSlot body length? = true) :
    lineName? body = some Opcode.nopName := by
  rw [isErasedSlot, Bool.and_eq_true, Bool.and_eq_true, beq_iff_eq] at h
  exact h.1.1

theorem Leaves.rests {p : Patch} {lines : List Text} (hknows : p.KnowsSlot lines) {t t' : Text}
    (ht : lines[p.line - 1]? = some t) (h : p.Leaves (p.line - 1) t t') : p.Rests (afterLabels t') := by
  cases h with
  | kept h =>
    obtain ⟨hexpects, hlooks⟩ := h rfl
    rw [looksApplied, Bool.or_eq_true, beq_iff_eq, Bool.and_eq_true, Bool.and_eq_true, beq_iff_eq,
      Option.isNone_iff_eq_none] at hlooks
    rcases hlooks with hname | ⟨⟨hmode, hpayload⟩, herased⟩
    · exact .jump hname
    · have htrimmed : p.expects (Text.trimStart (afterLabels t)) = false := by
        by_contra hne
        have htrue := hknows.sees_indented hpayload t ht (lineName?_of_isErasedSlot herased) (by simpa using hne)
        rw [hexpects] at htrue
        cases htrue
      exact .skipped hmode hpayload herased hexpects htrimmed
  | jumped _ hname => exact .jump hname
  | erased _ hmode hpayload hexpects hlength hlong hbody =>
    rw [hbody]
    exact rests_nopOf hmode hpayload (lt_numberBound_of_declaredLength? hlength) hlong
      (hknows.tells_length hpayload _ _ hexpects hlength)
  | labelled _ hline => exact absurd rfl hline

/-- A slot stays at rest whatever another patch does to its line. -/
theorem Leaves.rests_of_rests {p q : Patch} {lines : List Text} (hknows : p.KnowsSlot lines) {i : Nat} {t t' : Text}
    (h : p.Leaves i t t') (hrests : q.Rests (afterLabels t)) : q.Rests (afterLabels t') := by
  cases h with
  | kept => exact hrests
  | jumped _ hname => exact .jump hname
  | erased _ _ _ hexpects hlength hlong hbody =>
    rw [hbody]
    exact hrests.nopOf (hknows.not_jump _ hexpects) hlength hlong
  | labelled hlabel =>
    rw [afterLabels_defining_append hlabel]
    exact hrests.trimStart

/-- A patch knows its slot also among the lines that another one leaves. -/
theorem KnowsSlot.of_leaves {p q : Patch} {lines lines' : List Text} (h : q.KnowsSlot lines)
    (hleaves : ∀ i t', lines'[i]? = some t' → ∃ t, lines[i]? = some t ∧ p.Leaves i t t') : q.KnowsSlot lines' where
  not_jump := h.not_jump
  tells_length := h.tells_length
  sees_indented := by
    intro hpayload t' ht' hname hexpects
    obtain ⟨t, ht, hleaves⟩ := hleaves _ t' ht'
    cases hleaves with
    | kept => exact h.sees_indented hpayload t' ht hname hexpects
    | jumped _ hjump =>
      rw [hjump] at hname
      exact absurd (Option.some.inj hname) (by decide)
    | erased _ _ _ _ _ _ hbody =>
      rw [hbody, trimStart_nopOf] at hexpects
      rwa [hbody]
    | labelled hlabel =>
      rw [afterLabels_defining_append hlabel, trimStart_trimStart] at hexpects
      rwa [afterLabels_defining_append hlabel]

end Patch

/-! ## One patch -/

namespace Patching

variable {s s' : Patching} {entry : String} {index : Nat} {p : Patch} {application : Application}

private theorem splitLabels_append (t : Text) : (splitLabels t).1 ++ afterLabels t = t := by
  obtain ⟨pre, hpre, -⟩ := exists_labels_append t
  conv_rhs => rw [hpre]
  rw [splitLabels_eq hpre rfl]

/-- What fills a slot stands there afterwards, and no other line changes. -/
private theorem getElem?_set_slot {lines : List Text} {line i : Nat} {target name rest t : Text} (slot : Text)
    (htarget : lines[line]? = some target) (hslot : slot = name ++ '.' :: rest) (hname : Row.isName name = true)
    (ht : lines[i]? = some t) :
    ∃ t', (lines.set line ((splitLabels target).1 ++ slot))[i]? = some t' ∧
      ((i ≠ line ∧ t' = t) ∨ (i = line ∧ t = target ∧ afterLabels t' = slot)) := by
  by_cases hi : i = line
  · subst hi
    obtain rfl := Option.some.inj (htarget.symm.trans ht)
    refine ⟨_, List.getElem?_set_self (List.getElem?_eq_some_iff.mp ht).1, Or.inr ⟨rfl, rfl, ?_⟩⟩
    rw [hslot, afterLabels_splitLabels_append hname]
  · rw [List.getElem?_set_ne (Ne.symm hi)]
    exact ⟨t, ht, Or.inl ⟨hi, rfl⟩⟩

/-- The step: what carrying out a patch makes of each line. -/
theorem leaves_carryOut (hline : p.line ≠ 0) (hplan : p.plan entry index s.lines = .ok application) {i : Nat} {t : Text}
    (ht : s.lines[i]? = some t) :
    ∃ t', (s.carryOut entry index p.line application).lines[i]? = some t' ∧ p.Leaves i t t' := by
  obtain ⟨target, htarget, hcases⟩ := Patch.plan_ok hplan
  rcases hcases with ⟨rfl, hlooks, hexpects⟩ | ⟨length, hexpects, hlength, hlong, ⟨hmode, hpayload, rfl⟩ | ⟨payload, next, -, -, -, rfl⟩⟩
  · refine ⟨t, ht, .kept fun hi => ?_⟩
    rw [hi, htarget] at ht
    obtain rfl := Option.some.inj ht
    exact ⟨hexpects, hlooks⟩
  · obtain ⟨t', ht', ⟨hne, rfl⟩ | ⟨hi, rfl, hbody⟩⟩ := getElem?_set_slot (nopOf length) htarget rfl (by decide) ht
    · exact ⟨_, ht', .kept fun hi => absurd hi hne⟩
    · exact ⟨t', ht', .erased hi hmode hpayload hexpects hlength hlong hbody⟩
  · obtain ⟨t', ht', hcases⟩ := getElem?_set_slot (jumpTo (overflowLabel index) length) htarget rfl (by decide) ht
    rw [carryOut]
    dsimp only
    rw [List.getElem?_modify, ht', Option.map_eq_map, Option.map_some]
    rcases hcases with ⟨hne, rfl⟩ | ⟨hi, rfl, hbody⟩
    · split_ifs
      · exact ⟨_, rfl, .labelled (isLabelChar_of_mem_resumeLabel index) hne⟩
      · exact ⟨_, rfl, .kept fun hi => absurd hi hne⟩
    · rw [if_neg (by omega)]
      exact ⟨t', rfl, .jumped hi (hbody ▸ Patch.lineName?_jumpTo _ _)⟩

theorem length_carryOut (s : Patching) (entry : String) (index line : Nat) (application : Application) :
    (s.carryOut entry index line application).lines.length = s.lines.length := by
  cases application with
  | alreadyApplied => rfl
  | erased => exact List.length_set
  | branched => rw [carryOut, List.length_modify, List.length_set]

private theorem plan_skipped {lines : List Text} {t : Text} (ht : lines[p.line - 1]? = some t)
    (hexpects : p.expects (afterLabels t) = false) (hlooks : p.looksApplied (afterLabels t) = true) :
    p.plan entry index lines = .ok .alreadyApplied := by
  rw [Patch.plan, ht]
  simp only [splitLabels, hexpects, hlooks]
  rfl

private theorem plan_erased {lines : List Text} {t : Text} {length : Nat} (ht : lines[p.line - 1]? = some t)
    (hexpects : p.expects (afterLabels t) = true) (hlength : declaredLength? (afterLabels t) = some length)
    (hlong : minSlotLength ≤ length) (hmode : p.mode = .replace) (hpayload : p.payload? = none) :
    p.plan entry index lines = .ok (.erased ((splitLabels t).1 ++ nopOf length)) := by
  rw [Patch.plan, ht]
  simp only [splitLabels, hexpects, hlength, if_neg (Nat.not_lt.mpr hlong), hpayload, hmode]
  rfl

/-- A patch that finds its slot as it leaves it changes nothing. -/
theorem carryOut_of_done (hjump : ∀ body, p.expects body = true → lineName? body ≠ some Opcode.loopCondName)
    (hdone : p.Done s.lines) (entry : String) (index : Nat) :
    ∃ application log, p.plan entry index s.lines = .ok application ∧
      s.carryOut entry index p.line application = { s with log := log } := by
  obtain ⟨t, ht, hrests⟩ := hdone
  cases hrests with
  | jump hname =>
    have hexpects : p.expects (afterLabels t) = false := by
      by_contra h
      exact hjump _ (by simpa using h) hname
    have hlooks : p.looksApplied (afterLabels t) = true := by
      rw [Patch.looksApplied, hname]
      rfl
    exact ⟨_, _, plan_skipped ht hexpects hlooks, rfl⟩
  | skipped hmode hpayload herased hbody =>
    have hlooks : p.looksApplied (afterLabels t) = true := by
      rw [Patch.looksApplied, hmode, hpayload, herased]
      exact Bool.or_true _
    exact ⟨_, _, plan_skipped ht hbody hlooks, rfl⟩
  | rewritten hmode hpayload heq hlength hlong hexpects =>
    have hdeclared := declaredLength?_nopOf hlength
    rw [← heq] at hdeclared
    refine ⟨_, s.log, plan_erased ht hexpects hdeclared hlong hmode hpayload, ?_⟩
    obtain ⟨hlt, rfl⟩ := List.getElem?_eq_some_iff.mp ht
    rw [← heq, splitLabels_append, carryOut, List.set_getElem_self]

/-- No line behind the slots moves, if the patches do not reach the trailer. -/
theorem drop_carryOut {n : Nat} {trailer : Text} (hline : p.line ≠ 0) (hle : p.line ≤ n)
    (hnth : s.lines[n]? = some trailer) (htrailer : isTrailer trailer = true)
    (hplan : p.plan entry index s.lines = .ok application) :
    (s.carryOut entry index p.line application).lines.drop n = s.lines.drop n := by
  obtain ⟨target, htarget, hcases⟩ := Patch.plan_ok hplan
  rcases hcases with ⟨rfl, -⟩ | ⟨length, -, -, -, ⟨-, -, rfl⟩ | ⟨payload, next, -, hnext, hnot, rfl⟩⟩
  · rfl
  · exact List.drop_set_of_lt (by omega)
  · have hne : p.line ≠ n := by
      rintro rfl
      obtain rfl := Option.some.inj (hnth.symm.trans hnext)
      rw [htrailer] at hnot
      cases hnot
    rw [carryOut]
    dsimp only
    rw [List.drop_modify_of_lt _ _ _ _ (by omega), List.drop_set_of_lt (by omega)]

/-! ## Runs of patches -/

/-- The run: every patch is done in the end, and what was done before stays done. -/
theorem done_applyAll {patches : List Patch} (hlines : ∀ p ∈ patches, p.line ≠ 0)
    (hknows : ∀ p ∈ patches, p.KnowsSlot s.lines) (h : (s.applyAll entry index patches).1 = .ok s') :
    (∀ p ∈ patches, p.Done s'.lines) ∧ ∀ q : Patch, q.Done s.lines → q.Done s'.lines := by
  induction patches generalizing s index with
  | nil =>
    obtain rfl := Except.ok.inj h
    exact ⟨fun _ hp => absurd hp List.not_mem_nil, fun _ hdone => hdone⟩
  | cons p more ih =>
    rw [List.forall_mem_cons] at hlines hknows
    rw [applyAll] at h
    split at h
    · cases h
    rename_i application hplan
    have hstep {i : Nat} {t : Text} := leaves_carryOut (i := i) (t := t) hlines.1 hplan
    have hleaves : ∀ i t', (s.carryOut entry index p.line application).lines[i]? = some t' →
        ∃ t, s.lines[i]? = some t ∧ p.Leaves i t t' := by
      intro i t' ht'
      have hi := (List.getElem?_eq_some_iff.mp ht').1
      rw [length_carryOut] at hi
      obtain ⟨t'', ht'', hleaves⟩ := hstep (List.getElem?_eq_getElem hi)
      obtain rfl := Option.some.inj (ht''.symm.trans ht')
      exact ⟨_, List.getElem?_eq_getElem hi, hleaves⟩
    -- The first patch is done after its step, and the rest of the run keeps what is done.
    obtain ⟨hmore, hkept⟩ := ih hlines.2 (fun q hq => (hknows.2 q hq).of_leaves hleaves) h
    obtain ⟨target, htarget, -⟩ := Patch.plan_ok hplan
    obtain ⟨t', ht', hslot⟩ := hstep htarget
    have hdone := hkept p ⟨t', ht', hslot.rests hknows.1 htarget⟩
    refine ⟨List.forall_mem_cons.mpr ⟨hdone, hmore⟩, fun q hq => ?_⟩
    obtain ⟨t, ht, hrests⟩ := hq
    obtain ⟨t'', ht'', hleaves'⟩ := hstep ht
    exact hkept q ⟨t'', ht'', hleaves'.rests_of_rests hknows.1 hrests⟩

theorem front_applyAll {patches : List Patch} {n : Nat} {trailer : Text} (hlines : ∀ p ∈ patches, p.line ≠ 0 ∧ p.line ≤ n)
    (hnth : s.lines[n]? = some trailer) (htrailer : isTrailer trailer = true) (hfeed : ∀ t ∈ s.lines, '\n' ∉ t)
    (h : (s.applyAll entry index patches).1 = .ok s') :
    s'.lines.drop n = s.lines.drop n ∧ ∀ t ∈ s'.lines, '\n' ∉ t := by
  induction patches generalizing s index with
  | nil =>
    obtain rfl := Except.ok.inj h
    exact ⟨rfl, hfeed⟩
  | cons p more ih =>
    rw [List.forall_mem_cons] at hlines
    rw [applyAll] at h
    split at h
    · cases h
    rename_i application hplan
    have hdrop := drop_carryOut hlines.1.1 hlines.1.2 hnth htrailer hplan
    have hnth' : (s.carryOut entry index p.line application).lines[n]? = some trailer := by
      rw [← List.head?_drop, hdrop, List.head?_drop, hnth]
    obtain ⟨hmore, hfeed'⟩ := ih hlines.2 hnth' (carryOut_noFeed hplan hfeed) h
    exact ⟨hmore.trans hdrop, hfeed'⟩

theorem applyAll_of_done (entry : String) (index : Nat) {patches : List Patch}
    (hjump : ∀ p ∈ patches, ∀ body, p.expects body = true → lineName? body ≠ some Opcode.loopCondName)
    (h : ∀ p ∈ patches, p.Done s.lines) : ∃ log, (s.applyAll entry index patches).1 = .ok { s with log := log } := by
  induction patches generalizing s index with
  | nil => exact ⟨s.log, rfl⟩
  | cons p more ih =>
    rw [List.forall_mem_cons] at hjump h
    obtain ⟨application, log, hplan, hcarried⟩ := carryOut_of_done hjump.1 h.1 entry index
    rw [applyAll, hplan]
    dsimp only
    rw [hcarried]
    exact ih (s := { s with log := log }) (index + 1) hjump.2 h.2

end Patching

/-! ## Whole dumps -/

theorem applyPatches_of_done {entry : String} {dump : Text} {patches : List Patch}
    (hjump : ∀ p ∈ patches, ∀ body, p.expects body = true → lineName? body ≠ some Opcode.loopCondName)
    (h : ∀ p ∈ patches, p.Done (dump.splitOn '\n')) : (applyPatches entry dump patches).1 = .ok dump := by
  rw [applyPatches]
  split_ifs
  · rfl
  obtain ⟨log, hrun⟩ := Patching.applyAll_of_done (s := ⟨dump.splitOn '\n', [], []⟩) entry 1 hjump h
  split
  · rename_i e log' heq
    rw [heq] at hrun
    cases hrun
  · rename_i s log' heq
    rw [heq] at hrun
    obtain rfl := Except.ok.inj hrun
    exact congrArg Except.ok (List.intercalate_splitOn _)

/-- Patches that know their slots and do not reach the last trailer are done in the dump that they leave. -/
theorem done_of_applyPatches {entry : String} {dump patched trailer : Text} {front rest : List Text} {patches : List Patch}
    (hsplit : dump.splitOn '\n' = front ++ trailer :: rest) (htrailer : isTrailer trailer = true)
    (hrest : ∀ t ∈ rest, isTrailer t = false) (hlines : ∀ p ∈ patches, p.line ≠ 0 ∧ p.line ≤ front.length)
    (hknows : ∀ p ∈ patches, p.KnowsSlot (dump.splitOn '\n')) (h : (applyPatches entry dump patches).1 = .ok patched) :
    ∀ p ∈ patches, p.Done (patched.splitOn '\n') := by
  obtain ⟨s, hrun, hpatched⟩ := exists_applyAll_of_applyPatches h
  have hnth : (dump.splitOn '\n')[front.length]? = some trailer := by
    rw [hsplit, List.getElem?_append_right (Nat.le_refl _), Nat.sub_self]
    rfl
  obtain ⟨hdrop, hfeed⟩ :=
    Patching.front_applyAll hlines hnth htrailer (Text.notMem_of_mem_splitOn dump) hrun
  obtain ⟨hdone, -⟩ := Patching.done_applyAll (fun p hp => (hlines p hp).1) hknows hrun
  have hshape : s.lines = s.lines.take front.length ++ trailer :: rest := by
    rw [hsplit, List.drop_left] at hdrop
    rw [← hdrop, List.take_append_drop]
  intro p hp
  obtain ⟨t, ht, hrests⟩ := hdone p hp
  have hlt : p.line - 1 < front.length := by
    have hle := hlines p hp
    omega
  have htake : (s.lines.take front.length)[p.line - 1]? = some t := by
    rw [List.getElem?_take_of_lt hlt, ht]
  refine ⟨t, ?_, hrests⟩
  rw [hpatched _ _ _ hshape htrailer hrest,
    Text.splitOn_joinLines_append (fun t ht => hfeed t (List.mem_of_mem_take ht)) (by simp),
    List.getElem?_append_left (List.getElem?_eq_some_iff.mp htake).1, htake]

/-- Patches that expect no jump and do not reach the last trailer change nothing when they are applied again, provided
that a directive that erases tells the length of what it erases, or expects the no-op that it leaves, and does not take an
indented no-op for another line. -/
theorem applyPatches_idempotent {entry : String} {dump patched trailer : Text} {front rest : List Text}
    {patches : List Patch} (hsplit : dump.splitOn '\n' = front ++ trailer :: rest) (htrailer : isTrailer trailer = true)
    (hrest : ∀ t ∈ rest, isTrailer t = false) (hlines : ∀ p ∈ patches, p.line ≠ 0 ∧ p.line ≤ front.length)
    (hjump : ∀ p ∈ patches, ∀ body, p.expects body = true → lineName? body ≠ some Opcode.loopCondName)
    (hlength : ∀ p ∈ patches, p.payload? = none → ∀ body length, p.expects body = true →
      declaredLength? body = some length → declaredLength? p.expected = some length ∨ p.expects (nopOf length) = true)
    (hindented : ∀ p ∈ patches, p.payload? = none → ∀ t, (dump.splitOn '\n')[p.line - 1]? = some t →
      lineName? (afterLabels t) = some Opcode.nopName → p.expects (Text.trimStart (afterLabels t)) = true →
        p.expects (afterLabels t) = true)
    (h : (applyPatches entry dump patches).1 = .ok patched) :
    (applyPatches entry patched patches).1 = .ok patched :=
  applyPatches_of_done hjump (done_of_applyPatches hsplit htrailer hrest hlines
    (fun p hp => ⟨hjump p hp, hlength p hp, hindented p hp⟩) h)

/-- Patches on adjacent lines and on one line; one erases, one branches from what that leaves, and one erases a no-op. -/
theorem applyPatches_idempotent_adjacent :
    let dump := "header.1\nfade_in.10 00-00-00-00-00-00-00-00\nfade_in.12\nkey_wait.2\nnop.10 00\nret2.2\ntrailer.0".toList
    let p : Patch := ⟨.replace, 2, "fade_in.10 ".toList, true, none⟩
    let q : Patch := ⟨.insertBefore, 2, "nop".toList, true, some "key_wait.2".toList⟩
    let r : Patch := ⟨.insertAfter, 3, "fade_in".toList, true, some "key_wait.2".toList⟩
    let s : Patch := ⟨.replace, 5, "nop".toList, true, none⟩
    let patched := Text.joinLines ["header.1".toList, jumpTo "P2".toList 10, "&PR2: ".toList ++ jumpTo "P3".toList 12,
      "&PR3: key_wait.2".toList, nopOf 10, "ret2.2".toList, "&P2: key_wait.2".toList, nopOf 10, jumpTo "PR2".toList 10,
      "&P3: fade_in.12".toList, "key_wait.2".toList, jumpTo "PR3".toList 10, "trailer.0".toList]
    (applyPatches "SC01" dump [p, q, r, s]).1 = .ok patched ∧
      (applyPatches "SC01" patched [p, q, r, s]).1 = .ok patched := by
  intro dump p q r s patched
  have hsplit : dump.splitOn '\n' = ["header.1".toList, "fade_in.10 00-00-00-00-00-00-00-00".toList,
      "fade_in.12".toList, "key_wait.2".toList, "nop.10 00".toList, "ret2.2".toList] ++ "trailer.0".toList :: [] := by
    decide +kernel
  have hfirst : (applyPatches "SC01" dump [p, q, r, s]).1 = .ok patched := by decide +kernel
  have hjump : ∀ p' ∈ [p, q, r, s], ∀ body, p'.expects body = true → lineName? body ≠ some Opcode.loopCondName := by
    rw [List.forall_mem_cons, List.forall_mem_cons, List.forall_mem_cons, List.forall_mem_singleton]
    refine ⟨?_, ?_, ?_, ?_⟩
    · exact Patch.expects_no_jump (c := 'f') rfl (by decide)
    · exact Patch.expects_no_jump (c := 'n') rfl (by decide)
    · exact Patch.expects_no_jump (c := 'f') rfl (by decide)
    · exact Patch.expects_no_jump (c := 'n') rfl (by decide)
  have hlength : ∀ p' ∈ [p, q, r, s], p'.payload? = none → ∀ body length, p'.expects body = true →
      declaredLength? body = some length →
        declaredLength? p'.expected = some length ∨ p'.expects (nopOf length) = true := by
    have hexpected : "fade_in.10 ".toList = "fade_in".toList ++ '.' :: "10 ".toList := by decide
    have hrecognises : p.Recognises :=
      Patch.recognises_of_name hexpected (by decide) (by decide) fun _ => Or.inr ⟨' ', by decide, by decide⟩
    rw [List.forall_mem_cons, List.forall_mem_cons, List.forall_mem_cons, List.forall_mem_singleton]
    refine ⟨fun hpayload body length hexpects hdeclared => ?_, fun h => absurd h (Option.some_ne_none _),
      fun h => absurd h (Option.some_ne_none _), fun _ _ _ _ _ => Or.inr rfl⟩
    exact Or.inl ((hrecognises.length_eq hpayload body hexpects).symm.trans hdeclared)
  refine ⟨hfirst, applyPatches_idempotent hsplit (by decide +kernel) (fun _ ht => nomatch ht) (by decide +kernel) hjump
    hlength (by decide +kernel) hfirst⟩

/-- The no-op that an erasing patch leaves is not known again if what it expects stops before the whole length. -/
theorem applyPatches_erased_twice :
    let dump := "header.1\nfade_in.10 00-00-00-00-00-00-00-00\nkey_wait.2\nret2.2\ntrailer.0".toList
    let p : Patch := ⟨.replace, 2, "fade_in".toList, true, none⟩
    let patched := Text.joinLines ["header.1".toList, nopOf 10, "key_wait.2".toList, "ret2.2".toList, "trailer.0".toList]
    (∀ body, p.expects body = true → lineName? body ≠ some Opcode.loopCondName) ∧
      (applyPatches "SC01" dump [p]).1 = .ok patched ∧
      (applyPatches "SC01" patched [p]).1 = .error (.mismatch 1 "SC01" 2 (nopOf 10)) := by
  intro dump p patched
  have hjump : ∀ body, p.expects body = true → lineName? body ≠ some Opcode.loopCondName :=
    Patch.expects_no_jump (c := 'f') rfl (by decide)
  exact ⟨hjump, by decide +kernel, by decide +kernel⟩

end SceneScript
