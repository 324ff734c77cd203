import Mathlib
import SceneScript.Patch.Plan
import SceneScript.Proofs.Dump.Row
import SceneScript.Proofs.Lines
/-!
# Lines of a patched dump

How the lines that a patch takes apart and writes are read when the dump is assembled.
-/
namespace SceneScript

/-! ## Labels and what follows them -/

/-- Whether a text put in front of a line only adds some labels to it. -/
def AddsLabels (pre : Text) (names : List Text) : Prop :=
  ∀ t, lineLabels (pre ++ t) = names ++ lineLabels t ∧ lineHeading? (pre ++ t) = lineHeading? t

private theorem addsLabels_blanks {blanks : Text} (h : ∀ c ∈ blanks, isBlank c = true) : AddsLabels blanks [] := by
  induction blanks with
  | nil => exact fun _ => ⟨rfl, rfl⟩
  | cons c blanks ih =>
    rw [List.forall_mem_cons] at h
    intro t
    rw [List.cons_append, lineLabels_blank h.1, lineHeading?_blank h.1]
    exact ih h.2 t

private theorem AddsLabels.append {pre pre' : Text} {names names' : List Text} (h : AddsLabels pre names)
    (h' : AddsLabels pre' names') : AddsLabels (pre ++ pre') (names ++ names') := by
  intro t
  rw [List.append_assoc, List.append_assoc, (h _).1, (h _).2, (h' t).1, (h' t).2]
  exact ⟨rfl, rfl⟩

private theorem addsLabels_define {name : Text} (h : ':' ∉ name) : AddsLabels ('&' :: (name ++ [':'])) [name] := by
  intro t
  rw [List.cons_append, List.append_assoc, List.singleton_append, lineLabels_define h, lineHeading?_define h]
  exact ⟨rfl, rfl⟩

theorem Text.takeWhile_append_trimStart (t : Text) : t.takeWhile isBlank ++ trimStart t = t :=
  List.takeWhile_append_dropWhile

/-- A line is its labels and what follows them, which has no label of its own. -/
theorem exists_afterLabels (t : Text) :
    ∃ pre names, t = pre ++ afterLabels t ∧ AddsLabels pre names ∧
      ∀ rest, Text.trimStart (afterLabels t) = '&' :: rest → ':' ∉ rest := by
  fun_induction afterLabels t with
  | case1 body rest hbody name tail hcut ih =>
    obtain ⟨pre, names, hpre, hadds, hstop⟩ := ih
    obtain ⟨hrest, hname⟩ := Text.cutAt_eq_some hcut
    refine ⟨body.takeWhile isBlank ++ (('&' :: (name ++ [':'])) ++ (tail.takeWhile isBlank ++ pre)),
      [] ++ ([name] ++ ([] ++ names)), ?_, ?_, hstop⟩
    · have htail := Text.takeWhile_append_trimStart tail
      rw [hpre] at htail
      conv_lhs => rw [← Text.takeWhile_append_trimStart body, hbody, hrest, ← htail]
      simp only [List.append_assoc, List.cons_append, List.nil_append]
    · have hblank : ∀ t : Text, AddsLabels (t.takeWhile isBlank) [] := fun t =>
        addsLabels_blanks fun c hc => List.mem_takeWhile_imp hc
      exact (hblank body).append ((addsLabels_define hname).append ((hblank tail).append hadds))
  | case2 body rest hbody hcut =>
    refine ⟨[], [], rfl, fun _ => ⟨rfl, rfl⟩, ?_⟩
    intro rest' hrest'
    rw [hbody, List.cons.injEq] at hrest'
    obtain ⟨-, rfl⟩ := hrest'
    exact Text.notMem_of_cutAt_eq_none hcut
  | case3 body hbody =>
    exact ⟨[], [], rfl, fun _ => ⟨rfl, rfl⟩, fun rest hrest => absurd hrest (hbody rest)⟩

theorem lineLabels_of_stop {t : Text} (hstop : ∀ rest, Text.trimStart t = '&' :: rest → ':' ∉ rest) :
    lineLabels t = [] := by
  rw [lineLabels, readLine_eq]
  split
  · rfl
  · rename_i c rest hrest
    dsimp only
    split_ifs with hsharp hand
    · rfl
    · subst hand
      rw [Text.cutAt_eq_none (hstop rest hrest)]
      rfl
    · split <;> rfl

/-- A line that begins with no label definition has its heading in front of the first full stop. -/
theorem heading_of_stop {t : Text} {heading : Text × Text} (hstop : ∀ rest, Text.trimStart t = '&' :: rest → ':' ∉ rest)
    (hheading : lineHeading? t = some (some heading)) : Text.cutAt '.' (Text.trimStart t) = some heading ∧
      (Text.trimStart t).head? ≠ some '&' ∧ (Text.trimStart t).head? ≠ some '#' := by
  rw [lineHeading?, readLine_eq] at hheading
  change ∀ rest, t.dropWhile isBlank = '&' :: rest → ':' ∉ rest at hstop
  rw [Text.trimStart]
  cases hdrop : t.dropWhile isBlank with
  | nil =>
    simp only [hdrop, LineBody.heading?, Option.some.injEq, reduceCtorEq] at hheading
  | cons c rest =>
    simp only [hdrop] at hheading ⊢
    split_ifs at hheading ⊢ with hsharp hand
    · simp only [LineBody.heading?, Option.some.injEq, reduceCtorEq] at hheading
    · rw [hand] at hdrop
      rw [Text.cutAt_eq_none (hstop rest hdrop)] at hheading
      simp [LineBody.heading?] at hheading
    · cases hcut : Text.cutAt '.' (c :: rest) with
      | none => simp only [hcut, LineBody.heading?, Option.some.injEq, reduceCtorEq] at hheading
      | some p =>
        simp only [hcut, LineBody.heading?, Option.some.injEq] at hheading
        exact ⟨congrArg some hheading, by simpa using hand, by simpa using hsharp⟩

theorem lineName?_eq {t name rest : Text} (h : Text.trimStart t = name ++ '.' :: rest) (hname : '.' ∉ name)
    (hand : (Text.trimStart t).head? ≠ some '&') (hsharp : (Text.trimStart t).head? ≠ some '#') :
    lineName? t = some name := by
  rw [lineName?.eq_def]
  split
  · rename_i heq
    exact absurd (congrArg List.head? heq) hand
  · rename_i heq
    exact absurd (congrArg List.head? heq) hsharp
  · rw [h, Text.cutAt_append hname]
    rfl

theorem declaredLength?_eq {front : Text} (hfront : '.' ∉ front) (rest : Text) :
    declaredLength? (front ++ '.' :: rest) = Text.readDigits? (rest.takeWhile Char.isDigit) := by
  rw [declaredLength?, Text.cutAt_append hfront]
  rfl

/-- The line of a scene as it is read when a line feed follows. -/
def Statement.readEnded? (t : Text) : Option Statement := Statement.read? false (Text.withoutReturn t)

namespace Statement

/-- A statement with some labels in front of its own. -/
def withLabels (names : List Text) (st : Statement) : Statement := ⟨names ++ st.labels, st.content?⟩

theorem read?_addsLabels {pre : Text} {names : List Text} (h : AddsLabels pre names) (inRecords : Bool) (t : Text) :
    read? inRecords (pre ++ t) = (read? inRecords t).map (withLabels names) := by
  obtain ⟨hlabels, hheading⟩ := h t
  rw [read?, read?, hlabels, hheading]
  cases lineHeading? t with
  | none => rfl
  | some heading =>
    cases heading with
    | none => rfl
    | some p =>
      dsimp only
      rw [Option.map_map]
      rfl

end Statement

theorem trimStart_append {t : Text} (h : Text.trimStart t ≠ []) (more : Text) :
    Text.trimStart (t ++ more) = Text.trimStart t ++ more := by
  rw [Text.trimStart, List.dropWhile_append, if_neg]
  · rfl
  · rwa [List.isEmpty_iff]

theorem afterLabels_eq_of_label {t name tail : Text} (h : Text.trimStart t = '&' :: (name ++ ':' :: tail))
    (hname : ':' ∉ name) : afterLabels t = afterLabels (Text.trimStart tail) := by
  rw [afterLabels.eq_def]
  split
  · rename_i rest hrest
    rw [h, List.cons.injEq] at hrest
    obtain ⟨-, rfl⟩ := hrest
    split
    · rename_i name' tail' hcut
      rw [Text.cutAt_append hname, Option.some.injEq, Prod.mk.injEq] at hcut
      rw [hcut.2]
    · rename_i hcut
      rw [Text.cutAt_append hname] at hcut
      cases hcut
  · rename_i hne
    exact absurd h (hne _)

theorem afterLabels_self {t : Text} (h : (Text.trimStart t).head? ≠ some '&') : afterLabels t = t := by
  rw [afterLabels.eq_def]
  split
  · rename_i rest hrest
    exact absurd (congrArg List.head? hrest) h
  · rfl

theorem trimStart_trimStart (t : Text) : Text.trimStart (Text.trimStart t) = Text.trimStart t :=
  List.dropWhile_idempotent isBlank t

private theorem trimStart_takeWhile_append (t u : Text) :
    Text.trimStart (t.takeWhile isBlank ++ u) = Text.trimStart u :=
  List.dropWhile_append_of_pos fun _ hc => List.mem_takeWhile_imp hc

/-- The labels in front of a line are found again in front of another text, provided that no blanks come between. -/
theorem exists_labels_append (t : Text) :
    ∃ pre, t = pre ++ afterLabels t ∧ (pre = [] ∨ Text.trimStart (afterLabels t) = afterLabels t) ∧
      ∀ u, pre = [] ∨ Text.trimStart u = u → afterLabels (pre ++ u) = afterLabels u := by
  fun_induction afterLabels t with
  | case1 body label hbody name tail hcut ih =>
    obtain ⟨pre, hpre, htrim, hafter⟩ := ih
    obtain ⟨rfl, hname⟩ := Text.cutAt_eq_some hcut
    refine ⟨body.takeWhile isBlank ++ '&' :: (name ++ ':' :: (tail.takeWhile isBlank ++ pre)), ?_, Or.inr ?_, ?_⟩
    · have htail := Text.takeWhile_append_trimStart tail
      rw [hpre] at htail
      conv_lhs => rw [← Text.takeWhile_append_trimStart body, hbody, ← htail]
      simp only [List.append_assoc, List.cons_append]
    · rcases htrim with rfl | htrim
      · rw [List.nil_append] at hpre
        rw [← hpre, trimStart_trimStart]
      · exact htrim
    · intro u hu
      replace hu := hu.resolve_left (by simp)
      -- A text in front of which a label was cut off begins with no blank.
      have hstart : Text.trimStart (pre ++ u) = pre ++ u := by
        cases pre with
        | nil => exact hu
        | cons c pre =>
          have hfirst := List.head?_dropWhile_not isBlank tail
          rw [← Text.trimStart, hpre] at hfirst
          exact List.dropWhile_cons_of_neg (by simpa using hfirst)
      have hlabel : Text.trimStart (body.takeWhile isBlank ++ '&' :: (name ++ ':' :: (tail.takeWhile isBlank ++ pre)) ++ u) =
          '&' :: (name ++ ':' :: (tail.takeWhile isBlank ++ (pre ++ u))) := by
        rw [List.append_assoc, trimStart_takeWhile_append]
        simp only [List.cons_append, List.append_assoc]
        exact List.dropWhile_cons_of_neg (by decide)
      rw [afterLabels_eq_of_label hlabel hname, trimStart_takeWhile_append, hstart, hafter u (Or.inr hu)]
  | case2 body label hbody hcut => exact ⟨[], rfl, Or.inl rfl, fun _ _ => rfl⟩
  | case3 body hbody => exact ⟨[], rfl, Or.inl rfl, fun _ _ => rfl⟩

/-- What stands behind a line that is not only labels stands behind what follows the labels. -/
theorem afterLabels_append {t : Text} {c : Char} {rest : Text} (h : Text.trimStart (afterLabels t) = c :: rest)
    (hc : c ≠ '&') (more : Text) : afterLabels (t ++ more) = afterLabels t ++ more := by
  obtain ⟨pre, hpre, htrim, hafter⟩ := exists_labels_append t
  have hstart : Text.trimStart (afterLabels t ++ more) = Text.trimStart (afterLabels t) ++ more :=
    trimStart_append (by simp [h]) more
  conv_lhs => rw [hpre, List.append_assoc]
  rw [hafter _ (htrim.imp_right fun htrim => by rw [hstart, htrim]), afterLabels_self]
  simpa [hstart, h] using hc

theorem splitLabels_eq {t pre body : Text} (h : t = pre ++ body) (hbody : afterLabels t = body) :
    splitLabels t = (pre, body) := by
  rw [splitLabels, hbody, h, List.length_append, Nat.add_sub_cancel, List.take_left]

private theorem takeWhile_append_return {t more : Text} (h : more = [] ∨ more = ['\r']) :
    (t ++ more).takeWhile Char.isDigit = t.takeWhile Char.isDigit := by
  have hmore : more.takeWhile Char.isDigit = [] := by
    rcases h with rfl | rfl <;> rfl
  rw [List.takeWhile_append, hmore, List.append_nil]
  split_ifs with hall
  · exact (List.takeWhile_prefix _).eq_of_length hall |>.symm
  · rfl

private theorem heading_of_content {inRecords : Bool} {t : Text} {st : Statement} {c : Content}
    (h : Statement.read? inRecords t = some st) (hc : st.content? = some c) :
    ∃ name rest, lineHeading? t = some (some (name, rest)) ∧ Content.read? inRecords name rest = some c := by
  rw [Statement.read?] at h
  split at h
  · cases h
  · cases h
    cases hc
  · rename_i name rest hheading
    obtain ⟨c', hc', rfl⟩ := Option.map_eq_some_iff.mp h
    obtain rfl := Option.some.inj hc
    exact ⟨name, rest, hheading, hc'⟩

/-- A line with content is its labels and an unlabelled line with the same content. -/
theorem readEnded?_splitLabels {t : Text} {st : Statement} {c : Content} (h : Statement.readEnded? t = some st)
    (hc : st.content? = some c) :
    t = (splitLabels t).1 ++ (splitLabels t).2 ∧ AddsLabels (splitLabels t).1 st.labels ∧
      Statement.readEnded? (splitLabels t).2 = some ⟨[], some c⟩ ∧
      declaredLength? (splitLabels t).2 = some c.length ∧ lineName? (splitLabels t).2 = some c.name := by
  obtain ⟨more, ht, hmore⟩ : ∃ more, t = Text.withoutReturn t ++ more ∧ (more = [] ∨ more = ['\r']) := by
    rcases Text.withoutReturn_cases t with hw | hw
    · exact ⟨[], by rw [hw, List.append_nil], Or.inl rfl⟩
    · exact ⟨['\r'], hw, Or.inr rfl⟩
  rw [Statement.readEnded?] at h
  obtain ⟨pre, names, hpre, hadds, hstop⟩ := exists_afterLabels (Text.withoutReturn t)
  let body := afterLabels (Text.withoutReturn t)
  rw [hpre, Statement.read?_addsLabels hadds] at h
  obtain ⟨st, hst, rfl⟩ := Option.map_eq_some_iff.mp h
  obtain ⟨name, rest, hheading, hcontent⟩ := heading_of_content hst hc
  have hlabels := lineLabels_of_stop hstop
  obtain ⟨hcut, hand, hsharp⟩ := heading_of_stop hstop hheading
  obtain ⟨htrim, hname⟩ := Text.cutAt_eq_some hcut
  obtain ⟨first, others, hfirst⟩ : ∃ first others, Text.trimStart body = first :: others := by
    apply List.exists_cons_of_ne_nil
    rw [htrim]
    simp
  have hne : body ≠ [] := by
    intro hnil
    rw [hnil] at hfirst
    cases hfirst
  have hsplit : splitLabels t = (pre, body ++ more) := by
    apply splitLabels_eq
    · rw [← List.append_assoc, ← hpre, ← ht]
    · conv_lhs => rw [ht]
      apply afterLabels_append hfirst
      intro he
      rw [hfirst, he] at hand
      exact hand rfl
  have hbody : Text.withoutReturn (body ++ more) = body := by
    rcases hmore with rfl | rfl
    · have hwhole := Text.withoutReturn_append (s := pre) fun h => absurd h hne
      rw [← hpre, ← List.append_nil (Text.withoutReturn t), ← ht, hpre] at hwhole
      rw [List.append_nil]
      exact (List.append_cancel_left hwhole).symm
    · exact Text.withoutReturn_concat body
  have hstNil : st.labels = [] := by
    rw [Statement.labels_of_read? hst, hlabels]
  have hreadBody : Statement.read? false body = some ⟨[], some c⟩ := by
    rw [hst, ← hstNil, ← hc]
    rfl
  rw [hsplit]
  have hlength : Text.readDigits? (rest.takeWhile Char.isDigit) = some c.length ∧ name = c.name := by
    rw [Content.read?] at hcontent
    simp only [Option.bind_eq_bind, Option.bind_eq_some_iff, Option.some.injEq] at hcontent
    obtain ⟨kind, -, length, hlength, tokens, -, rfl⟩ := hcontent
    exact ⟨hlength, rfl⟩
  refine ⟨?_, ?_, ?_, ?_, ?_⟩
  · rw [← List.append_assoc, ← hpre, ← ht]
  · rw [Statement.withLabels, hstNil, List.append_nil]
    exact hadds
  · rw [Statement.readEnded?, hbody, hreadBody]
  · have hblanks : '.' ∉ body.takeWhile isBlank ++ name := by
      rw [List.mem_append, not_or]
      exact ⟨fun hm => absurd (List.mem_takeWhile_imp hm) (by decide), hname⟩
    have hwhole : body ++ more = (body.takeWhile isBlank ++ name) ++ '.' :: (rest ++ more) := by
      conv_lhs => rw [← Text.takeWhile_append_trimStart body, htrim]
      simp
    rw [hwhole, declaredLength?_eq hblanks, takeWhile_append_return hmore]
    exact hlength.1
  · have hwhole : Text.trimStart (body ++ more) = Text.trimStart body ++ more := trimStart_append (by simp [hfirst]) more
    have hhead : (Text.trimStart (body ++ more)).head? = (Text.trimStart body).head? := by
      rw [hwhole, hfirst]
      rfl
    have hnamed : Text.trimStart (body ++ more) = name ++ '.' :: (rest ++ more) := by
      rw [hwhole, htrim, List.append_assoc, List.cons_append]
    rw [← hlength.2]
    exact lineName?_eq hnamed hname (hhead ▸ hand) (hhead ▸ hsharp)

/-- A trailer is still one when something stands behind it. -/
theorem isTrailer_append {t : Text} (h : isTrailer t = true) (more : Text) : isTrailer (t ++ more) = true := by
  obtain ⟨bytes, hbytes⟩ := List.isPrefixOf_iff_prefix.mp h
  have hbody : afterLabels t = 't' :: ("railer.".toList ++ bytes) := hbytes.symm
  have htrim : Text.trimStart (afterLabels t) = 't' :: ("railer.".toList ++ bytes) := by
    rw [hbody, Text.trimStart, List.dropWhile_cons_of_neg (by decide)]
  apply List.isPrefixOf_iff_prefix.mpr
  refine ⟨bytes ++ more, ?_⟩
  rw [← List.append_assoc, hbytes]
  exact (afterLabels_append htrim (by decide) more).symm

/-! ## The lines a patch writes -/

/-- What a jump to a label says. -/
def jumpContent (label : Text) (length : Nat) : Content :=
  ⟨.instruction Opcode.loopCond, Opcode.loopCondName, length,
    .target label :: List.replicate (length - 4) (.byte 0)⟩

/-- What an erased slot says. -/
def nopContent (length : Nat) : Content :=
  ⟨.instruction 0, Opcode.nopName, length, List.replicate (length - 2) (.byte 0)⟩

private theorem bytes_replicate (labelAt : Text → Nat) (offsets : List Nat) (count : Nat) :
    Token.bytes labelAt offsets (List.replicate count (.byte 0)) = List.replicate count 0 := by
  have hbytes := Token.bytes_map_byte labelAt offsets (List.replicate count 0) []
  rwa [List.map_replicate, List.append_nil, Token.bytes, List.append_nil] at hbytes

theorem bytes_jumpContent (labelAt : Text → Nat) (offsets : List Nat) (label : Text) (length : Nat) :
    (jumpContent label length).bytes labelAt offsets = [Opcode.loopCond, UInt8.ofNat length] ++
      (Bytes.word16 (labelAt label) ++ List.replicate (length - 4) 0) := by
  simp only [Content.bytes, jumpContent, LineKind.head, Token.bytes, bytes_replicate]

theorem bytes_nopContent (labelAt : Text → Nat) (offsets : List Nat) (length : Nat) :
    (nopContent length).bytes labelAt offsets = [0, UInt8.ofNat length] ++ List.replicate (length - 2) 0 := by
  simp only [Content.bytes, nopContent, LineKind.head, bytes_replicate]

private theorem pooled?_replicate (name : Text) (count : Nat) :
    (List.replicate count (Token.byte 0)).filterMap (Token.pooled? name) = [] := by
  rw [List.filterMap_eq_nil_iff]
  intro token htoken
  rw [List.eq_of_mem_replicate htoken]
  rfl

theorem strings_jumpContent (label : Text) (length : Nat) : (jumpContent label length).strings = [] := by
  rw [Content.strings, jumpContent, List.filterMap_cons_none rfl, pooled?_replicate]

theorem strings_nopContent (length : Nat) : (nopContent length).strings = [] := pooled?_replicate _ _

private theorem zeroBytes_succ (count : Nat) :
    zeroBytes (count + 1) = Bytes.hexPair 0 ++ if count = 0 then [] else '-' :: zeroBytes count := by
  cases count with
  | zero => rfl
  | succ count =>
    rw [zeroBytes, zeroBytes, List.replicate_succ, List.replicate_succ, List.intercalate_cons_cons, if_neg (by omega),
      List.append_assoc]
    rfl

private theorem readAll?_zeroBytes (count : Nat) :
    Token.readAll? false 0 (zeroBytes count) = some (List.replicate count (.byte 0)) := by
  induction count with
  | zero => exact Token.readAll?_nil _ _
  | succ count ih =>
    rw [zeroBytes_succ, Token.readAll?_hexPair]
    split_ifs with hcount
    · rw [Token.readAll?_nil, hcount]
      rfl
    · rw [Token.readAll?_gap _ _ _ (Or.inl rfl), ih]
      rfl

private theorem plain_of_mem_zeroBytes {count : Nat} : ∀ c ∈ zeroBytes count, c ≠ '\n' ∧ c ≠ '\r' := by
  refine Row.forall_mem_intercalate (p := fun c => c ≠ '\n' ∧ c ≠ '\r') (by decide) fun t ht => ?_
  rw [List.eq_of_mem_replicate ht]
  simp

private theorem read?_instruction {name operands : Text} {opcode : UInt8} {length : Nat} {tokens : List Token}
    (hname : Row.isName name = true) (hkind : LineKind.ofName? false name = some (.instruction opcode))
    (hlength : length < Text.numberBound) (htokens : Token.readAll? false 0 operands = some tokens) :
    Statement.read? false (name ++ '.' :: (Text.decimal length ++ ' ' :: operands)) =
      some ⟨[], some ⟨.instruction opcode, name, length, tokens⟩⟩ := by
  have hblank : isBlank ' ' = true := by decide
  have hspace : ∀ c ∈ (' ' :: operands).head?, c.isDigit = false := by
    rintro c ⟨rfl⟩
    rfl
  obtain ⟨hlabels, hheading⟩ := Row.heading_name hname (Text.decimal length ++ ' ' :: operands)
  obtain ⟨htake, hdrop⟩ := Token.takeWhile_boundary (List.all_eq_true.mp (Text.all_isDigit_decimal length)) hspace
  have htokens' : Token.readAll? (LineKind.instruction opcode == .trailer) 0 (' ' :: operands) = some tokens := by
    rw [Token.readAll?_gap _ _ _ (Or.inr hblank)]
    exact htokens
  rw [Statement.read?, hheading, hlabels]
  simp only [Content.read?, hkind, htake, hdrop, Text.readDigits?_decimal hlength, htokens', Option.bind_eq_bind,
    Option.bind_some, Option.map_some]

/-- A jump is read as one. -/
theorem read?_jumpTo {label : Text} {length : Nat} (hne : label ≠ []) (hlabel : ∀ c ∈ label, isLabelChar c = true)
    (hlength : length < Text.numberBound) :
    Statement.read? false (jumpTo label length) = some ⟨[], some (jumpContent label length)⟩ := by
  have hdash : ∀ c ∈ ('-' :: zeroBytes (length - 4)).head?, isLabelChar c = false := by
    rintro c ⟨rfl⟩
    rfl
  obtain ⟨htake, hdrop⟩ := Token.takeWhile_boundary hlabel hdash
  apply read?_instruction (by decide) (by decide) hlength
  rw [Token.readAll?_target _ (by rwa [htake]), htake, hdrop, Token.readAll?_gap _ _ _ (Or.inl rfl),
    readAll?_zeroBytes, Option.map_some]

/-- An instruction without effect of some length. -/
def nopOf (length : Nat) : Text := Opcode.nopName ++ '.' :: (Text.decimal length ++ ' ' :: zeroBytes (length - 2))

theorem read?_nopOf {length : Nat} (hlength : length < Text.numberBound) :
    Statement.read? false (nopOf length) = some ⟨[], some (nopContent length)⟩ :=
  read?_instruction (by decide) (by decide) hlength (readAll?_zeroBytes _)

theorem plain_of_mem_jumpTo {label : Text} {length : Nat} (hlabel : ∀ c ∈ label, isLabelChar c = true) :
    ∀ c ∈ jumpTo label length, c ≠ '\n' ∧ c ≠ '\r' := by
  intro c hc
  simp only [jumpTo, List.mem_append, List.mem_cons] at hc
  rcases hc with hc | rfl | hc | rfl | rfl | hc | rfl | hc
  · exact Row.plain_of_mem_name (by decide) c hc
  · decide
  · exact Row.plain_of_isLabelChar (isLabelChar_of_mem_decimal hc)
  · decide
  · decide
  · exact Row.plain_of_isLabelChar (hlabel c hc)
  · decide
  · exact plain_of_mem_zeroBytes c hc

theorem plain_of_mem_nopOf {length : Nat} : ∀ c ∈ nopOf length, c ≠ '\n' ∧ c ≠ '\r' := by
  intro c hc
  simp only [nopOf, List.mem_append, List.mem_cons] at hc
  rcases hc with hc | rfl | hc | rfl | hc
  · exact Row.plain_of_mem_name (by decide) c hc
  · decide
  · exact Row.plain_of_isLabelChar (isLabelChar_of_mem_decimal hc)
  · decide
  · exact plain_of_mem_zeroBytes c hc

theorem isLabelChar_of_mem_overflowLabel (index : Nat) : ∀ c ∈ overflowLabel index, isLabelChar c = true := by
  intro c hc
  rcases List.mem_cons.mp hc with rfl | hc
  · rfl
  · exact isLabelChar_of_mem_decimal hc

theorem isLabelChar_of_mem_resumeLabel (index : Nat) : ∀ c ∈ resumeLabel index, isLabelChar c = true := by
  intro c hc
  rcases List.mem_cons.mp hc with rfl | hc
  · rfl
  rcases List.mem_cons.mp hc with rfl | hc
  · rfl
  · exact isLabelChar_of_mem_decimal hc

/-- A label definition in front of a line adds the label to it. -/
theorem addsLabels_defining {label : Text} (h : ∀ c ∈ label, isLabelChar c = true) :
    AddsLabels (defining label) [label] := by
  have hcolon : ':' ∉ label := by
    intro hm
    exact absurd (h _ hm) (by decide)
  have hspace : AddsLabels [' '] [] := addsLabels_blanks (by simp [isBlank])
  have heq : defining label = ('&' :: (label ++ [':'])) ++ [' '] := by simp [defining]
  rw [heq]
  exact (addsLabels_define hcolon).append hspace

theorem notMem_feed_defining {label : Text} (h : ∀ c ∈ label, isLabelChar c = true) : '\n' ∉ defining label := by
  intro hm
  simp only [defining, List.mem_cons, List.mem_append, List.not_mem_nil, or_false] at hm
  rcases hm with hm | hm | hm | hm
  · cases hm
  · exact (Row.plain_of_isLabelChar (h _ hm)).1 rfl
  · cases hm
  · cases hm

theorem getLast?_defining (label : Text) : (defining label).getLast? ≠ some '\r' := by
  rw [defining, ← List.cons_append, List.getLast?_append_of_ne_nil _ (List.cons_ne_nil _ _)]
  decide

theorem readEnded?_defining {label : Text} (h : ∀ c ∈ label, isLabelChar c = true) (t : Text) :
    Statement.readEnded? (defining label ++ t) = (Statement.readEnded? t).map (Statement.withLabels [label]) := by
  rw [Statement.readEnded?, Text.withoutReturn_append fun _ => getLast?_defining label,
    Statement.read?_addsLabels (addsLabels_defining h)]
  rfl

end SceneScript
