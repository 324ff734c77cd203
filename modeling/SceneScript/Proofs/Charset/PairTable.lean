import Mathlib
import SceneScript.Charset.PairTable
/-!
# Tables read in both directions

The code that a character is written as stands for that character when it is read, since each code of the index is the
code of one of the cells. The index leaves no cell out: whatever stands in a row of written codes has a code.
-/
namespace SceneScript

/-! ## Rows -/

/-- Whether all the characters of some rows have a property. -/
def RowsHold (p : Char → Bool) (rows : List (UInt8 × String)) : Prop := ∀ row ∈ rows, ∀ c ∈ row.2.toList, p c = true

theorem rowsHold_nil (p : Char → Bool) : RowsHold p [] := fun _ h => nomatch h

-- The rows are long literals, which the kernel checks quickest as lists of characters.
theorem rowsHold_cons {p : Char → Bool} {lead : UInt8} {row : List Char} {more : List (UInt8 × String)}
    (h : row.all p = true) (hmore : RowsHold p more) : RowsHold p ((lead, String.ofList row) :: more) := by
  rw [RowsHold, List.forall_mem_cons]
  refine ⟨fun c hc => ?_, hmore⟩
  dsimp only at hc
  rw [String.toList_ofList] at hc
  exact List.all_eq_true.mp h c hc

/-! ## Trail bytes and places -/

namespace TrailRuns

/-- How many trail bytes there are. -/
def places (runs : TrailRuns) : Nat := (runs.map fun run => run.2 + 1 - run.1).sum

theorem places_cons (run : Nat × Nat) (more : TrailRuns) :
    places (run :: more) = run.2 + 1 - run.1 + places more := rfl

/-- A trail byte lies in one of the runs. -/
theorem exists_run_of_trailAt? {runs : TrailRuns} {k trail : Nat} (h : runs.trailAt? k = some trail) :
    ∃ run ∈ runs, run.1 ≤ trail ∧ trail ≤ run.2 := by
  induction runs generalizing k with
  | nil => cases h
  | cons run more ih =>
    rw [trailAt?] at h
    split_ifs at h with hle
    · obtain rfl := Option.some.inj h
      exact ⟨run, List.mem_cons_self, Nat.le_add_right _ _, hle⟩
    · obtain ⟨run', hrun, hbounds⟩ := ih h
      exact ⟨run', List.mem_cons_of_mem _ hrun, hbounds⟩

/-- In runs that follow each other a place is found again from its trail byte. -/
theorem place?_of_trailAt? {runs : TrailRuns} (hruns : runs.Pairwise fun run run' => run.2 < run'.1) {k trail : Nat}
    (h : runs.trailAt? k = some trail) : runs.place? trail = some k := by
  induction runs generalizing k with
  | nil => cases h
  | cons run more ih =>
    rw [List.pairwise_cons] at hruns
    rw [trailAt?] at h
    rw [place?]
    split_ifs at h with hle
    · obtain rfl := Option.some.inj h
      rw [if_pos ⟨Nat.le_add_right _ _, hle⟩, Nat.add_sub_cancel_left]
    · obtain ⟨run', hrun, hlow, -⟩ := exists_run_of_trailAt? h
      have hpast := hruns.1 run' hrun
      rw [if_neg (by omega), ih hruns.2 h, Option.map_some, Option.some.injEq]
      omega

/-- The places of a row are numbered through. -/
theorem place?_lt {runs : TrailRuns} {n k : Nat} (h : runs.place? n = some k) : k < runs.places := by
  induction runs generalizing k with
  | nil => cases h
  | cons run more ih =>
    rw [place?] at h
    rw [places_cons]
    split_ifs at h with hle
    · obtain rfl := Option.some.inj h
      omega
    · obtain ⟨k', hk, rfl⟩ := Option.map_eq_some_iff.mp h
      have := ih hk
      omega

/-- Each place of a row has a trail byte. -/
theorem exists_trailAt? {runs : TrailRuns} {k : Nat} (h : k < runs.places) : ∃ trail, runs.trailAt? k = some trail := by
  induction runs generalizing k with
  | nil => exact absurd h (Nat.not_lt_zero k)
  | cons run more ih =>
    rw [places_cons] at h
    rw [trailAt?]
    by_cases hle : run.1 + k ≤ run.2
    · exact ⟨_, if_pos hle⟩
    · rw [if_neg hle]
      apply ih
      omega

end TrailRuns

/-! ## The index -/

/-- Whatever is found in the index is the code of a cell with that character. -/
private theorem mem_of_getElem?_indexOf {lastWins : List Char} {cells : List (Code × Char)} {n : Nat} {code : Code}
    (h : (indexOf lastWins cells)[n]? = some code) : ∃ c, (code, c) ∈ cells ∧ c.toNat = n := by
  have hfold : ∀ index : Std.HashMap Nat Code,
      (cells.foldl (fun index cell => if lastWins.contains cell.2 then index.insert cell.2.toNat cell.1
        else index.insertIfNew cell.2.toNat cell.1) index)[n]? = some code →
      index[n]? = some code ∨ ∃ c, (code, c) ∈ cells ∧ c.toNat = n := by
    clear h
    induction cells with
    | nil => exact fun _ h => Or.inl h
    | cons cell more ih =>
      intro index h
      rcases ih _ h with h | ⟨c, hc, hn⟩
      · -- The cell itself was entered, or the code was there before.
        have hcell : index[n]? = some code ∨ (cell.1 = code ∧ cell.2.toNat = n) := by
          dsimp only at h
          split_ifs at h
          · rw [Std.HashMap.getElem?_insert] at h
            split_ifs at h with heq
            · exact Or.inr ⟨Option.some.inj h, eq_of_beq heq⟩
            · exact Or.inl h
          · rw [Std.HashMap.getElem?_insertIfNew] at h
            split_ifs at h with heq
            · exact Or.inr ⟨Option.some.inj h, eq_of_beq heq.1⟩
            · exact Or.inl h
        refine hcell.imp_right ?_
        rintro ⟨rfl, hn⟩
        exact ⟨cell.2, List.mem_cons_self, hn⟩
      · exact Or.inr ⟨c, List.mem_cons_of_mem _ hc, hn⟩
  refine (hfold ∅ h).resolve_left fun hempty => ?_
  rw [Std.HashMap.getElem?_empty] at hempty
  cases hempty

/-- The characters of the cells are in the index. -/
private theorem mem_indexOf {lastWins : List Char} {cells : List (Code × Char)} {code : Code} {c : Char}
    (h : (code, c) ∈ cells) : c.toNat ∈ indexOf lastWins cells := by
  have hfold : ∀ index : Std.HashMap Nat Code, c.toNat ∈ index ∨ (∃ code, (code, c) ∈ cells) →
      c.toNat ∈ cells.foldl (fun index cell => if lastWins.contains cell.2 then index.insert cell.2.toNat cell.1
        else index.insertIfNew cell.2.toNat cell.1) index := by
    clear h
    induction cells with
    | nil => simp
    | cons cell more ih =>
      intro index h
      apply ih
      rcases h with h | ⟨code, hcode⟩
      · apply Or.inl
        dsimp only
        split_ifs <;> simp [h]
      · rcases List.mem_cons.mp hcode with rfl | hcode
        · apply Or.inl
          dsimp only
          split_ifs <;> simp
        · exact .inr ⟨code, hcode⟩
  exact hfold ∅ (.inr ⟨code, h⟩)

private theorem mem_cellsOf {runs : TrailRuns} {rows : List (UInt8 × String)} {row : UInt8 × String} (hrow : row ∈ rows)
    (hlength : row.2.toList.length ≤ runs.places) {c : Char} (hc : c ∈ row.2.toList)
    (hassigned : c ≠ unassigned) : ∃ trail, ((row.1, trail), c) ∈ cellsOf runs rows := by
  obtain ⟨k, hk, rfl⟩ := List.mem_iff_getElem.mp hc
  obtain ⟨trail, htrail⟩ := TrailRuns.exists_trailAt? (Nat.lt_of_lt_of_le hk hlength)
  refine ⟨UInt8.ofNat trail, List.mem_flatMap.mpr ⟨row, hrow, List.mem_filterMap.mpr ⟨(row.2.toList[k], k), ?_, ?_⟩⟩⟩
  · rw [List.mem_zipIdx_iff_getElem?]
    exact List.getElem?_eq_getElem hk
  · simp [hassigned, htrail]

private theorem exists_of_mem_cellsOf {runs : TrailRuns} {rows : List (UInt8 × String)} {code : Code} {c : Char}
    (h : (code, c) ∈ cellsOf runs rows) : ∃ row k trail, (code.1, row) ∈ rows ∧ row.toList[k]? = some c ∧
      c ≠ unassigned ∧ runs.trailAt? k = some trail ∧ code.2 = UInt8.ofNat trail := by
  obtain ⟨⟨lead, row⟩, hrow, h⟩ := List.mem_flatMap.mp h
  obtain ⟨⟨c', k⟩, hcell, h⟩ := List.mem_filterMap.mp h
  dsimp only at h
  split_ifs at h with hassigned
  obtain ⟨trail, htrail, heq⟩ := Option.map_eq_some_iff.mp h
  obtain ⟨rfl, rfl⟩ := Prod.mk.inj heq
  have hc := List.mem_zipIdx' hcell
  exact ⟨row, k, trail, hrow, hc.2 ▸ List.getElem?_eq_getElem hc.1, hassigned, htrail, rfl⟩

namespace PairTable

variable {runs : TrailRuns} {rows : List (UInt8 × String)} {written : UInt8 → Bool} {lastWins : List Char}

private theorem getElem?_grid (lead : UInt8) :
    (build runs rows written lastWins).grid[lead.toNat]? = some ((rows.lookup lead).getD "").toList.toArray := by
  have hlt : lead.toNat < (Array.range 256).size := by
    rw [Array.size_range]
    exact lead.toNat_lt
  rw [build, Array.getElem?_map, Array.getElem?_eq_getElem hlt, Array.getElem_range, Option.map_some, UInt8.ofNat_toNat]

/-- A character that is read stands in a row. -/
theorem exists_row_of_char? {lead trail : UInt8} {c : Char}
    (h : (build runs rows written lastWins).char? lead trail = some c) : ∃ row ∈ rows, c ∈ row.2.toList := by
  rw [char?, getElem?_grid] at h
  obtain ⟨row, hrow, h⟩ := Option.bind_eq_some_iff.mp h
  obtain ⟨place, -, h⟩ := Option.bind_eq_some_iff.mp h
  obtain ⟨c', hc, h⟩ := Option.bind_eq_some_iff.mp h
  split_ifs at h
  obtain rfl := Option.some.inj h
  obtain rfl := Option.some.inj hrow
  rw [List.getElem?_toArray] at hc
  cases hlookup : rows.lookup lead with
  | none =>
    rw [hlookup] at hc
    cases hc
  | some row =>
    rw [hlookup] at hc
    obtain ⟨before, after, rfl, -⟩ := List.lookup_eq_some_iff.mp hlookup
    exact ⟨(lead, row), by simp, List.mem_of_getElem? hc⟩

/-- A row is found by its lead byte in rows that are sorted by their lead bytes. -/
private theorem lookup_of_mem {lead : UInt8} {row : String}
    (hleads : (rows.map fun row => row.1.toNat).IsChain (· < ·)) (h : (lead, row) ∈ rows) :
    rows.lookup lead = some row := by
  obtain ⟨before, after, rfl⟩ := List.append_of_mem h
  rw [List.isChain_iff_pairwise, List.map_append, List.map_cons, List.pairwise_append] at hleads
  refine List.lookup_eq_some_iff.mpr ⟨before, after, rfl, fun p hp => ?_⟩
  have hlt := hleads.2.2 p.1.toNat (List.mem_map_of_mem hp) lead.toNat List.mem_cons_self
  rw [bne_iff_ne]
  rintro rfl
  exact Nat.lt_irrefl _ hlt

/-- The code of a character has a written lead byte and is read as that character. -/
theorem char?_of_code? (hruns : runs.Pairwise fun run run' => run.2 < run'.1) (hbytes : ∀ run ∈ runs, run.2 < 256)
    (hleads : (rows.map fun row => row.1.toNat).IsChain (· < ·)) {c : Char} {code : Code}
    (h : (build runs rows written lastWins).code? c = some code) :
    (build runs rows written lastWins).char? code.1 code.2 = some c ∧ written code.1 = true ∧
      ∃ row ∈ rows, row.1 = code.1 := by
  obtain ⟨c', hmem, hc⟩ := mem_of_getElem?_indexOf h
  obtain rfl := Char.toNat_inj.mp hc
  obtain ⟨hcell, hwritten⟩ := List.mem_filter.mp hmem
  obtain ⟨row, k, trail, hrow, hk, hassigned, htrail, hcode⟩ := exists_of_mem_cellsOf hcell
  refine ⟨?_, hwritten, _, hrow, rfl⟩
  have hplace : runs.place? code.2.toNat = some k := by
    obtain ⟨run, hrun, -, hle⟩ := TrailRuns.exists_run_of_trailAt? htrail
    have hlt := hbytes run hrun
    rw [hcode, UInt8.toNat_ofNat_of_lt' (by rw [UInt8.size]; omega)]
    exact TrailRuns.place?_of_trailAt? hruns htrail
  rw [char?, getElem?_grid, lookup_of_mem hleads hrow]
  change ((runs.place? code.2.toNat).bind fun place => (row.toList.toArray)[place]?.bind _) = some c'
  rw [hplace, Option.bind_some, List.getElem?_toArray, hk, Option.bind_some, if_neg hassigned]

/-- A character with a code stands in a row. -/
theorem exists_row_of_code? {c : Char} {code : Code} (h : (build runs rows written lastWins).code? c = some code) :
    ∃ row ∈ rows, c ∈ row.2.toList := by
  obtain ⟨c', hmem, hc⟩ := mem_of_getElem?_indexOf h
  obtain rfl := Char.toNat_inj.mp hc
  obtain ⟨row, k, trail, hrow, hk, -⟩ := exists_of_mem_cellsOf (List.mem_of_mem_filter hmem)
  exact ⟨_, hrow, List.mem_of_getElem? hk⟩

/-- A character in a row of written codes has a code, if the row is no longer than its trail bytes. -/
theorem exists_code?_of_mem {row : UInt8 × String} (hrow : row ∈ rows) (hwritten : written row.1 = true)
    (hlength : row.2.toList.length ≤ runs.places) {c : Char} (hc : c ∈ row.2.toList)
    (hassigned : c ≠ unassigned) : ∃ code, (build runs rows written lastWins).code? c = some code := by
  obtain ⟨trail, hcell⟩ := mem_cellsOf hrow hlength hc hassigned
  have hindex : c.toNat ∈ (build runs rows written lastWins).index :=
    mem_indexOf (List.mem_filter.mpr ⟨hcell, hwritten⟩)
  exact ⟨_, Std.HashMap.getElem?_eq_some_getElem hindex⟩

end PairTable
end SceneScript
