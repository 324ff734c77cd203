import Mathlib
import SceneScript.Session.DumpCache
/-!
# What the cache of dumps remembers

The cache keeps two lists, the dumps and the names that were edited. After any calls, what it has for a name is read off the
calls since it was last cleared: the dump of the last edit of the name, or else the first one that was stored for it.
-/
namespace SceneScript.DumpCache

/-! ## One call -/

/-- A dump is stored where there is none. -/
theorem get?_insertFirst_eq (cache : DumpCache) (name other : String) (dump : Text) :
    (cache.insertFirst name dump).1.get? other = (cache.get? other).or (if name = other then some dump else none) := by
  rw [insertFirst]
  split
  · rename_i kept hkept
    split_ifs with h
    · subst h
      rw [hkept, Option.some_or]
    · rw [Option.or_none]
  · rename_i hnone
    rw [get?, List.lookup_cons]
    split_ifs with h
    · subst h
      rw [beq_self_eq_true, hnone, Option.none_or]
    · rw [beq_eq_false_iff_ne.mpr (Ne.symm h), Option.or_none]
      rfl

theorem get?_insertFirst (cache : DumpCache) (name : String) (dump : Text) :
    (cache.insertFirst name dump).1.get? name = some (cache.insertFirst name dump).2 := by
  rw [insertFirst]
  split
  · assumption
  · exact List.lookup_cons_self

/-- A dump that is there stays when another is stored. -/
theorem get?_insertFirst_of_some {cache : DumpCache} {name other : String} {dump kept : Text}
    (h : cache.get? other = some kept) : (cache.insertFirst name dump).1.get? other = some kept := by
  rw [get?_insertFirst_eq, h, Option.some_or]

theorem get?_insertFirst_ne (cache : DumpCache) {name other : String} (h : other ≠ name) (dump : Text) :
    (cache.insertFirst name dump).1.get? other = cache.get? other := by
  rw [get?_insertFirst_eq, if_neg (Ne.symm h), Option.or_none]

theorem snd_insertFirst_of_none {cache : DumpCache} {name : String} (h : cache.get? name = none) (dump : Text) :
    (cache.insertFirst name dump).2 = dump := by
  rw [insertFirst, h]

theorem edited_insertFirst (cache : DumpCache) (name : String) (dump : Text) :
    (cache.insertFirst name dump).1.edited = cache.edited := by
  rw [insertFirst]
  split <;> rfl

/-- An edit is seen under its name alone. -/
theorem get?_edit (cache : DumpCache) (name other : String) (dump : Text) :
    (cache.edit name dump).get? other = if other = name then some dump else cache.get? other := by
  rw [get?, edit, List.lookup_cons]
  by_cases h : other = name
  · rw [if_pos h, h, beq_self_eq_true]
  · rw [if_neg h, beq_eq_false_iff_ne.mpr h, get?]
    dsimp only
    induction cache.dumps with
    | nil => rfl
    | cons p dumps ih =>
      obtain ⟨key, kept⟩ := p
      rw [List.filter_cons, List.lookup_cons]
      by_cases hkey : key = name
      · rw [if_neg (by simpa using hkey), hkey, beq_eq_false_iff_ne.mpr h]
        exact ih
      · rw [if_pos (by simpa using hkey), List.lookup_cons, ih]

theorem mem_insertName {name other : String} {names : List String} :
    other ∈ insertName name names ↔ other = name ∨ other ∈ names := by
  induction names with
  | nil => rw [insertName, List.mem_singleton, or_iff_left List.not_mem_nil]
  | cons first more ih =>
    rw [insertName]
    split_ifs with hlt heq
    · exact List.mem_cons
    · subst heq
      rw [List.mem_cons, ← or_assoc, or_self]
    · rw [List.mem_cons, ih, List.mem_cons, or_left_comm]

/-- Names in order stay in order, and none is listed twice. -/
theorem pairwise_insertName {names : List String} (h : names.Pairwise (· < ·)) (name : String) :
    (insertName name names).Pairwise (· < ·) := by
  induction names with
  | nil => exact List.pairwise_singleton _ _
  | cons first more ih =>
    rw [List.pairwise_cons] at h
    rw [insertName]
    split_ifs with hlt heq
    · refine List.pairwise_cons.mpr ⟨?_, List.pairwise_cons.mpr h⟩
      rw [List.forall_mem_cons]
      exact ⟨hlt, fun other hother => hlt.trans (h.1 other hother)⟩
    · exact List.pairwise_cons.mpr h
    · refine List.pairwise_cons.mpr ⟨fun other hother => ?_, ih h.2⟩
      rcases mem_insertName.mp hother with rfl | hother
      · exact lt_of_le_of_ne (not_lt.mp hlt) (Ne.symm heq)
      · exact h.1 other hother

/-- The names that have a dump. -/
def names (cache : DumpCache) : List String := cache.dumps.map Prod.fst

theorem isSome_get? {cache : DumpCache} {name : String} : (cache.get? name).isSome ↔ name ∈ cache.names := by
  rw [← not_iff_not, Option.not_isSome_iff_eq_none, get?, List.lookup_eq_none_iff, names, List.mem_map]
  constructor
  · rintro hnone ⟨p, hp, rfl⟩
    exact bne_iff_ne.mp (hnone p hp) rfl
  · intro hnone p hp
    exact bne_iff_ne.mpr fun heq => hnone ⟨p, hp, heq.symm⟩

/-! ## Calls -/

/-- A call that changes the cache. -/
inductive Call where
  | insertFirst (name : String) (dump : Text)
  | edit (name : String) (dump : Text)
  | clear
deriving DecidableEq, Repr

def step (cache : DumpCache) : Call → DumpCache
  | .insertFirst name dump => (cache.insertFirst name dump).1
  | .edit name dump => cache.edit name dump
  | .clear => empty

/-- What some calls make of an empty cache. -/
def after (calls : List Call) : DumpCache := calls.foldl step empty

theorem after_concat (calls : List Call) (call : Call) : after (calls ++ [call]) = (after calls).step call := by
  rw [after, List.foldl_append, List.foldl_cons, List.foldl_nil, ← after]

/-- The calls behind the last one that clears the cache. -/
def sinceClear (calls : List Call) : List Call := calls.rtakeWhile (· ≠ .clear)

/-- The dump a call edits a name to. -/
def Call.editOf? (name : String) : Call → Option Text
  | .edit other dump => if other = name then some dump else none
  | .insertFirst _ _ | .clear => none

/-- The dump a call stores for a name that has none. -/
def Call.insertOf? (name : String) : Call → Option Text
  | .insertFirst other dump => if other = name then some dump else none
  | .edit _ _ | .clear => none

def lastEdit? (name : String) (calls : List Call) : Option Text := (calls.filterMap (Call.editOf? name)).getLast?

def firstInsert? (name : String) (calls : List Call) : Option Text := (calls.filterMap (Call.insertOf? name)).head?

theorem lastEdit?_concat (name : String) (calls : List Call) (call : Call) :
    lastEdit? name (calls ++ [call]) = (call.editOf? name).or (lastEdit? name calls) := by
  rw [lastEdit?, List.filterMap_append, List.getLast?_append, lastEdit?]
  cases h : call.editOf? name <;> simp [h]

theorem firstInsert?_concat (name : String) (calls : List Call) (call : Call) :
    firstInsert? name (calls ++ [call]) = (firstInsert? name calls).or (call.insertOf? name) := by
  rw [firstInsert?, List.filterMap_append, List.head?_append, firstInsert?]
  cases h : call.insertOf? name <;> simp [h]

theorem isSome_lastEdit? {name : String} {calls : List Call} :
    (lastEdit? name calls).isSome ↔ ∃ dump, Call.edit name dump ∈ calls := by
  rw [lastEdit?, List.getLast?_isSome]
  constructor
  · intro hne
    obtain ⟨dump, hdump⟩ := List.exists_mem_of_ne_nil _ hne
    obtain ⟨call, hcall, hedit⟩ := List.mem_filterMap.mp hdump
    cases call with
    | edit other dump' =>
      rw [Call.editOf?] at hedit
      split_ifs at hedit with heq
      exact ⟨dump', heq ▸ hcall⟩
    | insertFirst _ _ => cases hedit
    | clear => cases hedit
  · rintro ⟨dump, hmem⟩
    exact List.ne_nil_of_mem (List.mem_filterMap.mpr ⟨_, hmem, if_pos rfl⟩)

/-- Whether a cache holds what some calls, none of which clears it, leave in an empty one. -/
structure Recalls (cache : DumpCache) (calls : List Call) : Prop where
  get?_eq : ∀ name, cache.get? name = (lastEdit? name calls).or (firstInsert? name calls)
  mem_edited : ∀ name, name ∈ cache.edited ↔ ∃ dump, Call.edit name dump ∈ calls
  sorted : cache.edited.Pairwise (· < ·)
  nodup : cache.names.Nodup

theorem recalls_empty : Recalls empty [] where
  get?_eq := fun _ => rfl
  mem_edited := fun name => by simp [empty]
  sorted := .nil
  nodup := .nil

namespace Recalls

variable {cache : DumpCache} {calls : List Call}

theorem insertFirst (h : Recalls cache calls) (name : String) (dump : Text) :
    Recalls (cache.insertFirst name dump).1 (calls ++ [.insertFirst name dump]) where
  get?_eq := by
    intro other
    rw [get?_insertFirst_eq, h.get?_eq, lastEdit?_concat, firstInsert?_concat, Call.editOf?, Call.insertOf?, Option.none_or,
      Option.or_assoc]
  mem_edited := by
    intro other
    rw [edited_insertFirst, h.mem_edited]
    simp
  sorted := by
    rw [edited_insertFirst]
    exact h.sorted
  nodup := by
    rw [DumpCache.insertFirst]
    split
    · exact h.nodup
    · rename_i hnone
      refine List.nodup_cons.mpr ⟨fun hmem => ?_, h.nodup⟩
      rw [← names, ← isSome_get?, hnone] at hmem
      cases hmem

theorem edit (h : Recalls cache calls) (name : String) (dump : Text) :
    Recalls (cache.edit name dump) (calls ++ [.edit name dump]) where
  get?_eq := by
    intro other
    rw [get?_edit, h.get?_eq, lastEdit?_concat, firstInsert?_concat, Call.editOf?, Call.insertOf?, Option.or_none]
    by_cases heq : other = name
    · rw [if_pos heq, if_pos heq.symm]
      rfl
    · rw [if_neg heq, if_neg (Ne.symm heq), Option.none_or]
  mem_edited := by
    intro other
    rw [DumpCache.edit, mem_insertName, h.mem_edited]
    simp only [List.mem_append, List.mem_singleton, Call.edit.injEq, exists_or, exists_and_left, exists_eq, and_true, or_comm]
  sorted := pairwise_insertName h.sorted name
  nodup := by
    rw [DumpCache.edit, names, List.map_cons, List.nodup_cons]
    refine ⟨fun hmem => ?_, h.nodup.sublist (List.filter_sublist.map _)⟩
    obtain ⟨p, hp, heq⟩ := List.mem_map.mp hmem
    simpa [heq] using (List.mem_filter.mp hp).2

/-- The size of a cache is the number of names that have a dump. -/
theorem encard_eq_size (h : Recalls cache calls) : {name | (cache.get? name).isSome}.encard = cache.size := by
  have hset : {name | (cache.get? name).isSome} = (cache.names.toFinset : Set String) := by
    ext name
    rw [List.coe_toFinset]
    exact isSome_get?
  rw [hset, Set.encard_coe_eq_coe_finsetCard, List.toFinset_card_of_nodup h.nodup, names, List.length_map, size]

end Recalls

/-- A cache holds what the calls since it was last cleared leave in it. -/
theorem recalls_after (calls : List Call) : Recalls (after calls) (sinceClear calls) := by
  induction calls using List.reverseRecOn with
  | nil => exact recalls_empty
  | append_singleton calls call ih =>
    rw [after_concat, sinceClear, List.rtakeWhile_concat, ← sinceClear]
    cases call with
    | insertFirst name dump => exact ih.insertFirst name dump
    | edit name dump => exact ih.edit name dump
    | clear => exact recalls_empty

/-- After any calls, the cache has for a name the dump of its last edit since the cache was cleared, or else the first dump that
was stored for it since then; a call that stores a dump returns the one that is there afterwards. The names that were edited
since then are listed in order, each once and each with a dump, and the size is the number of names with a dump. -/
theorem remembers_after (calls : List Call) :
    let cache := after calls
    let recent := sinceClear calls
    (∀ name, cache.get? name = (lastEdit? name recent).or (firstInsert? name recent)) ∧
      (∀ name dump, (after (calls ++ [.insertFirst name dump])).get? name = some (cache.insertFirst name dump).2) ∧
      cache.edited.Pairwise (· < ·) ∧ (∀ name, name ∈ cache.edited ↔ ∃ dump, Call.edit name dump ∈ recent) ∧
      (∀ name ∈ cache.edited, (cache.get? name).isSome) ∧ {name | (cache.get? name).isSome}.encard = cache.size := by
  intro cache recent
  have h : Recalls cache recent := recalls_after calls
  refine ⟨h.get?_eq, fun name dump => ?_, h.sorted, h.mem_edited, fun name hname => ?_, h.encard_eq_size⟩
  · rw [after_concat]
    exact get?_insertFirst cache name dump
  · rw [h.get?_eq, Option.isSome_or, isSome_lastEdit?.mpr ((h.mem_edited name).mp hname), Bool.true_or]

end SceneScript.DumpCache
