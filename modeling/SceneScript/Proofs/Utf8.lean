import Mathlib
import SceneScript.Text.Utf8
/-!
# UTF-8 read back

A text that was written is read as it was, by the strict reader and by the one that replaces broken parts.
-/
namespace SceneScript.Utf8

private theorem toNat_ofNat {n : Nat} (h : n < 256) : (UInt8.ofNat n).toNat = n := by
  rw [UInt8.toNat_ofNat', Nat.mod_eq_of_lt h]

private theorem le_iff {a b : UInt8} : a ≤ b ↔ a.toNat ≤ b.toNat := UInt8.le_iff_toNat_le

/-- The byte that continues a sequence with some low bits. -/
private def following (low : Nat) : UInt8 := UInt8.ofNat (low + 128)

private theorem toNat_following {low : Nat} (h : low < 64) : (following low).toNat = low + 128 :=
  toNat_ofNat (by omega)

private theorem continuation?_following {low : Nat} (h : low < 64) : continuation? (following low) = some low := by
  rw [continuation?, if_pos, toNat_following h]
  · simp
  · rw [le_iff, le_iff, toNat_following h]
    simp
    omega

private theorem opening?_two {n : Nat} (hlow : 2 ≤ n) (h : n < 32) :
    opening? (UInt8.ofNat (n + 192)) = some ⟨0x80, 0xBF, 0, n⟩ := by
  interval_cases n <;> rfl

private theorem opening?_three {n : Nat} (h : n < 16) :
    opening? (UInt8.ofNat (n + 224)) =
      some ⟨if n = 0 then 0xA0 else 0x80, if n = 13 then 0x9F else 0xBF, 1, n⟩ := by
  interval_cases n <;> rfl

private theorem opening?_four {n : Nat} (h : n < 5) :
    opening? (UInt8.ofNat (n + 240)) =
      some ⟨if n = 0 then 0x90 else 0x80, if n = 4 then 0x8F else 0xBF, 2, n⟩ := by
  interval_cases n <;> rfl

/-- A sequence of several bytes is read by its opening. -/
private theorem front_opening {b : UInt8} {o : Opening} {low : Nat} (lows : List Nat) (hascii : ¬b < 0x80)
    (hopening : opening? b = some o) (hmore : o.more = lows.length) (hlow : low < 64) (hlows : ∀ l ∈ lows, l < 64)
    (hfrom : o.low.toNat ≤ low + 128) (hto : low + 128 ≤ o.high.toNat) (rest : Bytes) :
    front b (following low :: (lows.map following ++ rest)) =
      (some (Char.ofNat (lows.foldl (64 * · + ·) (64 * o.bits + low))), lows.length + 1) := by
  have hcontinued : ∀ (lows : List Nat) (bits taken : Nat), (∀ l ∈ lows, l < 64) →
      continued bits taken lows.length (lows.map following ++ rest) =
        (some (lows.foldl (64 * · + ·) bits), taken + lows.length) := by
    intro lows
    induction lows with
    | nil => exact fun _ _ _ => rfl
    | cons l lows ih =>
      intro bits taken h
      rw [List.forall_mem_cons] at h
      rw [List.length_cons, List.map_cons, List.cons_append, continued, continuation?_following h.1]
      dsimp only
      rw [ih _ _ h.2, List.foldl_cons, Nat.add_assoc, Nat.add_comm 1]
  simp only [front, if_neg hascii, hopening]
  rw [if_pos ⟨by rwa [le_iff, toNat_following hlow], by rwa [le_iff, toNat_following hlow]⟩, toNat_following hlow, hmore,
    Nat.add_sub_cancel, hcontinued _ _ _ hlows, Option.map_some, Nat.add_comm 1]

/-- The character that was written at the front is read. -/
theorem front_encodeChar (c : Char) :
    ∃ b tail, String.utf8EncodeChar c = b :: tail ∧ ∀ rest, front b (tail ++ rest) = (some c, tail.length) := by
  have hchar : ∀ n, n = c.val.toNat → some (Char.ofNat n) = some c := by
    rintro n rfl
    exact congrArg some (Char.ofNat_toNat c)
  have hascii : ∀ n, 0x80 ≤ n → n < 256 → ¬UInt8.ofNat n < 0x80 := by
    intro n hn hlt
    rw [UInt8.lt_iff_toNat_lt, toNat_ofNat hlt]
    exact Nat.not_lt.mpr hn
  have hvalid := c.valid
  simp only [UInt32.isValidChar, Nat.isValidChar] at hvalid
  fun_cases String.utf8EncodeChar c with
  | case1 v hv =>
    refine ⟨_, [], rfl, fun rest => ?_⟩
    have hb : UInt8.ofNat v < 0x80 := by
      rw [UInt8.lt_iff_toNat_lt, toNat_ofNat (by omega)]
      exact Nat.lt_of_le_of_lt hv (by decide)
    simp only [front, if_pos hb, toNat_ofNat (show v < 256 by omega), hchar v rfl, List.length_nil]
  | case2 v hv hv' =>
    refine ⟨_, _, rfl, fun rest => ?_⟩
    rw [Nat.mod_eq_of_lt (show v / 64 < 32 by omega)]
    refine (front_opening [] (hascii _ (by omega) (by omega)) (opening?_two (by omega) (by omega)) rfl
      (Nat.mod_lt v (by decide)) (by simp) ?_ ?_ rest).trans ?_
    · exact Nat.le_add_left _ _
    · change _ ≤ 191
      omega
    · rw [List.foldl_nil, hchar _ (by change 64 * (v / 64) + v % 64 = v; omega)]
      rfl
  | case3 v hv hv' hv'' =>
    refine ⟨_, _, rfl, fun rest => ?_⟩
    rw [Nat.mod_eq_of_lt (show v / 4096 < 16 by omega)]
    refine (front_opening [v % 64] (hascii _ (by omega) (by omega)) (opening?_three (by omega)) rfl
      (Nat.mod_lt (v / 64) (by decide)) (by simp; omega) ?_ ?_ rest).trans ?_
    · dsimp only
      split_ifs
      · change 160 ≤ _
        omega
      · exact Nat.le_add_left _ _
    · dsimp only
      split_ifs
      · change _ ≤ 159
        omega
      · change _ ≤ 191
        omega
    · rw [List.foldl_cons, List.foldl_nil,
        hchar _ (by change 64 * (64 * (v / 4096) + v / 64 % 64) + v % 64 = v; omega)]
      rfl
  | case4 v hv hv' hv'' =>
    have hv₃ : v < 1114112 := by omega
    refine ⟨_, _, rfl, fun rest => ?_⟩
    rw [Nat.mod_eq_of_lt (show v / 262144 < 8 by omega)]
    refine (front_opening [v / 64 % 64, v % 64] (hascii _ (by omega) (by omega)) (opening?_four (by omega)) rfl
      (Nat.mod_lt (v / 4096) (by decide)) (by simp; omega) ?_ ?_ rest).trans ?_
    · dsimp only
      split_ifs
      · change 144 ≤ _
        omega
      · exact Nat.le_add_left _ _
    · dsimp only
      split_ifs
      · change _ ≤ 143
        omega
      · change _ ≤ 191
        omega
    · rw [List.foldl_cons, List.foldl_cons, List.foldl_nil, hchar _ (by
        change 64 * (64 * (64 * (v / 262144) + v / 4096 % 64) + v / 64 % 64) + v % 64 = v
        omega)]
      rfl

private theorem decodeLossy_skip (done : Text) (tail rest : Bytes) :
    decodeLossy.go done tail.length (tail ++ rest) = decodeLossy.go done 0 rest := by
  induction tail with
  | nil => rfl
  | cons b tail ih => rw [List.length_cons, List.cons_append, decodeLossy.go, ih]

/-- A text that was written is read back. -/
theorem decodeLossy_encode (t : Text) : decodeLossy (encode t) = t := by
  suffices h : ∀ done, decodeLossy.go done 0 (encode t) = done.reverse ++ t from h []
  induction t with
  | nil => exact fun done => (List.append_nil _).symm
  | cons c t ih =>
    intro done
    obtain ⟨b, tail, hc, hfront⟩ := front_encodeChar c
    rw [encode, List.flatMap_cons, hc, List.cons_append, decodeLossy.go]
    simp only [hfront]
    rw [decodeLossy_skip, ← encode, ih, List.reverse_cons, List.append_assoc, List.singleton_append]

private theorem decode?_skip (done : Text) (tail rest : Bytes) :
    decode?.go done tail.length (tail ++ rest) = decode?.go done 0 rest := by
  induction tail with
  | nil => rfl
  | cons b tail ih => rw [List.length_cons, List.cons_append, decode?.go, ih]

/-- A text that was written is well-formed and read back. -/
theorem decode?_encode (t : Text) : decode? (encode t) = some t := by
  suffices h : ∀ done, decode?.go done 0 (encode t) = some (done.reverse ++ t) from h []
  induction t with
  | nil => exact fun done => congrArg some (List.append_nil _).symm
  | cons c t ih =>
    intro done
    obtain ⟨b, tail, hc, hfront⟩ := front_encodeChar c
    rw [encode, List.flatMap_cons, hc, List.cons_append, decode?.go]
    simp only [hfront]
    rw [decode?_skip, ← encode, ih, List.reverse_cons, List.append_assoc, List.singleton_append]

private theorem ne_zero_of_mem_encodeChar {c : Char} (hc : c ≠ '\x00') : ∀ b ∈ String.utf8EncodeChar c, b ≠ 0 := by
  have hne : c.val.toNat ≠ 0 := by
    intro h
    apply hc
    rw [← Char.ofNat_toNat c, Char.toNat, h]
  have hbyte : ∀ n, n ≠ 0 → n < 256 → UInt8.ofNat n ≠ 0 := by
    intro n hn hlt h
    rw [← toNat_ofNat hlt, h] at hn
    exact hn rfl
  fun_cases String.utf8EncodeChar c with
  | case1 v hv =>
    rw [List.forall_mem_singleton]
    exact hbyte _ hne (by omega)
  | case2 =>
    rw [List.forall_mem_cons, List.forall_mem_singleton]
    exact ⟨hbyte _ (by omega) (by omega), hbyte _ (by omega) (by omega)⟩
  | case3 =>
    rw [List.forall_mem_cons, List.forall_mem_cons, List.forall_mem_singleton]
    exact ⟨hbyte _ (by omega) (by omega), hbyte _ (by omega) (by omega), hbyte _ (by omega) (by omega)⟩
  | case4 =>
    rw [List.forall_mem_cons, List.forall_mem_cons, List.forall_mem_cons, List.forall_mem_singleton]
    exact ⟨hbyte _ (by omega) (by omega), hbyte _ (by omega) (by omega), hbyte _ (by omega) (by omega),
      hbyte _ (by omega) (by omega)⟩

/-- Only a zero is written as one. -/
theorem ne_zero_of_mem_encode {t : Text} (h : '\x00' ∉ t) : ∀ b ∈ encode t, b ≠ 0 := by
  intro b hb
  obtain ⟨c, hc, hb⟩ := List.mem_flatMap.mp hb
  exact ne_zero_of_mem_encodeChar (fun heq => h (heq ▸ hc)) b hb

end SceneScript.Utf8
