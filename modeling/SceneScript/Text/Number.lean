import SceneScript.Text.Basic
/-!
# Numbers in text

Decimal and hexadecimal digits, written and read. A number that is read must fit in 64 bits.
-/
namespace SceneScript.Text

def decimal (n : Nat) : Text := Nat.toDigits 10 n

def decimalValue (digits : Text) : Nat :=
  digits.foldl (fun n d => 10 * n + (d.toNat - '0'.toNat)) 0

/-- Numbers that are read are below this. -/
def numberBound : Nat := 0x10000000000000000

/-- Reads one or more decimal digits, up to 64 bits. -/
def readDigits? (t : Text) : Option Nat :=
  if t.isEmpty || !t.all Char.isDigit then none
  else if decimalValue t < numberBound then some (decimalValue t) else none

/-- Reads decimal digits after an optional plus sign, up to 64 bits. -/
def readNumber? (t : Text) : Option Nat :=
  readDigits? ((afterWord? ['+'] t).getD t)

/-- The upper-case hexadecimal digit of a number below sixteen. -/
def hexDigit (n : Nat) : Char := (Nat.digitChar n).toUpper

/-- The upper-case hexadecimal digits of a number, at least `width` of them. -/
def hexadecimal (width n : Nat) : Text :=
  ((Nat.toDigits 16 n).map Char.toUpper).leftpad width '0'

def showNumber (n : Nat) : String := String.ofList (decimal n)

def showOffset (n : Nat) : String := "0x" ++ String.ofList (hexadecimal 1 n)

def isHexDigit (c : Char) : Bool :=
  c.isDigit || ('a' ≤ c && c ≤ 'f') || ('A' ≤ c && c ≤ 'F')

def hexValue (c : Char) : Nat :=
  if c.isDigit then c.toNat - '0'.toNat
  else if 'a' ≤ c then c.toNat - 'a'.toNat + 10
  else c.toNat - 'A'.toNat + 10

theorem isHexDigit_hexDigit (n : Nat) (h : n < 16) : isHexDigit (hexDigit n) = true := by
  revert n; decide

theorem hexValue_hexDigit (n : Nat) (h : n < 16) : hexValue (hexDigit n) = n := by
  revert n; decide

theorem all_isDigit_decimal (n : Nat) : (decimal n).all Char.isDigit = true := by
  rw [List.all_eq_true]
  intro c hc
  exact Nat.isDigit_of_mem_toDigits (by decide) (by decide) hc

theorem decimal_ne_nil (n : Nat) : decimal n ≠ [] := Nat.toDigits_ne_nil

theorem decimalValue_decimal (n : Nat) : decimalValue (decimal n) = n := by
  rw [decimalValue, ← Nat.ofDigitChars_eq_foldl, decimal, Nat.ofDigitChars_ten_toDigits]

/-- The digits of a number are read back. -/
theorem readDigits?_decimal {n : Nat} (h : n < numberBound) : readDigits? (decimal n) = some n := by
  simp [readDigits?, decimal_ne_nil, all_isDigit_decimal, decimalValue_decimal, h]

def hexTotal (digits : Text) : Nat := digits.foldl (fun n c => 16 * n + hexValue c) 0

private theorem hexTotal_toDigits (n : Nat) : hexTotal ((Nat.toDigits 16 n).map Char.toUpper) = n := by
  induction n using Nat.strongRecOn with
  | _ n ih =>
    rw [Nat.toDigits_eq_if (by decide)]
    split
    · rename_i h
      simp only [List.map_cons, List.map_nil, hexTotal, List.foldl_cons, List.foldl_nil]
      have := hexValue_hexDigit n h
      rw [hexDigit] at this
      omega
    · rename_i h
      have hdigit := hexValue_hexDigit (n % 16) (by omega)
      have hrest := ih (n / 16) (by omega)
      rw [hexDigit] at hdigit
      rw [hexTotal] at hrest ⊢
      rw [List.map_append, List.foldl_append, hrest]
      simp only [List.map_cons, List.map_nil, List.foldl_cons, List.foldl_nil, hdigit]
      omega

theorem hexTotal_hexadecimal (width n : Nat) : hexTotal (hexadecimal width n) = n := by
  have hzeros : ∀ k, (List.replicate k '0').foldl (fun n c => 16 * n + hexValue c) 0 = 0 := by
    intro k
    induction k with
    | zero => rfl
    | succ k ih => rw [List.replicate_succ, List.foldl_cons]; exact ih
  rw [hexadecimal, List.leftpad, hexTotal, List.foldl_append, hzeros]
  exact hexTotal_toDigits n

theorem hexadecimal_injective {width m n : Nat} (h : hexadecimal width m = hexadecimal width n) : m = n := by
  rw [← hexTotal_hexadecimal width m, h, hexTotal_hexadecimal]

theorem isHexDigit_of_mem_hexadecimal {width n : Nat} {c : Char} (h : c ∈ hexadecimal width n) :
    isHexDigit c = true := by
  have hdigits : ∀ n, ∀ c ∈ (Nat.toDigits 16 n).map Char.toUpper, isHexDigit c = true := by
    intro n
    induction n using Nat.strongRecOn with
    | _ n ih =>
      intro c hc
      rw [Nat.toDigits_eq_if (by decide)] at hc
      split at hc
      · rename_i h
        rw [List.map_singleton, List.mem_singleton] at hc
        subst hc
        exact isHexDigit_hexDigit n h
      · rename_i h
        rw [List.map_append, List.mem_append] at hc
        rcases hc with hc | hc
        · exact ih (n / 16) (by omega) c hc
        · rw [List.map_singleton, List.mem_singleton] at hc
          subst hc
          exact isHexDigit_hexDigit (n % 16) (by omega)
  rw [hexadecimal, List.leftpad, List.mem_append] at h
  rcases h with h | h
  · rw [List.eq_of_mem_replicate h]
    decide
  · exact hdigits n c h

end SceneScript.Text
