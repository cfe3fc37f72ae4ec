import Mathlib.Algebra.Ring.Nat
import Mathlib.Data.List.Basic

/-!
# Numbers in decimal

The digits that `Nat.toDigits 10` writes, alone and padded with zeros: how many there are, what the
first one is, and that they are read back.
-/

namespace CastDelivery

theorem toDigits_inj {m n : ℕ} (h : Nat.toDigits 10 m = Nat.toDigits 10 n) : m = n := by
  have hvalue := congrArg (Nat.ofDigitChars 10 · 0) h
  simpa only [Nat.ofDigitChars_ten_toDigits] using hvalue

theorem notMem_toDigits {c : Char} (h : c.isDigit = false) (n : ℕ) : c ∉ Nat.toDigits 10 n := by
  intro hmem
  have hdigit := Nat.isDigit_of_mem_toDigits (by decide) (by decide) hmem
  rw [h] at hdigit
  cases hdigit

/-- A number that is not zero does not begin with a zero. -/
theorem exists_toDigits_eq_cons {n : ℕ} (h : 0 < n) :
    ∃ c s, Nat.toDigits 10 n = c :: s ∧ c ≠ '0' := by
  induction n using Nat.strongRecOn with
  | ind n ih =>
    by_cases hsmall : n < 10
    · refine ⟨n.digitChar, [], Nat.toDigits_of_lt_base hsmall, ?_⟩
      rw [Ne, Nat.digitChar_eq_zero]
      omega
    · have hquotient : 0 < n / 10 := by omega
      obtain ⟨c, s, hdigits, hc⟩ := ih (n / 10) (by omega) hquotient
      refine ⟨c, s ++ [Nat.digitChar (n % 10)], ?_, hc⟩
      rw [Nat.toDigits_of_base_le (by decide) (by omega), hdigits, List.cons_append]

/-- A number has `k + 1` digits from `10 ^ k` on. -/
theorem length_toDigits_eq {n k : ℕ} (hlow : 10 ^ k ≤ n) (hhigh : n < 10 ^ (k + 1)) :
    (Nat.toDigits 10 n).length = k + 1 := by
  have hle : (Nat.toDigits 10 n).length ≤ k + 1 :=
    (Nat.length_toDigits_le_iff (by decide) (Nat.succ_pos k)).mpr hhigh
  have hlt : k < (Nat.toDigits 10 n).length := by
    by_cases hk : k = 0
    · rw [hk]
      exact Nat.length_toDigits_pos
    · by_contra hle'
      have hsmall := (Nat.length_toDigits_le_iff (by decide) (Nat.pos_of_ne_zero hk)).mp
        (Nat.le_of_not_lt hle')
      omega
  omega

/-! ## With leading zeros -/

theorem length_leftpad_toDigits {n width : ℕ} (hwidth : 0 < width) (h : n < 10 ^ width) :
    ((Nat.toDigits 10 n).leftpad width '0').length = width := by
  have hle := (Nat.length_toDigits_le_iff (by decide) hwidth).mpr h
  rw [List.length_leftpad]
  omega

theorem isDigit_of_mem_leftpad {n width : ℕ} {c : Char}
    (h : c ∈ (Nat.toDigits 10 n).leftpad width '0') : c.isDigit = true := by
  rcases List.mem_append.mp h with hzero | hdigit
  · rw [List.eq_of_mem_replicate hzero]
    decide
  · exact Nat.isDigit_of_mem_toDigits (by decide) (by decide) hdigit

@[simp]
theorem ofDigitChars_leftpad (n width : ℕ) :
    Nat.ofDigitChars 10 ((Nat.toDigits 10 n).leftpad width '0') 0 = n := by
  rw [List.leftpad, Nat.ofDigitChars_append, Nat.ofDigitChars_replicate_zero, Nat.mul_zero,
    Nat.ofDigitChars_ten_toDigits]

end CastDelivery
