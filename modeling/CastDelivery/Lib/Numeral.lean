import Mathlib.Data.List.Basic

/-!
# Numerals in text

Python's `int(text, base)`: spaces around the numeral, a sign, `0x` for base 16, and then the
digits of any script, with single underscores between them. `int` has no value where Python
raises `ValueError`.
-/

namespace CastDelivery
namespace Numeral

/-- The spaces that may stand around a numeral: those of Unicode, without the four separators of
ASCII. -/
def isSpace (c : Char) : Bool :=
  let n := c.toNat
  (9 ≤ n && n ≤ 13) || n = 32 || n = 0x85 || n = 0xa0 || n = 0x1680 ||
    (0x2000 ≤ n && n ≤ 0x200a) || n = 0x2028 || n = 0x2029 || n = 0x202f || n = 0x205f || n = 0x3000

/-- The code points of the zeros of Unicode 16; the digits of a script follow its zero. -/
def zeros : List ℕ :=
  [0x30, 0x660, 0x6f0, 0x7c0, 0x966, 0x9e6, 0xa66, 0xae6, 0xb66, 0xbe6, 0xc66, 0xce6, 0xd66, 0xde6,
    0xe50, 0xed0, 0xf20, 0x1040, 0x1090, 0x17e0, 0x1810, 0x1946, 0x19d0, 0x1a80, 0x1a90, 0x1b50,
    0x1bb0, 0x1c40, 0x1c50, 0xa620, 0xa8d0, 0xa900, 0xa9d0, 0xa9f0, 0xaa50, 0xabf0, 0xff10, 0x104a0,
    0x10d30, 0x10d40, 0x11066, 0x110f0, 0x11136, 0x111d0, 0x112f0, 0x11450, 0x114d0, 0x11650,
    0x116c0, 0x116d0, 0x116da, 0x11730, 0x118e0, 0x11950, 0x11bf0, 0x11c50, 0x11d50, 0x11da0,
    0x11f50, 0x16130, 0x16a60, 0x16ac0, 0x16b50, 0x16d70, 0x1ccf0, 0x1d7ce, 0x1d7d8, 0x1d7e2,
    0x1d7ec, 0x1d7f6, 0x1e140, 0x1e2f0, 0x1e4f0, 0x1e5f1, 0x1e950, 0x1fbf0]

/-- The value of a digit, with the letters as the digits from ten on. -/
def digitValue (c : Char) : Option ℕ :=
  let n := c.toNat
  if 97 ≤ n ∧ n ≤ 122 then some (n - 87)
  else if 65 ≤ n ∧ n ≤ 90 then some (n - 55)
  else (zeros.find? fun z => z ≤ n ∧ n < z + 10).map (n - ·)

/-- The value of the digits behind `acc`. Neither the end nor an underscore may follow an
underscore, or stand where the first digit is expected. -/
def digits (base : ℕ) : ℕ → Bool → List Char → Option ℕ
  | acc, expected, [] => if expected then none else some acc
  | acc, expected, c :: s =>
    if c = '_' then if expected then none else digits base acc true s
    else match digitValue c with
      | some d => if d < base then digits base (acc * base + d) false s else none
      | none => none

/-- A numeral without its base prefix and the underscore behind that. -/
def dropBase (base : ℕ) : List Char → List Char
  | '0' :: x :: s =>
    if base = 16 ∧ (x = 'x' ∨ x = 'X') then if s.head? = some '_' then s.tail else s
    else '0' :: x :: s
  | s => s

/-- A numeral without its sign, and whether it is negative. -/
def dropSign : List Char → Bool × List Char
  | '-' :: s => (true, s)
  | '+' :: s => (false, s)
  | s => (false, s)

/-- `int` reads no more decimal digits than this. -/
def maxDigits : ℕ := 4300

/-- `int(text, base)`, unless it raises. -/
def int (base : ℕ) (text : List Char) : Option Int :=
  let stripped := ((text.dropWhile isSpace).reverse.dropWhile isSpace).reverse
  let signed := dropSign stripped
  let body := dropBase base signed.2
  if base = 10 ∧ maxDigits < (body.filter (· ≠ '_')).length then none
  else (digits base 0 true body).map fun n => if signed.1 then -(n : Int) else n

/-! ## Decimal digits -/

theorem toNat_of_isDigit {c : Char} (h : c.isDigit = true) : 48 ≤ c.toNat ∧ c.toNat ≤ 57 :=
  Char.isDigit_iff_toNat.mp h

theorem isSpace_of_isDigit {c : Char} (h : c.isDigit = true) : isSpace c = false := by
  obtain ⟨hlow, hhigh⟩ := toNat_of_isDigit h
  simp [isSpace]
  omega

theorem digitValue_of_isDigit {c : Char} (h : c.isDigit = true) :
    digitValue c = some (c.toNat - '0'.toNat) := by
  obtain ⟨hlow, hhigh⟩ := toNat_of_isDigit h
  unfold digitValue
  simp only
  rw [if_neg (by omega), if_neg (by omega), zeros, List.find?_cons_of_pos (by simp; omega)]
  rfl

/-- The decimal digits of `int` are read as Lean reads them. -/
theorem digits_ten {s : List Char} (h : ∀ c ∈ s, c.isDigit = true) (acc : ℕ) {expected : Bool}
    (hs : s = [] → expected = false) :
    digits 10 acc expected s = some (Nat.ofDigitChars 10 s acc) := by
  induction s generalizing acc expected with
  | nil =>
    rw [digits, hs rfl]
    rfl
  | cons c s ih =>
    have hc : c.isDigit = true := h c List.mem_cons_self
    obtain ⟨hlow, hhigh⟩ := toNat_of_isDigit hc
    have hunderscore : c ≠ '_' := by
      rintro rfl
      cases hc
    rw [digits, if_neg hunderscore, digitValue_of_isDigit hc]
    simp only
    rw [if_pos (by simp; omega), ih (fun d hd => h d (List.mem_cons_of_mem c hd)) _ fun _ => rfl,
      Nat.ofDigitChars_cons, Nat.mul_comm]

theorem dropBase_ten (s : List Char) : dropBase 10 s = s := by
  unfold dropBase
  split
  · rw [if_neg (by simp)]
  · rfl

/-- **A number is read back**, as long as it does not have more digits than `int` reads. -/
theorem int_toDigits {n : ℕ} (h : (Nat.toDigits 10 n).length ≤ maxDigits) :
    int 10 (Nat.toDigits 10 n) = some (n : Int) := by
  have hdigits : ∀ c ∈ Nat.toDigits 10 n, c.isDigit = true :=
    fun c hc => Nat.isDigit_of_mem_toDigits (by decide) (by decide) hc
  have hspace {s : List Char} (hs : ∀ c ∈ s, c.isDigit = true) : s.dropWhile isSpace = s := by
    cases s with
    | nil => rfl
    | cons c s =>
      exact List.dropWhile_cons_of_neg (by simp [isSpace_of_isDigit (hs c List.mem_cons_self)])
  have hsign : dropSign (Nat.toDigits 10 n) = (false, Nat.toDigits 10 n) := by
    unfold dropSign
    split
    · next s heq => cases hdigits '-' (heq ▸ List.mem_cons_self)
    · next s heq => cases hdigits '+' (heq ▸ List.mem_cons_self)
    · rfl
  unfold int
  simp only
  rw [hspace hdigits, hspace fun c hc => hdigits c (List.mem_reverse.mp hc), List.reverse_reverse,
    hsign]
  simp only [dropBase_ten]
  rw [if_neg, digits_ten hdigits 0 fun hnil => absurd hnil Nat.toDigits_ne_nil,
    Nat.ofDigitChars_ten_toDigits]
  · rfl
  · rintro ⟨-, hlong⟩
    have hle := List.length_filter_le (fun c => decide (c ≠ '_')) (Nat.toDigits 10 n)
    omega

end Numeral
end CastDelivery
