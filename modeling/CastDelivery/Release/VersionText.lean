import CastDelivery.DateTime
import CastDelivery.Lib.Decimal
import CastDelivery.Release.Calver
import Mathlib.Data.List.Induction

/-!
# The text of a version

A version is written with the year, the month and the day in four, two and two digits, and with a
sequence behind them. `parseCalver_version`: what is written is parsed to the same date and
sequence, from the year 1000 on and as far as Python writes numbers.
-/

namespace CastDelivery
namespace Release

/-- A `date`, which is a day of the calendar. -/
structure ReleaseDate extends CalDate where
  isDay : CalDate.of year month day = some toCalDate

/-- `f"{release_date:%Y.%m.%d}"`, where `%Y` is not padded. -/
def ReleaseDate.format (date : ReleaseDate) : PyStr :=
  pyStr (toString date.year ++ "." ++ DateTime.padded 2 date.month ++ "." ++
    DateTime.padded 2 date.day)

/-- `f"{n}"`, unless it raises `ValueError`: `str` writes as many digits as `int` reads. -/
def formatInt (n : ℕ) : Option PyStr :=
  if maxStrDigits < (toString n).length then none else some (pyStr (toString n))

/-! ## Digits -/

section

variable {n width : ℕ} {text : String}

theorem isDigit_of_char {c : Char} (h : c.isDigit = true) : isDigit c.toNat = true := by
  obtain ⟨hlow, hhigh⟩ := Char.isDigit_iff_toNat.mp h
  exact Bool.and_eq_true_iff.mpr ⟨decide_eq_true hlow, decide_eq_true hhigh⟩

theorem isDigit_of_mem_pyStr (h : ∀ c ∈ text.toList, c.isDigit = true) :
    ∀ c ∈ pyStr text, isDigit c = true := by
  intro c hc
  obtain ⟨char, hchar, rfl⟩ := List.mem_map.mp hc
  exact isDigit_of_char (h char hchar)

theorem number_pyStr (text : String) : number (pyStr text) = Nat.ofDigitChars 10 text.toList 0 := by
  unfold number PyStr.number pyStr
  rw [List.foldl_map, Nat.ofDigitChars_eq_foldl]
  rfl

theorem toList_toString (n : ℕ) : (toString n).toList = Nat.toDigits 10 n := by
  rw [Nat.toString_eq_repr, Nat.toList_repr]

@[simp]
theorem toList_padded (width n : ℕ) :
    (DateTime.padded width n).toList = (Nat.toDigits 10 n).leftpad width '0' :=
  String.toList_ofList

@[simp]
theorem pyStr_append (text text' : String) : pyStr (text ++ text') = pyStr text ++ pyStr text' := by
  unfold pyStr
  rw [String.toList_append, List.map_append]

/-- What is written is read back. -/
theorem number_toString (n : ℕ) : number (pyStr (toString n)) = n := by
  rw [number_pyStr, toList_toString, Nat.ofDigitChars_ten_toDigits]

theorem number_padded (width n : ℕ) : number (pyStr (DateTime.padded width n)) = n := by
  rw [number_pyStr, toList_padded, ofDigitChars_leftpad]

theorem isDigit_of_mem_toString : ∀ c ∈ pyStr (toString n), isDigit c = true := by
  apply isDigit_of_mem_pyStr
  rw [toList_toString]
  exact fun c hc => Nat.isDigit_of_mem_toDigits (by decide) (by decide) hc

theorem isDigit_of_mem_padded : ∀ c ∈ pyStr (DateTime.padded width n), isDigit c = true := by
  apply isDigit_of_mem_pyStr
  rw [toList_padded]
  exact fun c hc => isDigit_of_mem_leftpad hc

theorem length_padded (hwidth : 0 < width) (h : n < 10 ^ width) :
    (pyStr (DateTime.padded width n)).length = width := by
  unfold pyStr
  rw [List.length_map, toList_padded]
  exact length_leftpad_toDigits hwidth h

theorem number_concat (digits : PyStr) (c : ℕ) :
    number (digits ++ [c]) = 10 * number digits + (c - 48) := by
  unfold number PyStr.number
  rw [List.foldl_append]
  rfl

/-- A number has a value below the power of ten of its digits. -/
theorem number_lt {digits : PyStr} (h : ∀ c ∈ digits, isDigit c = true) :
    number digits < 10 ^ digits.length := by
  induction digits using List.reverseRecOn with
  | nil => decide
  | append_singleton digits c ih =>
    have hbefore := ih fun d hd => h d (List.mem_append_left _ hd)
    have hdigit := h c (List.mem_append_right _ List.mem_cons_self)
    obtain ⟨-, hhigh⟩ := Bool.and_eq_true_iff.mp hdigit
    have hhigh := of_decide_eq_true hhigh
    rw [number_concat, List.length_append, List.length_singleton, Nat.pow_succ]
    omega

theorem formatInt_eq (n : ℕ) :
    formatInt n = if n < 10 ^ maxStrDigits then some (pyStr (toString n)) else none := by
  have hlength : maxStrDigits < (toString n).length ↔ ¬ n < 10 ^ maxStrDigits := by
    rw [Nat.toString_eq_repr, ← Nat.length_repr_le_iff (by decide), Nat.not_le]
  unfold formatInt
  by_cases hn : n < 10 ^ maxStrDigits
  · rw [if_neg fun h => hlength.mp h hn, if_pos hn]
  · rw [if_pos (hlength.mpr hn), if_neg hn]

end

/-! ## What is written is a version -/

/-- A sequence that is not zero ends a version. -/
theorem matchSequence_toString {n : ℕ} (h : 0 < n) :
    matchSequence (46 :: pyStr (toString n)) = some (some (pyStr (toString n))) := by
  obtain ⟨c, s, hdigits, hc⟩ := exists_toDigits_eq_cons h
  have hlist : pyStr (toString n) = c.toNat :: s.map Char.toNat := by
    unfold pyStr
    rw [toList_toString, hdigits, List.map_cons]
  have hall := isDigit_of_mem_toString (n := n)
  rw [hlist] at hall ⊢
  have hfirst : c.toNat ≠ 48 := fun hzero => hc (Char.toNat_inj.mp hzero)
  have hrest : (s.map Char.toNat).all isDigit = true :=
    List.all_eq_true.mpr fun d hd => hall d (List.mem_cons_of_mem _ hd)
  exact if_pos ⟨rfl, hall _ List.mem_cons_self, hfirst, hrest⟩

/-- Digits in groups of four, two and two are those of a version. -/
theorem calverFullmatch_append {year month day rest : PyStr} (hyear : year.length = 4)
    (hmonth : month.length = 2) (hday : day.length = 2)
    (hdigits : ∀ c ∈ year ++ month ++ day, isDigit c = true) :
    calverFullmatch (year ++ 46 :: month ++ 46 :: day ++ rest) =
      (matchSequence rest).map fun sequence => ⟨year, month, day, sequence⟩ := by
  obtain ⟨y₁, y₂, y₃, y₄, rfl⟩ := List.length_eq_four.mp hyear
  obtain ⟨m₁, m₂, rfl⟩ := List.length_eq_two.mp hmonth
  obtain ⟨d₁, d₂, rfl⟩ := List.length_eq_two.mp hday
  exact if_pos ⟨List.all_eq_true.mpr hdigits, rfl, rfl⟩

namespace ReleaseDate

variable (date : ReleaseDate)

/-- The parts of a date are in range. -/
theorem inRange : date.year ≤ 9999 ∧ date.month < 10 ^ 2 ∧ date.day < 10 ^ 2 := by
  have hday := date.isDay
  unfold CalDate.of at hday
  split at hday
  · next hrange =>
    obtain ⟨-, hyear, -, hmonth, -, hday⟩ := hrange
    have hlast : daysInMonth date.year date.month ≤ 31 := by
      unfold daysInMonth
      split_ifs <;> decide
    omega
  · cases hday

/-- The version of a date with a sequence. -/
def version (sequence : ℕ) : PyStr := date.format ++ pyStr "." ++ pyStr (toString sequence)

variable {date} {n : ℕ}

theorem calverFullmatch_version (hyear : 1000 ≤ date.year) (hn : 0 < n) :
    calverFullmatch (date.version n) =
      some ⟨pyStr (toString date.year), pyStr (DateTime.padded 2 date.month),
        pyStr (DateTime.padded 2 date.day), some (pyStr (toString n))⟩ := by
  obtain ⟨hlast, hmonth, hday⟩ := date.inRange
  have hlength : (pyStr (toString date.year)).length = 4 := by
    unfold pyStr
    rw [List.length_map, toList_toString]
    exact length_toDigits_eq (k := 3) hyear (by omega)
  have hdigits : ∀ c ∈ pyStr (toString date.year) ++ pyStr (DateTime.padded 2 date.month) ++
      pyStr (DateTime.padded 2 date.day), isDigit c = true := by
    intro c hc
    rcases List.mem_append.mp hc with hc | hc
    · rcases List.mem_append.mp hc with hc | hc
      · exact isDigit_of_mem_toString c hc
      · exact isDigit_of_mem_padded c hc
    · exact isDigit_of_mem_padded c hc
  have htext : date.version n = pyStr (toString date.year) ++
      46 :: pyStr (DateTime.padded 2 date.month) ++ 46 :: pyStr (DateTime.padded 2 date.day) ++
        46 :: pyStr (toString n) := by
    have hdot : pyStr "." = [46] := rfl
    unfold version format
    simp only [pyStr_append, hdot, List.append_assoc, List.cons_append, List.nil_append]
  rw [htext, calverFullmatch_append hlength (length_padded (by decide) hmonth)
    (length_padded (by decide) hday) hdigits, matchSequence_toString hn]
  rfl

/-- **A version that is written is parsed** to its date and its sequence. -/
theorem parseCalver_version (hyear : 1000 ≤ date.year) (hpos : 0 < n)
    (hn : n < 10 ^ maxStrDigits) : parseCalver (date.version n) = some (date.toCalDate, n) := by
  have hlength : ¬ maxStrDigits < (pyStr (toString n)).length := by
    unfold pyStr
    rw [List.length_map, toList_toString, Nat.not_lt]
    exact (Nat.length_toDigits_le_iff (by decide) (by decide)).mpr hn
  unfold parseCalver
  rw [calverFullmatch_version hyear hpos]
  simp only [Option.getD_some]
  rw [if_neg hlength, number_toString, number_padded, number_padded, number_toString, date.isDay]
  rfl

end ReleaseDate

/-! ## What is read has digits -/

section

variable {value version : PyStr} {sequence : ℕ}

theorem isDigit_of_matchSequence {rest digits : PyStr}
    (h : matchSequence rest = some (some digits)) : ∀ c ∈ digits, isDigit c = true := by
  unfold matchSequence at h
  split at h
  · cases h
  · split at h
    · next hend =>
      obtain ⟨-, hfirst, -, hrest⟩ := hend
      cases h
      intro c hc
      rcases List.mem_cons.mp hc with rfl | hc
      · exact hfirst
      · exact List.all_eq_true.mp hrest c hc
    · cases h
  · cases h

theorem isDigit_of_calverFullmatch {groups : CalverMatch}
    (h : calverFullmatch value = some groups) :
    ∀ c ∈ groups.sequence.getD [], isDigit c = true := by
  unfold calverFullmatch at h
  split at h
  · split at h
    · obtain ⟨sequence, hsequence, rfl⟩ := Option.map_eq_some_iff.mp h
      cases sequence with
      | none => exact fun c hc => absurd hc List.not_mem_nil
      | some digits => exact isDigit_of_matchSequence hsequence
    · cases h
  · cases h

/-- The sequence of a version is a number with no more digits than `int` reads. -/
theorem sequence_lt {date : CalDate} (h : parseCalver version = some (date, sequence)) :
    sequence < 10 ^ maxStrDigits := by
  unfold parseCalver at h
  split at h
  · cases h
  · next groups hmatch =>
    simp only at h
    split at h
    · cases h
    · next hlength =>
      obtain ⟨date', -, hpair⟩ := Option.map_eq_some_iff.mp h
      cases hpair
      exact Nat.lt_of_lt_of_le (number_lt (isDigit_of_calverFullmatch hmatch))
        (Nat.pow_le_pow_right (by decide) (Nat.le_of_not_lt hlength))

end

end Release
end CastDelivery
