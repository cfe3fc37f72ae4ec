import CastDelivery.Lib.JsonText
import Mathlib.Data.List.TakeWhile

/-!
# Numerals in JSON texts

A numeral that stands in a text ends where the text goes on with a comma or a new line
(`scanNumeral_append`), and what is scanned is scanned again (`scanNumeral_self`). So the numeral
that is written for a number is read as this number, wherever it stands: `numeral_of_scanScalar`.
-/

namespace CastDelivery
namespace JsonText

/-- The text that the writer puts behind a value. -/
def Follows (rest : PyStr) : Prop := ∀ c ∈ rest.head?, c = 44 ∨ c = 10

theorem follows_cons {c : ℕ} {rest : PyStr} (h : c = 44 ∨ c = 10) : Follows (c :: rest) := by
  intro d hd
  cases hd
  exact h

section

variable {text rest : PyStr}

/-! ## A numeral in a text -/

theorem takeWhile_append_follows (text : PyStr) (h : Follows rest) :
    (text ++ rest).takeWhile isDigit = text.takeWhile isDigit ∧
      (text ++ rest).dropWhile isDigit = text.dropWhile isDigit ++ rest := by
  induction text with
  | nil =>
    cases rest with
    | nil => exact ⟨rfl, rfl⟩
    | cons c rest =>
      have hc : isDigit c = false := by
        rcases h c rfl with rfl | rfl <;> rfl
      simp [hc]
  | cons c text ih =>
    cases hc : isDigit c with
    | true => simp [hc, ih]
    | false => simp [hc]

theorem scanMinus_append (h : Follows rest) :
    scanMinus (text ++ rest) = ((scanMinus text).1, (scanMinus text).2 ++ rest) := by
  cases text with
  | nil =>
    cases rest with
    | nil => rfl
    | cons c rest => rcases h c rfl with rfl | rfl <;> rfl
  | cons c text =>
    simp only [List.cons_append, scanMinus]
    split <;> rfl

theorem scanInt_append (h : Follows rest) {int : PyStr × PyStr} (hint : scanInt text = some int) :
    scanInt (text ++ rest) = some (int.1, int.2 ++ rest) := by
  cases text with
  | nil => cases hint
  | cons c text =>
    obtain ⟨htake, hdrop⟩ := takeWhile_append_follows text h
    simp only [List.cons_append, scanInt, htake, hdrop] at hint ⊢
    split at hint
    · next hc =>
      cases hint
      exact if_pos hc
    · next hc =>
      split at hint
      · next hdigit =>
        cases hint
        exact (if_neg hc).trans (if_pos hdigit)
      · cases hint

theorem scanFraction_append (h : Follows rest) :
    scanFraction (text ++ rest) = ((scanFraction text).1, (scanFraction text).2 ++ rest) := by
  cases text with
  | nil =>
    cases rest with
    | nil => rfl
    | cons c rest => rcases h c rfl with rfl | rfl <;> rfl
  | cons c text =>
    obtain ⟨htake, hdrop⟩ := takeWhile_append_follows text h
    simp only [List.cons_append, scanFraction, htake, hdrop]
    split <;> rfl

theorem scanSign_append (h : Follows rest) :
    scanSign (text ++ rest) = ((scanSign text).1, (scanSign text).2 ++ rest) := by
  cases text with
  | nil =>
    cases rest with
    | nil => rfl
    | cons c rest => rcases h c rfl with rfl | rfl <;> rfl
  | cons c text =>
    simp only [List.cons_append, scanSign]
    split <;> rfl

theorem scanExponent_append (h : Follows rest) :
    scanExponent (text ++ rest) = ((scanExponent text).1, (scanExponent text).2 ++ rest) := by
  cases text with
  | nil =>
    cases rest with
    | nil => rfl
    | cons c rest => rcases h c rfl with rfl | rfl <;> rfl
  | cons c text =>
    obtain ⟨htake, hdrop⟩ := takeWhile_append_follows (scanSign text).2 h
    simp only [List.cons_append, scanExponent, scanSign_append h, htake, hdrop]
    split <;> rfl

/-- A numeral ends where the text goes on with something else. -/
theorem scanNumeral_append (h : Follows rest) {int fraction behind : PyStr}
    (hnumeral : scanNumeral text = some (int, fraction, behind)) :
    scanNumeral (text ++ rest) = some (int, fraction, behind ++ rest) := by
  unfold scanNumeral at hnumeral ⊢
  obtain ⟨digits, hdigits, heq⟩ := Option.map_eq_some_iff.mp hnumeral
  simp only [Prod.mk.injEq] at heq
  obtain ⟨rfl, rfl, rfl⟩ := heq
  rw [scanMinus_append h]
  simp only [scanInt_append h hdigits, Option.map_some, scanFraction_append h,
    scanExponent_append h]

/-! ## What is scanned -/

/-- A character of a numeral. -/
def isNumeralChar (c : ℕ) : Bool := isDigit c || c = 45 || c = 46 || c = 43 || c = 101 || c = 69

theorem isNumeralChar_of_mem_takeWhile {c : ℕ} (h : c ∈ text.takeWhile isDigit) :
    isNumeralChar c = true := by
  unfold isNumeralChar
  rw [List.mem_takeWhile_imp h]
  rfl

/-- Digits are taken again, up to what is no digit. -/
theorem takeWhile_takeWhile_append (text : PyStr) (h : ∀ c ∈ rest.head?, isDigit c = false) :
    (text.takeWhile isDigit ++ rest).takeWhile isDigit = text.takeWhile isDigit ∧
      (text.takeWhile isDigit ++ rest).dropWhile isDigit = rest := by
  induction text with
  | nil =>
    cases rest with
    | nil => exact ⟨rfl, rfl⟩
    | cons c rest => simp [h c rfl]
  | cons c text ih =>
    cases hc : isDigit c with
    | true => simp [hc, ih]
    | false =>
      cases rest with
      | nil => simp [hc]
      | cons d rest => simp [hc, h d rfl]

theorem scanMinus_eq (text : PyStr) : (scanMinus text).1 ++ (scanMinus text).2 = text := by
  cases text with
  | nil => rfl
  | cons c text =>
    simp only [scanMinus]
    split
    · next h =>
      rw [h]
      rfl
    · rfl

theorem scanFraction_eq (text : PyStr) :
    (scanFraction text).1 ++ (scanFraction text).2 = text := by
  cases text with
  | nil => rfl
  | cons c text =>
    simp only [scanFraction]
    split
    · next h =>
      rw [h.1, List.cons_append, List.takeWhile_append_dropWhile]
    · rfl

theorem scanSign_eq (text : PyStr) : (scanSign text).1 ++ (scanSign text).2 = text := by
  cases text with
  | nil => rfl
  | cons c text =>
    simp only [scanSign]
    split <;> rfl

theorem scanExponent_eq (text : PyStr) :
    (scanExponent text).1 ++ (scanExponent text).2 = text := by
  cases text with
  | nil => rfl
  | cons c text =>
    simp only [scanExponent]
    split
    · rw [List.cons_append, List.cons_append, List.append_assoc, List.takeWhile_append_dropWhile,
        scanSign_eq]
    · rfl

theorem scanInt_eq {int : PyStr × PyStr} (h : scanInt text = some int) : int.1 ++ int.2 = text := by
  cases text with
  | nil => cases h
  | cons c text =>
    simp only [scanInt] at h
    split at h
    · next hc =>
      cases h
      rw [hc]
      rfl
    · split at h
      · cases h
        rw [List.cons_append, List.takeWhile_append_dropWhile]
      · cases h

/-- A numeral is a beginning of the text. -/
theorem scanNumeral_eq {int fraction behind : PyStr}
    (h : scanNumeral text = some (int, fraction, behind)) :
    int ++ (fraction ++ behind) = text := by
  unfold scanNumeral at h
  obtain ⟨digits, hdigits, heq⟩ := Option.map_eq_some_iff.mp h
  simp only [Prod.mk.injEq] at heq
  obtain ⟨rfl, rfl, rfl⟩ := heq
  rw [List.append_assoc, List.append_assoc, scanExponent_eq, scanFraction_eq,
    scanInt_eq hdigits, scanMinus_eq]

/-! ## What is scanned is scanned again -/

theorem head_scanExponent (text : PyStr) : ∀ c ∈ (scanExponent text).1.head?, c = 101 ∨ c = 69 := by
  intro c hc
  cases text with
  | nil => cases hc
  | cons e text =>
    simp only [scanExponent] at hc
    split at hc
    · next h =>
      cases hc
      exact h.1
    · cases hc

theorem head_scanFraction : ∀ c ∈ (scanFraction text).1.head?, c = 46 := by
  intro c hc
  cases text with
  | nil => cases hc
  | cons e text =>
    simp only [scanFraction] at hc
    split at hc
    · cases hc
      rfl
    · cases hc

theorem scanMinus_self (h : ∀ c ∈ rest.head?, c ≠ 45) :
    scanMinus ((scanMinus text).1 ++ rest) = ((scanMinus text).1, rest) := by
  have hnone : scanMinus rest = ([], rest) := by
    cases rest with
    | nil => rfl
    | cons c rest => exact if_neg (h c rfl)
  cases text with
  | nil => exact hnone
  | cons c text =>
    by_cases hc : c = 45
    · have hsome : scanMinus (c :: text) = ([45], text) := if_pos hc
      rw [hsome]
      rfl
    · have hempty : scanMinus (c :: text) = ([], c :: text) := if_neg hc
      rw [hempty]
      exact hnone

theorem scanInt_self {int : PyStr × PyStr} (hint : scanInt text = some int)
    (h : ∀ c ∈ rest.head?, isDigit c = false) : scanInt (int.1 ++ rest) = some (int.1, rest) := by
  cases text with
  | nil => cases hint
  | cons c text =>
    obtain ⟨htake, hdrop⟩ := takeWhile_takeWhile_append text h
    simp only [scanInt] at hint
    split at hint
    · cases hint
      rfl
    · next hc =>
      split at hint
      · next hdigit =>
        cases hint
        simp only [List.cons_append, scanInt, htake, hdrop]
        exact (if_neg hc).trans (if_pos hdigit)
      · cases hint

theorem head_scanInt {int : PyStr × PyStr} (hint : scanInt text = some int) :
    ∃ c digits, int.1 = c :: digits ∧ isDigit c = true ∧ ∀ d ∈ digits, isDigit d = true := by
  cases text with
  | nil => cases hint
  | cons c text =>
    simp only [scanInt] at hint
    split at hint
    · cases hint
      exact ⟨48, [], rfl, rfl, nofun⟩
    · split at hint
      · next hdigit =>
        cases hint
        exact ⟨c, _, rfl, hdigit, fun d hd => List.mem_takeWhile_imp hd⟩
      · cases hint

theorem scanFraction_self (h : ∀ c ∈ rest.head?, c = 101 ∨ c = 69) :
    scanFraction ((scanFraction text).1 ++ rest) = ((scanFraction text).1, rest) := by
  have hnone : scanFraction rest = ([], rest) := by
    cases rest with
    | nil => rfl
    | cons c rest =>
      refine if_neg fun hc => ?_
      rcases h c rfl with rfl | rfl <;> cases hc.1
  have hdigit : ∀ c ∈ rest.head?, isDigit c = false := by
    intro c hc
    rcases h c hc with rfl | rfl <;> rfl
  cases text with
  | nil => exact hnone
  | cons c text =>
    obtain ⟨htake, hdrop⟩ := takeWhile_takeWhile_append text hdigit
    by_cases hc : c = 46 ∧ text.takeWhile isDigit ≠ []
    · have hsome : scanFraction (c :: text) =
          (46 :: text.takeWhile isDigit, text.dropWhile isDigit) := if_pos hc
      rw [hsome]
      simp only [List.cons_append, scanFraction, htake, hdrop]
      exact if_pos ⟨trivial, hc.2⟩
    · have hempty : scanFraction (c :: text) = ([], c :: text) := if_neg hc
      rw [hempty]
      exact hnone

theorem scanSign_self (text : PyStr) (h : ∀ c ∈ rest.head?, isDigit c = true) :
    scanSign ((scanSign text).1 ++ rest) = ((scanSign text).1, rest) := by
  have hnone : scanSign rest = ([], rest) := by
    cases rest with
    | nil => rfl
    | cons c rest =>
      refine if_neg fun hc => ?_
      rcases hc with rfl | rfl <;> cases h _ rfl
  cases text with
  | nil => exact hnone
  | cons c text =>
    by_cases hc : c = 43 ∨ c = 45
    · have hsome : scanSign (c :: text) = ([c], text) := if_pos hc
      rw [hsome]
      exact if_pos hc
    · have hempty : scanSign (c :: text) = ([], c :: text) := if_neg hc
      rw [hempty]
      exact hnone

theorem scanExponent_self : scanExponent (scanExponent text).1 = ((scanExponent text).1, []) := by
  cases text with
  | nil => rfl
  | cons c text =>
    have hdigits : ∀ d ∈ ((scanSign text).2.takeWhile isDigit).head?, isDigit d = true :=
      fun d hd => List.mem_takeWhile_imp (List.mem_of_mem_head? hd)
    have hsign := scanSign_self text hdigits
    have hnone : ∀ d ∈ ([] : PyStr).head?, isDigit d = false := nofun
    obtain ⟨htake, hdrop⟩ := takeWhile_takeWhile_append (scanSign text).2 hnone
    rw [List.append_nil] at htake hdrop
    by_cases hc : (c = 101 ∨ c = 69) ∧ (scanSign text).2.takeWhile isDigit ≠ []
    · have hsome : scanExponent (c :: text) =
          (c :: (scanSign text).1 ++ (scanSign text).2.takeWhile isDigit,
            (scanSign text).2.dropWhile isDigit) := if_pos hc
      rw [hsome]
      simp only [List.cons_append, scanExponent, hsign, htake, hdrop]
      exact if_pos hc
    · have hempty : scanExponent (c :: text) = ([], c :: text) := if_neg hc
      rw [hempty]
      rfl

/-- What is scanned is scanned again, also without its fraction. -/
theorem scanNumeral_self {int fraction behind : PyStr}
    (h : scanNumeral text = some (int, fraction, behind)) :
    scanNumeral (int ++ fraction) = some (int, fraction, []) ∧
      scanNumeral int = some (int, [], []) := by
  unfold scanNumeral at h
  obtain ⟨digits, hdigits, heq⟩ := Option.map_eq_some_iff.mp h
  simp only [Prod.mk.injEq] at heq
  obtain ⟨rfl, rfl, rfl⟩ := heq
  obtain ⟨c, more, hcons, hdigit, -⟩ := head_scanInt hdigits
  have hminus (rest : PyStr) : scanMinus ((scanMinus text).1 ++ (digits.1 ++ rest)) =
      ((scanMinus text).1, digits.1 ++ rest) := by
    refine scanMinus_self fun d hd => ?_
    rw [hcons] at hd
    rintro rfl
    cases hd
    cases hdigit
  have hexponent := head_scanExponent (scanFraction digits.2).2
  constructor
  · have hhead : ∀ d ∈ ((scanFraction digits.2).1 ++
        (scanExponent (scanFraction digits.2).2).1).head?, isDigit d = false := by
      intro d hd
      rw [List.head?_append] at hd
      cases hfraction : (scanFraction digits.2).1.head? with
      | none =>
        rw [hfraction] at hd
        rcases hexponent d hd with rfl | rfl <;> rfl
      | some e =>
        rw [hfraction] at hd
        cases hd
        rw [head_scanFraction _ hfraction]
        rfl
    unfold scanNumeral
    rw [List.append_assoc, hminus]
    simp only [scanInt_self hdigits hhead, Option.map_some, scanFraction_self hexponent,
      scanExponent_self]
  · have hnone : ∀ d ∈ ([] : PyStr).head?, isDigit d = false := nofun
    have hint := scanInt_self hdigits hnone
    have hminus := hminus []
    rw [List.append_nil] at hint hminus
    unfold scanNumeral
    rw [hminus]
    simp only [hint]
    rfl

/-! ## The characters of a numeral -/

theorem isNumeralChar_scanMinus : ∀ c ∈ (scanMinus text).1, isNumeralChar c = true := by
  intro c hc
  cases text with
  | nil => cases hc
  | cons d text =>
    simp only [scanMinus] at hc
    split at hc
    · rw [List.mem_singleton.mp hc]
      rfl
    · cases hc

theorem isNumeralChar_scanInt {int : PyStr × PyStr} (hint : scanInt text = some int) :
    ∀ c ∈ int.1, isNumeralChar c = true := by
  obtain ⟨c, digits, hcons, hdigit, hdigits⟩ := head_scanInt hint
  intro d hd
  have hd : isDigit d = true := by
    rw [hcons] at hd
    rcases List.mem_cons.mp hd with rfl | hd
    · exact hdigit
    · exact hdigits d hd
  unfold isNumeralChar
  rw [hd]
  rfl

theorem isNumeralChar_scanFraction : ∀ c ∈ (scanFraction text).1, isNumeralChar c = true := by
  intro c hc
  cases text with
  | nil => cases hc
  | cons d text =>
    simp only [scanFraction] at hc
    split at hc
    · rcases List.mem_cons.mp hc with rfl | hc
      · rfl
      · exact isNumeralChar_of_mem_takeWhile hc
    · cases hc

theorem isNumeralChar_scanSign : ∀ c ∈ (scanSign text).1, isNumeralChar c = true := by
  intro c hc
  cases text with
  | nil => cases hc
  | cons d text =>
    simp only [scanSign] at hc
    split at hc
    · next hd =>
      rw [List.mem_singleton.mp hc]
      rcases hd with rfl | rfl <;> rfl
    · cases hc

theorem isNumeralChar_scanExponent : ∀ c ∈ (scanExponent text).1, isNumeralChar c = true := by
  intro c hc
  cases text with
  | nil => cases hc
  | cons d text =>
    simp only [scanExponent] at hc
    split at hc
    · next hd =>
      rcases List.mem_append.mp hc with hc | hc
      · rcases List.mem_cons.mp hc with rfl | hc
        · rcases hd.1 with rfl | rfl <;> rfl
        · exact isNumeralChar_scanSign c hc
      · exact isNumeralChar_of_mem_takeWhile hc
    · cases hc

theorem isNumeralChar_scanNumeral {int fraction behind : PyStr}
    (h : scanNumeral text = some (int, fraction, behind)) :
    ∀ c ∈ int ++ fraction, isNumeralChar c = true := by
  unfold scanNumeral at h
  obtain ⟨digits, hdigits, heq⟩ := Option.map_eq_some_iff.mp h
  simp only [Prod.mk.injEq] at heq
  obtain ⟨rfl, rfl, rfl⟩ := heq
  intro c hc
  rcases List.mem_append.mp hc with hc | hc
  · rcases List.mem_append.mp hc with hc | hc
    · exact isNumeralChar_scanMinus c hc
    · exact isNumeralChar_scanInt hdigits c hc
  · rcases List.mem_append.mp hc with hc | hc
    · exact isNumeralChar_scanFraction c hc
    · exact isNumeralChar_scanExponent c hc

end

/-! ## Values that are neither strings nor lists nor `dict`s -/

section

variable {floats : FloatRepr} {text rest : PyStr} {value : Value}

theorem scanNumber_append (h : Follows rest) {behind : PyStr}
    (hnumber : scanNumber floats text = some (value, behind)) :
    scanNumber floats (text ++ rest) = some (value, behind ++ rest) := by
  unfold scanNumber at hnumber ⊢
  obtain ⟨⟨int, fraction, behind'⟩, hnumeral, hvalue⟩ := Option.bind_eq_some_iff.mp hnumber
  rw [scanNumeral_append h hnumeral, Option.bind_some]
  simp only at hvalue ⊢
  split at hvalue
  · next hfraction =>
    cases hvalue
    exact if_pos hfraction
  · next hfraction =>
    split at hvalue
    · cases hvalue
    · next hlength =>
      cases hvalue
      exact (if_neg hfraction).trans (if_neg hlength)

theorem scanWord_eq_some {word : PyStr × Value} {behind : PyStr}
    (h : scanWord text word = some (value, behind)) : text = word.1 ++ behind ∧ word.2 = value := by
  unfold scanWord at h
  split at h
  · next hword =>
    cases h
    refine ⟨?_, rfl⟩
    nth_rewrite 1 [← hword]
    rw [List.take_append_drop]
  · cases h

/-- A word is scanned whatever comes after it. -/
theorem scanScalar_word {word : PyStr × Value} (h : word ∈ words) (rest : PyStr) :
    scanScalar floats (word.1 ++ rest) = some (word.2, rest) := by
  simp only [words, List.mem_cons, List.not_mem_nil, or_false] at h
  rcases h with rfl | rfl | rfl | rfl | rfl | rfl <;> rfl

/-- A value is scanned from a numeral or from a word. -/
theorem scanScalar_eq_some {behind : PyStr}
    (h : scanScalar floats text = some (value, behind)) :
    scanNumber floats text = some (value, behind) ∨
      ∃ word ∈ words, text = word.1 ++ behind ∧ word.2 = value := by
  rcases Option.or_eq_some_iff.mp h with h | ⟨-, h⟩
  · exact .inl h
  · obtain ⟨word, hword, hscan⟩ := List.exists_of_findSome?_eq_some h
    exact .inr ⟨word, hword, scanWord_eq_some hscan⟩

/-- A value ends where the text goes on with a comma or a new line. -/
theorem scanScalar_append (h : Follows rest) {behind : PyStr}
    (hvalue : scanScalar floats text = some (value, behind)) :
    scanScalar floats (text ++ rest) = some (value, behind ++ rest) := by
  rcases scanScalar_eq_some hvalue with hnumber | ⟨word, hword, rfl, rfl⟩
  · unfold scanScalar
    rw [scanNumber_append h hnumber]
    rfl
  · rw [List.append_assoc]
    exact scanScalar_word hword (behind ++ rest)

/-- A text is the numeral of a number: it is read as the number that it is the numeral of. -/
def Numeral (floats : FloatRepr) (text : PyStr) : Prop :=
  scanScalar floats text = some (.number text, [])

theorem numeral_word {word : PyStr × Value} (hmem : word ∈ words)
    (hvalue : word.2 = .number word.1) : Numeral floats word.1 := by
  have hscan : scanScalar floats (word.1 ++ []) = some (word.2, []) := scanScalar_word hmem []
  rwa [List.append_nil, hvalue] at hscan

theorem numeral_of_scanNumber (h : scanNumber floats text = some (.number text, [])) :
    Numeral floats text := by
  unfold Numeral scanScalar
  rw [h]
  rfl

/-- A number that is read has a numeral. -/
theorem exists_numeral {behind : PyStr} (h : scanNumber floats text = some (value, behind)) :
    ∃ numeral, value = .number numeral ∧ Numeral floats numeral := by
  unfold scanNumber at h
  obtain ⟨⟨int, fraction, behind'⟩, hnumeral, hvalue⟩ := Option.bind_eq_some_iff.mp h
  obtain ⟨hself, hint⟩ := scanNumeral_self hnumeral
  simp only at hvalue
  split at hvalue
  · next hfraction =>
    cases hvalue
    refine ⟨_, rfl, ?_⟩
    rcases floats.reads (int ++ fraction) ⟨int, fraction, hself, hfraction⟩ with
      ⟨⟨int', fraction', hscan, hfraction'⟩, hrepr⟩ | hinfinite
    · have hwhole := scanNumeral_eq hscan
      rw [List.append_nil] at hwhole
      apply numeral_of_scanNumber
      unfold scanNumber
      rw [hscan, Option.bind_some]
      simp only
      rw [if_pos hfraction', hwhole, hrepr]
    · have hwords : ∀ numeral ∈ [pyStr "Infinity", pyStr "-Infinity"],
          (numeral, Value.number numeral) ∈ words := by simp [words]
      exact numeral_word (hwords _ hinfinite) rfl
  · split at hvalue
    · cases hvalue
    · next hlength =>
      cases hvalue
      refine ⟨_, rfl, numeral_of_scanNumber ?_⟩
      split
      · rfl
      · next hzero =>
        unfold scanNumber
        rw [hint, Option.bind_some]
        simp only [ne_eq, not_true_eq_false, if_false, if_neg hlength, if_neg hzero]

theorem numeral_of_scanScalar {numeral behind : PyStr}
    (h : scanScalar floats text = some (.number numeral, behind)) : Numeral floats numeral := by
  rcases scanScalar_eq_some h with hnumber | ⟨word, hword, -, hvalue⟩
  · obtain ⟨_, heq, hnumeral⟩ := exists_numeral hnumber
    cases heq
    exact hnumeral
  · have hself : ∀ word ∈ words, ∀ n, word.2 = .number n → word.1 = n := by
      simp [words]
    obtain rfl := hself word hword numeral hvalue
    exact numeral_word hword hvalue

theorem plain_of_isNumeralChar {c : ℕ} (h : isNumeralChar c = true) : c < 128 ∧ c ≠ 13 := by
  simp only [isNumeralChar, isDigit, Bool.or_eq_true, Bool.and_eq_true, decide_eq_true_eq] at h
  omega

/-- A numeral is in ASCII, and has no carriage return. -/
theorem Numeral.plain (h : Numeral floats text) : ∀ c ∈ text, c < 128 ∧ c ≠ 13 := by
  rcases scanScalar_eq_some h with hnumber | ⟨word, hword, htext, -⟩
  · unfold scanNumber at hnumber
    obtain ⟨⟨int, fraction, behind⟩, hnumeral, hvalue⟩ := Option.bind_eq_some_iff.mp hnumber
    have hbehind : behind = [] := by
      simp only at hvalue
      split at hvalue
      · exact (Prod.mk.inj (Option.some.inj hvalue)).2
      · split at hvalue
        · cases hvalue
        · exact (Prod.mk.inj (Option.some.inj hvalue)).2
    have hwhole := scanNumeral_eq hnumeral
    rw [hbehind, List.append_nil] at hwhole
    intro c hc
    rw [← hwhole] at hc
    exact plain_of_isNumeralChar (isNumeralChar_scanNumeral hnumeral c hc)
  · have hwords : ∀ word ∈ words, ∀ c ∈ word.1, c < 128 ∧ c ≠ 13 := by decide
    rw [htext, List.append_nil]
    exact hwords word hword

/-- No value begins with a blank or a closing bracket, and no number like a string, a list or a
`dict`. -/
theorem scanScalar_eq_none {c : ℕ} (h : c ∈ [9, 10, 13, 32, 34, 91, 93, 123, 125]) :
    scanScalar floats (c :: text) = none := by
  simp only [List.mem_cons, List.not_mem_nil, or_false] at h
  rcases h with rfl | rfl | rfl | rfl | rfl | rfl | rfl | rfl | rfl <;> rfl

/-- A numeral has a first character, which nothing else begins with. -/
theorem Numeral.exists_cons (h : Numeral floats text) :
    ∃ c rest, text = c :: rest ∧ c ∉ [9, 10, 13, 32, 34, 91, 93, 123, 125] := by
  cases text with
  | nil => cases h
  | cons c rest =>
    refine ⟨c, rest, rfl, fun hc => ?_⟩
    rw [Numeral, scanScalar_eq_none hc] at h
    cases h

end

end JsonText
end CastDelivery
