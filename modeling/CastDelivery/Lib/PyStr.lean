import Mathlib.Data.List.Basic

/-!
# Python texts and their UTF-8

A Python string is the list of its code points, lone surrogates among them. `encode` and `decode`
are the strict codec `utf-8`, and `universalNewlines` is what a text file that is opened without
`newline` does to the ends of its lines.
-/

namespace CastDelivery

/-- A Python string. -/
abbrev PyStr := List ℕ

/-- A Python string without lone surrogates. -/
def pyStr (text : String) : PyStr := text.toList.map Char.toNat

/-- `[0-9]`. -/
def isDigit (c : ℕ) : Bool := 48 ≤ c && c ≤ 57

/-- `int` reads no more digits than this. -/
def maxStrDigits : ℕ := 4300

namespace PyStr

/-- The number of a line of digits. -/
def number (base : ℕ) (digits : PyStr) : ℕ := digits.foldl (fun n c => base * n + (c - 48)) 0

variable {text : PyStr} {bytes : List UInt8}

/-- The character of a code point, which a surrogate has not. -/
def char? (c : ℕ) : Option Char := if h : c.isValidChar then some (Char.ofNatAux c h) else none

theorem char?_toNat (char : Char) : char? char.toNat = some char := dif_pos char.valid

theorem toNat_of_char? {c : ℕ} {char : Char} (h : char? c = some char) : char.toNat = c := by
  unfold char? at h
  obtain ⟨hvalid, hsome⟩ := Option.dite_none_right_eq_some.mp h
  cases hsome
  rfl

/-- `text.encode("utf-8")`, unless it raises `UnicodeEncodeError`. -/
def encode (text : PyStr) : Option (List UInt8) :=
  (text.mapM char?).map fun chars => chars.flatMap String.utf8EncodeChar

/-- `bytes.decode("utf-8")`, unless it raises `UnicodeDecodeError`. -/
def decode (bytes : List UInt8) : Option PyStr :=
  bytes.toByteArray.utf8Decode?.map fun chars => chars.toList.map Char.toNat

/-- There is no lone surrogate. -/
def Scalar (text : PyStr) : Prop := ∀ c ∈ text, c.isValidChar

instance : DecidablePred Scalar := fun text => inferInstanceAs (Decidable (∀ c ∈ text, _))

theorem map_toNat_of_mapM {chars : List Char} (h : text.mapM char? = some chars) :
    chars.map Char.toNat = text := by
  induction text generalizing chars with
  | nil =>
    cases h
    rfl
  | cons c text ih =>
    rw [List.mapM_cons] at h
    simp only [Option.bind_eq_bind, Option.bind_eq_some_iff, Option.pure_def,
      Option.some.injEq] at h
    obtain ⟨char, hc, rest, hrest, rfl⟩ := h
    rw [List.map_cons, toNat_of_char? hc, ih hrest]

theorem mapM_char?_map_toNat (chars : List Char) :
    (chars.map Char.toNat).mapM char? = some chars := by
  induction chars with
  | nil => rfl
  | cons char chars ih =>
    rw [List.map_cons, List.mapM_cons, ih, char?_toNat]
    rfl

/-- What can be encoded. -/
theorem exists_encode : (∃ bytes, text.encode = some bytes) ↔ text.Scalar := by
  constructor
  · rintro ⟨bytes, h⟩ c hc
    obtain ⟨chars, hchars, -⟩ := Option.map_eq_some_iff.mp h
    rw [← map_toNat_of_mapM hchars] at hc
    obtain ⟨char, -, rfl⟩ := List.mem_map.mp hc
    exact char.valid
  · intro h
    have hvalid : ∀ c ∈ text, c.isValidChar := h
    have htext : (text.pmap Char.ofNatAux hvalid).map Char.toNat = text := by
      rw [List.map_pmap]
      exact List.pmap_eq_self.mpr fun c hc => rfl
    refine ⟨(text.pmap Char.ofNatAux hvalid).flatMap String.utf8EncodeChar, ?_⟩
    have hchars := mapM_char?_map_toNat (text.pmap Char.ofNatAux hvalid)
    rw [htext] at hchars
    unfold encode
    rw [hchars]
    rfl

/-- What is encoded is decoded again. -/
theorem decode_of_encode (h : text.encode = some bytes) : decode bytes = some text := by
  obtain ⟨chars, hchars, rfl⟩ := Option.map_eq_some_iff.mp h
  have hdecode : (chars.flatMap String.utf8EncodeChar).toByteArray.utf8Decode? =
      some chars.toArray := List.utf8Decode?_utf8Encode
  unfold decode
  rw [hdecode, Option.map_some, List.toList_toArray, map_toNat_of_mapM hchars]

/-- What is decoded is encoded again. -/
theorem encode_of_decode (h : decode bytes = some text) : text.encode = some bytes := by
  obtain ⟨chars, hchars, rfl⟩ := Option.map_eq_some_iff.mp h
  have hbytes : chars.toList.utf8Encode = bytes.toByteArray := by
    have hget := ByteArray.utf8Encode_get_utf8Decode? (b := bytes.toByteArray)
      (h := Option.isSome_of_eq_some hchars)
    rwa [Option.get_of_eq_some _ hchars] at hget
  unfold encode
  rw [mapM_char?_map_toNat]
  exact congrArg some (List.toByteArray_inj.mp hbytes)

/-- A text is encoded as bytes that are decoded as it. -/
theorem encode_eq_iff_of_decode {raw : PyStr} (h : decode bytes = some raw) :
    text.encode = some bytes ↔ text = raw := by
  constructor
  · intro hencode
    exact Option.some.inj ((decode_of_encode hencode).symm.trans h)
  · rintro rfl
    exact encode_of_decode h

/-! ## The ends of lines -/

/-- Every carriage return is a line feed, but one before a line feed, which is left out. -/
def universalNewlines : PyStr → PyStr
  | [] => []
  | c :: text =>
    if c ≠ 13 then c :: universalNewlines text
    else if text.head? = some 10 then universalNewlines text
    else 10 :: universalNewlines text

/-- A text without carriage returns is read as it is. -/
theorem universalNewlines_eq_self (h : 13 ∉ text) : universalNewlines text = text := by
  induction text with
  | nil => rfl
  | cons c text ih =>
    rw [List.mem_cons, not_or] at h
    rw [universalNewlines, if_pos (Ne.symm h.1), ih h.2]

theorem scalar_universalNewlines (h : text.Scalar) : (universalNewlines text).Scalar := by
  induction text with
  | nil => exact h
  | cons c text ih =>
    obtain ⟨hc, htext⟩ := List.forall_mem_cons.mp h
    rw [universalNewlines]
    split
    · exact List.forall_mem_cons.mpr ⟨hc, ih htext⟩
    · split
      · exact ih htext
      · exact List.forall_mem_cons.mpr ⟨by decide, ih htext⟩

end PyStr
end CastDelivery
