import CastDelivery.Lib.PyStr

/-!
# CalVer versions

`CALVER_RE` of `release_config.py` and `parse_calver` of `set_version.py`.
-/

namespace CastDelivery
namespace Release

/-- `int(digits)`, for digits of `[0-9]`. -/
def number (digits : PyStr) : ℕ := PyStr.number 10 digits

/-- The groups of a match of `CALVER_RE`. -/
structure CalverMatch where
  year : PyStr
  month : PyStr
  day : PyStr
  sequence : Option PyStr
deriving DecidableEq, Repr

/-- The end of a version: nothing, or a dot and a number that does not begin with a zero. -/
def matchSequence : PyStr → Option (Option PyStr)
  | [] => some none
  | dot :: first :: rest =>
    if dot = 46 ∧ isDigit first ∧ first ≠ 48 ∧ rest.all isDigit then some (some (first :: rest))
    else none
  | [_] => none

/-- `CALVER_RE.fullmatch`. -/
def calverFullmatch : PyStr → Option CalverMatch
  | y₁ :: y₂ :: y₃ :: y₄ :: dot :: m₁ :: m₂ :: dot' :: d₁ :: d₂ :: rest =>
    if [y₁, y₂, y₃, y₄, m₁, m₂, d₁, d₂].all isDigit ∧ dot = 46 ∧ dot' = 46 then
      (matchSequence rest).map fun sequence => ⟨[y₁, y₂, y₃, y₄], [m₁, m₂], [d₁, d₂], sequence⟩
    else none
  | _ => none

/-- `datetime.date`. -/
structure CalDate where
  year : ℕ
  month : ℕ
  day : ℕ
deriving DecidableEq, Repr

/-- The days of a month. -/
def daysInMonth (year month : ℕ) : ℕ :=
  if month = 2 then
    if year % 4 = 0 ∧ (year % 100 ≠ 0 ∨ year % 400 = 0) then 29 else 28
  else if month ∈ [4, 6, 9, 11] then 30 else 31

/-- `date(year, month, day)`, unless it raises `ValueError`. -/
def CalDate.of (year month day : ℕ) : Option CalDate :=
  if 1 ≤ year ∧ year ≤ 9999 ∧ 1 ≤ month ∧ month ≤ 12 ∧ 1 ≤ day ∧ day ≤ daysInMonth year month then
    some ⟨year, month, day⟩
  else none

/-- `parse_calver`, unless it raises `ValueError`. -/
def parseCalver (value : PyStr) : Option (CalDate × ℕ) :=
  match calverFullmatch value with
  | none => none
  | some groups =>
    let sequence := groups.sequence.getD []
    if maxStrDigits < sequence.length then none
    else (CalDate.of (number groups.year) (number groups.month) (number groups.day)).map
      fun date => (date, number sequence)

example : parseCalver (pyStr "2026.09.03.12") = some (⟨2026, 9, 3⟩, 12) := by decide

/-- What `parse_calver` takes is in the form of a version. -/
theorem isSome_calverFullmatch {value : PyStr} (h : parseCalver value ≠ none) :
    (calverFullmatch value).isSome = true := by
  unfold parseCalver at h
  cases hmatch : calverFullmatch value with
  | none =>
    rw [hmatch] at h
    exact absurd rfl h
  | some groups => rfl

end Release

end CastDelivery
