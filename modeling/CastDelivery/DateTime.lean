import CastDelivery.Basic

/-!
# Timestamps as text

`isoformat` of an aware `datetime` in UTC, for a `DateTime` that counts from 1970.
-/

namespace CastDelivery
namespace DateTime

/-- Microseconds in a day. -/
def day : DateTime := 86400 * 1000000

/-- A date of the proleptic Gregorian calendar. -/
structure Date where
  year : Int
  month : ℕ
  day : ℕ
deriving DecidableEq, Repr

/-- The date of a day counted from 1970-01-01. The year is taken to begin in March, so that the
leap day is its last one. -/
def dateOfDay (n : Int) : Date :=
  let z := n + 719468
  let era := z / 146097
  let doe := (z % 146097).toNat
  let yoe := (doe - doe / 1460 + doe / 36524 - doe / 146096) / 365
  let doy := doe - (365 * yoe + yoe / 4 - yoe / 100)
  let mp := (5 * doy + 2) / 153
  let month := if mp < 10 then mp + 3 else mp - 9
  { year := yoe + era * 400 + (if month ≤ 2 then 1 else 0)
    month := month
    day := doy - (153 * mp + 2) / 5 + 1 }

/-- A number in decimal, with at least `width` digits. -/
def padded (width n : ℕ) : String :=
  String.ofList ((Nat.toDigits 10 n).leftpad width '0')

/-- What `isoformat` writes of a time of day. -/
inductive Timespec
  | auto
  | minutes
deriving DecidableEq, Repr

/-- `stamp.isoformat(timespec=timespec)`. -/
def isoformat (stamp : DateTime) (timespec : Timespec) : String :=
  let date := dateOfDay (stamp / day)
  let micros := (stamp % day).toNat
  let seconds := micros / 1000000
  let clock := padded 2 (seconds / 3600) ++ ":" ++ padded 2 (seconds / 60 % 60)
  let rest := match timespec with
    | .minutes => ""
    | .auto =>
      ":" ++ padded 2 (seconds % 60) ++
        (if micros % 1000000 = 0 then "" else "." ++ padded 6 (micros % 1000000))
  padded 4 date.year.toNat ++ "-" ++ padded 2 date.month ++ "-" ++ padded 2 date.day ++ "T" ++
    clock ++ rest ++ "+00:00"

example : isoformat (1582934400 * 1000000) .minutes = "2020-02-29T00:00+00:00" := by decide

end DateTime
end CastDelivery
