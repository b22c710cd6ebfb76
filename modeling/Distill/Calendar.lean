import Distill.Text.Digits

/-!
The calendar date and the time of day of an instant after the epoch, in universal time.
-/
namespace Distill.Calendar

structure Date where
  year : Nat
  month : Nat
  day : Nat
deriving DecidableEq, Repr

/-- The date a number of days after the first of January 1970. Years are counted from March, so that the day a leap year
adds is the last one of a year; 400 such years have 146097 days. -/
def dateOfDay (day : Nat) : Date :=
  let day := day + 719468
  let inEra := day % 146097
  let year := (inEra - inEra / 1460 + inEra / 36524 - inEra / 146096) / 365
  let inYear := inEra - (365 * year + year / 4 - year / 100)
  let month := (5 * inYear + 2) / 153
  let year := day / 146097 * 400 + year
  let dayOfMonth := inYear - (153 * month + 2) / 5 + 1
  if month < 10 then ⟨year, month + 3, dayOfMonth⟩ else ⟨year + 1, month - 9, dayOfMonth⟩

/-- Date and time to the millisecond, for a count of milliseconds since the epoch. -/
def text (milliseconds : Nat) : String :=
  let date := dateOfDay (milliseconds / 86400000)
  let padded (width n : Nat) := Text.paddedInt width n
  padded 4 date.year ++ "-" ++ padded 2 date.month ++ "-" ++ padded 2 date.day ++ "T" ++
    padded 2 (milliseconds / 3600000 % 24) ++ ":" ++ padded 2 (milliseconds / 60000 % 60) ++ ":" ++
    padded 2 (milliseconds / 1000 % 60) ++ "." ++ padded 3 (milliseconds % 1000) ++ "Z"

example : text 951782400123 = "2000-02-29T00:00:00.123Z" := by decide +kernel

end Distill.Calendar
