/-!
Dates of the proleptic Gregorian calendar.

A day is a count from 1 January 1970. The date is found in a year that begins in March, so that the
leap day comes last, inside an era of 400 years (146097 days).
-/

set_option autoImplicit false

namespace ShaderGuard.Log

/-- A date. -/
structure Date where
  year : Nat
  /-- January is 1. -/
  month : Nat
  /-- The first day of a month is 1. -/
  day : Nat
  deriving DecidableEq

/-- The date of a day, counted from 1 January 1970. -/
def Date.ofDay (daysSinceEpoch : Nat) : Date :=
  let days := daysSinceEpoch + 719468
  let era := days / 146097
  let dayOfEra := days % 146097
  let yearOfEra := (dayOfEra - dayOfEra / 1460 + dayOfEra / 36524 - dayOfEra / 146096) / 365
  let dayOfYear := dayOfEra - (365 * yearOfEra + yearOfEra / 4 - yearOfEra / 100)
  let monthFromMarch := (5 * dayOfYear + 2) / 153
  let month := if monthFromMarch < 10 then monthFromMarch + 3 else monthFromMarch - 9
  { year := era * 400 + yearOfEra + if month ≤ 2 then 1 else 0
    month
    day := dayOfYear - (153 * monthFromMarch + 2) / 5 + 1 }

example : Date.ofDay 0 = ⟨1970, 1, 1⟩ := by decide
example : Date.ofDay 11016 = ⟨2000, 2, 29⟩ := by decide
example : Date.ofDay 47540 = ⟨2100, 2, 28⟩ := by decide
example : Date.ofDay 47541 = ⟨2100, 3, 1⟩ := by decide

end ShaderGuard.Log
