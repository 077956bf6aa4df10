/-
This file turns day numbers into dates of the proleptic Gregorian calendar and writes instants.
-/

import CredentialResolution.Time.Instant

namespace CredentialResolution

structure CivilDate where
  year : Int
  month : Nat
  dayOfMonth : Nat
  deriving DecidableEq

/-- The calendar repeats every 400 years; a year is taken to begin in March, so that the leap day
comes last. -/
def CivilDate.ofDay (day : Int) : CivilDate :=
  let shifted := day + 719468
  let era := shifted / 146097
  let dayOfEra := (shifted % 146097).toNat
  let yearOfEra := (dayOfEra - dayOfEra / 1460 + dayOfEra / 36524 - dayOfEra / 146096) / 365
  let dayOfYear := dayOfEra - (365 * yearOfEra + yearOfEra / 4 - yearOfEra / 100)
  let monthFromMarch := (5 * dayOfYear + 2) / 153
  let month := if monthFromMarch < 10 then monthFromMarch + 3 else monthFromMarch - 9
  { year := era * 400 + yearOfEra + (if month ≤ 2 then 1 else 0)
    month := month
    dayOfMonth := dayOfYear - (153 * monthFromMarch + 2) / 5 + 1 }

namespace Text

/-- Zeros stand before the digits up to the given width. -/
def padded (width value : Nat) : String :=
  let digits := Nat.toDigits 10 value
  String.ofList (List.replicate (width - digits.length) '0' ++ digits)

/-- A year outside 0 to 9999 carries a sign. -/
def year (value : Int) : String :=
  if 0 ≤ value ∧ value ≤ 9999 then padded 4 value.toNat
  else (if value < 0 then "-" else "+") ++ padded 4 value.natAbs

/-- The fraction has the fewest of 0, 3, 6 or 9 digits that show it exactly. -/
def fraction (nanoseconds : Nat) : String :=
  if nanoseconds = 0 then ""
  else if nanoseconds % 1000000 = 0 then "." ++ padded 3 (nanoseconds / 1000000)
  else if nanoseconds % 1000 = 0 then "." ++ padded 6 (nanoseconds / 1000)
  else "." ++ padded 9 nanoseconds

end Text

/-- A leap second is written as one more second and the rest of the fraction. -/
def Instant.shown (instant : Instant) : String :=
  let date := CivilDate.ofDay instant.day
  let second := instant.second % 60 + (if instant.isLeap then 1 else 0)
  let nanosecond := instant.nanosecond - (if instant.isLeap then 1000000000 else 0)
  Text.year date.year ++ "-" ++ Text.padded 2 date.month ++ "-" ++
    Text.padded 2 date.dayOfMonth ++ "T" ++ Text.padded 2 (instant.second / 3600) ++ ":" ++
    Text.padded 2 (instant.second / 60 % 60) ++ ":" ++ Text.padded 2 second ++
    Text.fraction nanosecond ++ "Z"

end CredentialResolution
