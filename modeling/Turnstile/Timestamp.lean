import Turnstile.Number.Decimal

/-!
# Timestamps

The time of day, written as date and time with milliseconds. `civil` gives the date of a day by
counting in eras of 400 years, each of which has the same number of days; a year is taken to begin
in March, so that the day that leap years add comes last.
-/

namespace Turnstile

/-- Milliseconds since the beginning of 1970. -/
structure Timestamp where
  millis : Nat
  deriving DecidableEq, Repr, Inhabited

namespace Timestamp

/-- Year, month and day of the day with a given number, counted from the first of 1970. -/
def civil (day : Nat) : Nat × Nat × Nat :=
  -- days from the first of March of the year 0 to the first of 1970
  let z := day + 719468
  let era := z / 146097
  let dayOfEra := z % 146097
  let yearOfEra := (dayOfEra - dayOfEra / 1460 + dayOfEra / 36524 - dayOfEra / 146096) / 365
  let dayOfYear := dayOfEra - (365 * yearOfEra + yearOfEra / 4 - yearOfEra / 100)
  let march := (5 * dayOfYear + 2) / 153
  let month := if march < 10 then march + 3 else march - 9
  let year := yearOfEra + era * 400 + (if month ≤ 2 then 1 else 0)
  (year, month, dayOfYear - (153 * march + 2) / 5 + 1)

/-- A number with at least the given number of digits. -/
def padded (width n : Nat) : String :=
  let digits := Decimal.digitsOf n
  String.ofList (List.replicate (width - digits.length) '0' ++ digits)

/-- The text of a timestamp, in universal time. -/
def text (t : Timestamp) : String :=
  let seconds := t.millis / 1000
  let (year, month, day) := civil (seconds / 86400)
  let s := seconds % 86400
  padded 4 year ++ "-" ++ padded 2 month ++ "-" ++ padded 2 day ++ "T" ++
    padded 2 (s / 3600) ++ ":" ++ padded 2 (s / 60 % 60) ++ ":" ++ padded 2 (s % 60) ++ "." ++
    padded 3 (t.millis % 1000) ++ "Z"

end Timestamp

end Turnstile
