/-! # Dates and times

The time of a run is written in two ways, both in universal time: `Calendar.compact` for names of
files and `Calendar.iso` for people.  The date of a day is found from its number in the era of 400
years that it is in, with years that start in March. -/

namespace StatementTables.Calendar

/-- A day. -/
structure Date where
  year : Int
  month : Nat
  day : Nat
  deriving DecidableEq, Repr

/-- The date of a day, by the days since the start of 1970. -/
def dateOf (days : Int) : Date :=
  let shifted := days + 719468
  let era := shifted.fdiv 146097
  let dayOfEra := (shifted.fmod 146097).toNat
  let yearOfEra := (dayOfEra - dayOfEra / 1460 + dayOfEra / 36524 - dayOfEra / 146096) / 365
  let dayOfYear := dayOfEra - (365 * yearOfEra + yearOfEra / 4 - yearOfEra / 100)
  let marchMonth := (5 * dayOfYear + 2) / 153
  let month := if marchMonth < 10 then marchMonth + 3 else marchMonth - 9
  { year := yearOfEra + era * 400 + (if month ≤ 2 then 1 else 0)
    month
    day := dayOfYear - (153 * marchMonth + 2) / 5 + 1 }

/-- A number with zeros in front, `width` digits long. -/
def digits (width n : Nat) : String :=
  .ofList ((List.range width).reverse.map fun i => Nat.digitChar (n / Nat.pow 10 i % 10))

/-- A time from its parts, with marks between the parts of the date and of the hour. -/
def write (dateMark hourMark : String) (seconds : Int) : String :=
  let date := dateOf (seconds.fdiv 86400)
  let second := (seconds.fmod 86400).toNat
  digits 4 date.year.toNat ++ dateMark ++ digits 2 date.month ++ dateMark ++ digits 2 date.day ++
    "T" ++ digits 2 (second / 3600) ++ hourMark ++ digits 2 (second / 60 % 60) ++ hourMark ++
    digits 2 (second % 60) ++ "Z"

/-- Such as `20240131T120000Z`. -/
def compact (seconds : Int) : String := write "" "" seconds

/-- Such as `2024-01-31T12:00:00Z`. -/
def iso (seconds : Int) : String := write "-" ":" seconds

end StatementTables.Calendar
