/-
# The calendar

Days of the Gregorian calendar, carried on before its introduction, are counted from
1970-01-01. A year has 365 days, one more if it is a leap year; four hundred years have
146097 days, which is what the way back divides by. It counts years from March, so that
the leap day is the last day of a year.
-/

namespace Rulebook
namespace Calendar

/-- A year with a 29th of February. -/
def isLeap (year : Int) : Bool := year % 4 == 0 && (year % 100 != 0 || year % 400 == 0)

/-- The number of days of a month. -/
def monthLength (year : Int) (month : Nat) : Nat :=
  match month with
  | 2 => if isLeap year then 29 else 28
  | 4 | 6 | 9 | 11 => 30
  | _ => 31

/-- The number of days of a year before a month. -/
def daysBefore (year : Int) (month : Nat) : Nat :=
  (List.range (month - 1)).foldl (fun days m => days + monthLength year (m + 1)) 0

/-- The day of a date. -/
def dayNumber (year : Int) (month day : Nat) : Int :=
  let past := year - 1
  365 * past + past / 4 - past / 100 + past / 400 + daysBefore year month + day - 719163

/-- The year, month and day of a day number. -/
def dateOf (dayNumber : Int) : Int × Nat × Nat :=
  -- days since the first of March of the year 0
  let days := dayNumber + 719468
  let era := days / 146097
  let dayOfEra := (days % 146097).toNat
  let yearOfEra := (dayOfEra - dayOfEra / 1460 + dayOfEra / 36524 - dayOfEra / 146096) / 365
  let dayOfYear := dayOfEra - (365 * yearOfEra + yearOfEra / 4 - yearOfEra / 100)
  let monthFromMarch := (5 * dayOfYear + 2) / 153
  let day := dayOfYear - (153 * monthFromMarch + 2) / 5 + 1
  let month := if monthFromMarch < 10 then monthFromMarch + 3 else monthFromMarch - 9
  (era * 400 + yearOfEra + (if month ≤ 2 then 1 else 0), month, day)

end Calendar
end Rulebook
