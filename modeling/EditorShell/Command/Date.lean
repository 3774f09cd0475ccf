import EditorShell.Text.Basic

/-!
# Dates

Days of the Gregorian calendar and their display in listings.
-/

namespace EditorShell

/-- A day. -/
structure Date where
  year : Nat
  month : Nat
  day : Nat
deriving DecidableEq, Repr

namespace Date

/-- Days before the first of March of a year, counted from a first of March in the past that was a
Wednesday. Years here start in March, so that the leap day comes last. -/
def daysBeforeYear (year : Nat) : Nat := 365 * year + year / 4 - year / 100 + year / 400

/-- Days from the first of March to the first of a month, where March is month 0. -/
def daysBeforeMonth (month : Nat) : Nat := (153 * month + 2) / 5

/-- The day of the week, Sunday being 0. -/
def weekday (date : Date) : Nat :=
  let year := if date.month < 3 then date.year - 1 else date.year
  let month := (date.month + 9) % 12
  (daysBeforeYear year + daysBeforeMonth month + date.day + 2) % 7

/-- Short names of the days of the week, from Sunday on. -/
def weekdayNames : List String := ["Sun", "Mon", "Tue", "Wed", "Thu", "Fri", "Sat"]

/-- Short names of the months, from January on. -/
def monthNames : List String :=
  ["Jan", "Feb", "Mar", "Apr", "May", "Jun", "Jul", "Aug", "Sep", "Oct", "Nov", "Dec"]

/-- Weekday, month, day of two digits, year. -/
def text (date : Date) : String :=
  let day := toString date.day
  " ".intercalate [weekdayNames.getD date.weekday "", monthNames.getD (date.month - 1) "",
    if day.length < 2 then "0" ++ day else day, toString date.year]

example : text ⟨2024, 1, 2⟩ = "Tue Jan 02 2024" := by decide +kernel

/-- The day with the given number, where day 0 is the first of January 1970. Days are counted from
the first of March of the year 0, in spans of 400 years of 146097 days each. -/
def ofDayNumber (n : Nat) : Date :=
  let day := n + 719468
  let span := day / 146097
  let dayOfSpan := day % 146097
  let yearOfSpan := (dayOfSpan - dayOfSpan / 1460 + dayOfSpan / 36524 - dayOfSpan / 146096) / 365
  let dayOfYear := dayOfSpan - daysBeforeYear yearOfSpan
  let month := (5 * dayOfYear + 2) / 153
  let year := yearOfSpan + 400 * span
  { year := if month < 10 then year else year + 1
    month := if month < 10 then month + 3 else month - 9
    day := dayOfYear - daysBeforeMonth month + 1 }

end Date
end EditorShell
