import Clickstream.Calendar.Date

/-!
# Dates of the standard

A complete date of ISO 8601 is written in the calendar form (year, month, day) or in the week form
(year, week, day of the week), with hyphens between the parts or with none. The week form may leave
out the day, which is then the Monday.

  `YYYY-MM-DD`   `YYYYMMDD`   `YYYY-Www-D`   `YYYYWwwD`   `YYYY-Www`   `YYYYWww`

All digits are ASCII digits. Week 1 of a year is the week of its first Thursday.
-/

namespace Clickstream

/-- The day of the week of a day number, counted from Monday. -/
def weekday (number : Nat) : Nat :=
  (number + 6) % 7

/-- The day number of the Monday of week 1. -/
def firstMonday (year : Nat) : Nat :=
  let first := dayNumber year 1 1
  if weekday first ≤ 3 then first - weekday first else first + 7 - weekday first

/-- The number of weeks of a year: one more if it has 53 Thursdays. -/
def weeksInYear (year : Nat) : Nat :=
  let day := weekday (dayNumber year 1 1)
  if day = 3 || (day = 2 && isLeapYear year) then 53 else 52

namespace Date

/-- The date of a day of a week, if there is one. -/
def ofWeek? (year week day : Nat) : Option Date :=
  if 1 ≤ year && 1 ≤ week && week ≤ weeksInYear year && 1 ≤ day && day ≤ 7 then
    ofNumber? (firstMonday year + 7 * (week - 1) + (day - 1) : Nat)
  else none

/-- Reads the parts of the week form. -/
def readWeek? (year week day : List Char) : Option Date := do
  let year ← asciiNumber? year
  let week ← asciiNumber? week
  let day ← asciiNumber? day
  ofWeek? year week day

/-- Reads a date in one of the forms. -/
def ofIso? (cs : List Char) : Option Date :=
  match cs with
  | [y₁, y₂, y₃, y₄, '-', 'W', w₁, w₂, '-', d] => readWeek? [y₁, y₂, y₃, y₄] [w₁, w₂] [d]
  | [y₁, y₂, y₃, y₄, '-', 'W', w₁, w₂] => readWeek? [y₁, y₂, y₃, y₄] [w₁, w₂] ['1']
  | [y₁, y₂, y₃, y₄, 'W', w₁, w₂, d] => readWeek? [y₁, y₂, y₃, y₄] [w₁, w₂] [d]
  | [y₁, y₂, y₃, y₄, 'W', w₁, w₂] => readWeek? [y₁, y₂, y₃, y₄] [w₁, w₂] ['1']
  | [y₁, y₂, y₃, y₄, m₁, m₂, d₁, d₂] => read? [y₁, y₂, y₃, y₄, '-', m₁, m₂, '-', d₁, d₂]
  | _ => read? cs

end Date

end Clickstream
