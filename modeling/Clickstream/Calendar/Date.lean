/-!
# Calendar dates

The dates of the proleptic Gregorian calendar in the years 1 to 9999, kept as day numbers: day 1 is
the first of January of year 1. The civil form (year, month, day) is computed from the day number
by splitting off periods of 400, 100, 4 and 1 years (`Date.civil`), and the day number from the
civil form by counting the days before the year and before the month (`dayNumber`).
-/

namespace Clickstream

/-- A year of 366 days. -/
def isLeapYear (year : Nat) : Bool :=
  year % 4 == 0 && (year % 100 != 0 || year % 400 == 0)

/-- The lengths of the months. -/
def monthLengths (leap : Bool) : List Nat :=
  [31, if leap then 29 else 28, 31, 30, 31, 30, 31, 31, 30, 31, 30, 31]

/-- The length of a month, zero for a number that is none. -/
def daysInMonth (year month : Nat) : Nat :=
  if month = 0 then 0 else (monthLengths (isLeapYear year)).getD (month - 1) 0

/-- The number of days before a year. -/
def daysBeforeYear (year : Nat) : Nat :=
  let y := year - 1
  y * 365 + y / 4 - y / 100 + y / 400

/-- The number of days of a year before a month. -/
def daysBeforeMonth (leap : Bool) (month : Nat) : Nat :=
  ((monthLengths leap).take (month - 1)).foldl (fun n length => n + length) 0

/-- The day number of a civil date. -/
def dayNumber (year month day : Nat) : Nat :=
  daysBeforeYear year + daysBeforeMonth (isLeapYear year) month + day

/-- The last day number: 31 December 9999. -/
def lastDay : Nat := 3652059

/-- A date, as its day number. -/
structure Date where
  number : Nat
  one_le : 1 ≤ number
  le_last : number ≤ lastDay
  deriving DecidableEq, Repr

/-- A year, a month and a day of the month. -/
structure CivilDate where
  year : Nat
  month : Nat
  day : Nat
  deriving DecidableEq, Repr

namespace CivilDate

/-- The year is in range, the month exists, and the day lies in it. -/
def isValid (c : CivilDate) : Bool :=
  1 ≤ c.year && c.year ≤ 9999 && 1 ≤ c.month && c.month ≤ 12 &&
    1 ≤ c.day && c.day ≤ daysInMonth c.year c.month

end CivilDate

/-- Finds the month of a day of the year, counted from zero: the number of whole months before it
and the day in the month. -/
def splitMonth : List Nat → Nat → Nat × Nat
  | [], n => (0, n)
  | length :: rest, n =>
    if n < length then (0, n)
    else
      let (m, d) := splitMonth rest (n - length)
      (m + 1, d)

namespace Date

/-- The date with a day number, if there is one. -/
def ofNumber? (n : Int) : Option Date :=
  if h : 1 ≤ n ∧ n ≤ lastDay then some ⟨n.toNat, by omega, by omega⟩ else none

/-- The date of a civil form, if it names one. -/
def ofCivil? (c : CivilDate) : Option Date :=
  if c.isValid then ofNumber? (dayNumber c.year c.month c.day) else none

/-- The date some days later, or earlier for a negative number. -/
def addDays? (d : Date) (days : Int) : Option Date :=
  ofNumber? (d.number + days)

/-- The year of a day number and the day of that year, counted from zero. -/
def splitYear (number : Nat) : Nat × Nat :=
  let n := number - 1
  let n400 := n / 146097
  let n := n % 146097
  let n100 := n / 36524
  let n := n % 36524
  let n4 := n / 1461
  let n := n % 1461
  let n1 := n / 365
  let year := 400 * n400 + 100 * n100 + 4 * n4 + n1
  if n1 = 4 || n100 = 4 then (year, 365) else (year + 1, n % 365)

/-- The civil form. -/
def civil (d : Date) : CivilDate :=
  let (year, rest) := splitYear d.number
  let (month, day) := splitMonth (monthLengths (isLeapYear year)) rest
  ⟨year, month + 1, day + 1⟩

def year (d : Date) : Nat := d.civil.year

instance : LE Date := ⟨fun a b => a.number ≤ b.number⟩

instance : LT Date := ⟨fun a b => a.number < b.number⟩

instance (a b : Date) : Decidable (a ≤ b) := inferInstanceAs (Decidable (a.number ≤ b.number))

instance (a b : Date) : Decidable (a < b) := inferInstanceAs (Decidable (a.number < b.number))

end Date

/-! ## Text -/

/-- A number with leading zeros up to a width. -/
def padded (width n : Nat) : String :=
  let s := toString n
  String.ofList (List.replicate (width - s.length) '0') ++ s

/-- The form `YYYY-MM-DD`. -/
def Date.toText (d : Date) : String :=
  let c := d.civil
  padded 4 c.year ++ "-" ++ padded 2 c.month ++ "-" ++ padded 2 c.day

/-- The value of a row of ASCII digits. -/
def asciiNumber? (cs : List Char) : Option Nat :=
  if cs.all fun c => 48 ≤ c.toNat && c.toNat ≤ 57 then
    some (cs.foldl (fun n c => 10 * n + (c.toNat - 48)) 0)
  else none

/-- Reads the form `YYYY-MM-DD` with ASCII digits. -/
def Date.read? : List Char → Option Date
  | [y₁, y₂, y₃, y₄, '-', m₁, m₂, '-', d₁, d₂] => do
    let year ← asciiNumber? [y₁, y₂, y₃, y₄]
    let month ← asciiNumber? [m₁, m₂]
    let day ← asciiNumber? [d₁, d₂]
    Date.ofCivil? ⟨year, month, day⟩
  | _ => none

end Clickstream
