/-!
# Civil dates

Dates of the Gregorian calendar, carried on before its introduction and with a year zero.  A
`Date` holds a day that the calendar has: its month and day are proved to be in range.
-/

namespace Backbeat.Calendar

def isLeap (year : Int) : Bool :=
  year % 4 == 0 && (year % 100 != 0 || year % 400 == 0)

def daysIn (year : Int) (month : Nat) : Nat :=
  if month = 2 then (if isLeap year then 29 else 28)
  else if month = 4 ∨ month = 6 ∨ month = 9 ∨ month = 11 then 30
  else 31

theorem daysIn_bounds (year : Int) (month : Nat) :
    28 ≤ daysIn year month ∧ daysIn year month ≤ 31 := by
  unfold daysIn
  grind

structure Date where
  year : Int
  month : Nat
  day : Nat
  month_valid : 1 ≤ month ∧ month ≤ 12
  day_valid : 1 ≤ day ∧ day ≤ daysIn year month
deriving DecidableEq

namespace Date

/-- The date of a year, month and day, if the calendar has it. -/
def of? (year : Int) (month day : Nat) : Option Date :=
  if month_valid : 1 ≤ month ∧ month ≤ 12 then
    if day_valid : 1 ≤ day ∧ day ≤ daysIn year month then
      some ⟨year, month, day, month_valid, day_valid⟩
    else
      none
  else
    none

@[simp]
theorem of?_self (date : Date) : of? date.year date.month date.day = some date := by
  simp [of?, date.month_valid, date.day_valid]

def firstOf (year : Int) (month : Nat) (month_valid : 1 ≤ month ∧ month ≤ 12) : Date where
  year := year
  month := month
  day := 1
  month_valid := month_valid
  day_valid := by have := daysIn_bounds year month; omega

def lastOf (year : Int) (month : Nat) (month_valid : 1 ≤ month ∧ month ≤ 12) : Date where
  year := year
  month := month
  day := daysIn year month
  month_valid := month_valid
  day_valid := by have := daysIn_bounds year month; omega

def next (date : Date) : Date :=
  if more : date.day < daysIn date.year date.month then
    { date with day := date.day + 1, day_valid := by have := date.day_valid; omega }
  else if inYear : date.month < 12 then
    firstOf date.year (date.month + 1) (by omega)
  else
    firstOf (date.year + 1) 1 (by omega)

def previous (date : Date) : Date :=
  if more : 1 < date.day then
    { date with day := date.day - 1, day_valid := by have := date.day_valid; omega }
  else if inYear : 1 < date.month then
    lastOf date.year (date.month - 1) (by have := date.month_valid; omega)
  else
    lastOf (date.year - 1) 12 (by omega)

end Date

def yearInRange (year : Int) : Bool :=
  -262143 ≤ year && year ≤ 262142

end Backbeat.Calendar
