namespace TypedRows

-- A date and a time of day in the Gregorian calendar, extended to all years in range,
-- with no zone. The leap second behind a second has the nanoseconds from 1000000000 on,
-- and any second may have one.
structure CalendarFields where
  year : Int
  month : Nat
  day : Nat
  hour : Nat
  minute : Nat
  second : Nat
  nanosecond : Nat
deriving DecidableEq

def isLeapYear (year : Int) : Bool :=
  year % 4 == 0 && (year % 100 != 0 || year % 400 == 0)

def daysInMonth (year : Int) (month : Nat) : Nat :=
  if month = 2 then (if isLeapYear year then 29 else 28)
  else if month ∈ [4,6,9,11] then 30 else 31

def CalendarFields.isValid (f : CalendarFields) : Bool :=
  decide (-262143 ≤ f.year ∧ f.year ≤ 262142) &&
  decide (1 ≤ f.month ∧ f.month ≤ 12) &&
  decide (1 ≤ f.day ∧ f.day ≤ daysInMonth f.year f.month) &&
  decide (f.hour ≤ 23) && decide (f.minute ≤ 59) && decide (f.second ≤ 59) &&
  decide (f.nanosecond ≤ 1999999999)

structure Timestamp extends CalendarFields where
  valid : toCalendarFields.isValid = true
deriving DecidableEq

-- What is written as second 60 is the leap second behind second 59.
def CalendarFields.ofWritten (f : CalendarFields) : CalendarFields :=
  if f.second = 60 then {f with second := 59,nanosecond := f.nanosecond + 1000000000} else f

def CalendarFields.timestamp? (f : CalendarFields) : Option Timestamp :=
  if h : f.ofWritten.isValid = true then some ⟨f.ofWritten,h⟩ else none

end TypedRows
