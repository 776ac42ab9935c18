import LabelPress.Text.Basic

/-!
# Dates and times of day

A `Date` lies in the calendar and a `ClockTime` on the clock, by construction. A `Moment` joins
the two, with the offset from universal time where one is known; a `Due` time is a bare time of
day or a moment. The file also holds the two short forms that labels print.
-/

namespace LabelPress

/-- Whether a year of the calendar has a 29th of February. -/
def isLeapYear (year : Nat) : Bool :=
  year % 4 = 0 && (year % 100 != 0 || year % 400 = 0)

/-- The number of days of a month. -/
def daysInMonth (year month : Nat) : Nat :=
  if month = 2 then (if isLeapYear year then 29 else 28)
  else if month = 4 ∨ month = 6 ∨ month = 9 ∨ month = 11 then 30
  else 31

/-- A day of the calendar, in the years 1 to 9999. -/
structure Date where
  year : Nat
  month : Nat
  day : Nat
  year_range : 1 ≤ year ∧ year ≤ 9999
  month_range : 1 ≤ month ∧ month ≤ 12
  day_range : 1 ≤ day ∧ day ≤ daysInMonth year month
  deriving DecidableEq, Repr

/-- The day with a year, a month and a day of the month, where there is one. -/
def Date.of? (year month day : Nat) : Option Date :=
  if h : (1 ≤ year ∧ year ≤ 9999) ∧ (1 ≤ month ∧ month ≤ 12)
      ∧ (1 ≤ day ∧ day ≤ daysInMonth year month) then
    some ⟨year, month, day, h.1, h.2.1, h.2.2⟩
  else none

/-- A time of day. -/
structure ClockTime where
  hour : Nat
  minute : Nat
  second : Nat
  microsecond : Nat
  hour_lt : hour < 24
  minute_lt : minute < 60
  second_lt : second < 60
  microsecond_lt : microsecond < 1000000
  deriving DecidableEq, Repr

namespace ClockTime

/-- The time of day with these parts, where there is one. -/
def of? (hour minute second microsecond : Nat) : Option ClockTime :=
  if h : hour < 24 ∧ minute < 60 ∧ second < 60 ∧ microsecond < 1000000 then
    some ⟨hour, minute, second, microsecond, h.1, h.2.1, h.2.2.1, h.2.2.2⟩
  else none

/-- The start of the day. -/
def midnight : ClockTime := ⟨0, 0, 0, 0, by decide, by decide, by decide, by decide⟩

/-- The hour on a twelve-hour dial. -/
def dialHour (t : ClockTime) : Nat := if t.hour % 12 = 0 then 12 else t.hour % 12

/-- Hour and minute on a twelve-hour dial, as in `9:05 AM`. -/
def dialText (t : ClockTime) : Text :=
  Text.ofNat t.dialHour ++ ":" ++ Text.padded 2 t.minute ++ (if t.hour < 12 then " AM" else " PM")

end ClockTime

/-- A distance from universal time in microseconds, below a day either way. -/
structure Offset where
  microseconds : Int
  lt_day : microseconds.natAbs < 86400000000
  deriving DecidableEq, Repr

/-- The offset of a number of microseconds, where it is below a day. -/
def Offset.of? (microseconds : Int) : Option Offset :=
  if h : microseconds.natAbs < 86400000000 then some ⟨microseconds, h⟩ else none

/-- No distance from universal time. -/
def Offset.zero : Offset := ⟨0, by decide⟩

/-- A time of day on a date, with its offset from universal time where that is known. -/
structure Moment where
  date : Date
  time : ClockTime
  offset : Option Offset := none
  deriving DecidableEq, Repr

/-- When something is due: at a time of day, or at a moment. -/
inductive Due where
  | time (t : ClockTime)
  | moment (m : Moment)
  deriving DecidableEq, Repr

/-- The time of day of a due time. -/
def Due.clock : Due → ClockTime
  | .time t => t
  | .moment m => m.time

/-- The short names of the months. -/
def monthNames : List Text :=
  ["Jan", "Feb", "Mar", "Apr", "May", "Jun", "Jul", "Aug", "Sep", "Oct", "Nov", "Dec"]

/-- Day of the month and month, as in `05-Mar`. -/
def Date.dayMonthText (d : Date) : Text :=
  Text.padded 2 d.day ++ "-" ++ monthNames.getD (d.month - 1) []

end LabelPress
