import FeatureLayout.Text.Blank

/-!
# Days and times in configurations

A configuration may hold a day, a time of the day, or both together with the distance of a time zone
from universal time. No setting takes such a value, but messages show it.
-/

namespace FeatureLayout

open Text

/-- A day of the calendar. -/
structure Day where
  year : Nat
  month : Nat
  day : Nat
  deriving DecidableEq, Repr, Inhabited

namespace Day

/-- Whether a year has a 29th of February. -/
def isLeap (year : Nat) : Bool := year % 4 == 0 && (year % 100 != 0 || year % 400 == 0)

/-- The number of days in a month. -/
def daysIn (year month : Nat) : Nat :=
  if month == 2 then (if isLeap year then 29 else 28)
  else if [4, 6, 9, 11].contains month then 30
  else 31

/-- The day with the given numbers, if the calendar has it. -/
def ofNumbers? (year month day : Nat) : Option Day :=
  if 1 ≤ year ∧ 1 ≤ month ∧ month ≤ 12 ∧ 1 ≤ day ∧ day ≤ daysIn year month then
    some ⟨year, month, day⟩
  else none

example : ofNumbers? 2000 2 29 = some ⟨2000, 2, 29⟩ := by decide

example : ofNumbers? 1900 2 29 = none := by decide

end Day

/-- A time of the day. -/
structure TimeOfDay where
  hour : Nat
  minute : Nat
  second : Nat
  microsecond : Nat
  deriving DecidableEq, Repr, Inhabited

namespace TimeOfDay

/-- The time with the given numbers, if a day has it. -/
def ofNumbers? (hour minute second microsecond : Nat) : Option TimeOfDay :=
  if hour < 24 ∧ minute < 60 ∧ second < 60 ∧ microsecond < 1000000 then
    some ⟨hour, minute, second, microsecond⟩
  else none

/-- The numbers of a time without zeros for seconds that do not matter. -/
def numbers (time : TimeOfDay) : List Nat :=
  [time.hour, time.minute] ++
    if time.microsecond ≠ 0 then [time.second, time.microsecond]
    else if time.second ≠ 0 then [time.second]
    else []

end TimeOfDay

/-- A point in time, as far as it is given. -/
inductive Moment where
  | dayOnly (day : Day)
  | timeOnly (time : TimeOfDay)
  /-- The distance from universal time is in minutes; it may be left open. -/
  | dayAndTime (day : Day) (time : TimeOfDay) (zone : Option Int)
  deriving DecidableEq, Repr, Inhabited

namespace Moment

/-- A number with zeros before it up to a number of digits. -/
def padded (digits number : Nat) : String :=
  let shown := toString number
  String.ofList (List.replicate (digits - shown.length) '0') ++ shown

/-- A day as texts show it. -/
def dayText (day : Day) : String :=
  padded 4 day.year ++ "-" ++ padded 2 day.month ++ "-" ++ padded 2 day.day

/-- A time as texts show it. -/
def timeText (time : TimeOfDay) : String :=
  joinWith ":" ([time.hour, time.minute, time.second].map (padded 2)) ++
    if time.microsecond = 0 then "" else "." ++ padded 6 time.microsecond

/-- A distance from universal time as texts show it. -/
def zoneText (minutes : Int) : String :=
  (if minutes < 0 then "-" else "+") ++ padded 2 (minutes.natAbs / 60) ++ ":" ++
    padded 2 (minutes.natAbs % 60)

/-- A moment as texts show it. -/
def display : Moment → String
  | dayOnly day => dayText day
  | timeOnly time => timeText time
  | dayAndTime day time zone => dayText day ++ " " ++ timeText time ++ (zone.map zoneText).getD ""

/-- A moment as messages show it: its kind and its numbers. -/
def shown (moment : Moment) : String :=
  let numbers (name : String) (numbers : List Nat) : String :=
    "datetime." ++ name ++ "(" ++ joinWith ", " (numbers.map toString) ++ ")"
  match moment with
  | dayOnly day => numbers "date" [day.year, day.month, day.day]
  | timeOnly time => numbers "time" time.numbers
  | dayAndTime day time _ => numbers "datetime" ([day.year, day.month, day.day] ++ time.numbers)

example : (dayAndTime ⟨1979, 5, 27⟩ ⟨7, 32, 0, 0⟩ none).display = "1979-05-27 07:32:00" := by
  decide

example : (dayAndTime ⟨1979, 5, 27⟩ ⟨7, 32, 0, 999⟩ none).shown =
    "datetime.datetime(1979, 5, 27, 7, 32, 0, 999)" := by decide

end Moment

end FeatureLayout
