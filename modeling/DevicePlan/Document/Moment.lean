namespace DevicePlan

structure Moment.Date where
  year : Nat
  month : Nat
  day : Nat
deriving DecidableEq

structure Moment.Time where
  hour : Nat
  minute : Nat
  second : Nat
  nanosecond : Nat
deriving DecidableEq

inductive Moment.Offset where
  | universal
  | minutes (ahead : Int)
deriving DecidableEq

inductive Moment where
  | date (day : Moment.Date)
  | time (clock : Moment.Time)
  | dateTime (day : Moment.Date) (clock : Moment.Time) (offset : Option Moment.Offset)
deriving DecidableEq

namespace Moment

def padded (width n : Nat) : String :=
  let digits := (toString n).toList
  String.ofList (List.replicate (width - digits.length) '0' ++ digits)

def daysOfMonth (year month : Nat) : Nat :=
  if month = 2 then
    if year % 4 = 0 ∧ (year % 100 ≠ 0 ∨ year % 400 = 0) then 29 else 28
  else if month = 4 ∨ month = 6 ∨ month = 9 ∨ month = 11 then 30
  else 31

def Date.isValid (date : Date) : Bool :=
  1 ≤ date.month && date.month ≤ 12 && 1 ≤ date.day &&
    date.day ≤ daysOfMonth date.year date.month

/-- Whether the clock shows this time; a minute may have a leap second. -/
def Time.isValid (time : Time) : Bool :=
  time.hour ≤ 23 && time.minute ≤ 59 && time.second ≤ 60

def Date.text (date : Date) : String :=
  padded 4 date.year ++ "-" ++ padded 2 date.month ++ "-" ++ padded 2 date.day

def Time.text (time : Time) : String :=
  let clock := padded 2 time.hour ++ ":" ++ padded 2 time.minute ++ ":" ++ padded 2 time.second
  if time.nanosecond = 0 then clock
  else
    let places := (padded 9 time.nanosecond).toList.reverse.dropWhile (· == '0')
    clock ++ "." ++ String.ofList places.reverse

def Offset.text : Offset → String
  | universal => "Z"
  | minutes ahead =>
    (if ahead < 0 then "-" else "+") ++ padded 2 (ahead.natAbs / 60) ++ ":" ++
      padded 2 (ahead.natAbs % 60)

def text : Moment → String
  | .date day => day.text
  | .time clock => clock.text
  | .dateTime day clock offset =>
    day.text ++ "T" ++ clock.text ++ (offset.map Offset.text).getD ""

end Moment

end DevicePlan
