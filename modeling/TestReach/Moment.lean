namespace TestReach

structure Moment where
  year : Nat
  month : Nat
  day : Nat
  hour : Nat
  minute : Nat
  second : Nat
deriving DecidableEq, Repr

namespace Moment

inductive Fault where
  | year (value : Int)
  | month
  | day
  | hour
  | minute
  | second
  | microsecond
deriving DecidableEq, Repr

def Fault.message : Fault → String
  | year value => "year " ++ toString value ++ " is out of range"
  | month => "month must be in 1..12"
  | day => "day is out of range for month"
  | hour => "hour must be in 0..23"
  | minute => "minute must be in 0..59"
  | second => "second must be in 0..59"
  | microsecond => "microsecond must be in 0..999999"

def isLeapYear (year : Nat) : Bool :=
  year % 4 == 0 && (year % 100 != 0 || year % 400 == 0)

def daysInMonth (year month : Nat) : Nat :=
  if month == 2 then (if isLeapYear year then 29 else 28)
  else if [4, 6, 9, 11].contains month then 30
  else 31

/-- Whether `value` lies between two numbers, both included. -/
def within (low high : Nat) (value : Int) : Bool :=
  (low : Int) ≤ value && value ≤ high

def ofParts (year month day hour minute second microsecond : Int) : Except Fault Moment :=
  if !within 1 9999 year then .error (.year year)
  else if !within 1 12 month then .error .month
  else if !within 1 (daysInMonth year.toNat month.toNat) day then .error .day
  else if !within 0 23 hour then .error .hour
  else if !within 0 59 minute then .error .minute
  else if !within 0 59 second then .error .second
  else if !within 0 999999 microsecond then .error .microsecond
  else .ok ⟨year.toNat, month.toNat, day.toNat, hour.toNat, minute.toNat, second.toNat⟩

def twoDigits (n : Nat) : String :=
  if n < 10 then "0" ++ toString n else toString n

def stamp (moment : Moment) : String :=
  toString moment.year ++ "_" ++ twoDigits moment.month ++ "_" ++ twoDigits moment.day ++ "__" ++
    twoDigits moment.hour ++ "_" ++ twoDigits moment.minute ++ "_" ++ twoDigits moment.second

def logTime (moment : Moment) (milliseconds : Nat) : String :=
  let thousandths := toString milliseconds
  let padding := String.ofList (List.replicate (3 - thousandths.length) '0')
  toString moment.year ++ "-" ++ twoDigits moment.month ++ "-" ++ twoDigits moment.day ++ " " ++
    twoDigits moment.hour ++ ":" ++ twoDigits moment.minute ++ ":" ++ twoDigits moment.second ++
    "," ++ padding ++ thousandths

end Moment
end TestReach
