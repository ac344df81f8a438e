import SearchFilter.Text.Digits

/-!
# Moments

A moment of the clock, and the three ways in which it is written: in log lines, in the names of log
files and in the names of result files.
-/

set_option autoImplicit false

namespace SearchFilter

/-- A moment of the clock, to the second. -/
structure Moment where
  year : Nat
  month : Nat
  day : Nat
  hour : Nat
  minute : Nat
  second : Nat
deriving DecidableEq, Repr

namespace Moment

/-- Two digits of a number. -/
def two (n : Nat) : List Char := Text.padded 10 2 n

/-- Month, day and time, as log lines start. -/
def logStamp (m : Moment) : String :=
  String.ofList (two m.month ++ '-' :: two m.day ++ ' ' :: two m.hour ++ ':' :: two m.minute ++
    ':' :: two m.second)

/-- Month, day and time in ten digits, for the names of log files. -/
def runStamp (m : Moment) : String :=
  String.ofList (two m.month ++ two m.day ++ two m.hour ++ two m.minute ++ two m.second)

/-- Year, month, day and time in digits, for the names of result files. -/
def fileStamp (m : Moment) : String :=
  String.ofList (Text.padded 10 4 m.year ++ two m.month ++ two m.day ++ '_' :: two m.hour ++
    two m.minute ++ two m.second)

end Moment
end SearchFilter
