import SearchFilter.Date.Basic
import SearchFilter.Text.Numeral
import SearchFilter.Yaml.Error

/-!
# Reading YAML: dates and times

* `Timestamp.ofWord?` reads a date with or without a time of the day and a zone.
* `Timestamp.fault?` says why there is no such day, time or zone.
-/

set_option autoImplicit false

namespace SearchFilter
namespace Yaml

open Text

/-- A date, with the time of the day if there is one. -/
structure Timestamp where
  year : Nat
  month : Nat
  day : Nat
  /-- Hour, minute and second. -/
  time : Option (Nat × Nat × Nat) := none
  /-- The minutes by which the zone is ahead, if it is stated by a sign. -/
  offset : Option Int := none
deriving DecidableEq, Repr

/-- A number of at least `least` and at most `most` digits, and what follows. -/
def takeNumber? (least most : Nat) (cs : List Char) : Option (Nat × List Char) :=
  let digits := (cs.take most).takeWhile (·.isDigit)
  if digits.length < least then none else some (digitsValue 10 digits, cs.drop digits.length)

/-- What follows a character. -/
def after? (c : Char) : List Char → Option (List Char)
  | d :: cs => if d = c then some cs else none
  | [] => none

/-- The rest of a text behind spaces and tabs. -/
def dropGap (cs : List Char) : List Char :=
  cs.dropWhile fun c => c == ' ' || c == '\t'

/-- What stands between a date and a time. -/
def dropDateGap? : List Char → Option (List Char)
  | 'T' :: cs | 't' :: cs => some cs
  | ' ' :: cs | '\t' :: cs => some (dropGap cs)
  | _ => none

/-- The minutes of a zone that is written as hours, or as hours and minutes. -/
def zoneMinutes? (cs : List Char) : Option Nat := do
  let (hours, rest) ← takeNumber? 1 2 cs
  match rest with
  | [] => some (hours * 60)
  | ':' :: rest =>
    match ← takeNumber? 2 2 rest with
    | (minutes, []) => some (hours * 60 + minutes)
    | _ => none
  | _ => none

/-- The offset of the zone that a text is; the empty text and the letter for the first zone state
none. -/
def zone? (cs : List Char) : Option (Option Int) :=
  match dropGap cs with
  | [] => if cs.isEmpty then some none else none
  | ['Z'] => some none
  | '+' :: rest => (zoneMinutes? rest).map fun minutes => some (minutes : Int)
  | '-' :: rest => (zoneMinutes? rest).map fun minutes => some (-(minutes : Int))
  | _ => none

/-- A text without the line feed at its end. -/
def dropLastFeed (cs : List Char) : List Char :=
  if cs.getLast? == some '\n' then cs.dropLast else cs

namespace Timestamp

/-- **The timestamp that a text writes.** -/
def ofWord? (cs : List Char) : Option Timestamp := do
  let (year, rest) ← takeNumber? 4 4 cs
  let rest ← after? '-' rest
  let (month, rest) ← takeNumber? 1 2 rest
  let rest ← after? '-' rest
  let (day, rest) ← takeNumber? 1 2 rest
  if rest.isEmpty then some { year, month, day }
  else
    let rest ← dropDateGap? rest
    let (hour, rest) ← takeNumber? 1 2 rest
    let rest ← after? ':' rest
    let (minute, rest) ← takeNumber? 2 2 rest
    let rest ← after? ':' rest
    let (second, rest) ← takeNumber? 2 2 rest
    let rest :=
      match rest with
      | '.' :: rest => rest.dropWhile (·.isDigit)
      | rest => rest
    let offset ← zone? rest
    some { year, month, day, time := some (hour, minute, second), offset }

/-- **Why there is no such moment**, if there is none: the zone is looked at first. -/
def fault? (t : Timestamp) : Option Error :=
  match t.offset.filter fun minutes => minutes.natAbs ≥ 1440 with
  | some minutes => some (.offsetOutOfRange minutes)
  | none =>
    if t.year = 0 then some (.yearOutOfRange t.year)
    else if t.month = 0 ∨ t.month > 12 then some .monthOutOfRange
    else if t.day = 0 ∨ t.day > daysInMonth t.year t.month then some .dayOutOfRange
    else
      match t.time with
      | none => none
      | some (hour, minute, second) =>
        if hour > 23 then some .hourOutOfRange
        else if minute > 59 then some .minuteOutOfRange
        else if second > 59 then some .secondOutOfRange
        else none

end Timestamp
end Yaml
end SearchFilter
