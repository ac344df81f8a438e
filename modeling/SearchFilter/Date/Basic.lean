import SearchFilter.Text.Digits

/-!
# Calendar dates

Dates of the Gregorian calendar, reckoned backwards before its introduction, in the years 1 to
9999.

* `Date` holds only days that exist; `Date.ofFields?` makes one from three numbers.
* `Date.isoText` writes a date as year, month and day.
-/

set_option autoImplicit false

namespace SearchFilter

/-- Whether a year has a leap day. -/
def isLeapYear (year : Nat) : Bool :=
  year % 4 == 0 && (year % 100 != 0 || year % 400 == 0)

/-- The number of days in a month. -/
def daysInMonth (year month : Nat) : Nat :=
  match month with
  | 2 => if isLeapYear year then 29 else 28
  | 4 | 6 | 9 | 11 => 30
  | _ => 31

/-- The days that exist. -/
abbrev IsCalendarDay (year month day : Nat) : Prop :=
  (1 ≤ year ∧ year ≤ 9999) ∧ (1 ≤ month ∧ month ≤ 12) ∧ 1 ≤ day ∧ day ≤ daysInMonth year month

/-- A day of the calendar. -/
structure Date where
  /-- The year, 1 to 9999. -/
  year : Nat
  /-- The month, 1 to 12. -/
  month : Nat
  /-- The day of the month, from 1. -/
  day : Nat
  exists_day : IsCalendarDay year month day := by decide
deriving DecidableEq

namespace Date

/-- The date with these fields, if there is such a day. -/
def ofFields? (year month day : Nat) : Option Date :=
  if h : IsCalendarDay year month day then some ⟨year, month, day, h⟩ else none

theorem ofFields?_eq_some_iff {year month day : Nat} {d : Date} :
    ofFields? year month day = some d ↔ d.year = year ∧ d.month = month ∧ d.day = day := by
  unfold ofFields?
  constructor
  · intro h
    split at h
    · cases h; simp
    · simp at h
  · rintro ⟨rfl, rfl, rfl⟩
    rw [dif_pos d.exists_day]

@[simp]
theorem ofFields?_self (d : Date) : ofFields? d.year d.month d.day = some d :=
  ofFields?_eq_some_iff.2 ⟨rfl, rfl, rfl⟩

/-- The date as four digits of year, two of month and two of day, with hyphens between them. -/
def isoChars (d : Date) : List Char :=
  Text.padded 10 4 d.year ++ '-' :: Text.padded 10 2 d.month ++ '-' :: Text.padded 10 2 d.day

/-- The date as four digits of year, two of month and two of day, with hyphens between them. -/
def isoText (d : Date) : String :=
  String.ofList d.isoChars

end Date
end SearchFilter
