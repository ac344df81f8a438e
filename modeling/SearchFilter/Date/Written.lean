import SearchFilter.Date.Basic
import SearchFilter.Unicode.Numeral

/-!
# Written dates

How dates are written in queries: three groups of digits, told apart by their lengths and by the
mark between them.

* `DateForm` lists the four forms, `DateStyle` groups them: the two that begin with the year and
  use no hyphen are of one style.
* `WrittenDate` is a date as written, `WrittenDate.chars` its characters.
* `WrittenDate.take?` takes a date off the front of a text; no word character may follow it.
* `WrittenDate.date?` is the day meant, if there is one.
-/

set_option autoImplicit false

namespace SearchFilter

open Unicode

/-- The forms in which a date can be written. -/
inductive DateForm where
  /-- Month, day and year with slashes between them. -/
  | monthFirst
  /-- Year, month and day with slashes between them. -/
  | yearFirst
  /-- Eight digits. -/
  | compact
  /-- Year, month and day with hyphens between them. -/
  | dashed
deriving DecidableEq, Repr

/-- The styles of writing dates; a range uses one style for both of its dates. -/
inductive DateStyle where
  | monthFirst
  | yearFirst
  | dashed
deriving DecidableEq, Repr

namespace DateForm

/-- The style a form belongs to. -/
def style : DateForm → DateStyle
  | monthFirst => .monthFirst
  | yearFirst | compact => .yearFirst
  | dashed => .dashed

/-- What stands between the groups of digits. -/
def mark : DateForm → List Char
  | monthFirst | yearFirst => ['/']
  | compact => []
  | dashed => ['-']

/-- Whether the three groups may have these lengths. -/
def hasWidths (form : DateForm) (first second third : Nat) : Bool :=
  match form with
  | monthFirst => isShort first && isShort second && third == 4
  | yearFirst | dashed => first == 4 && isShort second && isShort third
  | compact => first == 4 && second == 2 && third == 2
where
  /-- A group that may drop its leading zero. -/
  isShort (n : Nat) : Bool := n == 1 || n == 2

end DateForm

/-- A date as written: its form and its three groups of digits in the order of writing. -/
structure WrittenDate where
  form : DateForm
  first : List Char
  second : List Char
  third : List Char
deriving DecidableEq, Repr

/-- Whether a text goes on with a word character. -/
def startsWithWordChar : List Char → Bool
  | [] => false
  | c :: _ => isWordChar c

namespace WrittenDate

/-- The date as it stands in the text. -/
def chars (d : WrittenDate) : List Char :=
  d.first ++ d.form.mark ++ d.second ++ d.form.mark ++ d.third

/-- Whether the groups consist of digits, as many as the form asks for. -/
def isWellFormed (d : WrittenDate) : Bool :=
  (d.first.all isDigit && d.second.all isDigit && d.third.all isDigit) &&
    d.form.hasWidths d.first.length d.second.length d.third.length

/-! ## Taking a date off a text -/

/-- The second and third group of digits, when both follow the mark. -/
def takeGroups? (mark : Char) (cs : List Char) : Option (List Char × List Char × List Char) :=
  match cs with
  | [] => none
  | c :: cs =>
    if c = mark then
      match cs.dropWhile isDigit with
      | [] => none
      | c :: rest =>
        if c = mark then
          some (cs.takeWhile isDigit, rest.takeWhile isDigit, rest.dropWhile isDigit)
        else none
    else none

/-- The groups of digits at the front of a text in the form that the first group and the mark
behind it point to, and what follows them. -/
def takeCandidate? (cs : List Char) : Option (WrittenDate × List Char) :=
  let first := cs.takeWhile isDigit
  let rest := cs.dropWhile isDigit
  if first.length = 8 then
    some (⟨.compact, first.take 4, (first.drop 4).take 2, first.drop 6⟩, rest)
  else
    match takeGroups? '/' rest, takeGroups? '-' rest with
    | some (second, third, rest), _ =>
      some (⟨if first.length = 4 then .yearFirst else .monthFirst, first, second, third⟩, rest)
    | none, some (second, third, rest) => some (⟨.dashed, first, second, third⟩, rest)
    | none, none => none

/-- **The date at the front of a text**, and what follows it.  A date ends where its digits end, so
no word character may follow. -/
def take? (cs : List Char) : Option (WrittenDate × List Char) :=
  (takeCandidate? cs).filter fun (d, rest) => d.isWellFormed && !startsWithWordChar rest

/-- The date that is the whole of a text. -/
def ofChars? (cs : List Char) : Option WrittenDate :=
  match take? cs with
  | some (d, []) => some d
  | _ => none

/-! ## The day meant -/

/-- Year, month and day.  Of three numbers with slashes between them the first is the month, unless it
is too large for one: then it is the day, and if it is too large for a day it is the year, and the
last number is the day. -/
def fields (d : WrittenDate) : Nat × Nat × Nat :=
  let first := Text.decimalValue d.first
  let second := Text.decimalValue d.second
  let third := Text.decimalValue d.third
  match d.form with
  | .monthFirst =>
    if first ≤ 12 then (third, first, second)
    else if first ≤ 31 then (third, second, first)
    else (first, second, third)
  | .yearFirst | .compact | .dashed => (first, second, third)

/-- **The day that a written date means**, if there is such a day. -/
def date? (d : WrittenDate) : Option Date :=
  let (year, month, day) := d.fields
  Date.ofFields? year month day

end WrittenDate
end SearchFilter
