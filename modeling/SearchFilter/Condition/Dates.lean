import SearchFilter.Condition
import SearchFilter.Lexeme.Take
import SearchFilter.Text.Pieces
import SearchFilter.Unicode.Blank

/-!
# The dates a condition names

The value of a date condition keeps the text of the query; here it is read as days of the calendar.

* `Date.Reader` is what reads the day that a text names; `Date.Reader.written` is the one that knows the
  four forms of written dates.
* `Date.readText` reads one date, blanks around it aside; `Date.ofText` does so with that reader.
* `Condition.datesBy` reads all dates of a condition: its sides, between which `TO` stands.
* `Date.Error` says what can be wrong.
-/

set_option autoImplicit false

namespace SearchFilter

open Unicode Text

/-! ## Readers of dates -/

namespace Date

/-- Why a reader finds no day. -/
inductive Fault where
  /-- The text names no day. -/
  | noDate
  /-- A number in the text is too large. -/
  | tooLarge
  /-- Nobody expects this fault; the reader has some words for it. -/
  | unforeseen (words : String)
deriving DecidableEq, Repr

/-- What reads the day that a text names.  It is told whether the text starts with its year. -/
abbrev Reader := (yearFirst : Bool) → String → Except Fault Date

/-- The reader of written dates.  Their form shows where the year is. -/
def Reader.written : Reader := fun _ text =>
  match (WrittenDate.ofChars? text.toList).bind (·.date?) with
  | some date => .ok date
  | none => .error .noDate

/-- Why there is no date. -/
inductive Error where
  /-- The text is not a written date, or there is no such day. -/
  | invalid (text : String)
  /-- The condition does not name dates. -/
  | notDated (operator : Operator)
  /-- The reader has failed in a way of its own. -/
  | failed (words : String)
deriving DecidableEq, Repr

/-- The text of an error. -/
def Error.message : Error → String
  | invalid text => "Invalid date: " ++ text
  | notDated operator => "Not a date predicate: " ++ operator.name
  | failed words => words

/-- Whether a text starts with four digits. -/
def startsWithYear (cs : List Char) : Bool :=
  (cs.take 4).length == 4 && (cs.take 4).all isDigit

/-- **The day that a reader finds in a text**, without the blanks around it. -/
def readText (read : Reader) (text : String) : Except Error Date :=
  let cs := trim text.toList
  match read (startsWithYear cs) (String.ofList cs) with
  | .ok date => .ok date
  | .error (.unforeseen words) => .error (.failed words)
  | .error _ => .error (.invalid text)

/-- The day that a text names as a written date. -/
def ofText (text : String) : Except Error Date :=
  readText .written text

end Date

/-! ## The sides of a condition -/

/-- The text behind a comparison sign and the blanks that follow it, or the text itself if it starts
with none. -/
def dropComparison : List Char → List Char
  | c :: cs =>
    if c == '<' || c == '>' then
      trimStart (match cs with
        | '=' :: rest => rest
        | _ => cs)
    else c :: cs
  | [] => []

/-- The parts of a text between the connectives `TO` in it, each with blanks on both sides.  `inside`
counts the characters that still belong to the last connective. -/
def splitRange (inside : Nat) : List Char → List (List Char)
  | [] => [[]]
  | c :: cs =>
    match inside with
    | inside + 1 => splitRange inside cs
    | 0 =>
      match takeConnective? ['T', 'O'] (c :: cs) with
      | some (gap, gap', _) => [] :: splitRange (gap.length + gap'.length + 1) cs
      | none => extendFirst c (splitRange 0 cs)

namespace Condition

/-- The texts of the dates that a condition names. -/
def sides (condition : Condition) : List String :=
  (splitRange 0 (dropComparison (trim condition.value.toList))).map String.ofList

/-- **The dates that a condition names**, by a reader: two for a range, else one.  The first side that
is no date is reported. -/
def datesBy (read : Date.Reader) (condition : Condition) : Except Date.Error (List Date) :=
  if condition.isDate then condition.sides.mapM (Date.readText read)
  else .error (.notDated condition.operator)

/-- The dates that a condition names, all of them written dates. -/
def dates (condition : Condition) : Except Date.Error (List Date) :=
  condition.datesBy .written

end Condition
end SearchFilter
