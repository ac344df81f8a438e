import SearchFilter.Text.Quoted

/-!
# Reading YAML: faults

* `Error` lists why a text has no value, `Error.message` puts each into words.
* `Error.isRefusal` holds of the faults that blame a value; all others are faults of the document.
-/

set_option autoImplicit false

namespace SearchFilter
namespace Yaml

/-- Why a text has no value. -/
inductive Error where
  /-- The text is no document. -/
  | malformed
  /-- The code behind a backslash is beyond the last character. -/
  | noSuchChar
  /-- The code behind a backslash is beyond what can be held. -/
  | codeTooLarge
  /-- A number is empty. -/
  | emptyNumber
  /-- A text is no whole number in a base. -/
  | notInt (base : Nat) (text : String)
  | intTooLong (digits : Nat)
  /-- A text is no number with a point. -/
  | notFloat (text : String)
  /-- A number has more parts between colons than can be weighed. -/
  | tooManyParts
  /-- A word is no truth value. -/
  | notTruth (word : String)
  /-- A text is no date. -/
  | notTimestamp
  /-- A date is wanted of a mapping. -/
  | timestampOfMapping
  /-- A zone is a day or more away. -/
  | offsetOutOfRange (minutes : Int)
  | yearOutOfRange (year : Nat)
  | monthOutOfRange
  | dayOutOfRange
  | hourOutOfRange
  | minuteOutOfRange
  | secondOutOfRange
  /-- A mapping is to be a scalar and leads to itself. -/
  | endless
deriving DecidableEq, Repr

namespace Error

section

variable [Surroundings]

/-- A text as messages about whole numbers show it: between quotes, and cut. -/
def shownNumeral (text : String) : String :=
  String.ofList ((Text.quotedChars text.toList).take 200)

/-- A length of time in words: days, possibly negative, and seconds. -/
def shownDuration (minutes : Int) : String :=
  let days := Int.fdiv minutes 1440
  let seconds := Int.fmod minutes 1440 * 60
  let parts :=
    (if days = 0 then [] else [s!"days={days}"]) ++
      (if seconds = 0 then [] else [s!"seconds={seconds}"])
  "datetime.timedelta(" ++ (if parts.isEmpty then "0" else ", ".intercalate parts) ++ ")"

/-- The text of an error. -/
def message : Error → String
  | malformed => "malformed document"
  | noSuchChar => "chr() arg not in range(0x110000)"
  | codeTooLarge => "Python int too large to convert to C int"
  | emptyNumber => "string index out of range"
  | notInt base text => s!"invalid literal for int() with base {base}: {shownNumeral text}"
  | intTooLong digits =>
    s!"Exceeds the limit (4300 digits) for integer string conversion: value has {digits} digits; " ++
      "use sys.set_int_max_str_digits() to increase the limit"
  | notFloat text => "could not convert string to float: " ++ Text.quoted text
  | tooManyParts => "int too large to convert to float"
  | notTruth word => Text.quoted word
  | notTimestamp => "'NoneType' object has no attribute 'groupdict'"
  | timestampOfMapping => "expected string or bytes-like object, got 'list'"
  | offsetOutOfRange minutes =>
    "offset must be a timedelta strictly between -timedelta(hours=24) and timedelta(hours=24), " ++
      "not " ++ shownDuration minutes ++ "."
  | yearOutOfRange year => s!"year {year} is out of range"
  | monthOutOfRange => "month must be in 1..12"
  | dayOutOfRange => "day is out of range for month"
  | hourOutOfRange => "hour must be in 0..23"
  | minuteOutOfRange => "minute must be in 0..59"
  | secondOutOfRange => "second must be in 0..59"
  | endless => "maximum recursion depth exceeded"

end

/-- Whether a fault is put down to a value that makes no sense.  All other faults are put down to the
document as a whole. -/
def isRefusal : Error → Bool
  | malformed | codeTooLarge | emptyNumber | tooManyParts | notTruth _ | notTimestamp | endless => false
  | noSuchChar | notInt .. | intTooLong _ | notFloat _ | timestampOfMapping | offsetOutOfRange _
  | yearOutOfRange _ | monthOutOfRange | dayOutOfRange | hourOutOfRange | minuteOutOfRange
  | secondOutOfRange => true

end Error

/-- What reading gives: a value or a fault. -/
abbrev Result := Except Error

/-- A result that is missing only where the text is no document. -/
def ofOption {α : Type} : Option α → Result α
  | some a => .ok a
  | none => .error .malformed

end Yaml
end SearchFilter
