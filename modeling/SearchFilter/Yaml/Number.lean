import SearchFilter.Text.Numeral
import SearchFilter.Text.Pieces
import SearchFilter.Unicode.Case
import SearchFilter.Yaml.Error

/-!
# Reading YAML: numbers

A number may be grouped by underscores, and its parts between colons count sixty to one.

* `isInt` and `isFloat` tell whether a plain scalar looks like a number.
* `intValue` and `floatValue` read a text that is to be a number, whether it looks like one or not.
* `isZero` tells whether a number with a point is zero.
-/

set_option autoImplicit false

namespace SearchFilter
namespace Yaml

open Text

/-! ## Shapes -/

/-- Whether a text has at least one character and all have a property. -/
def isRun (p : Char → Bool) (cs : List Char) : Bool :=
  !cs.isEmpty && cs.all p

/-- Whether a character is a digit or the sign between groups of digits. -/
def isSpacedDigit (c : Char) : Bool :=
  c.isDigit || c == '_'

/-- Whether a text is a run of digits, grouped or not, that starts with a digit. -/
def isSpacedNumber (cs : List Char) : Bool :=
  cs.head?.any (·.isDigit) && cs.all isSpacedDigit

/-- Whether a text writes a number below sixty in one or two digits. -/
def isSixtieth : List Char → Bool
  | [c] => c.isDigit
  | [c, d] => '0' ≤ c && c ≤ '5' && d.isDigit
  | _ => false

/-- Whether a text is a number and one or more numbers below sixty, with colons between them. -/
def isSexagesimal (cs : List Char) : Bool :=
  match splitAt ':' cs with
  | first :: second :: parts => isSpacedNumber first && (second :: parts).all isSixtieth
  | _ => false

/-- Whether a plain scalar is a whole number. -/
def isInt (cs : List Char) : Bool :=
  let cs := dropSign cs
  let startsPositive := cs.head?.any fun c => '1' ≤ c && c ≤ '9'
  match cs with
  | ['0'] => true
  | '0' :: 'b' :: digits => isRun (fun c => c == '0' || c == '1' || c == '_') digits
  | '0' :: 'x' :: digits => isRun (fun c => isDigitOf 16 c || c == '_') digits
  | '0' :: digits => isRun (fun c => isDigitOf 8 c || c == '_') digits
  | cs => startsPositive && (cs.all isSpacedDigit || isSexagesimal cs)

/-- Whether a text is empty or an exponent with a sign. -/
def isExponent : List Char → Bool
  | [] => true
  | e :: sign :: digits =>
    (e == 'e' || e == 'E') && (sign == '+' || sign == '-') && isRun (·.isDigit) digits
  | _ => false

/-- Whether a plain scalar is a number with a point. -/
def isFloat (cs : List Char) : Bool :=
  let unsigned := dropSign cs
  let whole := unsigned.takeWhile (· != '.')
  match unsigned.dropWhile (· != '.') with
  | [] => false
  | _ :: rest =>
    let fraction := rest.takeWhile isSpacedDigit
    let exponent := rest.dropWhile isSpacedDigit
    isSpacedNumber whole && isExponent exponent ||
      isSexagesimal whole && exponent.isEmpty ||
      whole.isEmpty && unsigned.length == cs.length && isSpacedNumber fraction && isExponent exponent

/-- Whether a plain scalar is an infinity or no number. -/
def isSpecialFloat (cs : List Char) : Bool :=
  [".inf", ".Inf", ".INF"].contains (String.ofList (dropSign cs)) ||
    [".nan", ".NaN", ".NAN"].contains (String.ofList cs)

/-! ## Values -/

/-- A whole number in a base, or the fault that there is none. -/
def intIn (base : Nat) (cs : List Char) : Result Int :=
  match readInt base cs with
  | .ok n => .ok n
  | .error .malformed => .error (.notInt base (String.ofList cs))
  | .error (.tooLong digits) => .error (.intTooLong digits)

/-- The value of a whole number without sign and underscores. -/
def unsignedInt (cs : List Char) : Result Int :=
  match cs with
  | [] => .error .emptyNumber
  | ['0'] => .ok 0
  | '0' :: 'b' :: digits => intIn 2 digits
  | '0' :: 'x' :: digits => intIn 16 digits
  | '0' :: _ => intIn 8 cs
  | _ => do
    let parts ← (splitAt ':' cs).mapM (intIn 10)
    return parts.foldl (fun n part => n * 60 + part) 0

/-- A text without its underscores. -/
def ungrouped (cs : List Char) : List Char :=
  cs.filter (· != '_')

/-- **The value of a whole number.** -/
def intValue (cs : List Char) : Result Int := do
  let cs := ungrouped cs
  let n ← unsignedInt (dropSign cs)
  return if isNegative cs then -n else n

/-- A number with a point, or the fault that there is none. -/
def floatOf (cs : List Char) : Result Float :=
  match readFloat? cs with
  | some x => .ok x
  | none => .error (.notFloat (String.ofList cs))

/-- The parts of a number that can be weighed: sixty to the power of their number can still be
held. -/
def mostParts : Nat := 174

/-- The sum of parts, the last of which counts once and each other sixty times what the next does. -/
def weighedSum (parts : List Float) : Float :=
  (parts.foldr (fun part (sum, weight) => (sum + part * weight, weight * 60)) ((0 : Float), (1 : Float))).1

/-- **The value of a number with a point.** -/
def floatValue (cs : List Char) : Result Float := do
  let cs := Unicode.lower (ungrouped cs)
  if cs.isEmpty then throw .emptyNumber
  let unsigned := dropSign cs
  if unsigned == ['.', 'i', 'n', 'f'] then return 1 / 0
  else if unsigned == ['.', 'n', 'a', 'n'] then return 0 / 0
  else if unsigned.contains ':' then
    let parts ← (splitAt ':' unsigned).mapM floatOf
    if parts.length > mostParts then throw .tooManyParts
    return weighedSum parts
  else floatOf unsigned

/-- Whether a text writes zero as a number with a point. -/
def isZero (cs : List Char) : Bool :=
  match floatValue cs with
  | .ok x => x == 0
  | .error _ => false

end Yaml
end SearchFilter
