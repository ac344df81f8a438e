import SearchFilter.Text.Digits
import SearchFilter.Unicode.Blank

/-!
# Numerals

Whole numbers in a base and numbers with a point, as texts may write them: blanks may stand around
them, a sign before them, and digits may be those of any script.

* `readInt` reads a whole number.
* `readFloat?` reads a number with a point, an exponent, or neither.
-/

set_option autoImplicit false

namespace SearchFilter
namespace Text

open Unicode

/-! ## What is common to numerals -/

/-- Whether a character may stand around a numeral. -/
def isNumeralBlank (c : Char) : Bool :=
  c == ' ' || 9 ≤ c.toNat && c.toNat ≤ 13

/-- A character as it counts in a numeral: digits of other scripts as plain ones, blanks of other
scripts as spaces, and whatever else is not plain as a mark that no numeral has. -/
def plainNumeralChar (c : Char) : Char :=
  if c.toNat < 127 then c
  else if isBlank c then ' '
  else
    match digitValue? c with
    | some v => digitChar v
    | none => '?'

/-- A numeral without the blanks around it, in plain characters. -/
def plainNumeral (cs : List Char) : List Char :=
  let cs := (cs.map plainNumeralChar).dropWhile isNumeralBlank
  (cs.reverse.dropWhile isNumeralBlank).reverse

/-- A text without its sign. -/
def dropSign : List Char → List Char
  | '+' :: cs | '-' :: cs => cs
  | cs => cs

/-- Whether a text has the sign of negative numbers. -/
def isNegative (cs : List Char) : Bool :=
  cs.head? == some '-'

/-! ## Whole numbers -/

/-- The digits of a whole number in base ten that are read at most. -/
def mostDigits : Nat := 4300

/-- Why a text is no whole number. -/
inductive IntFault where
  | malformed
  /-- There are too many digits. -/
  | tooLong (digits : Nat)
deriving DecidableEq, Repr

/-- The letter between a zero and the digits that tells a base, in either case. -/
def baseLetters (base : Nat) : List Char :=
  match base with
  | 2 => ['b', 'B']
  | 8 => ['o', 'O']
  | 16 => ['x', 'X']
  | _ => []

/-- A text without the zero and the letter that tell the base. -/
def dropBase (base : Nat) : List Char → List Char
  | '0' :: c :: cs => if (baseLetters base).contains c then cs else '0' :: c :: cs
  | cs => cs

/-- Whether a character is a digit of a base up to sixteen. -/
def isDigitOf (base : Nat) (c : Char) : Bool :=
  (hexValue? c).any (· < base)

/-- The number that digits of a base write. -/
def digitsValue (base : Nat) (digits : List Char) : Nat :=
  digits.foldl (fun n c => n * base + (hexValue? c).getD 0) 0

/-- **The whole number that a text writes in a base** up to sixteen. -/
def readInt (base : Nat) (cs : List Char) : Except IntFault Int :=
  let cs := plainNumeral cs
  let unsigned := dropBase base (dropSign cs)
  let digits := unsigned.takeWhile (isDigitOf base)
  if base = 10 ∧ digits.length > mostDigits then .error (.tooLong digits.length)
  else if digits.isEmpty || digits.length != unsigned.length then .error .malformed
  else
    let n : Int := digitsValue base digits
    .ok (if isNegative cs then -n else n)

/-! ## Numbers with a point -/

/-- The number that digits write when the point is moved to the right by `shift` places.  Numbers far
beyond both ends of what can be held are infinite or zero. -/
def scaledFloat (digits : List Char) (shift : Int) : Float :=
  let significant := digits.dropWhile (· == '0')
  let size : Int := significant.length + shift
  if significant.isEmpty || size < -400 then 0
  else if size > 400 then 1 / 0
  else Float.ofScientific (digitsValue 10 significant) (shift < 0) shift.natAbs

/-- The exponent that a text writes; the empty text writes zero. -/
def readExponent? : List Char → Option Int
  | [] => some 0
  | c :: cs =>
    let digits := dropSign cs
    if (c == 'e' || c == 'E') && !digits.isEmpty && digits.all (·.isDigit) then
      let n : Int := digitsValue 10 digits
      some (if isNegative cs then -n else n)
    else none

/-- The number that a text without a sign writes. -/
def readMagnitude? (cs : List Char) : Option Float :=
  let word := String.ofList (cs.map (·.toLower))
  if word == "inf" || word == "infinity" then some (1 / 0)
  else if word == "nan" then some (0 / 0)
  else
    let whole := cs.takeWhile Char.isDigit
    let (fraction, rest) :=
      match cs.dropWhile Char.isDigit with
      | '.' :: rest => (rest.takeWhile Char.isDigit, rest.dropWhile Char.isDigit)
      | rest => ([], rest)
    if whole.isEmpty && fraction.isEmpty then none
    else
      (readExponent? rest).map fun exponent =>
        scaledFloat (whole ++ fraction) (exponent - fraction.length)

/-- **The number that a text writes**, with or without a point. -/
def readFloat? (cs : List Char) : Option Float :=
  let cs := plainNumeral cs
  (readMagnitude? (dropSign cs)).map fun x => if isNegative cs then -x else x

end Text
end SearchFilter
