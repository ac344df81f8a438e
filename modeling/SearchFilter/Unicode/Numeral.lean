import SearchFilter.Unicode.Letter

/-!
# Numerals and word characters

A decimal digit stands for one of the values 0 to 9 in positional writing, in any script; each
script's ten digits lie together, in the order of their values.  The other numerals (superscripts,
fractions, circled and Roman numbers) count as parts of words, but never as digits of a date.  Words
are made of letters, of digits and other numerals, and of the underscore.

* `digitValue?` is the value of a decimal digit, `isDigit` whether a character is one.
* `digitValue?_lt` bounds the value.
* `isOtherNumeral` holds of the numerals that are neither digits nor letters.
* `isWordChar` holds of the characters of words; `isWordChar_of_isDigit` puts the digits among them.
-/

set_option autoImplicit false

namespace SearchFilter
namespace Unicode

/-- The zero of each script beyond ASCII; its other nine digits follow it. -/
def zeros : List Nat := [
  1632, 1776, 1984, 2406, 2534, 2662, 2790, 2918, 3046, 3174,
  3302, 3430, 3558, 3664, 3792, 3872, 4160, 4240, 6112, 6160,
  6470, 6608, 6784, 6800, 6992, 7088, 7232, 7248, 42528, 43216,
  43264, 43472, 43504, 43600, 44016, 65296, 66720, 68912, 69734, 69872,
  69942, 70096, 70384, 70736, 70864, 71248, 71360, 71472, 71904, 72016,
  72784, 73040, 73120, 92768, 92864, 93008, 120782, 120792, 120802, 120812,
  120822, 123200, 123632, 125264, 130032]

/-- The value of a decimal digit of any script. -/
def digitValue? (c : Char) : Option Nat :=
  if c.toNat < 128 then
    if c.isDigit then some (c.toNat - 48) else none
  else
    (zeros.find? fun z => z ≤ c.toNat && c.toNat < z + 10).map (c.toNat - ·)

/-- Whether a character is a decimal digit of any script. -/
def isDigit (c : Char) : Bool :=
  (digitValue? c).isSome

theorem digitValue?_lt {c : Char} {v : Nat} (h : digitValue? c = some v) : v < 10 := by
  unfold digitValue? at h
  split at h
  · split at h
    next hd =>
      simp only [Char.isDigit, ge_iff_le, Bool.and_eq_true, decide_eq_true_eq] at hd
      have h₂ : c.toNat ≤ 57 := UInt32.le_iff_toNat_le.1 hd.2
      simp only [Option.some.injEq] at h
      omega
    next => simp at h
  · obtain ⟨z, hz, rfl⟩ := Option.map_eq_some_iff.1 h
    have := List.find?_some hz
    simp only [Bool.and_eq_true, decide_eq_true_eq] at this
    omega

/-- The numerals that are neither decimal digits nor letters, as closed ranges. -/
def otherNumeralRanges : List (Nat × Nat) := [
  (178, 179), (185, 185), (188, 190), (2548, 2553), (2930, 2935), (3056, 3058),
  (3192, 3198), (3416, 3422), (3440, 3448), (3882, 3891), (4969, 4988), (5870, 5872),
  (6128, 6137), (6618, 6618), (8304, 8304), (8308, 8313), (8320, 8329), (8528, 8578),
  (8581, 8585), (9312, 9371), (9450, 9471), (10102, 10131), (11517, 11517), (12295, 12295),
  (12321, 12329), (12344, 12346), (12690, 12693), (12832, 12841), (12872, 12879), (12881, 12895),
  (12928, 12937), (12977, 12991), (42726, 42735), (43056, 43061), (65799, 65843), (65856, 65912),
  (65930, 65931), (66273, 66299), (66336, 66339), (66369, 66369), (66378, 66378), (66513, 66517),
  (67672, 67679), (67705, 67711), (67751, 67759), (67835, 67839), (67862, 67867), (68028, 68029),
  (68032, 68047), (68050, 68095), (68160, 68168), (68221, 68222), (68253, 68255), (68331, 68335),
  (68440, 68447), (68472, 68479), (68521, 68527), (68858, 68863), (69216, 69246), (69405, 69414),
  (69457, 69460), (69573, 69579), (69714, 69733), (70113, 70132), (71482, 71483), (71914, 71922),
  (72794, 72812), (73664, 73684), (74752, 74862), (93019, 93025), (93824, 93846), (119520, 119539),
  (119648, 119672), (125127, 125135), (126065, 126123), (126125, 126127), (126129, 126132), (126209, 126253),
  (126255, 126269), (127232, 127244)]

/-- Whether a character is a numeral without being a decimal digit or a letter. -/
def isOtherNumeral (c : Char) : Bool :=
  128 ≤ c.toNat && inRanges otherNumeralRanges c.toNat

/-- Whether a character can be part of a word. -/
def isWordChar (c : Char) : Bool :=
  isLetter c || isDigit c || isOtherNumeral c || c == '_'

theorem isWordChar_of_isDigit {c : Char} (h : isDigit c) : isWordChar c := by
  simp [isWordChar, h]

end Unicode
end SearchFilter
