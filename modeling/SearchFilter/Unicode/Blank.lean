import SearchFilter.Unicode.Letter

/-!
# Blank characters and trimming

The characters that separate words: the space and the other space characters of Unicode, the
controls that move the line or the column, the four information separators, and the line and
paragraph separators.  Characters of no width (U+200B, U+FEFF) are not blank.

* `isBlank` is the test.
* `isBlank_of_isWhitespace` says that what `Char.isWhitespace` knows is blank.
* `Text.trim` drops the blank characters at both ends of a text; `Text.isBlankText` holds of texts of
  which nothing would be left.
-/

set_option autoImplicit false

namespace SearchFilter
namespace Unicode

/-- The blank characters, as closed ranges of code points in ascending order. -/
def blankRanges : List (Nat × Nat) := [
  (9, 13), (28, 32), (133, 133), (160, 160), (5760, 5760), (8192, 8202),
  (8232, 8233), (8239, 8239), (8287, 8287), (12288, 12288)]

/-- Whether a character is blank. -/
def isBlank (c : Char) : Bool :=
  inRanges blankRanges c.toNat

theorem isBlank_of_isWhitespace {c : Char} (h : c.isWhitespace) : isBlank c := by
  simp only [Char.isWhitespace, Bool.or_eq_true, decide_eq_true_eq] at h
  rcases h with ((rfl | rfl) | rfl) | rfl <;> decide

end Unicode

namespace Text

open Unicode

/-- The text without its leading blanks. -/
def trimStart (cs : List Char) : List Char :=
  cs.dropWhile isBlank

/-- The text without its trailing blanks. -/
def trimEnd (cs : List Char) : List Char :=
  (trimStart cs.reverse).reverse

/-- The text without the blanks at its ends. -/
def trim (cs : List Char) : List Char :=
  trimEnd (trimStart cs)

/-- Whether a text holds nothing but blanks. -/
def isBlankText (cs : List Char) : Bool :=
  cs.all isBlank

end Text
end SearchFilter
