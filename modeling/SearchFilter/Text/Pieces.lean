/-!
# Cutting a text into pieces

A text is cut at a character, or into its lines.  A line ends at a line feed, a carriage return or both
together, at a vertical tab, a form feed, one of the three upper information separators, the next-line
control, and at the line and paragraph separators.

* `extendFirst` puts a character in front of the first piece.
* `splitAt` cuts a text at every occurrence of a character.
* `splitLines` gives the lines without their ends; a text that ends with a line end has no empty
  last line.
* `splitLines_of_noBreak`: without a line end there is one line, or none if the text is empty.
-/

set_option autoImplicit false

namespace SearchFilter
namespace Text

/-- Puts a character in front of the first piece. -/
def extendFirst (c : Char) : List (List Char) → List (List Char)
  | [] => [[c]]
  | piece :: pieces => (c :: piece) :: pieces

/-- The pieces of a text between the occurrences of a character, of which there is always one more. -/
def splitAt (mark : Char) : List Char → List (List Char)
  | [] => [[]]
  | c :: cs => if c = mark then [] :: splitAt mark cs else extendFirst c (splitAt mark cs)

/-! ## Lines -/

/-- Whether a character ends a line. -/
def isLineBreak (c : Char) : Bool :=
  [10, 11, 12, 13, 28, 29, 30, 133, 8232, 8233].contains c.toNat

/-- The lines of a text. -/
def splitLines : List Char → List (List Char)
  | [] => []
  | '\r' :: '\n' :: cs => [] :: splitLines cs
  | c :: cs => if isLineBreak c then [] :: splitLines cs else extendFirst c (splitLines cs)

theorem splitLines_cons_of_noBreak {c : Char} (cs : List Char) (h : isLineBreak c = false) :
    splitLines (c :: cs) = extendFirst c (splitLines cs) := by
  rw [splitLines]
  · simp [h]
  · rintro _ rfl _
    revert h
    decide

theorem splitLines_of_noBreak {c : Char} {cs : List Char}
    (h : ∀ d ∈ c :: cs, isLineBreak d = false) : splitLines (c :: cs) = [c :: cs] := by
  induction cs generalizing c with
  | nil =>
    rw [splitLines_cons_of_noBreak [] (h c (by simp))]
    rfl
  | cons d ds ih =>
    rw [splitLines_cons_of_noBreak _ (h c (by simp)), ih fun e he => h e (List.mem_cons_of_mem _ he)]
    rfl

end Text
end SearchFilter
