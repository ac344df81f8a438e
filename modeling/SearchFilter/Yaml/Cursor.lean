import SearchFilter.Surroundings

/-!
# Reading YAML: places in a text

* `Cursor` is a place in a text, with its line and column, which decide what belongs together.
* `Cursor.advance` goes on by some characters, `Cursor.takeBreak?` over the end of a line.
-/

set_option autoImplicit false

namespace SearchFilter
namespace Yaml

/-- Whether a character ends a line. -/
def isBreak (c : Char) : Bool :=
  [10, 13, 0x85, 0x2028, 0x2029].contains c.toNat

/-- Whether a character is a space or a tab. -/
def isGap (c : Char) : Bool :=
  c == ' ' || c == '\t'

/-- Whether a text is over, or goes on with a space, a tab or a line end. -/
def endsWord : List Char → Bool
  | [] => true
  | c :: _ => isGap c || isBreak c

/-- Whether a text is over, or goes on with a space or a line end. -/
def endsPart : List Char → Bool
  | [] => true
  | c :: _ => c == ' ' || isBreak c

/-- Whether a character may stand in a document. -/
def isAllowed [Surroundings] (c : Char) : Bool :=
  let n := codePoint c
  n == 9 || n == 10 || n == 13 || 0x20 ≤ n && n ≤ 0x7E || n == 0x85 || 0xA0 ≤ n && n ≤ 0xD7FF ||
    0xE000 ≤ n && n ≤ 0xFFFD || 0x10000 ≤ n

/-- The mark that may stand at the very start of a text. -/
def byteOrderMark : Char := Char.ofNat 0xFEFF

/-- A place in a text. -/
structure Cursor where
  /-- What follows. -/
  rest : List Char
  /-- The number of characters before. -/
  index : Nat := 0
  /-- The number of lines before this one. -/
  line : Nat := 0
  /-- The number of characters before on this line. -/
  column : Nat := 0

namespace Cursor

/-- The next character. -/
def peek? (cursor : Cursor) : Option Char :=
  cursor.rest.head?

/-- Whether the next character is this one. -/
def sees (cursor : Cursor) (c : Char) : Bool :=
  cursor.peek? == some c

/-- Whether the line ends here. -/
def atBreak (cursor : Cursor) : Bool :=
  cursor.peek?.any isBreak

/-- The place behind the next character.  A carriage return before a line feed ends no line. -/
def step (cursor : Cursor) : Cursor :=
  match cursor.rest with
  | [] => cursor
  | c :: rest =>
    if isBreak c && !(c == '\r' && rest.head? == some '\n') then
      ⟨rest, cursor.index + 1, cursor.line + 1, 0⟩
    else if c == byteOrderMark then ⟨rest, cursor.index + 1, cursor.line, cursor.column⟩
    else ⟨rest, cursor.index + 1, cursor.line, cursor.column + 1⟩

/-- The place behind some characters. -/
def advance (cursor : Cursor) : Nat → Cursor
  | 0 => cursor
  | n + 1 => cursor.step.advance n

/-- The characters from here on that have a property, and the place behind them. -/
def takeWhile (cursor : Cursor) (p : Char → Bool) : List Char × Cursor :=
  let taken := cursor.rest.takeWhile p
  (taken, cursor.advance taken.length)

/-- The place behind the characters that have a property. -/
def skipWhile (cursor : Cursor) (p : Char → Bool) : Cursor :=
  (cursor.takeWhile p).2

/-- The place where this line ends. -/
def skipLine (cursor : Cursor) : Cursor :=
  cursor.skipWhile (!isBreak ·)

/-- A line end as the content of a text shows it, and the place behind it: a line feed, except that
line and paragraph separators stay what they are. -/
def takeBreak? (cursor : Cursor) : Option (Char × Cursor) :=
  match cursor.rest with
  | '\r' :: '\n' :: _ => some ('\n', cursor.advance 2)
  | c :: _ =>
    if isBreak c then
      some (if c.toNat = 0x2028 || c.toNat = 0x2029 then c else '\n', cursor.step)
    else none
  | [] => none

/-- The place behind the line end, if the line ends here. -/
def skipBreak (cursor : Cursor) : Cursor :=
  match cursor.takeBreak? with
  | some (_, cursor) => cursor
  | none => cursor

/-- Whether three dashes stand here by themselves. -/
def atDocumentStart (cursor : Cursor) : Bool :=
  match cursor.rest with
  | '-' :: '-' :: '-' :: rest => endsWord rest
  | _ => false

/-- Whether three dots stand here by themselves. -/
def atDocumentEnd (cursor : Cursor) : Bool :=
  match cursor.rest with
  | '.' :: '.' :: '.' :: rest => endsWord rest
  | _ => false

/-- Whether a mark between documents stands here. -/
def atDocumentMark (cursor : Cursor) : Bool :=
  cursor.atDocumentStart || cursor.atDocumentEnd

end Cursor
end Yaml
end SearchFilter
