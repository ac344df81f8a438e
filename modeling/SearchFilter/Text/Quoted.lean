import SearchFilter.Surroundings
import SearchFilter.Text.Digits
import SearchFilter.Unicode.Printable

/-!
# Quoted texts

A message shows a text between quotes, so that its ends, blanks and unseen characters can be told.
The quote is the apostrophe, unless the text holds apostrophes and no double quote.

* `quoted` is the shown form.
* `quoteFor` chooses the quote, `shownChar` writes one character.
-/

set_option autoImplicit false

namespace SearchFilter
namespace Text

open Unicode

/-- The quote for a text. -/
def quoteFor (cs : List Char) : Char :=
  if cs.contains '\'' && !cs.contains '"' then '"' else '\''

/-- The code of a character that cannot be shown, in the fewest of two, four or eight digits. -/
def shownCode (n : Nat) : List Char :=
  if n < 0x100 then ['\\', 'x'] ++ padded 16 2 n
  else if n < 0x10000 then ['\\', 'u'] ++ padded 16 4 n
  else ['\\', 'U'] ++ padded 16 8 n

section

variable [Surroundings]

/-- How a character is written between quotes. -/
def shownChar (quote c : Char) : List Char :=
  if c = quote || c = '\\' then ['\\', c]
  else if c = '\n' then ['\\', 'n']
  else if c = '\r' then ['\\', 'r']
  else if c = '\t' then ['\\', 't']
  else if isPrintable c then [c]
  else shownCode (codePoint c)

/-- A text between quotes. -/
def quotedChars (cs : List Char) : List Char :=
  let quote := quoteFor cs
  quote :: cs.flatMap (shownChar quote) ++ [quote]

/-- A text between quotes. -/
def quoted (s : String) : String :=
  String.ofList (quotedChars s.toList)

end

end Text
end SearchFilter
