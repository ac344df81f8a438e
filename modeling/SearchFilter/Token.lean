import SearchFilter.Lexeme.Scan

/-!
# Tokens

What is left of a lexeme when quoting and negation are taken off: a mark of negation, a literal, or
both.

* `clean` strips a text in three steps.
* `tokenize` gives the tokens of a query.
-/

set_option autoImplicit false

namespace SearchFilter

/-- What the conditions of a query are built from. -/
inductive Token where
  /-- The next plain literal is to be excluded. -/
  | negate
  /-- A text to look for, never empty in a query. -/
  | literal (text : String)
deriving DecidableEq, Repr

/-! ## Cleaning -/

/-- The text without the hyphens that stand at its start or behind a space.  `atWord` says whether
a hyphen would stand so now.  Hyphens are judged in the text as it is given: the second of two
hyphens stands behind a hyphen. -/
def dropDashes (atWord : Bool) : List Char → List Char
  | [] => []
  | c :: cs =>
    if atWord && c == '-' then dropDashes false cs else c :: dropDashes (c == ' ') cs

/-- The text with one space for each run of spaces.  `inRun` says whether the run's space is
already there. -/
def collapseSpaces (inRun : Bool) : List Char → List Char
  | [] => []
  | c :: cs =>
    if inRun && c == ' ' then collapseSpaces true cs else c :: collapseSpaces (c == ' ') cs

/-- **A text without quoting and negation**: double quotes go, then the hyphens at the start and
behind spaces, and then the surplus of runs of spaces. -/
def clean (cs : List Char) : List Char :=
  collapseSpaces false (dropDashes true (cs.filter (· != '"')))

/-! ## The tokens of a query -/

/-- The tokens of a lexeme: the mark, if it is negated, and the cleaned text, if any is left. -/
def Lexeme.tokens (lexeme : Lexeme) : List Token :=
  (if lexeme.isNegated then [.negate] else []) ++
    match clean lexeme.chars with
    | [] => []
    | c :: cs => [.literal (String.ofList (c :: cs))]

/-- **The tokens of a query.** -/
def tokenize (cs : List Char) : List Token :=
  (scan cs).flatMap (·.lexeme.tokens)

end SearchFilter
