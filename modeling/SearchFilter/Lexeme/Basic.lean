import SearchFilter.Date.Written
import SearchFilter.Operator
import SearchFilter.Unicode.Blank

/-!
# Lexemes

The pieces of a query that mean something.  A lexeme keeps what was written, blanks included, so
that its characters can be given back.

* `Lexeme` has one constructor per kind of piece, `Lexeme.chars` gives its characters.
* `Category` names the nine kinds, `Category.all` lists them by precedence, `Lexeme.category` tells
  the kind of a lexeme.
-/

set_option autoImplicit false

namespace SearchFilter

/-- One side of a pair of alternatives. -/
inductive Term where
  | word (chars : List Char)
  /-- A text between double quotes. -/
  | quoted (content : List Char)
deriving DecidableEq, Repr

/-- A term as written. -/
def Term.chars : Term → List Char
  | word cs => cs
  | quoted content => '"' :: (content ++ ['"'])

/-- A piece of a query. -/
inductive Lexeme where
  /-- Two dates of one style, with blanks, `TO` and blanks between them. -/
  | dateRange (first : WrittenDate) (gap gap' : List Char) (last : WrittenDate)
  /-- A comparison sign, blanks or none, and a date. -/
  | comparedDate (comparison : Comparison) (gap : List Char) (d : WrittenDate)
  /-- A date on its own. -/
  | date (d : WrittenDate)
  /-- Two terms with blanks, `OR` and blanks between them. -/
  | orPair (left : Term) (gap gap' : List Char) (right : Term)
  /-- A word, with a hyphen before it if it is negated. -/
  | word (negated : Bool) (chars : List Char)
  /-- A text between double quotes, with a hyphen before them if it is negated. -/
  | phrase (negated : Bool) (content : List Char)
deriving DecidableEq, Repr

/-- The kinds of lexemes. -/
inductive Category where
  | betweenDates
  | comparedDate (comparison : Comparison)
  | asOfDate
  | orPair
  | word
  | string
deriving DecidableEq, Repr

namespace Category

/-- All categories by precedence: where several can start, the first of them does. -/
def all : List Category :=
  [betweenDates, comparedDate .atLeast, comparedDate .atMost, comparedDate .moreThan,
    comparedDate .lessThan, asOfDate, orPair, word, string]

/-- The name of a category. -/
def name : Category → String
  | betweenDates => "between_dates"
  | comparedDate .atLeast => "greater_or_equal_date"
  | comparedDate .atMost => "less_or_equal_date"
  | comparedDate .moreThan => "greater_date"
  | comparedDate .lessThan => "less_date"
  | asOfDate => "as_of_date"
  | orPair => "or_pair"
  | word => "word"
  | string => "string"

/-- The operator that a category decides.  Words and phrases leave it to negation. -/
def operator? : Category → Option Operator
  | betweenDates => some .betweenDates
  | comparedDate comparison => some (.compared comparison)
  | asOfDate => some .asOfDate
  | orPair => some .or
  | word | string => none

end Category

namespace Lexeme

/-- The hyphen of a negated lexeme. -/
def dash (negated : Bool) : List Char :=
  if negated then ['-'] else []

/-- A lexeme as it stands in the query. -/
def chars : Lexeme → List Char
  | dateRange first gap gap' last => first.chars ++ gap ++ ['T', 'O'] ++ gap' ++ last.chars
  | comparedDate comparison gap d => comparison.sign ++ gap ++ d.chars
  | date d => d.chars
  | orPair left gap gap' right => left.chars ++ gap ++ ['O', 'R'] ++ gap' ++ right.chars
  | word negated cs => dash negated ++ cs
  | phrase negated content => dash negated ++ (Term.quoted content).chars

/-- The kind of a lexeme. -/
def category : Lexeme → Category
  | dateRange .. => .betweenDates
  | comparedDate comparison .. => .comparedDate comparison
  | date _ => .asOfDate
  | orPair .. => .orPair
  | word .. => .word
  | phrase .. => .string

/-- Whether a lexeme starts with a negating hyphen. -/
def isNegated : Lexeme → Bool
  | word negated _ | phrase negated _ => negated
  | _ => false

end Lexeme
end SearchFilter
