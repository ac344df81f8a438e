import SearchFilter.Lexeme.Basic

/-!
# Taking a lexeme off a text

Each kind of lexeme is taken as long as it can be; no kind can start with a blank or be empty.

* `takeWord?` and `takeQuoted?` take the two kinds of terms.
* `Category.take?` takes a lexeme of one category, `Lexeme.take?` one of the first category that
  fits.
-/

set_option autoImplicit false

namespace SearchFilter

open Unicode

/-! ## Words and quoted texts -/

/-- Whether a character joins two runs of word characters into one word. -/
def isJoiner (c : Char) : Bool :=
  ['-', '.', '\'', '@'].contains c

/-- What a word goes on with, and what follows it: word characters, and joiners with a word
character behind them. -/
def wordRest : List Char → List Char × List Char
  | [] => ([], [])
  | c :: cs =>
    if isWordChar c || isJoiner c && startsWithWordChar cs then
      (c :: (wordRest cs).1, (wordRest cs).2)
    else ([], c :: cs)

/-- The word at the front of a text, and what follows it. -/
def takeWord? (cs : List Char) : Option (List Char × List Char) :=
  if startsWithWordChar cs then some (wordRest cs) else none

/-- The content of the quotes at the front of a text, and what follows them. -/
def takeQuoted? : List Char → Option (List Char × List Char)
  | '"' :: cs =>
    match cs.dropWhile (· != '"') with
    | [] => none
    | _ :: rest => some (cs.takeWhile (· != '"'), rest)
  | _ => none

/-- The term at the front of a text.  A quoted term has at least one character in it. -/
def Term.take? (cs : List Char) : Option (Term × List Char) :=
  match takeQuoted? cs, takeWord? cs with
  | some ([], _), _ => none
  | some (content, rest), _ => some (.quoted content, rest)
  | none, some (w, rest) => some (.word w, rest)
  | none, none => none

/-! ## Connectives -/

/-- What follows `lead` in a text that starts with it. -/
def dropLead? : (lead cs : List Char) → Option (List Char)
  | [], cs => some cs
  | _ :: _, [] => none
  | l :: lead, c :: cs => if l = c then dropLead? lead cs else none

/-- The blanks at the front of a text, and what follows them. -/
def takeBlanks (cs : List Char) : List Char × List Char :=
  (cs.takeWhile isBlank, cs.dropWhile isBlank)

/-- The blanks before and behind a connective, at least one each, and what follows. -/
def takeConnective? (connective cs : List Char) : Option (List Char × List Char × List Char) :=
  match takeBlanks cs with
  | ([], _) => none
  | (gap, rest) =>
    match (dropLead? connective rest).map takeBlanks with
    | none | some ([], _) => none
    | some (gap', rest) => some (gap, gap', rest)

/-! ## Categories -/

/-- Whether a date may start behind this character, or at the start of the query. -/
def dateMayFollow (prev : Option Char) : Bool :=
  !prev.any isWordChar

/-- The two dates of a range, and what follows. -/
def takeRange? (cs : List Char) : Option (Lexeme × List Char) := do
  let (first, rest) ← WrittenDate.take? cs
  let (gap, gap', rest) ← takeConnective? ['T', 'O'] rest
  let (last, rest) ← WrittenDate.take? rest
  if first.form.style = last.form.style then
    some (.dateRange first gap gap' last, rest)
  else none

/-- A comparison with a date, and what follows. -/
def takeCompared? (comparison : Comparison) (cs : List Char) : Option (Lexeme × List Char) := do
  let rest ← dropLead? comparison.sign cs
  let (gap, rest) := takeBlanks rest
  let (date, rest) ← WrittenDate.take? rest
  some (.comparedDate comparison gap date, rest)

/-- Two terms joined by `OR`, and what follows. -/
def takeOrPair? (cs : List Char) : Option (Lexeme × List Char) := do
  let (left, rest) ← Term.take? cs
  let (gap, gap', rest) ← takeConnective? ['O', 'R'] rest
  let (right, rest) ← Term.take? rest
  some (.orPair left gap gap' right, rest)

/-- The hyphen at the front of a text, if there is one, and what follows it. -/
def takeDash (cs : List Char) : Bool × List Char :=
  match cs with
  | '-' :: rest => (true, rest)
  | _ => (false, cs)

/-- **The lexeme of a category at the front of a text**, and what follows it, when the character
before the text is `prev`. -/
def Category.take? (category : Category) (prev : Option Char) (cs : List Char) :
    Option (Lexeme × List Char) :=
  match category with
  | .betweenDates => if dateMayFollow prev then takeRange? cs else none
  | .comparedDate comparison => takeCompared? comparison cs
  | .asOfDate =>
    if dateMayFollow prev then
      (WrittenDate.take? cs).map fun (date, rest) => (.date date, rest)
    else none
  | .orPair => takeOrPair? cs
  | .word =>
    let (negated, rest) := takeDash cs
    (takeWord? rest).map fun (w, rest) => (.word negated w, rest)
  | .string =>
    let (negated, rest) := takeDash cs
    (takeQuoted? rest).map fun (content, rest) => (.phrase negated content, rest)

/-- **The lexeme at the front of a text**: that of the first category that has one there. -/
def Lexeme.take? (prev : Option Char) (cs : List Char) : Option (Lexeme × List Char) :=
  Category.all.findSome? fun category => category.take? prev cs

end SearchFilter
