import SearchFilter.Text.Digits
import SearchFilter.Yaml.Cursor
import SearchFilter.Yaml.Error

/-!
# Reading YAML: scalars as written

A scalar is written plainly, between quotes, or as a block of lines.  In the first two forms a line
end counts as a space, and empty lines between as line ends.

* `takePlain`, `takeQuoted` and `takeBlock?` read a scalar and give its text and the place behind
  it.
* Each counts its steps down from the length of what follows.
-/

set_option autoImplicit false

namespace SearchFilter
namespace Yaml

open Cursor

/-- What a line end and the empty lines behind it amount to within a text. -/
def folded (first : Char) (breaks : List Char) : List Char :=
  (if first != '\n' then [first] else if breaks.isEmpty then [' '] else []) ++ breaks

/-! ## Plain scalars -/

/-- The characters that end a plain scalar within brackets. -/
def isFlowSign (c : Char) : Bool :=
  [',', '[', ']', '\x7b', '\x7d'].contains c

/-- The number of characters of a plain scalar up to a blank or to what ends it. -/
def plainLength (inFlow : Bool) : List Char → Nat
  | [] => 0
  | c :: cs =>
    if endsWord (c :: cs) || c == ':' && (endsWord cs || inFlow && cs.head?.any isFlowSign) ||
        inFlow && (c == '?' || isFlowSign c) then 0
    else plainLength inFlow cs + 1

/-- The line ends behind a first one, and the place behind them and the spaces among them; nothing
if a mark between documents follows. -/
def takePlainBreaks (cursor : Cursor) : (steps : Nat) → Option (List Char) × Cursor
  | 0 => (some [], cursor)
  | steps + 1 =>
    if cursor.sees ' ' then takePlainBreaks cursor.step steps
    else
      match cursor.takeBreak? with
      | none => (some [], cursor)
      | some (c, cursor) =>
        if cursor.atDocumentMark then (none, cursor)
        else
          let (breaks, cursor) := takePlainBreaks cursor steps
          (breaks.map (c :: ·), cursor)

/-- What stands between two parts of a plain scalar, whether it holds a line end, and the place
behind it. -/
def takePlainGap (cursor : Cursor) : List Char × Bool × Cursor :=
  let (spaces, cursor) := cursor.takeWhile (· == ' ')
  match cursor.takeBreak? with
  | none => (spaces, false, cursor)
  | some (c, cursor) =>
    if cursor.atDocumentMark then ([], true, cursor)
    else
      let (breaks, cursor) := takePlainBreaks cursor cursor.rest.length
      ((breaks.map (folded c)).getD [], true, cursor)

/-- What a plain scalar goes on with behind `gap`, whether the last line of it has ended, and the
place behind it. -/
def takePlainFrom (inFlow : Bool) (indent : Int) (gap : List Char) (ended : Bool) (cursor : Cursor) :
    (steps : Nat) → List Char × Bool × Cursor
  | 0 => ([], ended, cursor)
  | steps + 1 =>
    let length := plainLength inFlow cursor.rest
    if cursor.sees '#' || length == 0 then ([], ended, cursor)
    else
      let part := cursor.rest.take length
      let (next, ended, cursor) := takePlainGap (cursor.advance length)
      if next.isEmpty || cursor.sees '#' || !inFlow && cursor.column < indent then
        (gap ++ part, ended, cursor)
      else
        let (more, ended, cursor) := takePlainFrom inFlow indent next ended cursor steps
        (gap ++ part ++ more, ended, cursor)

/-- **A plain scalar**, whether a line has ended at its end, and the place behind it.  Outside of
brackets its lines have to be indented to `indent`. -/
def takePlain (inFlow : Bool) (indent : Int) (cursor : Cursor) : List Char × Bool × Cursor :=
  takePlainFrom inFlow indent [] false cursor cursor.rest.length

/-! ## Quoted scalars -/

/-- The line ends behind a first one, and the place behind them and the blanks among them. -/
def takeQuotedBreaks? (cursor : Cursor) : (steps : Nat) → Option (List Char × Cursor)
  | 0 => none
  | steps + 1 =>
    if cursor.atDocumentMark then none
    else
      let cursor := cursor.skipWhile isGap
      match cursor.takeBreak? with
      | none => some ([], cursor)
      | some (c, cursor) =>
        (takeQuotedBreaks? cursor steps).map fun (breaks, cursor) => (c :: breaks, cursor)

/-- The characters that one letter behind a backslash stands for. -/
def escapes : List (Char × Nat) :=
  [('0', 0), ('a', 7), ('b', 8), ('t', 9), ('\t', 9), ('n', 10), ('v', 11), ('f', 12), ('r', 13),
    ('e', 27), (' ', 32), ('"', 34), ('\\', 92), ('/', 47), ('N', 0x85), ('_', 0xA0),
    ('L', 0x2028), ('P', 0x2029)]

/-- The code that some digits of base sixteen write. -/
def codeOf? (width : Nat) (cs : List Char) : Option Nat := do
  let digits ← (cs.take width).mapM Text.hexValue?
  if digits.length = width then some (digits.foldl (fun n v => n * 16 + v) 0) else none

/-- The number of digits in the code behind a backslash and this letter. -/
def codeWidth? (c : Char) : Option Nat :=
  [('x', 2), ('u', 4), ('U', 8)].lookup c

section

variable [Surroundings]

/-- The character of a code; another one stands in for a surrogate. -/
def charOfCode (code : Nat) : Result Char :=
  if Unicode.isSurrogate code then .ok (Surroundings.standIn code)
  else if code < 0x110000 then .ok (Char.ofNat code)
  else if code < 0x80000000 then .error .noSuchChar
  else .error .codeTooLarge

/-- What a backslash stands for with what follows it, and the place behind that. -/
def takeEscape (cursor : Cursor) : Result (List Char × Cursor) := do
  let c ← ofOption cursor.peek?
  match escapes.lookup c, codeWidth? c with
  | some code, _ => return ([Char.ofNat code], cursor.step)
  | none, some width =>
    let code ← ofOption (codeOf? width cursor.step.rest)
    return ([← charOfCode code], cursor.step.advance width)
  | none, none =>
    let (_, cursor) ← ofOption cursor.takeBreak?
    ofOption (takeQuotedBreaks? cursor (cursor.rest.length + 1))

/-- The next part of a quoted scalar and the place behind it; no part is left before the closing
quote. -/
def takeQuotedPart (double : Bool) (cursor : Cursor) : Result (Option (List Char) × Cursor) := do
  let quote := if double then '"' else '\''
  let c ← ofOption cursor.peek?
  if c == quote then
    if !double && cursor.step.sees '\'' then return (some ['\''], cursor.advance 2)
    else return (none, cursor.step)
  else if double && c == '\\' then
    let (cs, cursor) ← takeEscape cursor.step
    return (some cs, cursor)
  else if isGap c || isBreak c then
    let (gap, cursor) := cursor.takeWhile isGap
    let _ ← ofOption cursor.peek?
    match cursor.takeBreak? with
    | none => return (some gap, cursor)
    | some (c, cursor) =>
      let (breaks, cursor) ← ofOption (takeQuotedBreaks? cursor (cursor.rest.length + 1))
      return (some (folded c breaks), cursor)
  else return (some [c], cursor.step)

/-- The rest of a quoted scalar, and the place behind it. -/
def takeQuotedFrom (double : Bool) (cursor : Cursor) : (steps : Nat) → Result (List Char × Cursor)
  | 0 => .error .malformed
  | steps + 1 => do
    match ← takeQuotedPart double cursor with
    | (none, cursor) => return ([], cursor)
    | (some cs, cursor) =>
      let (more, cursor) ← takeQuotedFrom double cursor steps
      return (cs ++ more, cursor)

/-- **A scalar between quotes**, and the place behind it. -/
def takeQuoted (double : Bool) (cursor : Cursor) : Result (List Char × Cursor) :=
  takeQuotedFrom double cursor.step (cursor.rest.length + 1)

end

/-! ## Block scalars -/

/-- What becomes of the line ends at the end of a block. -/
inductive Chomp where
  | strip
  | clip
  | keep
deriving DecidableEq, Repr

/-- The sign that says what becomes of the last line ends. -/
def takeChomp (cursor : Cursor) : Option Chomp × Cursor :=
  if cursor.sees '+' then (some .keep, cursor.step)
  else if cursor.sees '-' then (some .strip, cursor.step)
  else (none, cursor)

/-- The digit that says how far a block is indented; it is not zero. -/
def takeIncrement? (cursor : Cursor) : Option (Option Nat × Cursor) :=
  match cursor.peek? with
  | some c =>
    if c == '0' then none
    else if c.isDigit then some (some (c.toNat - 48), cursor.step)
    else some (none, cursor)
  | none => some (none, cursor)

/-- The two signs of a block in either order, and the place where its first line starts. -/
def takeBlockHeader? (cursor : Cursor) : Option (Chomp × Option Nat × Cursor) := do
  let (chomp, cursor) := takeChomp cursor
  let (increment, cursor) ← takeIncrement? cursor
  let (chomp, cursor) :=
    match chomp, increment with
    | none, some _ => takeChomp cursor
    | _, _ => (chomp, cursor)
  if !(endsPart cursor.rest) then none
  else
    let cursor := cursor.skipWhile (· == ' ')
    let cursor := if cursor.sees '#' then cursor.skipLine else cursor
    if cursor.rest.isEmpty || cursor.atBreak then
      some (chomp.getD .clip, increment, cursor.skipBreak)
    else none

/-- The empty lines at the start of a block, the largest indentation among them, and the place behind
them. -/
def takeBlockIndent (deepest : Nat) (cursor : Cursor) : (steps : Nat) → List Char × Nat × Cursor
  | 0 => ([], deepest, cursor)
  | steps + 1 =>
    if cursor.sees ' ' then
      takeBlockIndent (max deepest cursor.step.column) cursor.step steps
    else
      match cursor.takeBreak? with
      | none => ([], deepest, cursor)
      | some (c, cursor) =>
        let (breaks, deepest, cursor) := takeBlockIndent deepest cursor steps
        (c :: breaks, deepest, cursor)

/-- The place behind the spaces up to a column. -/
def skipIndent (indent : Nat) (cursor : Cursor) : Cursor :=
  cursor.advance ((cursor.rest.take (indent - cursor.column)).takeWhile (· == ' ')).length

/-- The empty lines before a line of a block, and the place where that line's content starts. -/
def takeBlockBreaks (indent : Nat) (cursor : Cursor) : (steps : Nat) → List Char × Cursor
  | 0 => ([], skipIndent indent cursor)
  | steps + 1 =>
    match (skipIndent indent cursor).takeBreak? with
    | none => ([], skipIndent indent cursor)
    | some (c, cursor) =>
      let (breaks, cursor) := takeBlockBreaks indent cursor steps
      (c :: breaks, cursor)

/-- The lines of a block behind some empty lines, the end of the last line, the empty lines behind
it, and the place behind them. -/
def takeBlockLines (fold : Bool) (indent : Nat) (breaks : List Char) (cursor : Cursor) :
    (steps : Nat) → List Char × List Char × List Char × Cursor
  | 0 => ([], [], breaks, cursor)
  | steps + 1 =>
    if cursor.column = indent && !cursor.rest.isEmpty then
      let (line, next) := cursor.takeWhile (!isBreak ·)
      let (lineEnd, next) :=
        match next.takeBreak? with
        | some (c, next) => ([c], next)
        | none => ([], next)
      let (between, next) := takeBlockBreaks indent next next.rest.length
      if next.column = indent && !next.rest.isEmpty then
        let flows := fold && lineEnd == ['\n'] && !line.head?.any isGap && !next.peek?.any isGap
        let joint := if !flows then lineEnd else if between.isEmpty then [' '] else []
        let (more, last) := takeBlockLines fold indent between next steps
        (breaks ++ line ++ joint ++ more, last)
      else (breaks ++ line, lineEnd, between, next)
    else ([], [], breaks, cursor)

/-- **A scalar that is a block of lines**, and the place behind it.  Its lines are indented deeper
than `indent`; if `fold` holds, single line ends between them count as spaces. -/
def takeBlock? (fold : Bool) (indent : Int) (cursor : Cursor) : Option (List Char × Cursor) := do
  let (chomp, increment, cursor) ← takeBlockHeader? cursor.step
  let least := (max (indent + 1) 1).toNat
  let steps := cursor.rest.length
  let (column, breaks, cursor) :=
    match increment with
    | none =>
      let (breaks, deepest, cursor) := takeBlockIndent 0 cursor steps
      (max least deepest, breaks, cursor)
    | some n =>
      let (breaks, cursor) := takeBlockBreaks (least + n - 1) cursor steps
      (least + n - 1, breaks, cursor)
  let (text, lineEnd, trailing, cursor) := takeBlockLines fold column breaks cursor steps
  let lastEnd := if chomp = .strip then [] else lineEnd
  some (text ++ lastEnd ++ (if chomp = .keep then trailing else []), cursor)

end Yaml
end SearchFilter
