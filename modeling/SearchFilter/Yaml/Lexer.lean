import SearchFilter.Yaml.Scalar
import SearchFilter.Yaml.Tag

/-!
# Reading YAML: from text to tokens

Indentation opens and closes collections, and a key is known as a key only when its colon is reached.
The lexer therefore remembers where keys may have started and puts the signs of a key into the tokens
afterwards.

* `Lexer` is the state on the way, `Lexer.next` takes one token.
* `tokens` gives all tokens of a text; where the text is no token, the last of them says why.
-/

set_option autoImplicit false

namespace SearchFilter
namespace Yaml

variable [Surroundings]

/-- A place where a key may have started. -/
structure PossibleKey where
  /-- The number of tokens before it. -/
  position : Nat
  /-- Whether a key has to start there, because the line is one of a mapping. -/
  required : Bool
  index : Nat
  line : Nat
  column : Nat

/-- What has been read and what is open. -/
structure Lexer where
  cursor : Cursor
  tokens : Array Token := #[]
  /-- The number of open brackets. -/
  flow : Nat := 0
  /-- The column of the innermost open block collection. -/
  indent : Int := -1
  /-- The columns of the block collections around it, innermost first. -/
  indents : List Int := []
  /-- Whether a key may start here. -/
  allowKey : Bool := true
  /-- The possible key within the innermost brackets. -/
  key : Option PossibleKey := none
  /-- The possible keys around the open brackets, innermost first. -/
  outerKeys : List (Option PossibleKey) := []

namespace Lexer

/-! ## Possible keys and indentation -/

/-- A key ends on the line where it starts, and within 1024 characters. -/
def isStale (lexer : Lexer) (key : PossibleKey) : Bool :=
  key.line != lexer.cursor.line || lexer.cursor.index - key.index > 1024

/-- What is left of a possible key at this place; a required key must have ended. -/
def dropStale (lexer : Lexer) (key : Option PossibleKey) : Result (Option PossibleKey) :=
  match key with
  | none => .ok none
  | some k =>
    if lexer.isStale k then if k.required then .error .malformed else .ok none
    else .ok (some k)

/-- The lexer without the possible keys whose ends are past. -/
def dropStaleKeys (lexer : Lexer) : Result Lexer := do
  let key ← lexer.dropStale lexer.key
  let outerKeys ← lexer.outerKeys.mapM lexer.dropStale
  return { lexer with key, outerKeys }

/-- The lexer after what cannot follow a key that has to be one. -/
def forgetKey (lexer : Lexer) : Result Lexer :=
  if lexer.key.any (·.required) then .error .malformed else .ok { lexer with key := none }

/-- The lexer before what may be a key. -/
def noteKey (lexer : Lexer) : Result Lexer :=
  if lexer.allowKey then do
    let cursor := lexer.cursor
    let required := lexer.flow == 0 && lexer.indent == cursor.column
    let lexer ← lexer.forgetKey
    return { lexer with
      key := some ⟨lexer.tokens.size, required, cursor.index, cursor.line, cursor.column⟩ }
  else .ok lexer

/-- The lexer with a token more. -/
def push (lexer : Lexer) (token : Token) : Lexer :=
  { lexer with tokens := lexer.tokens.push token }

/-- The lexer with some block collections closed. -/
def closeBlocks (lexer : Lexer) (column : Int) : (indents : List Int) → Lexer
  | [] => lexer
  | outer :: indents =>
    if lexer.indent > column then
      closeBlocks { lexer.push .blockEnd with indent := outer, indents } column indents
    else lexer

/-- The lexer with the block collections closed that are indented deeper than a column.  Within
brackets indentation does not count. -/
def unindent (lexer : Lexer) (column : Int) : Lexer :=
  if lexer.flow = 0 then lexer.closeBlocks column lexer.indents else lexer

/-- The lexer with a block collection opened at a column, if that is deeper than the innermost one;
its start is put at a position among the tokens. -/
def openBlock (lexer : Lexer) (column : Nat) (position : Nat) (start : Token) : Lexer :=
  if lexer.flow = 0 ∧ lexer.indent < column then
    { lexer with
      tokens := lexer.tokens.insertIdxIfInBounds position start
      indent := column
      indents := lexer.indent :: lexer.indents }
  else lexer

/-- The lexer behind some characters that make up a token. -/
def take (lexer : Lexer) (length : Nat) (token : Token) : Lexer :=
  { lexer.push token with cursor := lexer.cursor.advance length }

/-! ## Gaps between tokens -/

/-- The lexer behind blanks, comments and line ends.  On a new line a key may start, unless it is
within brackets. -/
def skipGap (lexer : Lexer) : (steps : Nat) → Lexer
  | 0 => lexer
  | steps + 1 =>
    let cursor := lexer.cursor.skipWhile (· == ' ')
    let cursor := if cursor.sees '#' then cursor.skipLine else cursor
    match cursor.takeBreak? with
    | none => { lexer with cursor }
    | some (_, cursor) =>
      skipGap { lexer with cursor, allowKey := lexer.allowKey || lexer.flow == 0 } steps

/-! ## Tokens -/

/-- The lexer at a mark between documents, with all blocks closed. -/
def betweenDocuments (lexer : Lexer) : Result Lexer := do
  let lexer ← (lexer.unindent (-1)).forgetKey
  return { lexer with allowKey := false }

/-- A directive line. -/
def takeDirective (lexer : Lexer) : Result Lexer := do
  let lexer ← lexer.betweenDocuments
  let (token, cursor) ← ofOption (takeDirective? lexer.cursor)
  return { lexer.push token with cursor }

/-- An opening bracket. -/
def openFlow (lexer : Lexer) (start : Token) : Result Lexer := do
  let lexer ← lexer.noteKey
  return { lexer.take 1 start with
    flow := lexer.flow + 1
    outerKeys := lexer.key :: lexer.outerKeys
    key := none
    allowKey := true }

/-- A closing bracket. -/
def closeFlow (lexer : Lexer) (stop : Token) : Result Lexer := do
  let lexer ← lexer.forgetKey
  match lexer.flow, lexer.outerKeys with
  | flow + 1, key :: outerKeys =>
    return { lexer.take 1 stop with flow, key, outerKeys, allowKey := false }
  | _, _ => throw .malformed

/-- The lexer behind a sign that starts an entry or a key of a block collection. -/
def takeBlockSign (lexer : Lexer) (sign start : Token) (allowKey : Bool) : Result Lexer :=
  if lexer.flow = 0 && !lexer.allowKey then .error .malformed
  else do
    let lexer := lexer.openBlock lexer.cursor.column lexer.tokens.size start
    let lexer ← lexer.forgetKey
    return { lexer.take 1 sign with allowKey }

/-- The colon between a key and its value.  Behind a possible key it makes that a key; otherwise the
key was marked by a sign of its own, or there is none. -/
def takeValue (lexer : Lexer) : Result Lexer :=
  match lexer.key with
  | some key =>
    let lexer := { lexer with
      tokens := lexer.tokens.insertIdxIfInBounds key.position .key
      key := none
      allowKey := false }
    .ok ((lexer.openBlock key.column key.position .blockMappingStart).take 1 .value)
  | none => lexer.takeBlockSign .value .blockMappingStart (lexer.flow == 0)

/-- The name of an anchor or alias behind its sign. -/
def takeName (lexer : Lexer) (token : String → Token) : Result Lexer := do
  let lexer ← lexer.noteKey
  let (name, cursor) := lexer.cursor.step.takeWhile isNameChar
  let ends := endsWord cursor.rest ||
    cursor.peek?.any fun c => ['?', ':', ',', ']', '\x7d', '%', '@', Char.ofNat 96].contains c
  if name.isEmpty || !ends then throw .malformed
  return { lexer.push (token (String.ofList name)) with cursor, allowKey := false }

/-- A tag. -/
def takeTag (lexer : Lexer) : Result Lexer := do
  let lexer ← lexer.noteKey
  let (token, cursor) ← ofOption (takeTag? lexer.cursor)
  return { lexer.push token with cursor, allowKey := false }

/-- A scalar between quotes. -/
def takeQuotedScalar (lexer : Lexer) (double : Bool) : Result Lexer := do
  let lexer ← lexer.noteKey
  let (text, cursor) ← takeQuoted double lexer.cursor
  return { lexer.push (.scalar false (String.ofList text)) with cursor, allowKey := false }

/-- A scalar that is a block of lines. -/
def takeBlockScalar (lexer : Lexer) (fold : Bool) : Result Lexer := do
  let lexer ← lexer.forgetKey
  let (text, cursor) ← ofOption (takeBlock? fold lexer.indent lexer.cursor)
  return { lexer.push (.scalar false (String.ofList text)) with cursor, allowKey := true }

/-- Whether a plain scalar can start here. -/
def startsPlain (lexer : Lexer) : Bool :=
  match lexer.cursor.rest with
  | [] => false
  | c :: rest =>
    if c == '-' || lexer.flow == 0 && (c == '?' || c == ':') then !endsWord rest
    else !(endsWord (c :: rest) || isFlowSign c ||
      "-?:#&*!|>'\"%@".toList.contains c || c.toNat == 96)

/-- A plain scalar. -/
def takePlainScalar (lexer : Lexer) : Result Lexer := do
  let lexer ← lexer.noteKey
  let (text, allowKey, cursor) := takePlain (lexer.flow != 0) (lexer.indent + 1) lexer.cursor
  return { lexer.push (.scalar true (String.ofList text)) with cursor, allowKey }

/-- The token that starts with a character. -/
def takeToken (lexer : Lexer) (c : Char) : Result Lexer :=
  let cursor := lexer.cursor
  let inFlow := lexer.flow != 0
  let alone := endsWord cursor.step.rest
  if c == '%' && cursor.column == 0 then lexer.takeDirective
  else if cursor.column == 0 && cursor.atDocumentStart then
    lexer.betweenDocuments.map (·.take 3 .documentStart)
  else if cursor.column == 0 && cursor.atDocumentEnd then
    lexer.betweenDocuments.map (·.take 3 .documentEnd)
  else if c == '[' then lexer.openFlow .flowSequenceStart
  else if c == '\x7b' then lexer.openFlow .flowMappingStart
  else if c == ']' then lexer.closeFlow .flowSequenceEnd
  else if c == '\x7d' then lexer.closeFlow .flowMappingEnd
  else if c == ',' then
    lexer.forgetKey.map fun lexer => { lexer.take 1 .flowEntry with allowKey := true }
  else if c == '-' && alone then lexer.takeBlockSign .blockEntry .blockSequenceStart true
  else if c == '?' && (inFlow || alone) then
    lexer.takeBlockSign .key .blockMappingStart (!inFlow)
  else if c == ':' && (inFlow || alone) then lexer.takeValue
  else if c == '*' then lexer.takeName .alias
  else if c == '&' then lexer.takeName .anchor
  else if c == '!' then lexer.takeTag
  else if c == '|' && !inFlow then lexer.takeBlockScalar false
  else if c == '>' && !inFlow then lexer.takeBlockScalar true
  else if c == '\'' then lexer.takeQuotedScalar false
  else if c == '"' then lexer.takeQuotedScalar true
  else if lexer.startsPlain then lexer.takePlainScalar
  else .error .malformed

/-- The lexer behind the next token, and whether that was the end of the text. -/
def next (lexer : Lexer) : Result (Bool × Lexer) := do
  let lexer := lexer.skipGap (lexer.cursor.rest.length + 1)
  let lexer ← lexer.dropStaleKeys
  let lexer := lexer.unindent lexer.cursor.column
  match lexer.cursor.peek? with
  | none => return (true, ← (lexer.unindent (-1)).forgetKey)
  | some c => return (false, ← lexer.takeToken c)

/-- The tokens that are settled: those before the first possible key. -/
def settled (lexer : Lexer) : List Token :=
  let pending := (lexer.key :: lexer.outerKeys).filterMap fun key => key.map (·.position)
  lexer.tokens.toList.take (pending.foldl min lexer.tokens.size)

/-- All tokens from here to the end of the text.  Each token has at least one character. -/
def finish (lexer : Lexer) : (steps : Nat) → List Token
  | 0 => lexer.settled ++ [.broken .malformed]
  | steps + 1 =>
    match lexer.next with
    | .error e => lexer.settled ++ [.broken e]
    | .ok (true, lexer) => lexer.tokens.toList
    | .ok (false, lexer) => lexer.finish steps

end Lexer

/-- **The tokens of a text.**  There are none but the broken one if it holds a character that no
document may hold. -/
def tokens (text : List Char) : List Token :=
  if text.all isAllowed then
    let rest := if text.head? == some byteOrderMark then text.drop 1 else text
    Lexer.finish ⟨⟨rest, 0, 0, 0⟩, #[], 0, -1, [], true, none, []⟩ (text.length + 1)
  else [.broken .malformed]

end Yaml
end SearchFilter
