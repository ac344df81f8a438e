import SearchFilter.Text.Digits
import SearchFilter.Yaml.Cursor
import SearchFilter.Yaml.Token

/-!
# Reading YAML: tags and directives

A tag states the kind of a node.  It is written in full between angle brackets, or as a handle and a
rest; lines with a percent sign say what handles stand for.

* `takeTag?` reads a tag, `takeDirective?` a directive line; each gives the place behind it.
-/

set_option autoImplicit false

namespace SearchFilter
namespace Yaml

/-- Whether a character can be part of a handle, or of the name of an anchor or a directive. -/
def isNameChar (c : Char) : Bool :=
  c.isAlphanum || c == '-' || c == '_'

/-! ## Parts of tags -/

/-- A handle: an exclamation mark, or a name between two of them. -/
def takeHandle? (cursor : Cursor) : Option (String × Cursor) :=
  if !cursor.sees '!' then none
  else if cursor.step.sees ' ' then some ("!", cursor.step)
  else
    let (name, cursor) := cursor.step.takeWhile isNameChar
    if cursor.sees '!' then some ("!" ++ String.ofList name ++ "!", cursor.step) else none

/-- Whether a character stands for itself in a tag. -/
def isTagChar (c : Char) : Bool :=
  c.isAlphanum || "-;/?:@&=+$,_.!~*'()[]".toList.contains c

/-- The bytes that follow, each written as a percent sign and two digits, and the place behind
them. -/
def takeBytes? (cursor : Cursor) : (steps : Nat) → Option (List UInt8 × Cursor)
  | 0 => some ([], cursor)
  | steps + 1 =>
    if cursor.sees '%' then
      match cursor.step.rest with
      | high :: low :: _ => do
        let high ← Text.hexValue? high
        let low ← Text.hexValue? low
        let (bytes, cursor) ← takeBytes? (cursor.advance 3) steps
        some (UInt8.ofNat (high * 16 + low) :: bytes, cursor)
      | _ => none
    else some ([], cursor)

/-- The characters of a tag that follow, and the place behind them. -/
def takeTagChars? (cursor : Cursor) : (steps : Nat) → Option (List Char × Cursor)
  | 0 => some ([], cursor)
  | steps + 1 =>
    match cursor.peek? with
    | none => some ([], cursor)
    | some c =>
      if c == '%' then do
        let (bytes, cursor) ← takeBytes? cursor cursor.rest.length
        let text ← String.fromUTF8? ⟨bytes.toArray⟩
        let (more, cursor) ← takeTagChars? cursor steps
        some (text.toList ++ more, cursor)
      else if isTagChar c then do
        let (more, cursor) ← takeTagChars? cursor.step steps
        some (c :: more, cursor)
      else some ([], cursor)

/-- A tag or the rest of one, at least one character. -/
def takeSuffix? (cursor : Cursor) : Option (String × Cursor) :=
  match takeTagChars? cursor cursor.rest.length with
  | none | some ([], _) => none
  | some (cs, cursor) => some (String.ofList cs, cursor)

/-! ## Tags -/

/-- The handle, if there is one, and the rest of a tag, whatever follows it. -/
def takeTagParts? (cursor : Cursor) : Option (Option String × String × Cursor) :=
  if cursor.step.sees '<' then do
    let (suffix, cursor) ← takeSuffix? (cursor.advance 2)
    if cursor.sees '>' then some (none, suffix, cursor.step) else none
  else if endsWord cursor.step.rest then some (none, "!", cursor.step)
  else if (cursor.step.rest.takeWhile fun c => !(c == ' ' || isBreak c)).contains '!' then do
    let (handle, cursor) ← takeHandle? cursor
    let (suffix, cursor) ← takeSuffix? cursor
    some (some handle, suffix, cursor)
  else do
    let (suffix, cursor) ← takeSuffix? cursor.step
    some (some "!", suffix, cursor)

/-- **A tag**, and the place behind it, where a space or a line end has to be. -/
def takeTag? (cursor : Cursor) : Option (Token × Cursor) := do
  let (handle, suffix, cursor) ← takeTagParts? cursor
  if endsPart cursor.rest then some (.tag handle suffix, cursor) else none

/-! ## Directives -/

/-- The version that a directive states. -/
def takeVersion? (cursor : Cursor) : Option (Directive × Cursor) :=
  let (major, cursor) := (cursor.skipWhile (· == ' ')).takeWhile (·.isDigit)
  let (minor, next) := cursor.step.takeWhile (·.isDigit)
  if major.isEmpty || !cursor.sees '.' || minor.isEmpty || !endsPart next.rest then none
  else some (.version (Text.decimalValue major), next)

/-- What a directive says about a handle. -/
def takeHandleMeaning? (cursor : Cursor) : Option (Directive × Cursor) := do
  let (handle, cursor) ← takeHandle? (cursor.skipWhile (· == ' '))
  if !cursor.sees ' ' then none
  else
    let (lead, cursor) ← takeSuffix? (cursor.skipWhile (· == ' '))
    if endsPart cursor.rest then some (.handle handle lead, cursor) else none

/-- The content of a directive of some name. -/
def takeContent? (name : List Char) (cursor : Cursor) : Option (Directive × Cursor) :=
  if name = ['Y', 'A', 'M', 'L'] then takeVersion? cursor
  else if name = ['T', 'A', 'G'] then takeHandleMeaning? cursor
  else some (.reserved, cursor.skipLine)

/-- **A directive line**, and the place behind it. -/
def takeDirective? (cursor : Cursor) : Option (Token × Cursor) := do
  let (name, cursor) := cursor.step.takeWhile isNameChar
  if name.isEmpty || !endsPart cursor.rest then none
  else
    let (directive, cursor) ← takeContent? name cursor
    let cursor := cursor.skipWhile (· == ' ')
    let cursor := if cursor.sees '#' then cursor.skipLine else cursor
    if cursor.rest.isEmpty || cursor.atBreak then some (.directive directive, cursor.skipBreak)
    else none

end Yaml
end SearchFilter
