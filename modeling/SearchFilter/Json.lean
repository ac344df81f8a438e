import SearchFilter.Text.Digits

/-!
# JSON documents

* `Json` is a document, `Json.kind` names its kind, `Json.get?` looks a field up.
* `Json.render` writes a document over several lines: each item and each field on a line of its own,
  indented by two spaces more than what encloses it, and nothing between the brackets of an empty
  one.
* `jsonChar` writes a character of a text; only what JSON forbids is escaped.
-/

set_option autoImplicit false

namespace SearchFilter

/-- A JSON document. -/
inductive Json where
  | null
  | bool (b : Bool)
  /-- A number, as it is written. -/
  | number (literal : String)
  | string (s : String)
  | array (items : List Json)
  | object (fields : List (String × Json))
deriving Repr, Inhabited

/-- How a character is written in a text: quotes, backslashes and controls are escaped, all else
stands for itself. -/
def jsonChar (c : Char) : List Char :=
  if c = '"' || c = '\\' then ['\\', c]
  else if c = '\n' then ['\\', 'n']
  else if c = '\r' then ['\\', 'r']
  else if c = '\t' then ['\\', 't']
  else if c.toNat = 8 then ['\\', 'b']
  else if c.toNat = 12 then ['\\', 'f']
  else if c.toNat < 32 then '\\' :: 'u' :: Text.padded 16 4 c.toNat
  else [c]

namespace Json

/-- The kind of a document, as messages call it. -/
def kind : Json → String
  | null => "NoneType"
  | bool _ => "bool"
  | number literal => if literal.contains '.' then "float" else "int"
  | string _ => "str"
  | array _ => "list"
  | object _ => "dict"

/-- The value of a field. -/
def get? (key : String) : Json → Option Json
  | object fields => fields.lookup key
  | _ => none

/-- A new line, indented to a depth. -/
def newline (depth : Nat) : List Char :=
  '\n' :: List.replicate (2 * depth) ' '

/-- A text between its quotes. -/
def writeString (s : String) : List Char :=
  '"' :: s.toList.flatMap jsonChar ++ ['"']

mutual

/-- A document at a depth. -/
def write (depth : Nat) : Json → List Char
  | null => ['n', 'u', 'l', 'l']
  | bool true => ['t', 'r', 'u', 'e']
  | bool false => ['f', 'a', 'l', 's', 'e']
  | number literal => literal.toList
  | string s => writeString s
  | array [] => ['[', ']']
  | array (item :: items) =>
    '[' :: newline (depth + 1) ++ write (depth + 1) item ++ writeItems depth items
  | object [] => ['\x7b', '\x7d']
  | object (field :: fields) =>
    '\x7b' :: newline (depth + 1) ++ writeField (depth + 1) field ++ writeFields depth fields
termination_by structural document => document

/-- The items of a list behind the first, and its end. -/
def writeItems (depth : Nat) : List Json → List Char
  | [] => newline depth ++ [']']
  | item :: items =>
    ',' :: newline (depth + 1) ++ write (depth + 1) item ++ writeItems depth items
termination_by structural items => items

/-- A key and its value. -/
def writeField (depth : Nat) : String × Json → List Char
  | (key, value) => writeString key ++ ':' :: ' ' :: write depth value
termination_by structural field => field

/-- The fields of an object behind the first, and its end. -/
def writeFields (depth : Nat) : List (String × Json) → List Char
  | [] => newline depth ++ ['\x7d']
  | field :: fields =>
    ',' :: newline (depth + 1) ++ writeField (depth + 1) field ++ writeFields depth fields
termination_by structural fields => fields

end

/-- **A document as text**, without a line end behind it. -/
def render (document : Json) : String :=
  String.ofList (document.write 0)

end Json
end SearchFilter
