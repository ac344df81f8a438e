import SearchFilter.Yaml.Number
import SearchFilter.Yaml.Timestamp

/-!
# Reading YAML: what plain scalars mean

A plain scalar that looks like a number, a truth value, a date or nothing is one; all others are
texts.

* `Kind` lists the kinds of nodes.
* `kindOfPlain` gives the kind of a plain scalar.
-/

set_option autoImplicit false

namespace SearchFilter
namespace Yaml

/-- The kinds of nodes. -/
inductive Kind where
  | null
  | bool
  | int
  | float
  | timestamp
  /-- The key under which mappings are merged. -/
  | merge
  /-- The key of a default; it is a text as a key and nothing elsewhere. -/
  | default
  | string
  | binary
  | sequence
  | mapping
  | set
  | pairs
  | unknown
deriving DecidableEq, Repr

/-- Whether values of a kind are collections. -/
def Kind.isCollection : Kind → Bool
  | sequence | mapping | set | pairs => true
  | _ => false

/-- The words that are truth values. -/
def truthWords : List (String × Bool) :=
  [("yes", true), ("Yes", true), ("YES", true), ("no", false), ("No", false), ("NO", false),
    ("true", true), ("True", true), ("TRUE", true), ("false", false), ("False", false),
    ("FALSE", false), ("on", true), ("On", true), ("ON", true), ("off", false), ("Off", false),
    ("OFF", false)]

/-- Whether a text looks like a date: without a time all its digits have to be there. -/
def isTimestamp (cs : List Char) : Bool :=
  (Timestamp.ofWord? cs).any fun t => t.time.isSome || cs.length == 10

/-- The kind of a plain scalar that has no line feed at its end. -/
def kindOfWord (cs : List Char) : Kind :=
  let text := String.ofList cs
  if (truthWords.lookup text).isSome then .bool
  else if isFloat cs || isSpecialFloat cs then .float
  else if isInt cs then .int
  else if text == "<<" then .merge
  else if ["~", "null", "Null", "NULL"].contains text then .null
  else if isTimestamp cs then .timestamp
  else if text == "=" then .default
  else if ["!", "&", "*"].contains text then .unknown
  else .string

/-- **The kind of a plain scalar.**  A line feed at its end does not count, unless it is all there
is. -/
def kindOfPlain (text : String) : Kind :=
  if text.isEmpty then .null else kindOfWord (dropLastFeed text.toList)

end Yaml
end SearchFilter
