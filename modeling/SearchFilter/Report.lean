import SearchFilter.Condition.Dates
import SearchFilter.Json
import SearchFilter.Log.Record
import SearchFilter.Text.Quoted

/-!
# Reports of conditions

The conditions of a query, for a reader or for another program.

* `listing` numbers the conditions, a line for each.
* `items` gives an `Item` for each condition, with the days that a reader finds in it, and warns of dates
  that name none; `Item.toJson` is its document.
* `load` reads conditions back from documents.
-/

set_option autoImplicit false

namespace SearchFilter
namespace Report

open Log

variable [Surroundings]

/-! ## The listing -/

/-- One line of the listing. -/
def line (number : Nat) (condition : Condition) : String :=
  s!"{number}. {condition.value}  [{condition.operator.name}]"

/-- The lines of the listing from a number on. -/
def linesFrom (number : Nat) : List Condition → List String
  | [] => []
  | condition :: conditions => line number condition :: linesFrom (number + 1) conditions

/-- **The numbered listing of conditions.** -/
def listing (conditions : List Condition) : String :=
  match conditions with
  | [] => "(no constraints)"
  | conditions => "\n".intercalate (linesFrom 1 conditions)

/-! ## Items -/

/-- What an item says about the dates of its condition. -/
inductive DateField where
  /-- The condition names no dates. -/
  | absent
  /-- Some date that it names is none of the calendar. -/
  | unreadable
  | days (dates : List Date)
deriving DecidableEq

/-- A condition in a report. -/
structure Item where
  condition : Condition
  dates : DateField
deriving DecidableEq

/-- The item of a condition, with a warning if its dates cannot be read.  There is none if the reader
fails in a way of its own. -/
def item (read : Date.Reader) (condition : Condition) : Logged (Except Date.Error Item) := do
  if condition.isDate then
    match condition.datesBy read with
    | .ok days => return .ok ⟨condition, .days days⟩
    | .error (.failed words) => return .error (.failed words)
    | .error e =>
      record .warning s!"Unreadable date in {Text.quoted condition.value}: {e.message}"
      return .ok ⟨condition, .unreadable⟩
  else
    return .ok ⟨condition, .absent⟩

/-- **The items of conditions**, in their order, unless the reader fails. -/
def items (read : Date.Reader) : List Condition → Logged (Except Date.Error (List Item))
  | [] => return .ok []
  | condition :: conditions => do
    match ← item read condition with
    | .error e => return .error e
    | .ok first => return (← items read conditions).map (first :: ·)

/-- The field that tells the dates, if there is one. -/
def DateField.toFields : DateField → List (String × Json)
  | absent => []
  | unreadable => [("dates", .null)]
  | days dates => [("dates", .array (dates.map fun d => .string d.isoText))]

/-- The document of an item. -/
def Item.toJson (item : Item) : Json :=
  .object ([("value", .string item.condition.value),
    ("operator", .string item.condition.operator.name)] ++ item.dates.toFields)

/-! ## Reading items back -/

/-- Why a document is no item. -/
inductive Error where
  /-- The document is of a kind that has no fields. -/
  | noFields (kind : String)
  | missing (key : String)
  /-- The operator is a collection. -/
  | operatorCollection (kind : String)
  /-- The operator is a scalar but no text; this is how it is shown. -/
  | operatorScalar (shown : String)
  | notText (key : String)
  | condition (error : Condition.Error)
deriving DecidableEq, Repr

/-- The text of an error. -/
def Error.message : Error → String
  | noFields "list" => "list indices must be integers or slices, not str"
  | noFields "str" => "string indices must be integers, not 'str'"
  | noFields kind => Text.quoted kind ++ " object is not subscriptable"
  | missing key => Text.quoted key
  | operatorCollection kind => "unhashable type: " ++ Text.quoted kind
  | operatorScalar shown => (Condition.Error.unknownOperator shown).message
  | notText key => key ++ " must be a string"
  | condition error => error.message

/-- A field of a document. -/
def field (key : String) (document : Json) : Except Error Json :=
  match document with
  | .object _ =>
    match document.get? key with
    | some value => .ok value
    | none => .error (.missing key)
  | other => .error (.noFields other.kind)

/-- The name of an operator that a document is. -/
def operatorName : Json → Except Error String
  | .string name => .ok name
  | .null => .error (.operatorScalar "None")
  | .bool b => .error (.operatorScalar (if b then "True" else "False"))
  | .number literal => .error (.operatorScalar literal)
  | other => .error (.operatorCollection other.kind)

/-- The condition of an item; nothing but its value and operator is looked at, and the operator is
judged first. -/
def loadItem (document : Json) : Except Error Condition := do
  let value ← field "value" document
  let operator ← field "operator" document
  let name ← operatorName operator
  match Condition.ofPair "" name, value with
  | .error e, _ => .error (.condition e)
  | .ok condition, .string value => .ok { condition with value }
  | .ok _, _ => .error (.notText "value")

/-- **The conditions of items**; the first item that is none is reported. -/
def load (documents : List Json) : Except Error (List Condition) :=
  documents.mapM loadItem

end Report
end SearchFilter
