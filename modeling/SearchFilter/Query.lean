import SearchFilter.Negation
import SearchFilter.Log.Record
import SearchFilter.Value

/-!
# Parsing queries

A query in free text becomes a list of conditions, one for each literal in it.  No query is refused:
what means nothing is passed over.

* `truncate` cuts a query to `maxLength` characters.
* `conditions` is the list of conditions of a query that has been cut.
* `parse` does both and keeps a record of it; without a query there is nothing to do.
* `ofValue` tells which values can be asked for.
-/

set_option autoImplicit false

namespace SearchFilter
namespace Query

open Log

/-- The longest query that is read whole. -/
def maxLength : Nat := 300

/-- A query cut to `maxLength` characters, be it within a word. -/
def truncate (query : String) : Logged String := do
  if query.length > maxLength then
    record .debug s!"Query truncated from {query.length} to {maxLength} characters"
    return String.ofList (query.toList.take maxLength)
  else
    return query

/-- The conditions of a query, in the order of their tokens. -/
def conditions (query : String) : List Condition :=
  buildConditions (tokenize query.toList)

/-- **The conditions that a query puts on the data.** -/
def parse : Option String → Logged (List Condition)
  | none => return []
  | some query => do
    let query ← truncate query
    let tokens := tokenize query.toList
    let conditions := buildConditions tokens
    record .debug s!"Parsed {tokens.length} tokens into {conditions.length} predicates"
    return conditions

/-! ## Queries from untyped values -/

/-- Why a value is no query. -/
inductive Error where
  /-- It is of another kind than text. -/
  | notText (kind : String)
deriving DecidableEq, Repr

/-- The text of an error. -/
def Error.message : Error → String
  | notText kind => "query must be a string or None, got " ++ kind

/-- The query that a value is; nothing stands for no query. -/
def ofValue : Value → Except Error (Option String)
  | .null => .ok none
  | .string query => .ok (some query)
  | value => .error (.notText value.kind)

end Query
end SearchFilter
