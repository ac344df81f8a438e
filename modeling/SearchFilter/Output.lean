import SearchFilter.Disk.Basic
import SearchFilter.Moment
import SearchFilter.Query
import SearchFilter.Report
import SearchFilter.Settings.Basic
import SearchFilter.Text.Pieces

/-!
# Writing results

The results of a run go to the console, to a file, or to both.

* `Outlet` is a way that results go: the console shows a result at once, a file waits for the end.
* `Writer` serves outlets one after another; `Writer.ofFormats` has one for each format of the settings.
* `Writer.write` gives a result to the outlets, `Writer.finish` ends an action for them.
* `readQueries` parses queries one after another and gives each result to a writer.
-/

set_option autoImplicit false

namespace SearchFilter

open Log

variable [Surroundings]

/-- A query with its conditions. -/
structure QueryResult where
  query : Option String
  conditions : List Condition
deriving DecidableEq, Repr

/-! ## Outlets -/

/-- A way that results go. -/
inductive Outlet where
  | console
  /-- A file below a directory, with the documents of the results so far. -/
  | file (baseDir : String) (documents : List Json)
deriving Repr

namespace Outlet

/-- A query in a message: between quotes, or the word for none. -/
def shownQuery : Option String → String
  | some query => Text.quoted query
  | none => "None"

/-- A record for each line. -/
def recordLines : List (List Char) → Logged Unit
  | [] => return
  | line :: lines => do
    record .info ("  " ++ String.ofList line)
    recordLines lines

/-- A result on the console: the query, and below it the lines of the listing. -/
def showResult (result : QueryResult) : Logged Unit := do
  record .info ("query=" ++ shownQuery result.query)
  recordLines (Text.splitLines (Report.listing result.conditions).toList)

/-- The document of a result, unless the reader of its dates fails. -/
def resultDocument (read : Date.Reader) (result : QueryResult) :
    Logged (Except Date.Error Json) := do
  return (← Report.items read result.conditions).map fun items => .object [
    ("query", match result.query with
      | some query => .string query
      | none => .null),
    ("predicates", .array (items.map (·.toJson)))]

/-- One result.  What goes to a file becomes a document at once, with warnings of dates that cannot be
read. -/
def write (read : Date.Reader) (result : QueryResult) : Outlet → Logged (Except Date.Error Outlet)
  | console => do
    showResult result
    return .ok console
  | file baseDir documents => do
    return (← resultDocument read result).map fun document => file baseDir (documents ++ [document])

/-- The file of the results of an action. -/
def resultPath (moment : Moment) (baseDir action : String) : Path :=
  ((Path.ofString baseDir).child "json").child s!"{action}_{moment.fileStamp}.json"

/-- The end of an action.  A file is written with all results so far, and its path recorded. -/
def finish (moment : Moment) (action : String) : Outlet → Disk.Action (Logged Unit)
  | console => return pure ()
  | file baseDir documents => do
    let path := resultPath moment baseDir action
    Disk.makeDirs ((Path.ofString baseDir).child "json")
    Disk.writeText path (Json.array documents).render
    return record .info ("JSON saved to " ++ path.toString)

/-- One result for outlets, one after another; none is served behind one that fails. -/
def writeAll (read : Date.Reader) (result : QueryResult) :
    List Outlet → Logged (Except Date.Error Unit × List Outlet)
  | [] => return (.ok (), [])
  | outlet :: outlets => do
    match ← outlet.write read result with
    | .error e => return (.error e, outlet :: outlets)
    | .ok outlet =>
      let (done, outlets) ← writeAll read result outlets
      return (done, outlet :: outlets)

/-- The end of an action for outlets, one after another, with the disk after it; none is served behind
one that fails. -/
def finishAll (moment : Moment) (action : String) (disk : Disk) :
    List Outlet → Logged (Except Disk.Error Unit × Disk)
  | [] => return (.ok (), disk)
  | outlet :: outlets =>
    match (outlet.finish moment action).run.run disk with
    | (.error e, disk) => return (.error e, disk)
    | (.ok finished, disk) => do
      finished
      finishAll moment action disk outlets

end Outlet

/-! ## Writers -/

/-- What takes results: outlets, in the order in which they are served. -/
structure Writer where
  outlets : List Outlet
deriving Repr

namespace Writer

/-- Why there is no writer. -/
inductive Error where
  | noFormats
deriving DecidableEq, Repr

/-- The text of an error. -/
def Error.message : Error → String
  | noFormats => "No output writers configured"

/-- The writer for some formats. -/
def ofFormats (formats : List Format) (baseDir : String) : Except Error Writer :=
  let console := if formats.contains .console then [Outlet.console] else []
  let json := if formats.contains .json then [Outlet.file baseDir []] else []
  match console ++ json with
  | [] => .error .noFormats
  | outlets => .ok ⟨outlets⟩

/-- **One result**, and the writer after it.  If an outlet fails, those before it have the result. -/
def write (read : Date.Reader) (writer : Writer) (result : QueryResult) :
    Logged (Except Date.Error Unit × Writer) := do
  let (done, outlets) ← Outlet.writeAll read result writer.outlets
  return (done, ⟨outlets⟩)

/-- **The end of an action**, and the disk after it.  There can be results behind it, for another
end. -/
def finish (moment : Moment) (action : String) (writer : Writer) (disk : Disk) :
    Logged (Except Disk.Error Unit × Disk) :=
  Outlet.finishAll moment action disk writer.outlets

end Writer

/-! ## Running queries -/

/-- The queries from a number on, out of `total`, and the writer after them.  None is read behind one
whose result is not taken. -/
def readQueriesFrom (read : Date.Reader) (writer : Writer) (number total : Nat) :
    List (Option String) → Logged (Except Date.Error (List QueryResult) × Writer)
  | [] => return (.ok [], writer)
  | query :: queries => do
    if total > 1 then record .info s!"=== Query {number}/{total} ==="
    let conditions ← Query.parse query
    record .debug s!"Query {number} produced {conditions.length} predicates"
    match ← writer.write read ⟨query, conditions⟩ with
    | (.error e, writer) => return (.error e, writer)
    | (.ok (), writer) =>
      let (results, writer) ← readQueriesFrom read writer (number + 1) total queries
      return (results.map (⟨query, conditions⟩ :: ·), writer)

/-- **The results of queries**, in their order, each given to the writer as soon as it is there. -/
def readQueries (read : Date.Reader) (writer : Writer) (queries : List (Option String)) :
    Logged (Except Date.Error (List QueryResult) × Writer) :=
  readQueriesFrom read writer 1 queries.length queries

end SearchFilter
