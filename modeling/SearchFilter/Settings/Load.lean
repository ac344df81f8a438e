import SearchFilter.Disk.Basic
import SearchFilter.Settings.Read
import SearchFilter.Value.Merge
import SearchFilter.Yaml.Document

/-!
# Loading settings from files

Settings come from one file, or from a file laid over defaults, which may be a file of their own.

* `parse` reads a document; one that holds nothing counts as an empty mapping.
* `load` loads a file, `loadOverText` a file over a text of defaults, `loadOver` a file over another
  file.  A file laid over itself is loaded once.
* `levels` is how far down settings are looked at.
-/

set_option autoImplicit false

namespace SearchFilter
namespace Settings

variable [Surroundings]

/-- Why settings cannot be loaded. -/
inductive LoadError where
  | disk (error : Disk.Error)
  | document (error : Yaml.Error)
  | settings (error : Error)
  /-- The settings and the defaults hold themselves, and laying one over the other leads to no end. -/
  | endless
deriving DecidableEq, Repr

/-- The text of an error. -/
def LoadError.message : LoadError → String
  | disk error => error.message
  | document error => error.message
  | settings error => error.message
  | endless => Yaml.Error.endless.message

/-- Whether a fault is put down to the settings.  The others show that there is no document, or that it
holds itself. -/
def LoadError.isRefusal : LoadError → Bool
  | disk _ | settings _ => true
  | document error => error.isRefusal
  | endless => false

/-- Whether a scalar is nothing. -/
def isNothing : Value → Bool
  | .null | .bool false | .int 0 | .string "" | .other true => true
  | .float text => Yaml.isZero text.toList
  | _ => false

/-- The mapping that a document is. -/
def ofContent (content : Yaml.Content) : Except LoadError Yaml.Content :=
  match content.shape content.top with
  | .mapping _ => .ok content
  | .list [] => .ok .empty
  | .list (_ :: _) => .error (.settings .rootNotMapping)
  | .scalar value _ => if isNothing value then .ok .empty else .error (.settings .rootNotMapping)

/-- The mapping that a text holds. -/
def parse (read : Yaml.Reader) (text : String) : Except LoadError Yaml.Content :=
  match read text with
  | .ok content => ofContent content
  | .error e => .error (.document e)

/-- A text in which every line ends with a line feed. -/
def unifyLineEnds : List Char → List Char
  | [] => []
  | '\r' :: '\n' :: cs => '\n' :: unifyLineEnds cs
  | c :: cs => (if c = '\r' then '\n' else c) :: unifyLineEnds cs

/-- The text of a file. -/
def fileText (disk : Disk) (path : Path) : Except LoadError String :=
  match ((Disk.readText path).run.run disk).1 with
  | .ok text => .ok (String.ofList (unifyLineEnds text.toList))
  | .error e => .error (.disk e)

/-- The settings that a mapping holds. -/
def ofMapping (entries : Entries) : Except LoadError Settings :=
  match ofEntries entries with
  | .ok settings => .ok settings
  | .error e => .error (.settings e)

/-- How far down settings are looked at: from the document to a section, to a list in it, and to the
items of this. -/
def levels : Nat := 4

/-- **The settings in a file.** -/
def load (read : Yaml.Reader) (disk : Disk) (path : Path) : Except LoadError Settings := do
  let content ← parse read (← fileText disk path)
  ofMapping (content.entries levels)

/-- **The settings in a file laid over a text of defaults.** -/
def loadOverText (read : Yaml.Reader) (disk : Disk) (path : Path) (defaults : String) :
    Except LoadError Settings := do
  let base ← parse read defaults
  let upper ← parse read (← fileText disk path)
  if base.mergesEndlessly upper then .error .endless
  else ofMapping (Entries.merge (base.entries levels) (upper.entries levels))

/-- **The settings in a file laid over a file of defaults**, which is read first. -/
def loadOver (read : Yaml.Reader) (disk : Disk) (path defaults : Path) : Except LoadError Settings :=
  if path = defaults then load read disk path
  else do loadOverText read disk path (← fileText disk defaults)

end Settings
end SearchFilter
