import SearchFilter.Log.Record
import SearchFilter.Text.Quoted

/-!
# Settings

What a run can be told: how it logs, where and how it writes its results, and which queries it reads
when it is given none.

* `Settings` holds only what has been checked.
* `Settings.Error` lists what can be wrong, `Settings.Error.message` says it in words.
-/

set_option autoImplicit false

namespace SearchFilter

/-- A way of writing results. -/
inductive Format where
  | console
  | json
deriving DecidableEq, Repr

namespace Format

/-- The name of a format in settings. -/
def name : Format → String
  | console => "console"
  | json => "json"

/-- All formats. -/
def all : List Format := [console, json]

/-- The format of a name. -/
def ofName? (name : String) : Option Format :=
  all.find? (·.name == name)

end Format

/-- Checked settings. -/
structure Settings where
  /-- The least level of records shown on the console. -/
  level : Log.Level
  /-- Whether records go to a file as well. -/
  toFile : Bool
  /-- The directory of log files. -/
  logDir : String
  /-- The directory of result files. -/
  outputDir : String
  /-- The formats of results, each once, in the order of the settings. -/
  formats : List Format
  /-- The queries to read when none are given. -/
  queries : List String
deriving DecidableEq, Repr

namespace Settings

/-- What can be wrong with settings. -/
inductive Error where
  | missing (key : String)
  | notMapping (key : String)
  | notText (key : String)
  | notBool (key : String)
  | notList (key : String)
  /-- An item of a list is no text. -/
  | notTextAt (key : String) (index : Nat)
  | unknownLevel
  | blankLogDir
  | noFormats
  | unknownFormats (names : List String)
  | blankOutputDir
  /-- The document as a whole is no mapping. -/
  | rootNotMapping
deriving DecidableEq, Repr

variable [Surroundings]

/-- Texts in a row, each between quotes. -/
def quotedList (names : List String) : String :=
  "[" ++ ", ".intercalate (names.map Text.quoted) ++ "]"

/-- The names of levels that settings may use, sorted. -/
def levelNames : List String :=
  (Log.Level.all.map (·.name)).mergeSort (· ≤ ·)

/-- The text of an error. -/
def Error.message : Error → String
  | missing key => "Missing required config: " ++ key
  | notMapping key => key ++ " must be an object"
  | notText key => key ++ " must be a string"
  | notBool key => key ++ " must be a boolean"
  | notList key => key ++ " must be a list"
  | notTextAt key index => s!"{key}[{index}] must be a string"
  | unknownLevel => "log.level must be one of " ++ quotedList levelNames
  | blankLogDir => "log.dir must not be empty when log.to_file=true"
  | noFormats => "output.formats must include at least one format"
  | unknownFormats names => "output.formats has unknown formats: " ++ quotedList names
  | blankOutputDir => "output.base_dir must not be empty"
  | rootNotMapping => "Config root must be a mapping/object"

/-- Whether an error is that a value is of the wrong kind. -/
def Error.isMistyped : Error → Bool
  | notMapping _ | notText _ | notBool _ | notList _ | notTextAt _ _ => true
  | _ => false

end Settings
end SearchFilter
