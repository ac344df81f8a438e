import SearchFilter.Settings.Basic
import SearchFilter.Unicode.Blank
import SearchFilter.Unicode.Case
import SearchFilter.Value

/-!
# Reading settings from a mapping

Reading goes in two rounds.  The first takes every value that the settings consist of and sees that
it is of the right kind; the second asks whether the values make sense.  The first fault found is
reported.

* `Draft` is what the first round gives, `Draft.ofEntries` is that round.
* `Draft.check` is the second round.
* `ofEntries` is both.
-/

set_option autoImplicit false

namespace SearchFilter
namespace Settings

/-! ## Values of known kinds -/

/-- The mapping that is a section of the settings.  A section that is not required may be left out or
empty. -/
def readSection (entries : Entries) (key : String) (required : Bool) : Except Error Entries :=
  match entries.get? key with
  | none | some .null => if required then .error (.missing key) else .ok []
  | some (.mapping content) => .ok content
  | some _ => .error (.notMapping key)

/-- A value that has to be there.  Messages call it by its full name. -/
def require (content : Entries) (field fullName : String) : Except Error Value :=
  match content.get? field with
  | some value => .ok value
  | none => .error (.missing fullName)

/-- A value that has to be a text. -/
def asText (fullName : String) : Value → Except Error String
  | .string s => .ok s
  | _ => .error (.notText fullName)

/-- A value that has to be true or false. -/
def asBool (fullName : String) : Value → Except Error Bool
  | .bool b => .ok b
  | _ => .error (.notBool fullName)

/-- Items that have to be texts, counted from an index on. -/
def textsFrom (fullName : String) (index : Nat) : List Value → Except Error (List String)
  | [] => .ok []
  | .string s :: items => return s :: (← textsFrom fullName (index + 1) items)
  | _ :: _ => .error (.notTextAt fullName index)

/-- A value that has to be a list of texts. -/
def asTexts (fullName : String) : Value → Except Error (List String)
  | .list items => textsFrom fullName 0 items
  | _ => .error (.notList fullName)

/-! ## The two rounds -/

/-- Settings whose values are of the right kinds. -/
structure Draft where
  /-- The name of the level, in capitals. -/
  level : String
  toFile : Bool
  logDir : String
  /-- The names of formats in small letters, each once. -/
  formats : List String
  outputDir : String
  queries : List String
deriving DecidableEq, Repr

/-- The name of a level as it is compared: without blanks around it, in capitals. -/
def normalLevel (name : String) : String :=
  String.ofList (Unicode.upper (Text.trim name.toList))

/-- The name of a format as it is compared: without blanks around it, in small letters. -/
def normalFormat (name : String) : String :=
  String.ofList (Unicode.lower (Text.trim name.toList))

/-- Names of formats as they are compared, each once; blank names do not count. -/
def normalFormats (names : List String) : List String :=
  ((names.map normalFormat).filter (!·.isEmpty)).eraseDups

/-- The queries of the settings: none, one, or a list. -/
def readQueries (entries : Entries) : Except Error (List String) :=
  match entries.get? "queries" with
  | none | some .null => .ok []
  | some (.string query) => .ok [query]
  | some value => asTexts "queries" value

/-- The first round. -/
def Draft.ofEntries (entries : Entries) : Except Error Draft := do
  let log ← readSection entries "log" true
  let level ← asText "log.level" (← require log "level" "log.level")
  let toFile ← asBool "log.to_file" (← require log "to_file" "log.to_file")
  let logDir ← asText "log.dir" (← require log "dir" "log.dir")
  let output ← readSection entries "output" true
  let formats ← asTexts "output.formats" (← require output "formats" "output.formats")
  let outputDir ← asText "output.base_dir" (← require output "base_dir" "output.base_dir")
  let queries ← readQueries entries
  return ⟨normalLevel level, toFile, logDir, normalFormats formats, outputDir, queries⟩

/-- Whether a text names no directory. -/
def isBlank (dir : String) : Bool :=
  Text.isBlankText dir.toList

/-- The second round. -/
def Draft.check (draft : Draft) : Except Error Settings :=
  match Log.Level.ofName? draft.level with
  | none => .error .unknownLevel
  | some level =>
    let unknown := draft.formats.filter fun name => (Format.ofName? name).isNone
    let formats := draft.formats.filterMap Format.ofName?
    if draft.toFile && isBlank draft.logDir then .error .blankLogDir
    else if draft.formats.isEmpty then .error .noFormats
    else if !unknown.isEmpty then .error (.unknownFormats (unknown.mergeSort (· ≤ ·)))
    else if formats.contains .json && isBlank draft.outputDir then .error .blankOutputDir
    else .ok ⟨level, draft.toFile, draft.logDir, draft.outputDir, formats, draft.queries⟩

/-- **The settings that a mapping holds.** -/
def ofEntries (entries : Entries) : Except Error Settings := do
  (← Draft.ofEntries entries).check

end Settings
end SearchFilter
