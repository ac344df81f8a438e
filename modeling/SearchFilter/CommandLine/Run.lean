import SearchFilter.CommandLine.Arguments
import SearchFilter.Log.Logger
import SearchFilter.Output
import SearchFilter.Settings.Load

/-!
# A run from the command line

* `run` takes the arguments and the disk and gives the `Outcome`: the exit code, what is shown, and
  the disk afterwards.
* `Packages` are the parts of a run that can be exchanged, `Packages.standard` those that are used.
* `runQueries` is the part behind the settings: the log is set up, the queries are read and the
  results are written.
* A run is stopped by a `Crash` when the settings are no document or hold a scalar that cannot be read,
  when they and the defaults hold themselves, when nobody can be asked for their path, or when the log
  file cannot be opened.
-/

set_option autoImplicit false

namespace SearchFilter
namespace CommandLine

open Log

variable [Surroundings]

/-- The parts of a run that can be exchanged. -/
structure Packages where
  /-- What reads dates. -/
  dates : Date.Reader
  /-- What reads documents. -/
  documents : Yaml.Reader
  /-- What reads the options of the program. -/
  options : List String → Except UsageError Invocation
  /-- What reads the arguments of the command. -/
  arguments : List String → Except UsageError Request

/-- The parts that are used. -/
def Packages.standard : Packages := ⟨.written, Yaml.read, readOptions, readQueries⟩

/-- What a run leaves. -/
structure Outcome where
  exitCode : Nat
  /-- What is shown as the answer to a question. -/
  stdout : String := ""
  /-- What is shown of the log and of errors. -/
  stderr : String := ""
  disk : Disk

/-- What stops a run without an exit code. -/
inductive Crash where
  | settings (error : Settings.LoadError)
  /-- The system cannot be asked for the path of the settings. -/
  | path (cause : Disk.Cause)
  | disk (error : Disk.Error)
deriving DecidableEq, Repr

/-- The text of a crash. -/
def Crash.message : Crash → String
  | settings error => error.message
  | path cause => cause.words
  | disk error => error.message

/-- The run that does not start. -/
def refused (disk : Disk) (error : UsageError) : Outcome :=
  { exitCode := 2, stderr := "Error: " ++ error.message ++ "\n", disk }

/-- The text for who asks for help. -/
def helpText : String :=
  "Usage: search-filter [--config FILE] parse [QUERY]...\n"

/-- The run that only gives help. -/
def helped (disk : Disk) : Outcome :=
  { exitCode := 0, stdout := helpText, disk }

/-- The name of the one command. -/
def parseCommand : String := "parse"

/-- The path where settings are looked for when none is given, and where defaults are. -/
def defaultSettings : String := "config/default.yml"

/-! ## Settings -/

/-- Whether a path that was given for the settings leads to a directory.  The empty path is not
looked up. -/
def isDirectoryGiven (disk : Disk) (given : String) : Bool :=
  given != "" && disk.isDirectory (Path.ofString given)

/-- Why the system cannot be asked for a path that was given for the settings, if it cannot. -/
def givenFault? (given : String) : Option Disk.Cause :=
  match Text.encodeFaultFrom? Disk.isByteEscape 0 given.toList with
  | some fault => some (.unencodable fault)
  | none => if given.toList.contains '\x00' then some .nullInPath else none

/-- The settings in the file of a path, laid over the defaults if they are there. -/
def loadSettings (packages : Packages) (disk : Disk) (given : String) :
    Except Settings.LoadError Settings :=
  let path := Path.ofString given
  let defaults := Path.ofString defaultSettings
  Settings.loadOver packages.documents disk path (if disk.holds defaults then defaults else path)

/-! ## The command -/

/-- The settings of the log for a run. -/
def logOptions (settings : Settings) : Logger.Options where
  level := settings.level.name
  action := some parseCommand
  toFile := settings.toFile
  dir := settings.logDir

/-- The queries of a run: those given, or else those of the settings. -/
def selectQueries (settings : Settings) (queries : List String) : List String :=
  if queries.isEmpty then settings.queries else queries

/-- The end of a run that has failed. -/
def aborted (logger : Logger) (moment : Moment) (disk : Disk) (shown message : String) : Outcome :=
  let (disk, more) := logger.emit moment disk [⟨Level.error.rank, "Parse failed: " ++ message⟩]
  { exitCode := 1, stderr := shown ++ more ++ "Aborted!\n", disk }

/-- A run of queries with a logger that is set up. -/
def runLogged (packages : Packages) (logger : Logger) (moment : Moment) (disk : Disk)
    (settings : Settings) (queries : List String) : Outcome :=
  match Writer.ofFormats settings.formats settings.outputDir with
  | .error e => aborted logger moment disk "" e.message
  | .ok writer =>
    let results := SearchFilter.readQueries packages.dates writer (queries.map some)
    let (disk, shown) := logger.emit moment disk results.records
    match results.value with
    | (.error e, _) => aborted logger moment disk shown e.message
    | (.ok _, writer) =>
      let finished := writer.finish moment parseCommand disk
      let (disk, more) := logger.emit moment finished.value.2 finished.records
      match finished.value.1 with
      | .error e => aborted logger moment disk (shown ++ more) e.message
      | .ok () => { exitCode := 0, stderr := shown ++ more, disk }

/-- **A run of queries under settings.** -/
def runQueries (packages : Packages) (moment : Moment) (disk : Disk) (settings : Settings)
    (queries : List String) : Except Crash Outcome :=
  match (Logger.configure moment (logOptions settings)).run.run disk with
  | (.error e, _) => .error (.disk e)
  | (.ok logger, disk) =>
    match selectQueries settings queries with
    | [] => .ok (refused disk .noQueries)
    | queries => .ok (runLogged packages logger moment disk settings queries)

/-- The command with its arguments, under the settings of a path. -/
def runCommand (packages : Packages) (moment : Moment) (disk : Disk) (given : String)
    (args : List String) : Except Crash Outcome :=
  match loadSettings packages disk given with
  | .error e =>
    if e.isRefusal then .ok (refused disk (.badSettings e.message)) else .error (.settings e)
  | .ok settings =>
    match packages.arguments args with
    | .error e => .ok (refused disk e)
    | .ok request =>
      if request.help then .ok (helped disk)
      else runQueries packages moment disk settings request.queries

/-! ## The program -/

/-- Whether a name could be meant for an option: it starts with neither a letter nor a digit. -/
def looksLikeOption (name : String) : Bool :=
  name.toList.head?.any fun c => !(Unicode.isLetter c || Unicode.isDigit c || Unicode.isOtherNumeral c)

/-- The run with a command that is not known.  Who could have meant an option is given help. -/
def unknownCommand (disk : Disk) (name : String) : Outcome :=
  if looksLikeOption name then helped disk else refused disk (.noSuchCommand name)

/-- **A run with some arguments on a disk.** -/
def run (packages : Packages) (moment : Moment) (disk : Disk) (args : List String) :
    Except Crash Outcome :=
  if args.isEmpty then .ok (helped disk)
  else
    match packages.options args with
    | .error e => .ok (refused disk e)
    | .ok invocation =>
      let given := invocation.settings.getD defaultSettings
      if invocation.help then .ok (helped disk)
      else
        match givenFault? given with
        | some cause => .error (.path cause)
        | none =>
          if isDirectoryGiven disk given then .ok (refused disk (.settingsAreDirectory given))
          else
            match invocation.rest with
            | [] => .ok (refused disk .missingCommand)
            | name :: args =>
              if name = parseCommand then runCommand packages moment disk given args
              else .ok (unknownCommand disk name)

end CommandLine
end SearchFilter
