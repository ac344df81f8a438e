import SearchFilter.Disk.Basic
import SearchFilter.Log.Record
import SearchFilter.Moment
import SearchFilter.Unicode.Case

/-!
# The logger

Where records go.  A logger that was never set up keeps them to itself; one that was shows those of
a level on the console and, if it is told to, writes all of them to a file of the run.

* `Logger` is a list of handlers behind a threshold; `Logger.initial` is the one that was never set
  up.
* `Logger.configure` sets a logger up.
* `Logger.emit` sends records, which changes the disk and gives what is shown.
-/

set_option autoImplicit false

namespace SearchFilter
namespace Log

/-- One way that a record can go; a handler takes the records from a rank on. -/
inductive Handler where
  /-- Takes records and does nothing with them. -/
  | silent
  | console (rank : Int)
  | file (rank : Int) (place : Place)
deriving DecidableEq, Repr

/-- The least rank of the records that a handler takes. -/
def Handler.rank : Handler → Int
  | silent => 0
  | console rank | file rank _ => rank

/-- Where records go. -/
structure Logger where
  handlers : List Handler
  /-- The least rank of the records that reach the handlers; zero leaves it to the surroundings. -/
  threshold : Int
  /-- Whether records go on to the surroundings, which show none. -/
  propagates : Bool
deriving DecidableEq, Repr

namespace Logger

/-- The logger that was never set up. -/
def initial : Logger := ⟨[.silent], 0, true⟩

/-- The least rank that counts where a logger has no threshold of its own. -/
def surroundingRank : Int := Level.warning.rank

/-- The least rank of the records that reach the handlers. -/
def effectiveRank (logger : Logger) : Int :=
  if logger.threshold = 0 then surroundingRank else logger.threshold

/-! ## Setting up -/

/-- The names of ranks. -/
def rankNames : List (String × Int) :=
  Level.all.map (fun level => (level.name, level.rank)) ++
    [("WARN", Level.warning.rank), ("FATAL", Level.critical.rank), ("NOTSET", 0)]

/-- The rank that a name stands for, however its letters are cased; an unknown name stands for that
of information. -/
def rankOfName (name : String) : Int :=
  (rankNames.lookup (String.ofList (Unicode.upper name.toList))).getD Level.info.rank

/-- What a logger can be told. -/
structure Options where
  /-- The name of the least rank on the console. -/
  level : String := "INFO"
  /-- What is being run; a run file needs its name. -/
  action : Option String := none
  toFile : Bool := false
  /-- The directory of run files. -/
  dir : String := "log"

/-- The action whose run file is to be written, if one is. -/
def Options.runAction? (options : Options) : Option String :=
  if options.toFile then options.action.filter (!·.isEmpty) else none

section

variable [Surroundings]

/-- The run file of an action, opened at its end; its directories are made. -/
def openRunFile (moment : Moment) (dir action : String) : Disk.Action Place := do
  let actionDir := (Path.ofString dir).child action
  Disk.makeDirs actionDir
  Disk.openEnd (actionDir.child s!"{action}_{moment.runStamp}.log")

/-- **A logger that does as it is told.**  If the run file cannot be opened there is none. -/
def configure (moment : Moment) (options : Options) : Disk.Action Logger := do
  let rank := rankOfName options.level
  let threshold := min Level.debug.rank rank
  match options.runAction? with
  | none => return ⟨[.console rank], threshold, false⟩
  | some action =>
    let place ← openRunFile moment options.dir action
    return ⟨[.console rank, .file Level.debug.rank place], threshold, false⟩

/-! ## Sending records -/

/-- A record as a line of text. -/
def formatted (moment : Moment) (record : Record) : String :=
  s!"{moment.logStamp} [{abbreviation record.rank}] {record.message}\n"

/-- One record through one handler: the disk after it, and what is shown.  A line that cannot be made
bytes gets into no file, and that is shown instead. -/
def handle (moment : Moment) (record : Record) (disk : Disk) (handler : Handler) : Disk × String :=
  if record.rank < handler.rank then (disk, "")
  else
    match handler with
    | .silent => (disk, "")
    | .console _ => (disk, formatted moment record)
    | .file _ place =>
      let line := formatted moment record
      if Text.isEncodable line then (disk.extend place line, "")
      else (disk, Surroundings.report line)

/-- One record through a list of handlers. -/
def handleAll (moment : Moment) (record : Record) (disk : Disk) : List Handler → Disk × String
  | [] => (disk, "")
  | handler :: handlers =>
    let (disk, shown) := handle moment record disk handler
    let (disk, rest) := handleAll moment record disk handlers
    (disk, shown ++ rest)

/-- One record sent to a logger. -/
def emitOne (logger : Logger) (moment : Moment) (disk : Disk) (record : Record) : Disk × String :=
  if record.rank < logger.effectiveRank then (disk, "")
  else handleAll moment record disk logger.handlers

/-- **Records sent to a logger**, one after another: the disk afterwards, and what is shown. -/
def emit (logger : Logger) (moment : Moment) (disk : Disk) : List Record → Disk × String
  | [] => (disk, "")
  | record :: records =>
    let (disk, shown) := logger.emitOne moment disk record
    let (disk, rest) := logger.emit moment disk records
    (disk, shown ++ rest)

end

end Logger
end Log
end SearchFilter
