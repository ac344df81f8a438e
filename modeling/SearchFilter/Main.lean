import SearchFilter.CommandLine.Run
import Std.Time

/-!
# The program

The outer layer of the command line: it looks up what a run may read or write, lets
`CommandLine.run` decide, and carries out the changes.  It decides nothing itself.
-/

set_option autoImplicit false

namespace SearchFilter
namespace CommandLine

/-- The paths that a run may read before it knows its settings. -/
def pathsOfArguments (args : List String) : List Path :=
  let given := ((readOptions args).toOption.bind (·.settings)).toList
  (defaultSettings :: given).map Path.ofString

/-- The paths that a run may write to, as far as its settings can be loaded. -/
def pathsOfSettings (moment : Moment) (disk : Disk) (args : List String) : List Path :=
  let given := ((readOptions args).toOption.bind (·.settings)).getD defaultSettings
  match loadSettings .standard disk given with
  | .error _ => []
  | .ok settings => [
    ((Path.ofString settings.logDir).child parseCommand).child
      s!"{parseCommand}_{moment.runStamp}.log",
    Outlet.resultPath moment settings.outputDir parseCommand]

/-- The text by which the system knows a place. -/
def systemName (place : Place) : String :=
  "/" ++ "/".intercalate place

/-- What bytes from the system are. -/
def contentsOf (bytes : ByteArray) : Disk.Contents :=
  match String.fromUTF8? bytes with
  | some text => .text text
  | none => .raw bytes.data.toList

/-- What the system has at a place. -/
def lookUp (place : Place) : IO (Option Disk.Node) := do
  try
    return some (.file (contentsOf (← IO.FS.readBinFile (systemName place))))
  catch
    | .noFileOrDirectory .. => return none
    | _ => return some .directory

/-- The disk with what the system has on the way along some names. -/
def lookUpAlong (disk : Disk) (place : Place) : List String → IO Disk
  | [] => return disk
  | part :: parts => do
    let next := if part = ".." then place.dropLast else place ++ [part]
    match ← lookUp next with
    | none => return disk
    | some node => lookUpAlong (disk.put next node) next parts

/-- The disk with what the system has along some paths. -/
def lookUpAll (disk : Disk) (paths : List Path) : IO Disk :=
  paths.foldlM (fun disk path =>
    lookUpAlong disk (if path.absolute then [] else disk.home) path.parts) disk

/-- Brings the system from what it had to what a run leaves. -/
def carryOut (before after : Disk) : IO Unit :=
  after.nodes.forM fun (place, node) => do
    if before.nodeAt place != some node then
      match node with
      | .directory => IO.FS.createDirAll (systemName place)
      | .file (.text text) => IO.FS.writeFile (systemName place) text
      | .file (.raw bytes) => IO.FS.writeBinFile (systemName place) ⟨bytes.toArray⟩

/-- The moment that the clock of the system shows. -/
def now : IO Moment := do
  let t ← Std.Time.PlainDateTime.now
  return ⟨t.date.year.toInt.toNat, t.date.month.val.toNat, t.date.day.val.toNat,
    t.time.hour.val.toNat, t.time.minute.val.toNat, t.time.second.val.toNat⟩

/-- The disk at the start: the directory that the program is run in, and those it lies in. -/
def homeDisk : IO Disk := do
  let home := (Path.ofString (← IO.currentDir).toString).parts
  let nodes := (List.range home.length).map fun n => (home.take (n + 1), Disk.Node.directory)
  return { nodes, home }

end CommandLine
end SearchFilter

open SearchFilter CommandLine in
/-- Runs the program with the arguments of the command line. -/
def main (args : List String) : IO UInt32 := do
  let moment ← now
  let start ← lookUpAll (← homeDisk) (pathsOfArguments args)
  let start ← lookUpAll start (pathsOfSettings moment start args)
  match run .standard moment start args with
  | .error crash =>
    IO.eprintln (Text.shown crash.message)
    return 1
  | .ok outcome =>
    carryOut start outcome.disk
    IO.print (Text.shown outcome.stdout)
    IO.eprint (Text.shown outcome.stderr)
    return UInt32.ofNat outcome.exitCode
