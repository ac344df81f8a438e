import SearchFilter.Text.Pieces
import SearchFilter.Text.Quoted
import SearchFilter.Text.Utf8

/-!
# Disk

The files and directories that a run finds and leaves.

* `Path.ofString` cuts a path into its parts; empty parts and single dots do not count, and double
  dots stay, because what they lead back from may not be there.  `Path.toString` writes a path with one
  slash between two parts.
* `Disk` keeps each file and directory under its place, the list of names that leads to it from the
  root; `Disk.Contents` is what a file holds.
* `Disk.locate` walks a path; double dots lead back from where the walk has come to.
* `Disk.makeDirs`, `Disk.readText`, `Disk.writeText` and `Disk.openEnd` are the actions of a run;
  what an action has done before it fails stays done.  A file is opened before its text is made bytes,
  so a text that has none leaves it empty.
* `Disk.extend` writes behind what a file already has.
* `Disk.Error` says why an action failed, and on which path.
-/

set_option autoImplicit false

namespace SearchFilter

open Surroundings

/-! ## Paths -/

/-- A path as a list of names. -/
structure Path where
  /-- Whether the path starts at the root. -/
  absolute : Bool
  parts : List String
deriving DecidableEq, Repr

namespace Path

/-- The path that a text writes. -/
def ofString (s : String) : Path where
  absolute := s.toList.head? == some '/'
  parts := ((Text.splitAt '/' s.toList).map String.ofList).filter fun part =>
    !(part == "" || part == ".")

/-- A path as text. -/
def toString (path : Path) : String :=
  let joined := "/".intercalate path.parts
  if path.absolute then "/" ++ joined
  else if path.parts.isEmpty then "."
  else joined

/-- A path that goes on from another one. -/
def join (path next : Path) : Path :=
  if next.absolute then next else ⟨path.absolute, path.parts ++ next.parts⟩

/-- A path that goes on with what a text writes. -/
def child (path : Path) (next : String) : Path :=
  path.join (ofString next)

end Path

/-! ## What a disk holds -/

/-- The names that lead from the root to a file or directory. -/
abbrev Place := List String

/-- What a file holds. -/
inductive Disk.Contents where
  | text (s : String)
  /-- Bytes, which need not be those of a text. -/
  | raw (bytes : List UInt8)
deriving DecidableEq, Repr

namespace Disk.Contents

instance : Coe String Contents := ⟨text⟩

/-- The text that a file holds, if it holds one. -/
def read : Contents → Except Text.DecodeFault String
  | text s => .ok s
  | raw bytes => Text.decode bytes

/-- What a file holds after a text was written at its end. -/
def extend (more : String) : Contents → Contents
  | text s => text (s ++ more)
  | raw bytes => raw (bytes ++ more.toByteArray.data.toList)

end Disk.Contents

/-- What can be at a place. -/
inductive Disk.Node where
  | file (contents : Disk.Contents)
  | directory
deriving DecidableEq, Repr

/-- Files and directories by place. -/
structure Disk where
  nodes : List (Place × Disk.Node) := []
  /-- The directory where relative paths start. -/
  home : Place := []
deriving DecidableEq, Repr

namespace Disk

/-- Why an action fails. -/
inductive Cause where
  /-- The path has the null character in it, which ends a path for the system. -/
  | nullInPath
  | noEntry
  | alreadyThere
  | notDirectory
  | isDirectory
  | nameTooLong
  /-- The path, or the text that is to be written, has surrogates without bytes in it. -/
  | unencodable (fault : Text.EncodeFault)
  /-- The bytes of a file are no text. -/
  | undecodable (fault : Text.DecodeFault)
deriving DecidableEq, Repr

/-- The number by which systems know a cause.  Some faults are found before or after the system is
asked. -/
def Cause.number? : Cause → Option Nat
  | nullInPath | unencodable _ | undecodable _ => none
  | noEntry => some 2
  | alreadyThere => some 17
  | notDirectory => some 20
  | isDirectory => some 21
  | nameTooLong => some 36

/-- A cause in words. -/
def Cause.words : Cause → String
  | nullInPath => "embedded null byte"
  | noEntry => "No such file or directory"
  | alreadyThere => "File exists"
  | notDirectory => "Not a directory"
  | isDirectory => "Is a directory"
  | nameTooLong => "File name too long"
  | unencodable fault => fault.message
  | undecodable fault => fault.message

/-- Why an action failed, and on which path. -/
structure Error where
  cause : Cause
  path : Path
deriving DecidableEq, Repr

/-- Whether an action failed because the system refused it. -/
def Error.isOfSystem (e : Error) : Bool :=
  e.cause.number?.isSome

section

variable [Surroundings]

/-- The text of an error. -/
def Error.message (e : Error) : String :=
  match e.cause.number? with
  | some number => s!"[Errno {number}] {e.cause.words}: {Text.quoted e.path.toString}"
  | none => e.cause.words

/-! ## Looking -/

/-- What is at a place.  The root is a directory. -/
def nodeAt (disk : Disk) (place : Place) : Option Node :=
  if place = [] then some .directory else disk.nodes.lookup place

/-- The bytes that a name may have. -/
def mostNameBytes : Nat := 255

/-- The bytes that a path may have. -/
def mostPathBytes : Nat := 4095

/-- Whether a surrogate stands for a byte, in a name that was not written in UTF-8. -/
def isByteEscape (n : Nat) : Bool :=
  0xDC80 ≤ n && n ≤ 0xDCFF

/-- The number of bytes of a name or a path. -/
def byteSize (s : String) : Nat :=
  s.toList.foldl (fun size c =>
    size + if (surrogate? c).any isByteEscape then 1 else c.utf8Size) 0

/-- The place that names lead to from a place.  All but the last name have to lead to directories;
there need not be anything at the last. -/
def walk (disk : Disk) (place : Place) : List String → Except Cause Place
  | [] => .ok place
  | part :: parts =>
    match disk.nodeAt place with
    | none => .error .noEntry
    | some (.file _) => .error .notDirectory
    | some .directory =>
      if byteSize part > mostNameBytes then .error .nameTooLong
      else disk.walk (if part = ".." then place.dropLast else place ++ [part]) parts

/-- The place that a path leads to. -/
def locate (disk : Disk) (path : Path) : Except Cause Place :=
  match Text.encodeFaultFrom? isByteEscape 0 path.toString.toList with
  | some fault => .error (.unencodable fault)
  | none =>
    if path.parts.any (·.toList.contains '\x00') then .error .nullInPath
    else if byteSize path.toString > mostPathBytes then .error .nameTooLong
    else disk.walk (if path.absolute then [] else disk.home) path.parts

/-- What a path leads to, if anything. -/
def nodeOf (disk : Disk) (path : Path) : Option Node :=
  match disk.locate path with
  | .ok place => disk.nodeAt place
  | .error _ => none

/-- Whether a path leads to a directory. -/
def isDirectory (disk : Disk) (path : Path) : Bool :=
  disk.nodeOf path == some .directory

/-- Whether a path leads to anything. -/
def holds (disk : Disk) (path : Path) : Bool :=
  (disk.nodeOf path).isSome

/-- The files below the home directory, by the names that lead there from it. -/
def files (disk : Disk) : List (String × Contents) :=
  disk.nodes.filterMap fun (place, node) =>
    match node with
    | .directory => none
    | .file contents =>
      if disk.home.isPrefixOf place then
        some ("/".intercalate (place.drop disk.home.length), contents)
      else none

/-! ## Actions -/

/-- Puts something at a place. -/
def putNode (place : Place) (node : Node) : List (Place × Node) → List (Place × Node)
  | [] => [(place, node)]
  | (p, n) :: nodes =>
    if p = place then (p, node) :: nodes else (p, n) :: putNode place node nodes

/-- The disk with something new at a place. -/
def put (disk : Disk) (place : Place) (node : Node) : Disk :=
  { disk with nodes := putNode place node disk.nodes }

/-- What changes a disk and can fail; the changes made before a failure stay. -/
abbrev Action := ExceptT Error (StateM Disk)

/-- The place of a path, or the failure of the action on it. -/
def place (path : Path) : Action Place := do
  match (← get).locate path with
  | .ok place => return place
  | .error cause => throw ⟨cause, path⟩

/-- Makes a directory in one that is there. -/
def makeDir (path : Path) : Action Unit := do
  let there ← place path
  if ((← get).nodeAt there).isSome then
    throw ⟨.alreadyThere, path⟩
  else
    modify (·.put there .directory)

/-- Makes a directory in one that is there, unless it is there itself. -/
def ensureDir (path : Path) : Action Unit := do
  try
    makeDir path
  catch e =>
    if (← get).isDirectory path then return else throw e

/-- Makes the directory whose parts are given from the last to the first, and before it those it lies
in, as far as they are not there. -/
def makeDirsRev (absolute : Bool) : List String → Action Unit
  | [] => ensureDir ⟨absolute, []⟩
  | part :: parents => do
    let path : Path := ⟨absolute, (part :: parents).reverse⟩
    try
      makeDir path
    catch e =>
      if e.cause = .noEntry then
        makeDirsRev absolute parents
        ensureDir path
      else if (← get).isDirectory path then
        return
      else
        throw e

/-- **Makes a directory and those it lies in**, as far as they are not there. -/
def makeDirs (path : Path) : Action Unit :=
  makeDirsRev path.absolute path.parts.reverse

/-- The text of a file. -/
def readText (path : Path) : Action String := do
  match (← get).nodeAt (← place path) with
  | some (.file contents) =>
    match contents.read with
    | .ok text => return text
    | .error fault => throw ⟨.undecodable fault, path⟩
  | some .directory => throw ⟨.isDirectory, path⟩
  | none => throw ⟨.noEntry, path⟩

/-- Opens a file, with a change of what it holds; a file that is not there counts as empty.  Gives the
place of the file. -/
def openFile (path : Path) (change : Contents → Contents) : Action Place := do
  let there ← place path
  match (← get).nodeAt there with
  | some .directory => throw ⟨.isDirectory, path⟩
  | some (.file contents) => modify (·.put there (.file (change contents)))
  | none => modify (·.put there (.file (change "")))
  return there

/-- Opens a file to write it anew: it is there afterwards, and empty.  Gives its place. -/
def openNew (path : Path) : Action Place :=
  openFile path fun _ => ""

/-- Opens a file to write at its end: it is there afterwards.  Gives its place. -/
def openEnd (path : Path) : Action Place :=
  openFile path id

/-- Writes a file, in place of what it held. -/
def writeText (path : Path) (text : String) : Action Unit := do
  let there ← openNew path
  match Text.encodeFault? text with
  | some fault => throw ⟨.unencodable fault, path⟩
  | none => modify (·.put there (.file text))

end

/-- The disk with text added to the end of the file at a place. -/
def extend (disk : Disk) (place : Place) (text : String) : Disk :=
  match disk.nodeAt place with
  | some (.file before) => disk.put place (.file (before.extend text))
  | _ => disk

end Disk
end SearchFilter
