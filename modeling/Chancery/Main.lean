import Chancery.CommandLine.Execution
import Std.Time.DateTime.Timestamp

/-!
# The program

The outer layer: it reads the files and variables that a run may look at, the clock and a source
of identifiers, lets the library decide, and prints and writes what comes back.
-/

namespace Chancery.Program

open CommandLine

/-- A file as it is found: none, or its bytes. One that may not be read has none. -/
def readFile (path : String) : IO (Option (Option ByteArray)) := do
  try
    return some (some (← IO.FS.readBinFile path))
  catch
    | .permissionDenied .. => return some none
    | _ => return none

/-- The variables of the environment, as the system lists them: each is ended by a zero byte. -/
def environment : IO Environment := do
  let listing := (← readFile "/proc/self/environ").join.getD .empty
  return ⟨(listing.data.toList.splitOn 0).filter (· ≠ [])⟩

/-- What is known of the surroundings after looking at some files. -/
def surroundings (env : Environment) (paths : List String) : IO Surroundings := do
  let files ← paths.filterMapM fun path => do
    return (← readFile path).map fun bytes => (path, bytes)
  return {
    env
    isFile := fun path => (files.lookup path).isSome
    read? := fun path => (files.lookup path).join }

/-- What stands at a path. A device keeps nothing. -/
def readEntry (path : String) : IO FileEntry := do
  let place := (← IO.currentDir) / path
  try
    match (← place.metadata).type with
    | .dir => return .folder
    | .other => return .sink
    | _ => return .ofBytes (← IO.FS.readBinFile place)
  catch
    | .noFileOrDirectory .. => return .missing
    | _ => return .unreachable

/-- What stands at the paths that are known of. A path that is no text cannot be reached from
here. -/
def readEntries (paths : List FilePath) : IO (FilePath → FileEntry) := do
  let entries ← paths.mapM fun path => do
    return (path, ← path.text?.elim (pure .unreachable) readEntry)
  return fun path => (entries.lookup path).getD .missing

/-- Whether something stands where written bytes lead. -/
def stands (written : List UInt8) : IO Bool := do
  match String.fromUTF8? ⟨written.toArray⟩ with
  | some path => return (← readEntry path).isPresent
  | none => return false

/-- A supply of identifiers that does not repeat: a random number and its successors, marked as
identifiers of random origin. -/
def identifiers : IO (Nat → Identifier) := do
  let bytes ← IO.getRandomBytes 16
  let number := bytes.toList.foldl (fun n b => n * 256 + b.toNat) 0
  let high := number / 0x100000000000000000000 * 0x100000000000000000000
  let mark := 0x40008000000000000000
  return fun n => .ofNat (high + mark + (number + n) % 0x4000000000000000)

/-- The file at a location, with the file that its permissions are taken from. -/
def fileOf (folder : FilePath) : Location → FilePath × Option (List UInt8)
  | .file written opening => (.ofBytes folder written, opening.pattern)
  | _ => (.root, none)

/-- How many bytes a file has. -/
def fileSize (path : FilePath) : IO (Option Int) := do
  match path.text? with
  | some path => return (← readFile path).join.map fun bytes => Int.ofNat bytes.size
  | none => return none

/-- What a run meets that is to use the database at a location. -/
def host (location : Location) : IO Host := do
  let folder := FilePath.ofBytes .root (← IO.currentDir).toString.toUTF8.toList
  let (path, pattern) := fileOf folder location
  let isThere ← pattern.elim (pure false) stands
  let clock := (← Std.Time.Timestamp.now).toNanosecondsSinceUnixEpoch.val.toNat
  return {
    folder
    found := ← readEntries (databasePaths folder location)
    stands := fun written => some written = pattern && isThere
    clock := .ofUnixNanos clock
    identifiers := ← identifiers
    storageSize := ← fileSize path }

/-- Makes a change that a run leaves behind. -/
def save (change : Change) : IO Unit := do
  match change.path.text?, change.entry with
  | some path, .missing => if (← readFile path).isSome then IO.FS.removeFile path
  | some path, entry => entry.text?.forM (IO.FS.writeFile path ·)
  | none, _ => return

/-- Prints and writes the answer of a run, and tells its exit code. -/
def finish : Response → IO UInt32
  | .stopped => do
    IO.eprintln (envFilePath ++ ": a variable cannot hold a zero byte")
    return 101
  | .refused error => do
    IO.eprintln ("error: " ++ error.message)
    return 2
  | .failed error changes => do
    changes.reverse.forM save
    IO.eprint error.text
    return 1
  | .done output changes => do
    changes.reverse.forM save
    IO.print output
    return 0

/-- One run of the program. -/
def start (arguments : List String) : IO UInt32 := do
  let env ← environment
  let first ← surroundings env [envFilePath]
  let w ← surroundings env (envFilePath :: consultedPaths first arguments)
  let plan := plan w arguments
  finish (plan.carryOut (← host plan.location))

end Chancery.Program

/-- Runs the program on its arguments. -/
def main (arguments : List String) : IO UInt32 := Chancery.Program.start arguments
