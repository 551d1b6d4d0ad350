import Chancery.Settings.Database
import Chancery.Settings.FilePath
import Chancery.Settings.ResourceName

/-!
# Where a file database is

An address of the file database is a path, or the scheme and a path, or a resource name that
begins with `file:`. A scheme that is left after one has been taken off begins a resource name too.
Two paths stand for databases that live as long as the program: the empty one and `:memory:`.

A resource name can say how its file is opened; otherwise the file is created where it does not
exist. The parameters are read in their order, and `mode` can only narrow what was allowed before.
A database in memory allows everything again, since it has no file.

## Main definitions

* `Access`, `Locking`, `Opening` — how a file is opened
* `Location` and `Location.ofUrl` — the location of an address
-/

namespace Chancery

/-! ### Openings -/

/-- What a file is opened for. -/
inductive Access where
  | readOnly
  /-- For writing, where it exists. -/
  | existing
  | creating
  deriving DecidableEq, Repr

/-- How those who use a file keep out of each other's way. -/
inductive Locking where
  /-- By locks on parts of the file, and an index beside it that all of them share. -/
  | ranges
  /-- By locks on parts of the file, for one program, which can keep the index to itself. -/
  | alone
  /-- By a folder beside the file, which is there while the file is in use. -/
  | folder
  | nothing
  deriving DecidableEq, Repr

/-- How a file is opened. -/
structure Opening where
  access : Access
  /-- The file is taken for one that nobody changes. -/
  isFrozen : Bool
  locking : Locking
  /-- The locks are taken. -/
  takesLocks : Bool
  /-- An index beside the file is only read. -/
  onlyReadsIndex : Bool
  /-- The file, as it is written, whose permissions a new one is to have. -/
  pattern : Option (List UInt8)
  deriving DecidableEq, Repr

namespace Opening

/-- The opening that nothing else is said of. -/
def ordinary : Opening :=
  { access := .creating, isFrozen := false, locking := .ranges, takesLocks := true
    onlyReadsIndex := false, pattern := none }

/-- Whether changes can be kept in a log first, which takes an index and locks on it. -/
def allowsLog (o : Opening) : Bool :=
  o.takesLocks && (o.locking = .ranges || o.locking = .alone)

/-- Whether the index of a log stands beside the file. Who only reads cannot shut others out, and
shares the index with them. -/
def sharesIndex (o : Opening) : Bool :=
  o.locking = .ranges || (o.locking = .alone && o.access = .readOnly)

end Opening

/-- Where a database is. -/
inductive Location where
  | memory (isWritable : Bool)
  /-- A file at a path, as it is written. -/
  | file (path : List UInt8) (opening : Opening)
  /-- An address that is not understood. -/
  | invalid
  deriving DecidableEq, Repr

/-! ### What resource names say -/

/-- How much an access allows. -/
def Access.rank : Access → Nat
  | .readOnly => 0
  | .existing => 1
  | .creating => 2

/-- A mode of opening: of a file, or without one. -/
inductive OpeningMode where
  | file (access : Access)
  | memory
  deriving DecidableEq, Repr

namespace OpeningMode

/-- The mode of a name. -/
def ofName? : String → Option OpeningMode
  | "ro" => some (.file .readOnly)
  | "rw" => some (.file .existing)
  | "rwc" => some (.file .creating)
  | "memory" => some .memory
  | _ => none

/-- The mode after another one is asked for. -/
def narrowed? : OpeningMode → OpeningMode → Option OpeningMode
  | .file allowed, .file asked => if asked.rank ≤ allowed.rank then some (.file asked) else none
  | _, asked => some asked

end OpeningMode

/-- The keepers of files that a resource name can choose from. -/
inductive FileKeeper where
  | disk (locking : Locking)
  | memory
  deriving DecidableEq, Repr

/-- The keeper of a name. -/
def FileKeeper.ofName? : String → Option FileKeeper
  | "unix" => some (.disk .ranges)
  | "unix-excl" => some (.disk .alone)
  | "unix-dotfile" => some (.disk .folder)
  | "unix-none" => some (.disk .nothing)
  | "memdb" => some .memory
  | _ => none

/-- The most bytes that the name of a file kept in memory can have. -/
def FileKeeper.longestInMemory : Nat := 1016

namespace ResourceName

/-- The mode that is asked for. -/
def mode? (r : ResourceName) : Option OpeningMode :=
  (r.texts "mode").foldlM (fun mode name => name.bind OpeningMode.ofName? >>= mode.narrowed?)
    (.file .creating)

/-- The keeper that is asked for: the last one counts. -/
def keeper? (r : ResourceName) : Option FileKeeper :=
  match (r.texts "vfs").getLast? with
  | some name => name.bind FileKeeper.ofName?
  | none => some (.disk .ranges)

/-- Whether the caches that are asked for exist. Which one it is makes no difference. -/
def hasKnownCaches (r : ResourceName) : Bool :=
  (r.texts "cache").all fun name => name = some "shared" || name = some "private"

/-- How a file on disk is opened. -/
def opening (r : ResourceName) (access : Access) (locking : Locking) : Opening :=
  { access, locking
    isFrozen := r.isSet "immutable"
    takesLocks := !r.isSet "nolock"
    onlyReadsIndex := r.isSet "readonly_shm"
    pattern := (r.values "modeof").head? }

end ResourceName

namespace Location

/-! ### Addresses -/

/-- The path of a database without a file. -/
def memoryPath : List UInt8 := ":memory:".toUTF8.toList

/-- The location of a resource name. -/
def ofResource (r : ResourceName) : Location :=
  match r.mode?, r.keeper?, r.hasKnownCaches with
  | some .memory, some _, true => .memory true
  | some (.file access), some keeper, true =>
    if r.path = [] ∨ r.path = memoryPath then .memory (access ≠ .readOnly)
    else
      match keeper with
      | .memory =>
        if r.path.length ≤ FileKeeper.longestInMemory then
          .memory (access ≠ .readOnly && !r.isSet "immutable")
        else .invalid
      | .disk locking => .file r.path (r.opening access locking)
  | _, _, _ => .invalid

/-- The scheme of addresses of the file database. -/
def scheme : List Char := "sqlite://".toList

/-- The scheme of resource names. -/
def resourceScheme : List Char := "file:".toList

/-- What follows a beginning, if a text begins so. -/
def after? (start s : List Char) : Option (List Char) :=
  if start.isPrefixOf s then some (s.drop start.length) else none

/-- The location of an address of the file database. -/
def ofUrl (url : String) : Location :=
  let s := (after? scheme url.toList).getD url.toList
  if s.contains '\x00' then .invalid
  else
    match (after? scheme s).or (after? resourceScheme s) with
    | some name => ((ResourceName.ofChars? name).map ofResource).getD .invalid
    | none =>
      let path := s.flatMap String.utf8EncodeChar
      if path = [] ∨ path = memoryPath then .memory true else .file path .ordinary

end Location

end Chancery
