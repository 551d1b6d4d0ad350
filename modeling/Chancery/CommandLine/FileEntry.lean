import Chancery.Settings.FilePath
import Chancery.Store.Archive

/-!
# What stands at a path

A database is told by what stands at its path and beside it. Of a file it matters whether it is
empty, which is a database without tables too, and whether it is a database. Of any other file only
the first byte matters: what has been left of a change begins with a byte that is not zero.

What a program does to files is kept as changes over what it found, so nothing has to be done
before the program is through.

## Main definitions

* `FileEntry` and `FileEntry.ofBytes`
* `Files`, `Files.get`, `Files.put` — files and changes of them
-/

namespace Chancery.CommandLine

/-- What stands at a path. -/
inductive FileEntry where
  /-- Nothing that can be asked for: the path goes on below a file, or has a name that is too
  long. -/
  | unreachable
  | missing
  | folder
  | empty
  /-- A file that stays empty, since it keeps nothing of what is written to it. -/
  | sink
  /-- A file that is no database. -/
  | foreign (beginsWithZero : Bool)
  | database (archive : Archive)

namespace FileEntry

/-- Whether something stands there. -/
def isPresent : FileEntry → Bool
  | .unreachable | .missing => false
  | _ => true

/-- Whether something stands there, an empty file apart. -/
def isFilled : FileEntry → Bool
  | .empty | .sink => false
  | e => e.isPresent

/-- Whether it cannot be asked for. -/
def isUnreachable : FileEntry → Bool
  | .unreachable => true
  | _ => false

/-- Whether it is a folder. -/
def isFolder : FileEntry → Bool
  | .folder => true
  | _ => false

/-- Whether it is an empty file. -/
def isEmpty : FileEntry → Bool
  | .empty | .sink => true
  | _ => false

/-- Whether it is a database. -/
def isDatabase : FileEntry → Bool
  | .database _ => true
  | _ => false

/-- Whether what is written to it is lost. -/
def isSink : FileEntry → Bool
  | .sink => true
  | _ => false

/-- A file of another program, by its bytes. An empty one is anybody's. -/
def ofOthersBytes (bytes : ByteArray) : FileEntry :=
  if bytes.isEmpty then .empty else .foreign (bytes.toList.head? = some 0)

/-- A file by its bytes. -/
def ofBytes (bytes : ByteArray) : FileEntry :=
  match (String.fromUTF8? bytes).bind Archive.ofText? with
  | some a => .database a
  | none => .ofOthersBytes bytes

/-- The text of a file that has been made or changed. -/
def text? : FileEntry → Option String
  | .empty => some ""
  | .foreign _ => some "index\n"
  | .database a => some a.text
  | _ => none

end FileEntry

/-- Something that has been put to a path, or taken away from it. -/
structure Change where
  path : FilePath
  entry : FileEntry

/-- Files as they were found, and what has been changed since. -/
structure Files where
  found : FilePath → FileEntry
  /-- The changes, the last one first, one for each path. -/
  changes : List Change

namespace Files

/-- What stands at a path. -/
def get (f : Files) (path : FilePath) : FileEntry :=
  match f.changes.find? (·.path = path) with
  | some change => change.entry
  | none => f.found path

/-- Puts something to a path. -/
def put (f : Files) (path : FilePath) (entry : FileEntry) : Files :=
  { f with changes := ⟨path, entry⟩ :: f.changes.filter (·.path ≠ path) }

end Files

end Chancery.CommandLine
