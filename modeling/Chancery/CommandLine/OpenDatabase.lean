import Chancery.CommandLine.FileEntry
import Chancery.Failure
import Chancery.Settings.Location

/-!
# Open databases

A database in a file has up to four things beside it. A journal keeps what a change replaces, until
the change is through; one that is left over is a change to be taken back. A log keeps changes, and
an index finds them in it. A folder can stand for a lock.

Every use of a database begins by looking at all of them: what is left over is settled, and a log
that the file asks for is opened. A folder in the place of a file is in the way, and so is a name
that is too long. Once the log is open the journal is out of use.

A use that fails can have changed files all the same, so a use hands back the database in either
case.

## Main definitions

* `OpenDatabase`, `Companion`
* `OpenDatabase.begin`, `OpenDatabase.replace` — looking at a database and writing to it
* `OpenDatabase.migrate`, `OpenDatabase.tables`, `OpenDatabase.putTables` — its tables
* `OpenDatabase.close`
-/

namespace Chancery.CommandLine

/-- What can stand beside a database. -/
inductive Companion where
  | journal
  | log
  | index
  | lock
  deriving DecidableEq, Repr

/-- What the names of companions end in. -/
def Companion.ending : Companion → String
  | .journal => "-journal"
  | .log => "-wal"
  | .index => "-shm"
  | .lock => ".lock"

/-- A database that is open. -/
structure OpenDatabase where
  path : FilePath
  opening : Opening
  files : Files
  isLogOpen : Bool
  /-- The index is there to be read only. -/
  isIndexFixed : Bool

/-- A use of a database. -/
abbrev Use (ε α : Type) : Type := EStateM ε OpenDatabase α

namespace OpenDatabase

/-- The database in a file. -/
def ofFile (path : FilePath) (opening : Opening) (files : Files) : OpenDatabase :=
  { path, opening, files, isLogOpen := false, isIndexFixed := false }

/-- A database in memory: an empty file that stands apart from all others. -/
def inMemory (isWritable : Bool) : OpenDatabase :=
  let access := if isWritable then .existing else .readOnly
  let path := .ofBytes .root Location.memoryPath
  ofFile path { Opening.ordinary with access, locking := .nothing }
    { found := fun p => if p = path then .empty else .missing, changes := [] }

/-- What the file is. -/
def content (d : OpenDatabase) : FileEntry := d.files.get d.path

/-- What a companion is. -/
def companion (d : OpenDatabase) (k : Companion) : FileEntry :=
  d.files.get (d.path.beside k.ending)

/-- The database with something else for its file. -/
def withContent (d : OpenDatabase) (e : FileEntry) : OpenDatabase :=
  { d with files := d.files.put d.path e }

/-- The database with something else for a companion. -/
def withCompanion (d : OpenDatabase) (k : Companion) (e : FileEntry) : OpenDatabase :=
  { d with files := d.files.put (d.path.beside k.ending) e }

/-- Whether the file is open for reading only. -/
def isReadOnly (d : OpenDatabase) : Bool := d.opening.access = .readOnly

/-! ### Beginning -/

/-- Takes the lock that is a folder. It is given back after the use. -/
def takeLock : Use Obstacle Unit := do
  let d ← get
  if d.opening.locking = .folder && d.opening.takesLocks then
    match d.companion .lock with
    | .missing => return
    | .unreachable => throw .unreadable
    | _ => throw .locked

/-- Whether somebody seems to be at work on the journal. A lock that is a folder does not tell
whose it is. -/
def isJournalInUse (d : OpenDatabase) : Bool :=
  d.opening.locking = .folder && (d.opening.takesLocks || (d.companion .lock).isPresent)

/-- Whether a journal of an empty file can be taken away, which needs a lock for writing. -/
def clearsJournal (d : OpenDatabase) : Bool :=
  !(d.companion .journal).isFolder && !(d.isReadOnly && d.opening.allowsLog)

/-- Settles a journal that is left over. An empty file has nothing to take back. -/
def settleJournal : Use Obstacle Unit := do
  let d ← get
  let journal := d.companion .journal
  if !journal.isFilled || d.isJournalInUse then return
  if d.content.isEmpty then
    if d.clearsJournal then set (d.withCompanion .journal .missing)
  else
    match journal with
    | .folder => throw .unreadable
    | .foreign true => return
    | _ => if d.isReadOnly then throw .readOnly else set (d.withCompanion .journal .missing)

/-- Opens a log that is there. One of an empty file is taken away. -/
def settleLog : Use Obstacle Unit := do
  let d ← get
  let log := d.companion .log
  if !log.isFilled then return
  if d.content.isEmpty then
    if log.isFolder then throw .unreadable else set (d.withCompanion .log .missing)
  else
    if log.isFolder || !d.opening.allowsLog then throw .unopenable
    else set { d with isLogOpen := true }

/-- Opens the log that a file asks for. -/
def startLog : Use Obstacle Unit := do
  let d ← get
  match d.content with
  | .database ⟨true, _⟩ =>
    if !d.opening.allowsLog then throw .unopenable
    else
      match d.companion .log with
      | .unreachable => throw .unopenable
      | .missing => set { d.withCompanion .log .empty with isLogOpen := true }
      | _ => set { d with isLogOpen := true }
  | _ => return

/-- Opens the index that is shared, and makes it anew. A folder in its place serves for reading. An
index that cannot be made anew does not go with a log that is a database itself. -/
def openIndex : Use Obstacle Unit := do
  let d ← get
  match d.companion .index, d.opening.onlyReadsIndex with
  | .missing, true => do
    set { d with isIndexFixed := true }
    throw .unopenable
  | _, true | .folder, false => do
    set { d with isIndexFixed := true }
    if (d.companion .log).isDatabase then throw .locked
  | .unreachable, false => throw .unopenable
  | _, false => set (d.withCompanion .index (.foreign false))

/-- Settles what is left over and opens the log. -/
def settle : Use Obstacle Unit := do
  takeLock
  if !(← get).isLogOpen then
    settleJournal
    settleLog
  if !(← get).isLogOpen then startLog
  let d ← get
  if d.isLogOpen && d.opening.sharesIndex then openIndex

/-- Begins a use. Nothing is looked for beside a file that nobody changes. -/
def begin : Use Obstacle Unit := do
  if !(← get).opening.isFrozen then settle
  match (← get).content with
  | .foreign _ => throw .noDatabase
  | _ => return

/-! ### Writing -/

/-- Makes the journal that a change needs, which is gone after the change. -/
def keepJournal : Use Obstacle Unit := do
  let d ← get
  match d.companion .journal with
  | .folder | .unreachable => throw .unopenable
  | _ => set (d.withCompanion .journal .missing)

/-- Replaces the file. -/
def replace (e : FileEntry) : Use Obstacle Unit := do
  begin
  let d ← get
  if d.isReadOnly || d.opening.isFrozen || d.isIndexFixed then throw .readOnly
  if !d.isLogOpen then keepJournal
  if d.content.isSink then throw .unreadable
  modify (·.withContent e)

/-- A database that keeps a log from now on. -/
def logged : FileEntry → FileEntry
  | .database a => .database { a with isLogged := true }
  | _ => .database ⟨true, none⟩

/-- Has the database keep a log, if that can be. -/
def adoptLog : Use Obstacle Unit := do
  begin
  let d ← get
  if d.opening.allowsLog && !d.opening.isFrozen && !d.isLogOpen then replace (logged d.content)

/-! ### Tables -/

/-- A database with tables. -/
def filled (tables : Store) : FileEntry → FileEntry
  | .database a => .database { a with tables := some tables }
  | _ => .database ⟨false, some tables⟩

/-- Makes the tables where there are none. -/
def makeTables : Use Obstacle Unit := do
  begin
  match (← get).content with
  | .database ⟨_, some _⟩ => return
  | e => replace (filled .empty e)

/-- A use whose obstacles are faults of the database. -/
def answering {α : Type} (use : Use Obstacle α) : Use StoreFault α :=
  use.adaptExcept fun _ => .database .unknown

/-- Brings the tables up to date: there is one version of them. -/
def migrate : Use StoreFault Unit := do
  answering adoptLog
  makeTables.adaptExcept .migration

/-- Reads the tables. -/
def tables : Use StoreFault Store := answering do
  begin
  match (← get).content with
  | .database ⟨_, some tables⟩ => return tables
  | _ => throw .noTables

/-- Writes the tables. -/
def putTables (tables : Store) : Use StoreFault Unit := answering do
  replace (filled tables (← get).content)

/-! ### Closing -/

/-- The database after it is closed. What is in the log goes into the file, and log and index are
taken away, unless they can only be read. -/
def close (d : OpenDatabase) : OpenDatabase :=
  if !d.isLogOpen || d.isReadOnly || d.isIndexFixed then d
  else
    let d := d.withCompanion .log .missing
    if d.opening.sharesIndex then d.withCompanion .index .missing else d

end OpenDatabase

end Chancery.CommandLine
