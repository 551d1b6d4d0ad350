import Chancery.CommandLine.EnvFile
import Chancery.CommandLine.Help
import Chancery.CommandLine.OpenDatabase
import Chancery.CommandLine.Report
import Chancery.Office.Acknowledgments
import Chancery.Office.Summary
import Chancery.Wire.Records

/-!
# Running commands

One run of the program reads its arguments, loads the settings, opens the database and carries out
one instruction. What can be refused without the database is refused before it is opened: that
part of a run is its plan, and depends on the surroundings alone.

The world is a parameter: the surroundings, what stands at the place of the database and beside it,
the clock and the supply of identifiers. A run answers with what is to be printed and with the
changes of files that it makes. Opening a file that does not exist makes an empty one, even if the
instruction fails afterwards.

## Main definitions

* `Host`, `Response` — what a run meets and what it answers
* `Order.perform` — an order on an open database
* `plan`, `Plan.carryOut`, `run` — the parts of a run and a whole run
-/

namespace Chancery.CommandLine

/-- What a run of the program meets when it opens the database. -/
structure Host where
  /-- The folder that the program works in. -/
  folder : FilePath
  /-- What stands at a path. -/
  found : FilePath → FileEntry
  /-- Whether something stands where a written path leads. -/
  stands : List UInt8 → Bool
  clock : Instant
  identifiers : Nat → Identifier
  storageSize : Option Int

/-- The answer of a run. -/
inductive Response where
  /-- The file that sets variables asks for what cannot be. -/
  | stopped
  | refused (error : UsageError)
  | failed (error : CommandError) (changes : List Change)
  | done (output : String) (changes : List Change)

/-! ### Opening -/

/-- How long the path of a file beside a database can be, in bytes. -/
def longestPath : Nat := 512

/-- How much longer than the path of a database the longest path beside it is. -/
def besideLength : Nat := Companion.journal.ending.utf8ByteSize

/-- Whether a path can be followed: nothing that it comes by may be out of reach, and there has to
be room beside the file. -/
def Host.reaches (host : Host) (written : List UInt8) : Bool :=
  let path := FilePath.ofBytes host.folder written
  path ≠ .root && path.toBytes.length + besideLength ≤ longestPath
    && (FilePath.wayOf host.folder written).all fun p =>
      p.toBytes.length < longestPath && !(host.found p).isUnreachable

/-- Opens a file. The file that gives the pattern has to be there. -/
def Host.openFile? (host : Host) (written : List UInt8) (opening : Opening) :
    Option OpenDatabase :=
  let path := FilePath.ofBytes host.folder written
  let files : Files := ⟨host.found, []⟩
  if !host.reaches written || !opening.pattern.all host.stands then none
  else
    match files.get path with
    | .unreachable | .folder => none
    | .missing =>
      if opening.access = .creating && (host.found path.parent).isFolder then
        some (.ofFile path opening (files.put path .empty))
      else none
    | _ => some (.ofFile path opening files)

/-- Opens the database at a location. -/
def Host.open? (host : Host) (location : Location) : Option OpenDatabase :=
  match location with
  | .memory isWritable => some (.inMemory isWritable)
  | .file written opening => host.openFile? written opening
  | .invalid => none

/-- What a database leaves behind when it is closed. One in memory leaves nothing. -/
def OpenDatabase.changes (d : OpenDatabase) (location : Location) : List Change :=
  match location with
  | .file .. => d.close.files.changes
  | _ => []

/-! ### Instructions -/

/-- The occasion of a run. -/
def Host.occasion (host : Host) (settings : WorkflowSettings) : Occasion :=
  { clock := host.clock, settings, identifiers := host.identifiers,
    storageSize := host.storageSize }

/-- Makes an entry and prints its identifier. -/
def OpenDatabase.enter {α : Type} (entry : Office → Except StoreFault α × Office)
    (id : α → Identifier) : Use StoreFault String := do
  let (result, office) := entry { Office.opened with store := ← tables }
  match result with
  | .error fault => throw fault
  | .ok entered =>
    putTables office.store
    return (id entered).text ++ "\n"

/-- A use that is for a part of a command. -/
def during {α : Type} (task : Task) (use : Use StoreFault α) : Use CommandError α :=
  use.adaptExcept (.store task)

/-- The user that a command acts for. -/
def findUser (login : String) : Use CommandError User := do
  match (← during .userSearch OpenDatabase.tables).userByLogin? login with
  | .error fault => throw (.store .userSearch fault)
  | .ok none => throw (.unknownLogin login)
  | .ok (some user) => return user

/-- Prints what a user may see. -/
def showTo {α : Type} [Wire α] (login : String) (task : Task)
    (view : Actor → Office → Except Failure α) : Use CommandError String := do
  let user ← findUser login
  let store ← during task OpenDatabase.tables
  match view user.actor { Office.opened with store } with
  | .ok shown => return (Wire.encode shown).pretty ++ "\n"
  | .error failure => throw (.refused task failure)

/-- An instruction whose texts have been looked at. -/
inductive Order where
  | migrate
  | addUser (new : NewUser)
  | addDocument (new : NewDocument)
  | stats (login : String) (request : Request.Summary)
  | pending (login : String)

/-- Looks at the texts that can be refused without the database. -/
def Instruction.order : Instruction → Except CommandError Order
  | .migrate => .ok .migrate
  | .addUser login fullName roles =>
    let roles := RoleSet.parse roles
    if roles.toList.isEmpty then .error .noRole else .ok (.addUser { login, fullName, roles })
  | .addDocument kind number subject =>
    match DocumentKind.ofName? kind with
    | some kind => .ok (.addDocument { kind, number, subject, createdAt := none })
    | none => .error (.unknownKind kind)
  | .stats login request => .ok (.stats login request)
  | .pending login => .ok (.pending login)

/-- The part of an order that opening the database is for. -/
def Order.task : Order → Task
  | .migrate => .migration
  | .addUser _ => .userEntry
  | .addDocument _ => .documentEntry
  | .stats .. | .pending _ => .userSearch

/-- Carries out an order on an open database and tells what is printed. -/
def Order.perform (o : Occasion) (order : Order) : Use CommandError String :=
  match order with
  | .migrate => during order.task do
    OpenDatabase.migrate
    return ""
  | .addUser new => during order.task (OpenDatabase.enter (Office.enterUser o new) (·.id))
  | .addDocument new => during order.task (OpenDatabase.enter (Office.enterDocument o new) (·.id))
  | .stats login request =>
    showTo login .summary fun actor office => office.summary o (some actor) request
  | .pending login =>
    showTo login .pendingList fun actor office => office.pendingAcknowledgments (some actor) none

/-! ### Runs -/

/-- The settings of a run: those of the settings file, with the database that was named instead. -/
def Invocation.settings (i : Invocation) (w : Surroundings) : Except CommandError Settings :=
  match Settings.loadOrInitial w (searchPaths w.value?) i.configPath with
  | .error reason => .error (.settings reason)
  | .ok s =>
    .ok (match i.databaseUrl with
      | some url => { s with database := { s.database with url } }
      | none => s)

/-- Prepares an order and the place of its database. -/
def Invocation.prepare (i : Invocation) (w : Surroundings) :
    Except CommandError (Order × Settings × Location) := do
  let settings ← i.settings w
  let order ← i.instruction.order
  match settings.database.connect with
  | .ok _ => return (order, settings, .ofUrl settings.database.url)
  | .error reason => throw (.connection settings.database.url reason)

/-- The file that sets variables for a run. -/
def envFilePath : String := ".env"

/-- The surroundings with the variables of the file for them, if they can be set. -/
def withEnvFile? (w : Surroundings) : Option Surroundings :=
  match if w.isFile envFilePath then w.read? envFilePath else none with
  | some bytes => do return { w with env := ← EnvFile.withText? w.env (EnvFile.leadingText bytes) }
  | none => some w

/-- What is settled before the database is opened. -/
inductive Plan where
  /-- A run that needs no database. -/
  | settled (response : Response)
  | work (order : Order) (settings : WorkflowSettings) (location : Location)

/-- The location of the database that a plan opens. -/
def Plan.location : Plan → Location
  | .settled _ => .invalid
  | .work _ _ location => location

/-- The plan of an invocation. -/
def Invocation.plan (i : Invocation) (w : Surroundings) : Plan :=
  match i.prepare w with
  | .ok (order, settings, location) => .work order settings.workflow location
  | .error e => .settled (.failed e [])

/-- The plan for what a command line asks for. -/
def planOf (w : Surroundings) (asked : Except UsageError Asked) : Plan :=
  match asked with
  | .error e => .settled (.refused e)
  | .ok (.help path) => .settled (.done (helpText w.value? path) [])
  | .ok (.helpOnHelp path) => .settled (.done (helpOnHelpText w.value? path) [])
  | .ok .version => .settled (.done versionText [])
  | .ok (.run path given) =>
    match Invocation.ofGiven w.env path given with
    | .error e => .settled (.refused e)
    | .ok i => i.plan w

/-- The plan of a command line. The file that sets variables comes first. -/
def plan (w : Surroundings) (arguments : List String) : Plan :=
  match withEnvFile? w with
  | some w => planOf w (Asked.ofArguments arguments)
  | none => .settled .stopped

/-- Carries out a plan. -/
def Plan.carryOut (host : Host) : Plan → Response
  | .settled response => response
  | .work order settings location =>
    match host.open? location with
    | none => .failed (.store order.task .connectionPool) []
    | some d =>
      match order.perform (host.occasion settings) d with
      | .ok output d => .done output (d.changes location)
      | .error e d => .failed e (d.changes location)

/-- Runs the program. -/
def run (w : Surroundings) (host : Host) (arguments : List String) : Response :=
  (plan w arguments).carryOut host

/-- The files that a run may look into before it opens the database. The variables are those of
the file for them too. -/
def consultedPaths (w : Surroundings) (arguments : List String) : List String :=
  let env := ((withEnvFile? w).getD w).value?
  let given := match Asked.ofArguments arguments with
    | .ok (.run _ given) => given.value? .config
    | _ => none
  given.toList ++ (env pathVariable).toList ++ searchPaths env

/-- The paths that opening and using the database at a location may look at, where the program
works in a folder. -/
def databasePaths (folder : FilePath) : Location → List FilePath
  | .file written _ =>
    let path := FilePath.ofBytes folder written
    [path, path.parent] ++ FilePath.wayOf folder written
      ++ [Companion.journal, .log, .index, .lock].map (path.beside ·.ending)
  | _ => []

end Chancery.CommandLine
