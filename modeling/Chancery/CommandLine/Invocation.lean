import Chancery.CommandLine.Arguments
import Chancery.Request
import Chancery.Settings.Environment

/-!
# Invocations

An invocation is what the options of a command mean together. It says which database and settings
are meant, and carries one instruction with all its texts; the texts are not looked at yet.

A variable names the database where no option does. It is asked for on every level of the command
line that does not have the option, even if another level has it, and what it is set to has to be a
text then.

## Main definitions

* `Instruction`, `Invocation`
* `Invocation.ofGiven` — the meaning of a path of commands with options
-/

namespace Chancery.CommandLine

/-- What a command is to do. -/
inductive Instruction where
  | migrate
  | addUser (login fullName roles : String)
  | addDocument (kind number subject : String)
  | stats (login : String) (request : Request.Summary)
  | pending (login : String)

/-- An instruction and where it applies. -/
structure Invocation where
  databaseUrl : Option String
  configPath : Option String
  isVerbose : Bool
  instruction : Instruction

/-- The value of an option, the innermost if there are several. -/
def Given.value? (given : Given) (f : Flag) : Option String := given.lookup f.long

/-- The value of an option that has to be given, or its default. -/
def Given.value (given : Given) (name : String) (flags : List Flag) : Except UsageError String :=
  match (given.lookup name).or ((flags.find? (·.long = name)).bind (·.default)) with
  | some value => .ok value
  | none => .error (.missingOption name)

/-- A named window excludes a window given by its dates. -/
def checkWindow (given : Given) : Except UsageError Unit :=
  match (given.lookup "period").isSome, given.lookup "start", given.lookup "end" with
  | true, some _, _ => .error (.conflict "period" "start")
  | true, none, some _ => .error (.conflict "period" "end")
  | _, _, _ => .ok ()

/-- The instruction of a command, reached by the names after the program's. -/
def Instruction.ofGiven (names : List String) (given : Given) : Except UsageError Instruction :=
  match names with
  | ["migrate"] => .ok .migrate
  | ["directory", "add-user"] => do
    let value := fun name => given.value name Command.addUser.flags
    return .addUser (← value "login") (← value "full-name") (← value "roles")
  | ["directory", "add-document"] => do
    let value := fun name => given.value name Command.addDocument.flags
    return .addDocument (← value "kind") (← value "number") (← value "subject")
  | ["dashboard", "stats"] => do
    checkWindow given
    let login ← given.value "login" Command.stats.flags
    return .stats login {
      role := given.lookup "role"
      startDate := given.lookup "start"
      endDate := given.lookup "end"
      period := given.lookup "period" }
  | ["acknowledgments", "pending"] => do
    return .pending (← given.value "login" Command.pending.flags)
  | _ => .error .missingCommand

/-- The variable that names the database where no option does. -/
def databaseVariable : String := "DATABASE_URL"

/-- Whether some level of a command line asks a variable for the database. The option is given at
most once on a level. -/
def asksForDatabase (path : List Command) (given : Given) : Bool :=
  (given.filter (·.1 = Flag.databaseUrl.long)).length < path.length

/-- The meaning of the options of a command. -/
def Invocation.ofGiven (env : Environment) (path : List Command) (given : Given) :
    Except UsageError Invocation := do
  if asksForDatabase path given && !env.IsReadable databaseVariable then throw .notText
  let instruction ← Instruction.ofGiven (path.tail.map (·.name)) given
  return {
    databaseUrl := (given.value? .databaseUrl).or (env.value? databaseVariable)
    configPath := given.value? .config
    isVerbose := (given.value? .verbose).isSome
    instruction }

end Chancery.CommandLine
