/-!
# The grammar of the command line

The commands form a tree and are kept as a table: what is accepted and what the help text says are
both read off it, so neither can know an option that the other does not.

An option belongs to one command, except for the shared ones, which may be given at every level of
the tree.

## Main definitions

* `Flag`, `Command` — options and commands
* `Command.program` — the tree
* `Command.sharedFlags` — the options of every level
-/

namespace Chancery.CommandLine

/-- An option of a command. -/
structure Flag where
  /-- The name after two hyphens. -/
  long : String
  /-- The letter after one hyphen. -/
  short : Option Char
  /-- What the help text calls the value; an option without one is a switch. -/
  valueName : Option String
  isRequired : Bool
  /-- Whether the value may be the empty text. -/
  mayBeEmpty : Bool
  about : String
  /-- The value of an option that is not given. -/
  default : Option String
  deriving DecidableEq, Repr

namespace Flag

/-- Whether an option takes no value. -/
def isSwitch (f : Flag) : Bool := f.valueName.isNone

/-- An option with a value. -/
def optional (long valueName about : String) : Flag :=
  { long, short := none, valueName := some valueName, isRequired := false, mayBeEmpty := true,
    about, default := none }

/-- An option with a value that has to be given. -/
def required (long valueName about : String) : Flag :=
  { optional long valueName about with isRequired := true }

/-- An option without a value. -/
def switch (short : Char) (long about : String) : Flag :=
  { long, short := some short, valueName := none, isRequired := false, mayBeEmpty := true,
    about, default := none }

/-- The option that names the database. -/
def databaseUrl : Flag :=
  optional "database-url" "DATABASE_URL" "Database URL; overrides the configuration file"

/-- The option that names the settings file. -/
def config : Flag :=
  { optional "config" "CONFIG"
      "Configuration file (defaults to $DOCFLOW_CONFIG or the search path)" with
    short := some 'c'
    mayBeEmpty := false }

/-- The switch for more logging. -/
def verbose : Flag := switch 'v' "verbose" "Enable verbose logging"

/-- The switch that asks for help. -/
def help : Flag := switch 'h' "help" "Print help"

/-- The switch that asks for the version. -/
def version : Flag := switch 'V' "version" "Print version"

end Flag

/-- A command with its options and its subcommands. A command with subcommands does nothing by
itself. -/
structure Command where
  name : String
  about : String
  flags : List Flag
  commands : List Command

namespace Command

/-- The options of every level. -/
def sharedFlags : List Flag := [.databaseUrl, .config, .verbose]

/-- Brings the tables of the database up to date. -/
def migrate : Command := ⟨"migrate", "Apply pending database migrations", [], []⟩

/-- Enters a user. -/
def addUser : Command :=
  ⟨"add-user", "Add a user to the directory",
    [.required "login" "LOGIN" "",
      .required "full-name" "FULL_NAME" "",
      { Flag.optional "roles" "ROLES" "Comma-separated roles: admin, clerk, executor" with
        default := some "executor" }], []⟩

/-- Enters a document. -/
def addDocument : Command :=
  ⟨"add-document", "Register a document",
    [.required "kind" "KIND" "incoming or outgoing",
      .required "number" "NUMBER" "",
      .required "subject" "SUBJECT" ""], []⟩

/-- Entries into the directory. -/
def directory : Command :=
  ⟨"directory", "Register users and documents", [], [addUser, addDocument]⟩

/-- Shows a summary. -/
def stats : Command :=
  ⟨"stats", "Print the dashboard summary for a user as JSON",
    [.required "login" "LOGIN" "Login of the user to act as",
      .optional "role" "ROLE" "Requested dashboard role",
      .optional "start" "START" "Window start (YYYY-MM-DD)",
      .optional "end" "END" "Window end (YYYY-MM-DD)",
      .optional "period" "PERIOD" "Named window ending today: month, quarter or year"], []⟩

/-- Summaries. -/
def dashboard : Command := ⟨"dashboard", "Dashboard summaries", [], [stats]⟩

/-- Shows what a user has still to confirm. -/
def pending : Command :=
  ⟨"pending", "List acknowledgments awaiting a user's confirmation",
    [.required "login" "LOGIN" ""], []⟩

/-- Acknowledgments. -/
def acknowledgments : Command :=
  ⟨"acknowledgments", "Acknowledgment queues", [], [pending]⟩

/-- The whole program. -/
def program : Command :=
  ⟨"docflowctl", "docflow - assignment and acknowledgment workflow engine", [],
    [migrate, directory, dashboard, acknowledgments]⟩

/-- The command that shows the help text of others. -/
def helpName : String := "help"

/-- The version of the program. -/
def version : String := "0.1.0"

/-- The subcommand with a name. -/
def find? (c : Command) (name : String) : Option Command := c.commands.find? (·.name = name)

end Command

end Chancery.CommandLine
