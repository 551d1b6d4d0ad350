import Chancery.Failure
import Chancery.Settings.Lookup

/-!
# Reports of failed commands

A failed command reports a chain of messages: what it was about to do, then the cause, then the
cause of that. A cause that has nothing to add to the message above it is not listed.

## Main definitions

* `Task` — what a command is about when it fails
* `CommandError` and `CommandError.report`
-/

namespace Chancery.CommandLine

/-- A part of a command that can meet a fault. -/
inductive Task where
  | migration
  | userEntry
  | documentEntry
  | userSearch
  | summary
  | pendingList
  deriving DecidableEq, Repr

/-- The wording of a part that failed. -/
def Task.message : Task → String
  | .migration => "Failed to run migrations"
  | .userEntry => "Failed to create user"
  | .documentEntry => "Failed to register document"
  | .userSearch => "Failed to look up user"
  | .summary => "Failed to compute dashboard"
  | .pendingList => "Failed to list pending acknowledgments"

/-- Why a command fails. -/
inductive CommandError where
  | settings (reason : LoadError)
  | noRole
  | unknownKind (name : String)
  | connection (url : String) (reason : ConnectError)
  | store (task : Task) (fault : StoreFault)
  | refused (task : Task) (failure : Failure)
  | unknownLogin (login : String)
  deriving DecidableEq, Repr

/-- The messages of settings that could not be loaded. -/
def settingsReport (reason : LoadError) : List String :=
  reason.message :: match reason with
    | .invalid problems => [problems.message]
    | _ => []

/-- The messages of a refusal by the office. -/
def failureReport (failure : Failure) : List String :=
  failure.message :: match failure with
    | .storage _ fault => [fault.message]
    | _ => []

/-- The messages of a failed command, outermost first. -/
def CommandError.report : CommandError → List String
  | .settings reason => "Failed to load configuration" :: settingsReport reason
  | .noRole => ["At least one role is required (admin, clerk, executor)"]
  | .unknownKind name =>
    ["Unknown document kind '" ++ name ++ "'. Use incoming or outgoing"]
  | .connection url reason => ["Failed to connect to database at " ++ url, reason.message]
  | .store task fault => [task.message, fault.message]
  | .refused task failure => task.message :: failureReport failure
  | .unknownLogin login => ["No user with login '" ++ login ++ "'"]

/-- The messages as one text: the first, then the causes, numbered if there are several. -/
def CommandError.text (e : CommandError) : String :=
  match e.report with
  | [] => ""
  | [message] => "Error: " ++ message ++ "\n"
  | [message, cause] => "Error: " ++ message ++ "\n\nCaused by:\n    " ++ cause ++ "\n"
  | message :: causes =>
    "Error: " ++ message ++ "\n\nCaused by:\n"
      ++ String.join (causes.zipIdx.map fun (cause, i) =>
        "    " ++ toString i ++ ": " ++ cause ++ "\n")

end Chancery.CommandLine
