import Chancery.Settings.Database
import Chancery.Text.Quoted

/-!
# Validation of settings

Each section is checked by itself and reports its first problem. The sections' problems are
reported together: one alone as it is, several as a list. In a list every value is quoted, since
commas and braces inside it would otherwise read as part of the list.

## Main definitions

* `DatabaseSettings.problem?`, `WorkflowSettings.problem?`, `LoggingSettings.problem?`
* `Settings.problems`, `Settings.validate`
-/

namespace Chancery

/-- A problem of one section. -/
inductive SettingsProblem where
  | databaseUrl (url : String) (reason : ConnectError)
  | poolSize (size : Nat)
  | schema (reason : SchemaNameError)
  | logLevel (level : String)
  | maxPageSize (size : Int)
  | defaultPageSize (size maxSize : Int)
  /-- A horizon that is negative or longer than a year, with the role whose list it bounds. -/
  | horizon (role : String) (days : Int)
  deriving DecidableEq, Repr

/-- Why settings are refused. -/
inductive InvalidSettings where
  | single (problem : SettingsProblem)
  | multiple (problems : List SettingsProblem)
  deriving DecidableEq, Repr

/-! ### Checks -/

/-- The largest number of connections. -/
def DatabaseSettings.maxPoolSize : Nat := 100

/-- The first problem of the database section. -/
def DatabaseSettings.problem? (d : DatabaseSettings) : Option SettingsProblem :=
  match Backend.ofUrl d.url with
  | .error e => some (.databaseUrl d.url e)
  | .ok _ =>
    if d.poolSize = 0 ∨ maxPoolSize < d.poolSize then some (.poolSize d.poolSize)
    else
      match d.schema.map SchemaName.check with
      | some (.error e) => some (.schema e)
      | _ => none

/-- Whether a list of expiring work may look so many days ahead. -/
def WorkflowSettings.isHorizon (days : Int) : Bool := 0 ≤ days && days ≤ 366

/-- The first problem of the workflow section. -/
def WorkflowSettings.problem? (w : WorkflowSettings) : Option SettingsProblem :=
  if w.maxPageSize < 1 then some (.maxPageSize w.maxPageSize)
  else if w.defaultPageSize < 1 ∨ w.maxPageSize < w.defaultPageSize then
    some (.defaultPageSize w.defaultPageSize w.maxPageSize)
  else if !isHorizon w.executorExpiringDays then
    some (.horizon "executor" w.executorExpiringDays)
  else if !isHorizon w.clerkExpiringDays then some (.horizon "clerk" w.clerkExpiringDays)
  else none

/-- The names of the log levels. -/
def LoggingSettings.levels : List String := ["error", "warn", "info", "debug", "trace"]

/-- Whether a text names a log level, in any case of ASCII letters. -/
def LoggingSettings.isLevel (text : String) : Bool :=
  levels.contains (String.ofList (text.toList.map Char.toLower))

/-- The first problem of the logging section. -/
def LoggingSettings.problem? (l : LoggingSettings) : Option SettingsProblem :=
  if isLevel l.level then none else some (.logLevel l.level)

/-- The problems of the sections, in the order of the sections. -/
def Settings.problems (s : Settings) : List SettingsProblem :=
  [s.database.problem?, s.workflow.problem?, s.logging.problem?].filterMap fun p => p

/-- Refuses settings with problems. -/
def Settings.validate (s : Settings) : Except InvalidSettings Unit :=
  match s.problems with
  | [] => .ok ()
  | [p] => .error (.single p)
  | ps => .error (.multiple ps)

/-! ### Wording -/

/-- What is wrong with a page size. -/
def pageSizeMessage : SettingsProblem → String
  | .maxPageSize size => "max_page_size " ++ toString size ++ " must be positive"
  | .defaultPageSize size maxSize =>
    "default_page_size " ++ toString size ++ " must be between 1 and max_page_size "
      ++ toString maxSize
  | _ => ""

/-- The wording of a problem. -/
def SettingsProblem.message : SettingsProblem → String
  | .databaseUrl url reason => "Invalid database URL " ++ url ++ ": " ++ reason.message
  | .poolSize size => "Invalid pool size: " ++ toString size ++ " (must be between 1 and 100)"
  | .schema reason => "Invalid schema name: " ++ reason.message
  | .logLevel level =>
    "Invalid log level: " ++ level ++ " (must be one of: "
      ++ ", ".intercalate LoggingSettings.levels ++ ")"
  | p@(.maxPageSize _) | p@(.defaultPageSize ..) => "Invalid page size: " ++ pageSizeMessage p
  | .horizon role days =>
    "Invalid expiry horizon for " ++ role ++ ": " ++ toString days
      ++ " (must be between 0 and 366 days)"

/-- The name of a kind of problem. -/
def SettingsProblem.name : SettingsProblem → String
  | .databaseUrl .. => "InvalidDatabaseUrl"
  | .poolSize _ => "InvalidPoolSize"
  | .schema _ => "InvalidSchema"
  | .logLevel _ => "InvalidLogLevel"
  | .maxPageSize _ | .defaultPageSize .. => "InvalidPageSize"
  | .horizon .. => "InvalidHorizon"

/-- Named values in braces. -/
def listedFields (name : String) (fields : List (String × String)) : String :=
  name ++ " \x7b " ++ ", ".intercalate (fields.map fun (n, v) => n ++ ": " ++ v) ++ " \x7d"

/-- A problem as it stands in a list, with its values quoted. -/
def SettingsProblem.listed (p : SettingsProblem) : String :=
  match p with
  | .databaseUrl url reason =>
    listedFields p.name [("url", Text.quoted url), ("reason", Text.quoted reason.message)]
  | .poolSize size => listedFields p.name [("size", toString size)]
  | .schema reason => p.name ++ "(" ++ Text.quoted reason.message ++ ")"
  | .logLevel level => listedFields p.name [("level", Text.quoted level)]
  | .maxPageSize _ | .defaultPageSize .. =>
    listedFields p.name [("message", Text.quoted (pageSizeMessage p))]
  | .horizon role days =>
    listedFields p.name [("role", Text.quoted role), ("days", toString days)]

/-- The wording of refused settings. -/
def InvalidSettings.message : InvalidSettings → String
  | .single p => p.message
  | .multiple ps =>
    "Multiple validation errors: [" ++ ", ".intercalate (ps.map SettingsProblem.listed) ++ "]"

end Chancery
