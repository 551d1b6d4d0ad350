/-!
# Settings

What an installation can set: where the database is, how the office pages its journal and how far
ahead it looks for deadlines, and how much is logged. Every setting has a default, and a settings
file names only those that differ.

## Main definitions

* `Settings` and its three sections
* `WorkflowSettings.normalizePaging`
-/

namespace Chancery

/-- Where the database is. -/
structure DatabaseSettings where
  url : String
  /-- The number of connections to keep open. -/
  poolSize : Nat
  /-- The schema to work in, for databases that have schemas. -/
  schema : Option String
  deriving DecidableEq

/-- What the office consults when it answers requests. -/
structure WorkflowSettings where
  defaultPageSize : Int
  maxPageSize : Int
  /-- How many days ahead an executor's list of expiring work looks. -/
  executorExpiringDays : Int
  /-- How many days ahead the list of all expiring work looks. -/
  clerkExpiringDays : Int
  deriving DecidableEq

/-- How much is logged. -/
structure LoggingSettings where
  level : String
  deriving DecidableEq

/-- All settings. -/
structure Settings where
  database : DatabaseSettings
  workflow : WorkflowSettings
  logging : LoggingSettings
  deriving DecidableEq

/-- The database settings of an installation that sets none. -/
def DatabaseSettings.initial : DatabaseSettings :=
  { url := "sqlite://docflow.db", poolSize := 1, schema := none }

/-- The workflow settings of an installation that sets none. -/
def WorkflowSettings.initial : WorkflowSettings :=
  { defaultPageSize := 20, maxPageSize := 100, executorExpiringDays := 3, clerkExpiringDays := 7 }

/-- The logging settings of an installation that sets none. -/
def LoggingSettings.initial : LoggingSettings := { level := "info" }

/-- The settings of an installation that sets none. -/
def Settings.initial : Settings := ⟨.initial, .initial, .initial⟩

instance : Inhabited Settings := ⟨.initial⟩

/-- The page and page size that are used for those a caller asks for: pages start at one, a size
that is missing or not positive becomes the default, and no size exceeds the largest. -/
def WorkflowSettings.normalizePaging (w : WorkflowSettings) (page pageSize : Option Int) :
    Int × Int :=
  ((page.filter (1 ≤ ·)).getD 1,
    min ((pageSize.filter (1 ≤ ·)).getD w.defaultPageSize) w.maxPageSize)

end Chancery
