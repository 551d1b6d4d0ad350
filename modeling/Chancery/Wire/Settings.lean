import Chancery.Settings
import Chancery.Wire

/-!
# The form of settings

Settings have the same form in a settings file and in messages: one record per section, in which
everything has a default. In an array form, too, whatever is not listed has its default. A file
may list more than there are settings; a message may not, which is the one difference and the
parameter `surplus` of the readers.
-/

namespace Chancery

open Wire

/-- Reads a setting that has a default by a reader of forms. -/
def settingBy {α : Type} (read : Json → Option α) (name : String) (default : α) : Fields α :=
  fieldBy read name (some default) (some default)

namespace DatabaseSettings

/-- Reads a number of connections, a 32-bit word. -/
def decodePoolSize? : Json → Option Nat
  | .int n => if 0 ≤ n ∧ n ≤ 4294967295 then some n.toNat else none
  | _ => none

/-- The form of the section; an absent schema is left out. -/
def encode (d : DatabaseSettings) : Json :=
  .obj ([("url", Wire.encode d.url), ("pool_size", .int d.poolSize)]
    ++ match d.schema with
      | some name => [("schema", Wire.encode name)]
      | none => [])

/-- Reads the section. -/
def decode? (surplus : Bool) : Json → Option DatabaseSettings :=
  recordWith? surplus do
    return {
      url := ← defaulted "url" initial.url
      poolSize := ← settingBy decodePoolSize? "pool_size" initial.poolSize
      schema := ← defaulted "schema" initial.schema }

end DatabaseSettings

namespace WorkflowSettings

/-- The form of the section. -/
def encode (w : WorkflowSettings) : Json :=
  .obj [
    ("default_page_size", Wire.encode w.defaultPageSize),
    ("max_page_size", Wire.encode w.maxPageSize),
    ("executor_expiring_days", Wire.encode w.executorExpiringDays),
    ("clerk_expiring_days", Wire.encode w.clerkExpiringDays)]

/-- Reads the section. -/
def decode? (surplus : Bool) : Json → Option WorkflowSettings :=
  recordWith? surplus do
    return {
      defaultPageSize := ← defaulted "default_page_size" initial.defaultPageSize
      maxPageSize := ← defaulted "max_page_size" initial.maxPageSize
      executorExpiringDays := ← defaulted "executor_expiring_days" initial.executorExpiringDays
      clerkExpiringDays := ← defaulted "clerk_expiring_days" initial.clerkExpiringDays }

end WorkflowSettings

namespace LoggingSettings

/-- The form of the section. -/
def encode (l : LoggingSettings) : Json := .obj [("level", Wire.encode l.level)]

/-- Reads the section. -/
def decode? (surplus : Bool) : Json → Option LoggingSettings :=
  recordWith? surplus do
    return { level := ← defaulted "level" initial.level }

end LoggingSettings

namespace Settings

/-- The form of all settings. -/
def encode (s : Settings) : Json :=
  .obj [
    ("database", s.database.encode),
    ("workflow", s.workflow.encode),
    ("logging", s.logging.encode)]

/-- Reads all settings. -/
def decode? (surplus : Bool) : Json → Option Settings :=
  recordWith? surplus do
    return {
      database := ← settingBy (DatabaseSettings.decode? surplus) "database" .initial
      workflow := ← settingBy (WorkflowSettings.decode? surplus) "workflow" .initial
      logging := ← settingBy (LoggingSettings.decode? surplus) "logging" .initial }

end Settings

end Chancery
