import Chancery.Settings
import Chancery.Toml.Scalar

/-!
# A sample settings file

Settings written as a document that reads back as them. With the initial settings this is the file
to start an installation from.
-/

namespace Chancery

/-- A text as a TOML string of one line: quotes, backslashes and controls are escaped. -/
def tomlString (s : String) : String :=
  let char := fun (c : Char) =>
    if c = '"' ∨ c = '\\' then ['\\', c]
    else if Toml.isPlain c then [c]
    else '\\' :: 'u' :: Text.fixedDigits 16 4 c.toNat
  String.ofList ('"' :: s.toList.flatMap char ++ ['"'])

/-- A line that sets a key. -/
def settingLine (key value : String) : String := key ++ " = " ++ value ++ "\n"

/-- A section: its header and its lines. -/
def settingSection (name : String) (lines : List String) : String :=
  "[" ++ name ++ "]\n" ++ String.join lines

/-- The document of settings. -/
def Settings.document (s : Settings) : String :=
  "\n".intercalate [
    settingSection "database"
      ([settingLine "url" (tomlString s.database.url),
        settingLine "pool_size" (toString s.database.poolSize)]
        ++ (s.database.schema.map fun name => settingLine "schema" (tomlString name)).toList),
    settingSection "workflow"
      [settingLine "default_page_size" (toString s.workflow.defaultPageSize),
        settingLine "max_page_size" (toString s.workflow.maxPageSize),
        settingLine "executor_expiring_days" (toString s.workflow.executorExpiringDays),
        settingLine "clerk_expiring_days" (toString s.workflow.clerkExpiringDays)],
    settingSection "logging" [settingLine "level" (tomlString s.logging.level)]]

end Chancery
