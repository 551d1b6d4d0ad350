import Chancery.Settings

/-!
# Database addresses

An address names a kind of database by how it begins or ends. Only the file database is built in;
an address of the server database is recognised and refused as such, which is a more useful answer
than calling it unknown.

Databases with schemas splice the schema's name into a statement, so a name has to be an
identifier that needs no quoting, and must not be one of the server's own schemas. The name is
checked whatever the database is.

## Main definitions

* `Backend.ofUrl` — the kind of database of an address
* `SchemaName.check` — whether a schema name is usable
* `DatabaseSettings.connect` — what opening a database starts with
-/

namespace Chancery

/-- A kind of database that is built in. -/
inductive Backend where
  | sqlite
  deriving DecidableEq, Repr

/-- Why a schema name is refused. -/
inductive SchemaNameError where
  | length (name : String)
  | start (name : String)
  | characters (name : String)
  | reserved (name : String)
  deriving DecidableEq, Repr

/-- Why a database cannot be opened. -/
inductive ConnectError where
  | unknownBackend (url : String)
  | backendDisabled (name : String)
  | schema (error : SchemaNameError)
  deriving DecidableEq, Repr

namespace SchemaName

/-- The longest schema name, in bytes. -/
def maxLength : Nat := 63

/-- The schemas that belong to the server. -/
def reserved : List String := ["public", "pg_catalog", "information_schema", "pg_temp"]

/-- Whether a character may begin a schema name. -/
def isStart (c : Char) : Bool := c.isAlpha || c = '_'

/-- Whether a character may stand in a schema name. -/
def isPart (c : Char) : Bool := c.isAlphanum || c = '_'

/-- Checks a schema name: its length, how it begins, its characters, and that the server does not
use it in any case of letters. -/
def check (name : String) : Except SchemaNameError Unit :=
  if name.isEmpty || maxLength < name.utf8ByteSize then .error (.length name)
  else if !name.toList.head?.any isStart then .error (.start name)
  else if !name.toList.all isPart then .error (.characters name)
  else if reserved.contains name.toLower then .error (.reserved name)
  else .ok ()

end SchemaName

/-- The wording of a refused schema name. -/
def SchemaNameError.message : SchemaNameError → String
  | .length name =>
    "Schema name length invalid: '" ++ name ++ "' (must be 1-" ++ toString SchemaName.maxLength
      ++ " characters)"
  | .start name => "Schema name must start with a letter or underscore: '" ++ name ++ "'"
  | .characters name =>
    "Schema name contains invalid characters (only alphanumeric and underscore allowed): '"
      ++ name ++ "'"
  | .reserved name => "Schema name is reserved: '" ++ name ++ "'"

/-- The wording of a database that cannot be opened. -/
def ConnectError.message : ConnectError → String
  | .unknownBackend url =>
    "Unable to detect database backend from URL '" ++ url
      ++ "'. Expected postgres://, postgresql://, sqlite://, or a file path."
  | .backendDisabled name => "The " ++ name ++ " backend is not enabled in this build"
  | .schema error => error.message

namespace Backend

/-- The name of a kind of database. -/
def name : Backend → String
  | .sqlite => "sqlite"

/-- How addresses of the server database begin. -/
def serverStarts : List String := ["postgres://", "postgresql://"]

/-- How addresses of the file database may begin. -/
def fileStarts : List String := ["sqlite://", "file:", "/", "./", "../"]

/-- How addresses of the file database may end. -/
def fileEnds : List String := [".db", ".sqlite", ".sqlite3"]

/-- Whether a text begins with another. -/
def beginsWith (url start : String) : Bool := start.toList.isPrefixOf url.toList

/-- Whether a text ends with another. -/
def endsIn (url finish : String) : Bool := finish.toList.isSuffixOf url.toList

/-- The kind of database of an address. -/
def ofUrl (url : String) : Except ConnectError Backend :=
  if serverStarts.any (beginsWith url) then .error (.backendDisabled "postgres")
  else if fileStarts.any (beginsWith url) || url = ":memory:" || fileEnds.any (endsIn url) then
    .ok .sqlite
  else .error (.unknownBackend url)

end Backend

/-- A database that is about to be used: nothing has been touched yet. -/
structure Connection where
  backend : Backend
  schema : Option String
  deriving DecidableEq

/-- Prepares to use the database of the settings: the address first, then the schema. -/
def DatabaseSettings.connect (d : DatabaseSettings) : Except ConnectError Connection := do
  let backend ← Backend.ofUrl d.url
  match d.schema with
  | none => return ⟨backend, none⟩
  | some name =>
    match SchemaName.check name with
    | .ok () => return ⟨backend, some name⟩
    | .error e => throw (.schema e)

end Chancery
