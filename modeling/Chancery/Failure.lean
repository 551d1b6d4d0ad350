import Chancery.Assignment

/-!
# Failures

Two layers can refuse a request. The store refuses a row that breaks a constraint, a query that it
cannot evaluate, and a stored value that does not read back. The office refuses callers, texts and
references, and passes a refusal of the store on together with the step that met it.

A failure is its cause. The wording is in one function per layer.
-/

namespace Chancery

/-- The constraint or limit that a statement ran into. -/
inductive DatabaseFault where
  | uniqueViolation
  | foreignKeyViolation
  | checkViolation
  /-- A record is gone that was written in the same step. -/
  | notFound
  /-- A failure with no class of its own, such as a search pattern that is too long. -/
  | unknown
  deriving DecidableEq, Repr

/-- What keeps a database from being used. -/
inductive Obstacle where
  | readOnly
  /-- A file beside it can neither be opened nor made. -/
  | unopenable
  /-- A file of it cannot be read, written or taken away. -/
  | unreadable
  | locked
  | noDatabase
  | noTables
  deriving DecidableEq, Repr

/-- The wording of an obstacle. -/
def Obstacle.message : Obstacle → String
  | .readOnly => "attempt to write a readonly database"
  | .unopenable => "unable to open database file"
  | .unreadable => "disk I/O error"
  | .locked => "database is locked"
  | .noDatabase => "file is not a database"
  | .noTables => "no such table"

/-- Why the store refuses. -/
inductive StoreFault where
  | database (fault : DatabaseFault)
  /-- A stored text that does not read back as a value of its field. -/
  | corruptValue (field value : String)
  /-- The tables are missing and cannot be made. -/
  | migration (obstacle : Obstacle)
  /-- The database cannot be reached. -/
  | connectionPool
  deriving DecidableEq, Repr

/-- The wording of a refusal by the store, up to the part that the database words itself. -/
def StoreFault.message : StoreFault → String
  | .database _ => "Database error"
  | .corruptValue field value => "Corrupt stored value in " ++ field ++ ": '" ++ value ++ "'"
  | .migration obstacle => "Migration failed: " ++ obstacle.message
  | .connectionPool => "Connection pool error"

/-- Why the office refuses. -/
inductive Failure where
  | unauthenticated
  | forbidden (reason : String)
  | notFound (what : String)
  | invalidReference (reason : String)
  | invalidState (reason : String)
  | emptyRecipients
  | validation (reason : String)
  | storage (operation : String) (fault : StoreFault)
  deriving DecidableEq, Repr

/-- The wording of a refusal by the office. The store's own words are not repeated. -/
def Failure.message : Failure → String
  | .unauthenticated => "authentication required"
  | .forbidden reason => "forbidden: " ++ reason
  | .notFound what => what ++ " not found"
  | .invalidReference reason => "invalid reference: " ++ reason
  | .invalidState reason => "invalid state: " ++ reason
  | .emptyRecipients => "no valid recipients selected"
  | .validation reason => "validation failed: " ++ reason
  | .storage operation _ => "storage failure during " ++ operation

end Chancery
