import Chancery.Assignment

/-!
# Dashboard summaries

A summary belongs to one role and fills only that role's numbers; the others stay absent, and
absent numbers are left out when a summary is sent.

The size of the database is shown to administrators in the unit in which it stays below ten
thousand and some: bytes below 10240, then kilobytes and so on up to petabytes, each step dividing
by 1024 and rounding half up.
-/

namespace Chancery

/-- A summary of the office for one role. -/
structure DashboardStats where
  role : Role
  myAssignmentsNew : Option Int
  myAssignmentsInProgress : Option Int
  myAssignmentsOverdue : Option Int
  myAssignmentsFinished : Option Int
  myAssignmentsFinishedLate : Option Int
  incomingCount : Option Int
  outgoingCount : Option Int
  allAssignmentsOverdue : Option Int
  allAssignmentsFinished : Option Int
  allAssignmentsFinishedLate : Option Int
  userCount : Option Int
  totalDocuments : Option Int
  dbSize : Option String
  expiringAssignments : List Assignment
  deriving DecidableEq

/-- The summary for a role with no number filled in. -/
def DashboardStats.forRole (role : Role) : DashboardStats :=
  { role
    myAssignmentsNew := none
    myAssignmentsInProgress := none
    myAssignmentsOverdue := none
    myAssignmentsFinished := none
    myAssignmentsFinishedLate := none
    incomingCount := none
    outgoingCount := none
    allAssignmentsOverdue := none
    allAssignmentsFinished := none
    allAssignmentsFinishedLate := none
    userCount := none
    totalDocuments := none
    dbSize := none
    expiringAssignments := [] }

namespace ByteSize

/-- The units above the byte, smallest first. -/
def units : List String := ["kB", "MB", "GB", "TB", "PB"]

/-- Sizes from this one up are shown in a larger unit. -/
def limit : Nat := 10 * 1024

/-- Finds the unit for a size given in the unit before the listed ones. -/
def scale (size : Int) : List String → String
  | [] => toString size
  | [unit] => toString (Int.tdiv (size + 512) 1024) ++ " " ++ unit
  | unit :: rest =>
    let size := Int.tdiv (size + 512) 1024
    if size.natAbs < limit then toString size ++ " " ++ unit else scale size rest

/-- A number of bytes as text. -/
def pretty (bytes : Int) : String :=
  if bytes.natAbs < limit then toString bytes ++ " bytes" else scale bytes units

end ByteSize

end Chancery
