import Chancery.Document

/-!
# Assignments

An assignment is a piece of work on a document, delegated to one executor and, for information,
to co-executors. It has a status and may have a deadline.

## Lateness

Two questions are asked of an assignment with a deadline. While work is owed, it is *overdue* once
the deadline lies before today. Once completed, it is overdue if the calendar date of the
completion lies after the deadline, whatever today is, and a finished one is *late* by the same
comparison. An assignment without a deadline is never overdue and never late.

## Main definitions

* `Status`, `Status.completionAfter` — the lifecycle and its rule for the completion time
* `Assignment`, `Assignment.involves`, `Assignment.isOverdue`, `Assignment.isFinishedLate`
-/

namespace Chancery

/-- The status of an assignment. -/
inductive Status where
  | new
  | inProgress
  | completed
  | finished
  | returned
  | cancelled
  deriving DecidableEq, Repr

namespace Status

/-- The statuses in their order. -/
def all : List Status := [.new, .inProgress, .completed, .finished, .returned, .cancelled]

/-- The name of a status. -/
def name : Status → String
  | .new => "new"
  | .inProgress => "in_progress"
  | .completed => "completed"
  | .finished => "finished"
  | .returned => "returned"
  | .cancelled => "cancelled"

/-- The status with exactly the given name. -/
def ofName? : String → Option Status
  | "new" => some .new
  | "in_progress" => some .inProgress
  | "completed" => some .completed
  | "finished" => some .finished
  | "returned" => some .returned
  | "cancelled" => some .cancelled
  | _ => none

@[simp] theorem ofName?_name (s : Status) : ofName? s.name = some s := by cases s <;> rfl

/-- Whether the executor still owes work. -/
def isActive : Status → Bool
  | .new | .inProgress => true
  | _ => false

/-- The completion time after a move to a status: entering `completed` records the moment of the
move, entering `finished` keeps what was recorded, and every other move clears it. -/
def completionAfter (target : Status) (recorded : Option Instant) (now : Instant) :
    Option Instant :=
  match target with
  | .completed => some now
  | .finished => recorded
  | _ => none

end Status

/-- A co-executor named on an assignment. -/
structure CoExecutor where
  userId : Identifier
  fullName : Option String
  deriving DecidableEq

/-- A piece of work delegated to a member of the staff. -/
structure Assignment where
  id : Identifier
  document : DocumentRef
  documentNumber : Option String
  documentSubject : Option String
  executorId : Identifier
  executorName : Option String
  coExecutors : List CoExecutor
  content : String
  deadline : Option Date
  status : Status
  report : Option String
  completedAt : Option Instant
  createdAt : Instant
  updatedAt : Instant
  deriving DecidableEq

namespace Assignment

/-- Whether a user is the executor or one of the co-executors. -/
def involves (a : Assignment) (user : Identifier) : Bool :=
  a.executorId = user || a.coExecutors.any fun c => c.userId = user

/-- The recorded completion, or the last update where none was recorded. -/
def effectiveCompletion (a : Assignment) : Instant := a.completedAt.getD a.updatedAt

/-- Whether the assignment counts as overdue on the day `today`. -/
def isOverdue (a : Assignment) (today : Date) : Bool :=
  match a.deadline with
  | none => false
  | some deadline =>
    match a.status with
    | .new | .inProgress => deadline < today
    | .completed => a.completedAt.any fun t => deadline < t.date
    | _ => false

/-- Whether a finished assignment was completed after its deadline. -/
def isFinishedLate (a : Assignment) : Bool :=
  match a.status, a.deadline, a.completedAt with
  | .finished, some deadline, some t => deadline < t.date
  | _, _, _ => false

end Assignment

/-- What is given to create an assignment, after its texts were read. -/
structure NewAssignment where
  document : DocumentRef
  executorId : Identifier
  content : String
  deadline : Option Date
  coExecutorIds : List Identifier

/-- What replaces the details of an assignment. -/
structure AssignmentUpdate where
  executorId : Identifier
  content : String
  deadline : Option Date
  coExecutorIds : List Identifier

end Chancery
