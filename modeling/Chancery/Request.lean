/-!
# Requests

What callers send, before anything in it was read. Identifiers, dates, kinds and statuses are
texts here: a text that does not read is answered with a refusal that quotes it, so it has to
arrive unread.
-/

namespace Chancery.Request

/-- Asks for a new assignment. -/
structure CreateAssignment where
  documentId : String
  documentKind : String
  executorId : String
  content : String
  /-- Blank counts as no deadline. -/
  deadline : Option String
  coExecutorIds : List String
  deriving DecidableEq

/-- Asks for new details of an assignment. -/
structure UpdateAssignment where
  id : String
  executorId : String
  content : String
  /-- Blank counts as no deadline. -/
  deadline : Option String
  coExecutorIds : List String
  deriving DecidableEq

/-- Asks to move an assignment to a status. -/
structure MoveAssignment where
  id : String
  status : String
  /-- Replaces the stored report when present. -/
  report : Option String
  deriving DecidableEq

/-- Asks for a page of the journal. Every filter may be left out. -/
structure ListAssignments where
  search : Option String
  documentId : Option String
  /-- Matches the executor and the co-executors. -/
  executorId : Option String
  status : Option String
  deadlineFrom : Option String
  deadlineTo : Option String
  overdueOnly : Bool
  showFinished : Bool
  page : Option Int
  pageSize : Option Int
  deriving DecidableEq

/-- Asks users to acknowledge a document. -/
structure CreateAcknowledgment where
  documentId : String
  documentKind : String
  content : String
  recipientIds : List String
  deriving DecidableEq

/-- Asks for a dashboard summary. A period takes precedence over dates. -/
structure Summary where
  role : Option String
  startDate : Option String
  endDate : Option String
  period : Option String
  deriving DecidableEq

end Chancery.Request
