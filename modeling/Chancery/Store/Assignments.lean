import Chancery.Journal
import Chancery.Store.Lateness
import Chancery.Store.Reading
import Chancery.Text.Lowercase
import Chancery.Text.Pattern

/-!
# Assignments in the store

Writing replaces whole fields of one row, found by the canonical text of its identifier, together
with its co-executor rows. Listing is filtering, sorting and cutting out a page, in that order, of
the table of rows; only the rows of the page are read.

A search looks for the lower-cased text anywhere in the content, or in the number or subject that
the register of the row's own kind has for its document. The columns are lowered for ASCII letters
only. A pattern of more than fifty thousand bytes is refused, but only once some row has passed
all other filters, because no pattern is looked at before.

## Main definitions

* `Store.addAssignment`, `Store.updateAssignment`, `Store.setStatus`, `Store.deleteAssignment`
* `Store.assignment?`, `Store.listAssignments`, `Store.expiring`
-/

namespace Chancery.Store

/-! ### Writing -/

/-- The co-executor rows of an assignment. -/
def coExecutorRows (assignmentId : String) (users : List Identifier) : List CoExecutorRow :=
  users.map fun u => ⟨assignmentId, u.text⟩

/-- The row of a new assignment. -/
def assignmentRow (id : Identifier) (now : Instant) (new : NewAssignment) : AssignmentRow :=
  { id := id.text
    documentId := new.document.id.text
    documentKind := new.document.kind.name
    executorId := new.executorId.text
    content := new.content
    deadline := new.deadline
    status := Status.new.name
    report := none
    completedAt := none
    createdAt := now
    updatedAt := now }

/-- Inserts a new assignment with its co-executors. -/
def addAssignment (id : Identifier) (now : Instant) (new : NewAssignment) (s : Store) :
    Except StoreFault Store := do
  let s ← s.insertAssignment (assignmentRow id now new)
  s.insertCoExecutors (coExecutorRows id.text new.coExecutorIds)

/-- Changes the rows with a given identifier text. -/
def mapAssignment (id : String) (f : AssignmentRow → AssignmentRow) (s : Store) : Store :=
  { s with assignments := s.assignments.map fun a => if a.id = id then f a else a }

/-- Removes the co-executors of an assignment. -/
def dropCoExecutors (id : String) (s : Store) : Store :=
  { s with coExecutors := s.coExecutors.filter fun c => c.assignmentId ≠ id }

/-- The row with new details. -/
def AssignmentRow.withDetails (now : Instant) (u : AssignmentUpdate) (a : AssignmentRow) :
    AssignmentRow :=
  { a with executorId := u.executorId.text, content := u.content, deadline := u.deadline,
           updatedAt := now }

/-- Replaces executor, content, deadline and co-executors of an assignment. `false` if there is
none, whatever the replacement says. -/
def updateAssignment (id : Identifier) (now : Instant) (u : AssignmentUpdate) (s : Store) :
    Except StoreFault (Bool × Store) :=
  if !s.hasAssignment id.text then .ok (false, s)
  else if !s.hasUser u.executorId.text then .error (.database .foreignKeyViolation)
  else do
    let s := s.mapAssignment id.text (AssignmentRow.withDetails now u)
    let s ← (s.dropCoExecutors id.text).insertCoExecutors (coExecutorRows id.text u.coExecutorIds)
    return (true, s)

/-- The row in another status. A report is replaced when one is given. -/
def AssignmentRow.moved (now : Instant) (status : Status) (report : Option String)
    (completedAt : Option Instant) (a : AssignmentRow) : AssignmentRow :=
  { a with status := status.name, completedAt, updatedAt := now,
           report := report.orElse fun _ => a.report }

/-- Sets status and completion time of an assignment, and its report when one is given. `false` if
there is none. -/
def setStatus (id : Identifier) (now : Instant) (status : Status) (report : Option String)
    (completedAt : Option Instant) (s : Store) : Bool × Store :=
  (s.hasAssignment id.text,
    s.mapAssignment id.text (AssignmentRow.moved now status report completedAt))

/-- Deletes an assignment with its co-executors. `false` if there is none. -/
def deleteAssignment (id : Identifier) (s : Store) : Bool × Store :=
  (s.hasAssignment id.text,
    { s.dropCoExecutors id.text with
      assignments := s.assignments.filter fun a => a.id ≠ id.text })

/-! ### Reading -/

/-- The assignment with an identifier. -/
def assignment? (s : Store) (id : Identifier) : Except StoreFault (Option Assignment) :=
  (s.loadAssignments (s.assignments.filter fun a => a.id = id.text)).map List.head?

/-- The longest search pattern, in bytes. -/
def patternLimit : Nat := 50000

/-- The pattern that a search text stands for. -/
def searchPattern (search : String) : String := "%" ++ Text.lower search ++ "%"

/-- The texts of a row that a search looks through. -/
def searchedTexts (s : Store) (row : AssignmentRow) : List String :=
  let join := s.joinAssignment row
  row.content :: [join.incomingNumber, join.incomingSubject, join.outgoingNumber,
    join.outgoingSubject].filterMap fun t => t

/-- Whether a row matches a search pattern. -/
def matchesSearch (s : Store) (pattern : String) (row : AssignmentRow) : Bool :=
  (s.searchedTexts row).any fun t =>
    Text.matchesPattern pattern.toList (Text.asciiLower t).toList

/-- Whether a row passes the filters of a query other than the search. -/
def passesFilters (s : Store) (q : JournalQuery) (today : Date) (row : AssignmentRow) : Bool :=
  q.documentId.all (fun d => row.documentId = d.text)
    && q.executorId.all (fun u => s.involves u row)
    && q.status.all (fun st => row.status = st.name)
    && (q.showFinished || row.status ≠ Status.finished.name)
    && q.deadlineFrom.all (fun start => row.deadline.any fun d => start.text ≤ d.text)
    && q.deadlineTo.all (fun finish => row.deadline.any fun d => d.text ≤ finish.text)
    && (!q.overdueOnly || row.isOverdue today)

/-- The search pattern of a query, if it searches. -/
def queryPattern? (q : JournalQuery) : Option String := (Text.nonBlank? q.search).map searchPattern

/-- The rows that match a query, in the order of the table. -/
def matchingAssignments (s : Store) (q : JournalQuery) (today : Date) :
    Except StoreFault (List AssignmentRow) :=
  let rows := s.assignments.filter (s.passesFilters q today)
  match queryPattern? q with
  | none => .ok rows
  | some pattern =>
    if !rows.isEmpty && patternLimit < pattern.utf8ByteSize then .error (.database .unknown)
    else .ok (rows.filter (s.matchesSearch pattern))

/-- The order of the journal, newest first. -/
def journalKey (row : AssignmentRow) : List String := [row.createdAt.text, row.id]

/-- Skips `offset` elements and takes `limit` of the rest; a negative offset skips nothing and a
negative limit takes all. -/
def slice {α : Type} (offset limit : Int) (l : List α) : List α :=
  let rest := l.drop offset.toNat
  if limit < 0 then rest else rest.take limit.toNat

/-- One page of the assignments that match a query, newest first. -/
def listAssignments (s : Store) (q : JournalQuery) (today : Date) :
    Except StoreFault (Page Assignment) :=
  if q.isTriviallyEmpty then
    .ok { items := [], totalCount := 0, page := q.page, pageSize := q.pageSize }
  else do
    let rows ← s.matchingAssignments q today
    let items ← s.loadAssignments (slice q.offset q.pageSize (sortByKeyDesc journalKey rows))
    return { items, totalCount := rows.length, page := q.page, pageSize := q.pageSize }

/-- The order of the expiring list: deadline, then creation. Rows that agree in both stay in the
order of the table. -/
def expiringKey (row : AssignmentRow) : List String :=
  [(row.deadline.map Date.text).getD "", row.createdAt.text]

/-- Whether a row is work still owed with a deadline within two dates. -/
def isExpiring (start finish : Date) (row : AssignmentRow) : Bool :=
  (row.status = Status.new.name || row.status = Status.inProgress.name)
    && row.deadlineWithin start finish

/-- The work still owed whose deadline lies within two dates, soonest first; of one user if one is
given. -/
def expiring (s : Store) (user : Option Identifier) (start finish : Date) :
    Except StoreFault (List Assignment) :=
  s.loadAssignments (sortByKey expiringKey (s.assignments.filter fun row =>
    isExpiring start finish row && user.all fun u => s.involves u row))

end Chancery.Store
