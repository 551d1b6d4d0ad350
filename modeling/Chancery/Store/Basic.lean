import Chancery.Failure

/-!
# The store

The store is seven tables of rows. Identifiers, kinds and statuses are columns of text: a row can
hold any text there, and whether it reads back as a value is found out when it is read. Dates and
instants are always well formed, but a *query* compares them as texts too.

## Constraints

A row that would break a constraint is refused, and the fault names the constraint. A row is first
checked by itself, then against the keys of the rows before it, and last for its references to
other tables. Several rows are inserted one after the other, each with all its checks, so the
first row that is refused decides which constraint is named.

Operations return a new store or a fault. There is nothing to roll back: a step that fails half way
has no store to return.

## Main definitions

* `UserRow`, `DocumentRow`, `AssignmentRow`, `CoExecutorRow`, `AcknowledgmentRow`, `RecipientRow`
* `Store`, `Store.empty`
* `Store.insertUser` and the other insertions
-/

namespace Chancery

/-- A row of the table of users. -/
structure UserRow where
  id : String
  login : String
  fullName : String
  /-- The names of the roles, separated by commas. -/
  roles : String
  createdAt : Instant
  deriving DecidableEq

/-- A row of a register of documents. -/
structure DocumentRow where
  id : String
  number : String
  subject : String
  createdAt : Instant
  deriving DecidableEq

/-- A row of the table of assignments. -/
structure AssignmentRow where
  id : String
  documentId : String
  documentKind : String
  executorId : String
  content : String
  deadline : Option Date
  status : String
  report : Option String
  completedAt : Option Instant
  createdAt : Instant
  updatedAt : Instant
  deriving DecidableEq

/-- A row of the table of co-executors. -/
structure CoExecutorRow where
  assignmentId : String
  userId : String
  deriving DecidableEq

/-- A row of the table of acknowledgment tasks. -/
structure AcknowledgmentRow where
  id : String
  documentId : String
  documentKind : String
  content : String
  creatorId : String
  createdAt : Instant
  completedAt : Option Instant
  deriving DecidableEq

/-- A row of the table of recipients. -/
structure RecipientRow where
  id : String
  acknowledgmentId : String
  userId : String
  viewedAt : Option Instant
  confirmedAt : Option Instant
  createdAt : Instant
  deriving DecidableEq

/-- Whether two recipient rows cannot stand side by side: one identifier, or one user on one task
twice. -/
def RecipientRow.clashes (a b : RecipientRow) : Bool :=
  a.id = b.id || (a.acknowledgmentId = b.acknowledgmentId && a.userId = b.userId)

/-- The tables, each in the order in which its rows were inserted. -/
structure Store where
  users : List UserRow
  incoming : List DocumentRow
  outgoing : List DocumentRow
  assignments : List AssignmentRow
  coExecutors : List CoExecutorRow
  acknowledgments : List AcknowledgmentRow
  recipients : List RecipientRow
  deriving DecidableEq

namespace Store

/-- The store with no rows. -/
def empty : Store := ⟨[], [], [], [], [], [], []⟩

instance : Inhabited Store := ⟨empty⟩

/-- The register of a kind of documents. -/
def register (s : Store) : DocumentKind → List DocumentRow
  | .incoming => s.incoming
  | .outgoing => s.outgoing

/-- Whether a text is the identifier of a user. -/
def hasUser (s : Store) (id : String) : Bool := s.users.any fun u => u.id = id

/-- Whether a text is the identifier of an assignment. -/
def hasAssignment (s : Store) (id : String) : Bool := s.assignments.any fun a => a.id = id

/-- Whether a text is the identifier of an acknowledgment task. -/
def hasAcknowledgment (s : Store) (id : String) : Bool := s.acknowledgments.any fun t => t.id = id

/-! ### Insertion -/

/-- Inserts a user, whose identifier and login must be new. -/
def insertUser (row : UserRow) (s : Store) : Except StoreFault Store :=
  if s.users.any fun u => u.id = row.id || u.login = row.login then
    .error (.database .uniqueViolation)
  else .ok { s with users := s.users ++ [row] }

/-- The store with a row added to the register of a kind. -/
def enroll (kind : DocumentKind) (row : DocumentRow) (s : Store) : Store :=
  match kind with
  | .incoming => { s with incoming := s.incoming ++ [row] }
  | .outgoing => { s with outgoing := s.outgoing ++ [row] }

/-- Inserts a document into the register of its kind, where its identifier must be new. -/
def insertDocument (kind : DocumentKind) (row : DocumentRow) (s : Store) :
    Except StoreFault Store :=
  if (s.register kind).any fun d => d.id = row.id then .error (.database .uniqueViolation)
  else .ok (s.enroll kind row)

/-- Inserts an assignment: its kind and status must be known names, its identifier new and its
executor a user. -/
def insertAssignment (row : AssignmentRow) (s : Store) : Except StoreFault Store :=
  if (DocumentKind.ofName? row.documentKind).isNone || (Status.ofName? row.status).isNone then
    .error (.database .checkViolation)
  else if s.hasAssignment row.id then .error (.database .uniqueViolation)
  else if !s.hasUser row.executorId then .error (.database .foreignKeyViolation)
  else .ok { s with assignments := s.assignments ++ [row] }

/-- Inserts a co-executor: the pair of assignment and user must be new, and both must exist. -/
def insertCoExecutor (row : CoExecutorRow) (s : Store) : Except StoreFault Store :=
  if s.coExecutors.contains row then .error (.database .uniqueViolation)
  else if !s.hasAssignment row.assignmentId || !s.hasUser row.userId then
    .error (.database .foreignKeyViolation)
  else .ok { s with coExecutors := s.coExecutors ++ [row] }

/-- Inserts co-executors one after the other. -/
def insertCoExecutors (rows : List CoExecutorRow) (s : Store) : Except StoreFault Store :=
  rows.foldlM (fun s row => s.insertCoExecutor row) s

/-- Inserts an acknowledgment task: its kind must be a known name, its identifier new and its
creator a user. -/
def insertAcknowledgment (row : AcknowledgmentRow) (s : Store) : Except StoreFault Store :=
  if (DocumentKind.ofName? row.documentKind).isNone then .error (.database .checkViolation)
  else if s.hasAcknowledgment row.id then .error (.database .uniqueViolation)
  else if !s.hasUser row.creatorId then .error (.database .foreignKeyViolation)
  else .ok { s with acknowledgments := s.acknowledgments ++ [row] }

/-- Inserts a recipient: confirming implies having viewed, the identifier and the pair of task and
user must be new, and task and user must exist. -/
def insertRecipient (row : RecipientRow) (s : Store) : Except StoreFault Store :=
  if row.confirmedAt.isSome && row.viewedAt.isNone then .error (.database .checkViolation)
  else if s.recipients.any (RecipientRow.clashes row) then .error (.database .uniqueViolation)
  else if !s.hasAcknowledgment row.acknowledgmentId || !s.hasUser row.userId then
    .error (.database .foreignKeyViolation)
  else .ok { s with recipients := s.recipients ++ [row] }

/-- Inserts recipients one after the other. -/
def insertRecipients (rows : List RecipientRow) (s : Store) : Except StoreFault Store :=
  rows.foldlM (fun s row => s.insertRecipient row) s

end Store

end Chancery
