import Chancery.Acknowledgment
import Chancery.Store.Basic

/-!
# Reading rows back

A row becomes a value of the domain together with the rows it refers to: the names of people and
the number and subject of the document, which are looked up at the time of reading. Every text
that stands for an identifier, a kind or a status is read strictly, and the first that does not
read is reported with its field. Nothing is returned half read.

The rows that belong to a record are read before the record itself: a corrupt co-executor is
reported rather than a corrupt assignment. They are put together by the text of the record they
belong to, and each record takes its own out when its turn comes. Both kinds of subordinate rows
come ordered by the record they belong to, then by the person's name, then by the person's
identifier, all compared as texts.

What belongs to several records is asked for in one query that names them all, and a query of the
store can name only so many (32766). It is assumed here, and wherever else a query names the members
of a list (`Store.existingUsers`), that this limit is not reached.

## Main definitions

* `AssignmentJoin`, `CoExecutorJoin`, `AcknowledgmentJoin`, `RecipientJoin` — rows with what was
  looked up for them
* `Portions` — values put together by the record they belong to
* `hydrateAssignments`, `hydrateTasks` — the values, or the first corrupt text
* `Store.loadAssignments`, `Store.loadTasks` — the same from the tables
-/

namespace Chancery

/-- An assignment row with its executor's name and the number and subject that either register has
under its document's identifier; only the register of its own kind is looked at. -/
structure AssignmentJoin where
  row : AssignmentRow
  executorName : Option String
  incomingNumber : Option String
  incomingSubject : Option String
  outgoingNumber : Option String
  outgoingSubject : Option String

/-- A co-executor row with the user's name. -/
structure CoExecutorJoin where
  row : CoExecutorRow
  fullName : Option String

/-- A task row with its creator's name and the number that either register has under its document's
identifier. -/
structure AcknowledgmentJoin where
  row : AcknowledgmentRow
  creatorName : Option String
  incomingNumber : Option String
  outgoingNumber : Option String

/-- A recipient row with the user's name. -/
structure RecipientJoin where
  row : RecipientRow
  userName : Option String

/-! ### Reading texts -/

/-- Reads the text of an identifier. -/
def readIdentifier (field value : String) : Except StoreFault Identifier :=
  match Identifier.parse? value with
  | some id => .ok id
  | none => .error (.corruptValue field value)

/-- Reads the text of a kind of documents. -/
def readKind (field value : String) : Except StoreFault DocumentKind :=
  match DocumentKind.ofName? value with
  | some kind => .ok kind
  | none => .error (.corruptValue field value)

/-- Reads the text of a status. -/
def readStatus (field value : String) : Except StoreFault Status :=
  match Status.ofName? value with
  | some status => .ok status
  | none => .error (.corruptValue field value)

/-- What is in the register of a kind. -/
def ofRegister {α : Type} (kind : DocumentKind) (incoming outgoing : α) : α :=
  match kind with
  | .incoming => incoming
  | .outgoing => outgoing

/-! ### Values of rows -/

/-- The user of a row. Unknown role names are dropped. -/
def UserRow.toUser (row : UserRow) : Except StoreFault User := do
  let id ← readIdentifier "users.id" row.id
  return { id, login := row.login, fullName := row.fullName, roles := .parse row.roles,
           createdAt := row.createdAt }

/-- The document of a row in the register of a kind. -/
def DocumentRow.toDocument (kind : DocumentKind) (row : DocumentRow) :
    Except StoreFault Document := do
  let id ← readIdentifier "documents.id" row.id
  return { id, kind, number := row.number, subject := row.subject, createdAt := row.createdAt }

/-- The co-executor of a row. -/
def CoExecutorJoin.toCoExecutor (j : CoExecutorJoin) : Except StoreFault CoExecutor := do
  let userId ← readIdentifier "assignment_co_executors.user_id" j.row.userId
  return { userId, fullName := j.fullName }

/-- The assignment of a row, given its co-executors. -/
def AssignmentJoin.toAssignment (coExecutors : List CoExecutor) (j : AssignmentJoin) :
    Except StoreFault Assignment := do
  let status ← readStatus "assignments.status" j.row.status
  let kind ← readKind "assignments.document_kind" j.row.documentKind
  let id ← readIdentifier "assignments.id" j.row.id
  let documentId ← readIdentifier "assignments.document_id" j.row.documentId
  let executorId ← readIdentifier "assignments.executor_id" j.row.executorId
  return {
    id
    document := ⟨documentId, kind⟩
    documentNumber := ofRegister kind j.incomingNumber j.outgoingNumber
    documentSubject := ofRegister kind j.incomingSubject j.outgoingSubject
    executorId
    executorName := j.executorName
    coExecutors
    content := j.row.content
    deadline := j.row.deadline
    status
    report := j.row.report
    completedAt := j.row.completedAt
    createdAt := j.row.createdAt
    updatedAt := j.row.updatedAt }

/-- The recipient of a row. -/
def RecipientJoin.toRecipient (j : RecipientJoin) : Except StoreFault Recipient := do
  let id ← readIdentifier "acknowledgment_recipients.id" j.row.id
  let acknowledgmentId ←
    readIdentifier "acknowledgment_recipients.acknowledgment_id" j.row.acknowledgmentId
  let userId ← readIdentifier "acknowledgment_recipients.user_id" j.row.userId
  return {
    id, acknowledgmentId, userId
    userName := j.userName
    viewedAt := j.row.viewedAt
    confirmedAt := j.row.confirmedAt
    createdAt := j.row.createdAt }

/-- The acknowledgment task of a row, given its recipients. -/
def AcknowledgmentJoin.toTask (recipients : List Recipient) (j : AcknowledgmentJoin) :
    Except StoreFault AcknowledgmentTask := do
  let kind ← readKind "acknowledgments.document_kind" j.row.documentKind
  let id ← readIdentifier "acknowledgments.id" j.row.id
  let documentId ← readIdentifier "acknowledgments.document_id" j.row.documentId
  let creatorId ← readIdentifier "acknowledgments.creator_id" j.row.creatorId
  return {
    id
    document := ⟨documentId, kind⟩
    documentNumber := ofRegister kind j.incomingNumber j.outgoingNumber
    content := j.row.content
    creatorId
    creatorName := j.creatorName
    createdAt := j.row.createdAt
    completedAt := j.row.completedAt
    recipients }

/-! ### Portions -/

/-- Values that wait to be taken, put together by the text of the record they belong to. -/
abbrev Portions (α : Type) : Type := List (String × List α)

namespace Portions

variable {α : Type}

/-- Puts a value behind those that belong to the same record. -/
def add (owner : String) (a : α) : Portions α → Portions α
  | [] => [(owner, [a])]
  | (o, as) :: rest => if o = owner then (o, as ++ [a]) :: rest else (o, as) :: add owner a rest

/-- The portions of a list of values with their owners. -/
def ofPairs (pairs : List (String × α)) : Portions α :=
  pairs.foldl (fun portions p => add p.1 p.2 portions) []

/-- The portion of a record, and what is left when it has been taken. -/
def take (owner : String) : Portions α → List α × Portions α
  | [] => ([], [])
  | (o, as) :: rest =>
    if o = owner then (as, rest)
    else
      let (own, left) := take owner rest
      (own, (o, as) :: left)

end Portions

/-- Reads rows in order. Each takes its portion of what is left when its turn comes. -/
def readTaking {ρ α β : Type} (key : ρ → String) (read : List α → ρ → Except StoreFault β) :
    List ρ → Portions α → Except StoreFault (List β)
  | [], _ => .ok []
  | row :: rows, portions => do
    let (own, left) := portions.take (key row)
    let b ← read own row
    let bs ← readTaking key read rows left
    return b :: bs

/-! ### Whole results -/

/-- Pairs each co-executor with the text of the assignment it belongs to. -/
def readCoExecutors (js : List CoExecutorJoin) :
    Except StoreFault (List (String × CoExecutor)) :=
  js.mapM fun j => return (j.row.assignmentId, ← j.toCoExecutor)

/-- Pairs each recipient with the text of the task it belongs to. -/
def readRecipients (js : List RecipientJoin) : Except StoreFault (List (String × Recipient)) :=
  js.mapM fun j => return (j.row.acknowledgmentId, ← j.toRecipient)

/-- The assignments of a list of rows, each with the co-executors that belong to it. -/
def hydrateAssignments (rows : List AssignmentJoin) (coRows : List CoExecutorJoin) :
    Except StoreFault (List Assignment) := do
  let coExecutors ← readCoExecutors coRows
  readTaking (fun j => j.row.id) AssignmentJoin.toAssignment rows (.ofPairs coExecutors)

/-- The tasks of a list of rows, each with the recipients that belong to it. -/
def hydrateTasks (rows : List AcknowledgmentJoin) (recipientRows : List RecipientJoin) :
    Except StoreFault (List AcknowledgmentTask) := do
  let recipients ← readRecipients recipientRows
  readTaking (fun j => j.row.id) AcknowledgmentJoin.toTask rows (.ofPairs recipients)

/-! ### Joins -/

/-- The sort key of an optional name: the absent one comes first. -/
def nameKey : Option String → List String
  | none => ["0"]
  | some name => ["1", name]

/-- The order of co-executors: assignment, name, user. -/
def CoExecutorJoin.key (j : CoExecutorJoin) : List String :=
  j.row.assignmentId :: nameKey j.fullName ++ [j.row.userId]

/-- The order of recipients: task, name, user. -/
def RecipientJoin.key (j : RecipientJoin) : List String :=
  j.row.acknowledgmentId :: nameKey j.userName ++ [j.row.userId]

/-- Puts a member in front of the first that it may stand in front of. -/
def insertBy {α : Type} (le : α → α → Bool) (a : α) : List α → List α
  | [] => [a]
  | b :: rest => if le a b then a :: b :: rest else b :: insertBy le a rest

/-- Sorts a list. Members that may stand in either order keep the one they have. -/
def sortBy {α : Type} (le : α → α → Bool) (l : List α) : List α := l.foldr (insertBy le) []

/-- Sorts by a key of texts, smallest first. -/
def sortByKey {α : Type} (key : α → List String) (l : List α) : List α :=
  sortBy (fun a b => !decide (key b < key a)) l

/-- Sorts by a key of texts, largest first. -/
def sortByKeyDesc {α : Type} (key : α → List String) (l : List α) : List α :=
  sortBy (fun a b => !decide (key a < key b)) l

namespace Store

/-- The name of the user with a given identifier text. -/
def userName? (s : Store) (id : String) : Option String :=
  (s.users.find? fun u => u.id = id).map UserRow.fullName

/-- The row with a given identifier text in the register of a kind, if the kind's name is the
given one. -/
def registered? (s : Store) (kind : DocumentKind) (kindName id : String) : Option DocumentRow :=
  if kindName = kind.name then (s.register kind).find? fun d => d.id = id else none

/-- An assignment row with what it refers to. -/
def joinAssignment (s : Store) (row : AssignmentRow) : AssignmentJoin :=
  let incoming := s.registered? .incoming row.documentKind row.documentId
  let outgoing := s.registered? .outgoing row.documentKind row.documentId
  { row
    executorName := s.userName? row.executorId
    incomingNumber := incoming.map DocumentRow.number
    incomingSubject := incoming.map DocumentRow.subject
    outgoingNumber := outgoing.map DocumentRow.number
    outgoingSubject := outgoing.map DocumentRow.subject }

/-- A task row with what it refers to. -/
def joinAcknowledgment (s : Store) (row : AcknowledgmentRow) : AcknowledgmentJoin :=
  let incoming := s.registered? .incoming row.documentKind row.documentId
  let outgoing := s.registered? .outgoing row.documentKind row.documentId
  { row
    creatorName := s.userName? row.creatorId
    incomingNumber := incoming.map DocumentRow.number
    outgoingNumber := outgoing.map DocumentRow.number }

/-- The co-executors of the listed assignments, in order. -/
def coExecutorsOf (s : Store) (ids : List String) : List CoExecutorJoin :=
  sortByKey CoExecutorJoin.key
    ((s.coExecutors.filter fun r => ids.contains r.assignmentId).map fun r =>
      ⟨r, s.userName? r.userId⟩)

/-- The recipients of the listed tasks, in order. -/
def recipientsOf (s : Store) (ids : List String) : List RecipientJoin :=
  sortByKey RecipientJoin.key
    ((s.recipients.filter fun r => ids.contains r.acknowledgmentId).map fun r =>
      ⟨r, s.userName? r.userId⟩)

/-- The assignments of the given rows. -/
def loadAssignments (s : Store) (rows : List AssignmentRow) :
    Except StoreFault (List Assignment) :=
  hydrateAssignments (rows.map s.joinAssignment) (s.coExecutorsOf (rows.map AssignmentRow.id))

/-- The tasks of the given rows. -/
def loadTasks (s : Store) (rows : List AcknowledgmentRow) :
    Except StoreFault (List AcknowledgmentTask) :=
  hydrateTasks (rows.map s.joinAcknowledgment) (s.recipientsOf (rows.map AcknowledgmentRow.id))

end Store

end Chancery
