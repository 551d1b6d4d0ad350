import Chancery.Office

/-!
# Writing without a workflow

The store can be written to directly, past the workflows: nobody is asked for permission, nothing
is checked that the tables do not check themselves, and no event is left. Directory entries have no
other way in. Assignments and tasks have, and what is written directly here is what a workflow
writes once its checks are passed.

One step lower still, a row can be put into a table as it is. Only the constraints of the tables
stand in the way, so the texts in it need not read.

## Main definitions

* `DirectWrite`, `DirectWrite.perform`
* `RawRow`, `RawRow.insert`
-/

namespace Chancery

/-- A write to assignments or tasks that no workflow makes. -/
inductive DirectWrite where
  | addAssignment (new : NewAssignment)
  | updateAssignment (id : Identifier) (details : AssignmentUpdate)
  | setStatus (id : Identifier) (status : Status) (report : Option String)
      (completedAt : Option Instant)
  | deleteAssignment (id : Identifier)
  | addAcknowledgment (new : NewAcknowledgment)
  | markViewed (task user : Identifier)
  | markConfirmed (task user : Identifier)
  | deleteAcknowledgment (task : Identifier)

/-- What the store answers to a direct write. -/
inductive DirectAnswer where
  | assignment (assignment : Assignment)
  | task (task : AcknowledgmentTask)
  /-- Whether there was something to write to. -/
  | found (found : Bool)
  | viewed (update : RecipientUpdate)
  | confirmed (outcome : ConfirmOutcome)
  deriving DecidableEq

namespace DirectWrite

/-- A write that cannot be refused. -/
def kept {α : Type} (answer : α → DirectAnswer) (office : Office) (r : α × Store) :
    Except StoreFault DirectAnswer × Office :=
  (.ok (answer r.1), office.withStore r.2)

/-- Performs a write: what the store answers, and the office afterwards. -/
def perform (o : Occasion) (office : Office) :
    DirectWrite → Except StoreFault DirectAnswer × Office
  | addAssignment new =>
    let r := office.enterAssignment o new
    (r.1.map .assignment, r.2)
  | updateAssignment id details =>
    match office.store.updateAssignment id o.now details with
    | .ok (found, store) => (.ok (.found found), office.withStore store)
    | .error fault => (.error fault, office)
  | setStatus id status report completedAt =>
    kept .found office (office.store.setStatus id o.now status report completedAt)
  | deleteAssignment id => kept .found office (office.store.deleteAssignment id)
  | addAcknowledgment new =>
    let r := office.enterAcknowledgment o new
    (r.1.map .task, r.2)
  | markViewed task user => kept .viewed office (office.store.markViewed task user o.now)
  | markConfirmed task user => kept .confirmed office (office.store.markConfirmed task user o.now)
  | deleteAcknowledgment task => kept .found office (office.store.deleteAcknowledgment task)

end DirectWrite

/-- A row as it stands in one of the tables. -/
inductive RawRow where
  | user (row : UserRow)
  | document (kind : DocumentKind) (row : DocumentRow)
  | assignment (row : AssignmentRow)
  | coExecutor (row : CoExecutorRow)
  | acknowledgment (row : AcknowledgmentRow)
  | recipient (row : RecipientRow)

/-- Puts a row into its table, subject to the constraints of the tables only. -/
def RawRow.insert (s : Store) : RawRow → Except StoreFault Store
  | user row => s.insertUser row
  | document kind row => s.insertDocument kind row
  | assignment row => s.insertAssignment row
  | coExecutor row => s.insertCoExecutor row
  | acknowledgment row => s.insertAcknowledgment row
  | recipient row => s.insertRecipient row

end Chancery
