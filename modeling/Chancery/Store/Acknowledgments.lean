import Chancery.Store.Reading

/-!
# Acknowledgments in the store

A task is inserted with one row per recipient. Viewing and confirming touch the row of one user on
one task; confirming implies having viewed. A confirmation that leaves no row of the task
unconfirmed stamps the task complete in the same step, so the stamp is set by exactly one call.

Of the two times of a row and the one of a task, none that is set is ever set again.

## Main definitions

* `Store.addAcknowledgment`, `Store.deleteAcknowledgment`
* `Store.markViewed`, `Store.markConfirmed`
* `Store.task?`, `Store.tasksOfDocument`, `Store.tasksPendingFor`, `Store.activeTasks`
-/

namespace Chancery.Store

/-! ### Writing -/

/-- The row of a new task. -/
def acknowledgmentRow (id : Identifier) (now : Instant) (new : NewAcknowledgment) :
    AcknowledgmentRow :=
  { id := id.text
    documentId := new.document.id.text
    documentKind := new.document.kind.name
    content := new.content
    creatorId := new.creatorId.text
    createdAt := now
    completedAt := none }

/-- The recipient rows of a new task, each under an identifier of its own. -/
def recipientRows (task : Identifier) (now : Instant) (entries : List (Identifier × Identifier)) :
    List RecipientRow :=
  entries.map fun e =>
    { id := e.1.text, acknowledgmentId := task.text, userId := e.2.text, viewedAt := none,
      confirmedAt := none, createdAt := now }

/-- Inserts a task and one row per recipient; the rows' identifiers are given in the order of the
recipients. -/
def addAcknowledgment (id : Identifier) (entryIds : List Identifier) (now : Instant)
    (new : NewAcknowledgment) (s : Store) : Except StoreFault Store := do
  let s ← s.insertAcknowledgment (acknowledgmentRow id now new)
  s.insertRecipients (recipientRows id now (entryIds.zip new.recipientIds))

/-- Whether a row is the entry of a user on a task. -/
def RecipientRow.isEntry (task user : Identifier) (r : RecipientRow) : Bool :=
  r.acknowledgmentId = task.text && r.userId = user.text

/-- Whether a row is the entry of a user on a task that the user has not viewed. -/
def RecipientRow.isUnseen (task user : Identifier) (r : RecipientRow) : Bool :=
  isEntry task user r && r.viewedAt.isNone

/-- Whether a row is the entry of a user on a task that the user has not confirmed. -/
def RecipientRow.isWaiting (task user : Identifier) (r : RecipientRow) : Bool :=
  isEntry task user r && r.confirmedAt.isNone

/-- Changes the recipient rows that satisfy a condition. -/
def mapRecipients (p : RecipientRow → Bool) (f : RecipientRow → RecipientRow) (s : Store) :
    Store :=
  { s with recipients := s.recipients.map fun r => if p r then f r else r }

/-- Whether a user has an entry on a task. -/
def hasEntry (s : Store) (task user : Identifier) : Bool :=
  s.recipients.any (RecipientRow.isEntry task user)

/-- Records the view of one entry. -/
def RecipientRow.view (now : Instant) (r : RecipientRow) : RecipientRow :=
  { r with viewedAt := some now }

/-- Puts the time of a view into the entry of a user on a task that has none. -/
def viewEntry (task user : Identifier) (now : Instant) (s : Store) : Store :=
  s.mapRecipients (RecipientRow.isUnseen task user) (RecipientRow.view now)

/-- Records the time of the first view in the entry of a user on a task. -/
def markViewed (task user : Identifier) (now : Instant) (s : Store) : RecipientUpdate × Store :=
  if s.recipients.any (RecipientRow.isUnseen task user) then
    (.recorded, s.viewEntry task user now)
  else if s.hasEntry task user then (.alreadyRecorded, s)
  else (.notRecipient, s)

/-- Whether a task still waits for a confirmation. -/
def isOutstanding (s : Store) (task : Identifier) : Bool :=
  s.recipients.any fun r => r.acknowledgmentId = task.text && r.confirmedAt.isNone

/-- Confirms one entry: the confirmation implies a view. -/
def RecipientRow.confirm (now : Instant) (r : RecipientRow) : RecipientRow :=
  { r with viewedAt := r.viewedAt.orElse fun _ => some now, confirmedAt := some now }

/-- Puts the time of a confirmation into the entry of a user on a task that has none. -/
def confirmEntry (task user : Identifier) (now : Instant) (s : Store) : Store :=
  s.mapRecipients (RecipientRow.isWaiting task user) (RecipientRow.confirm now)

/-- Whether a row is a task that has not been stamped complete. -/
def AcknowledgmentRow.isOpen (task : Identifier) (t : AcknowledgmentRow) : Bool :=
  t.id = task.text && t.completedAt.isNone

/-- Stamps one task complete. -/
def AcknowledgmentRow.complete (now : Instant) (t : AcknowledgmentRow) : AcknowledgmentRow :=
  { t with completedAt := some now }

/-- Stamps a task complete if it has not been. -/
def stampComplete (task : Identifier) (now : Instant) (s : Store) : Bool × Store :=
  (s.acknowledgments.any (AcknowledgmentRow.isOpen task),
    { s with acknowledgments := s.acknowledgments.map fun t =>
        if AcknowledgmentRow.isOpen task t then AcknowledgmentRow.complete now t else t })

/-- Records the confirmation of a user on a task, and stamps the task complete if nobody's is
missing any more. -/
def markConfirmed (task user : Identifier) (now : Instant) (s : Store) : ConfirmOutcome × Store :=
  if s.recipients.any (RecipientRow.isWaiting task user) then
    let s := s.confirmEntry task user now
    if s.isOutstanding task then (⟨.recorded, false⟩, s)
    else
      let (stamped, s) := s.stampComplete task now
      (⟨.recorded, stamped⟩, s)
  else if s.hasEntry task user then (⟨.alreadyRecorded, false⟩, s)
  else (⟨.notRecipient, false⟩, s)

/-- Deletes a task with its recipients. `false` if there is none. -/
def deleteAcknowledgment (task : Identifier) (s : Store) : Bool × Store :=
  (s.hasAcknowledgment task.text,
    { s with
      acknowledgments := s.acknowledgments.filter fun t => t.id ≠ task.text
      recipients := s.recipients.filter fun r => r.acknowledgmentId ≠ task.text })

/-! ### Reading -/

/-- The order of tasks, newest first. -/
def taskKey (row : AcknowledgmentRow) : List String := [row.createdAt.text, row.id]

/-- The tasks whose rows satisfy a condition, newest first. -/
def tasksWhere (s : Store) (p : AcknowledgmentRow → Bool) :
    Except StoreFault (List AcknowledgmentTask) :=
  s.loadTasks (sortByKeyDesc taskKey (s.acknowledgments.filter p))

/-- The task with an identifier. -/
def task? (s : Store) (id : Identifier) : Except StoreFault (Option AcknowledgmentTask) :=
  (s.tasksWhere fun t => t.id = id.text).map List.head?

/-- The tasks raised on a document identifier. -/
def tasksOfDocument (s : Store) (document : Identifier) :
    Except StoreFault (List AcknowledgmentTask) :=
  s.tasksWhere fun t => t.documentId = document.text

/-- The tasks that a user has still to confirm. -/
def tasksPendingFor (s : Store) (user : Identifier) :
    Except StoreFault (List AcknowledgmentTask) :=
  s.tasksWhere fun t => s.recipients.any fun r =>
    r.acknowledgmentId = t.id && r.userId = user.text && r.confirmedAt.isNone

/-- The tasks not stamped complete. -/
def activeTasks (s : Store) : Except StoreFault (List AcknowledgmentTask) :=
  s.tasksWhere fun t => t.completedAt.isNone

end Chancery.Store
