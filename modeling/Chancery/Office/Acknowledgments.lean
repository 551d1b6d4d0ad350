import Chancery.Office
import Chancery.Office.Intake
import Chancery.Office.References

/-!
# Running acknowledgments

The staff asks users to acknowledge a document and withdraws such tasks; each recipient views and
confirms for itself. Viewing and confirming are judged by the recipient's entry alone: whoever has
one may, and whoever has none is told that there is no such entry, whether or not there is such a
task.

Viewing again and confirming again succeed and change nothing.

## Main definitions

* `Office.createAcknowledgment`, `Office.deleteAcknowledgment`
* `Office.viewAcknowledgment`, `Office.confirmAcknowledgment`
* `Office.getAcknowledgment`, `Office.acknowledgmentsOfDocument`,
  `Office.pendingAcknowledgments`, `Office.activeAcknowledgments`
-/

namespace Chancery.Office

/-- The failure of a caller who has no entry on a task. -/
def noEntry (task : Identifier) : Failure :=
  .notFound ("recipient entry on acknowledgment " ++ task.text)

/-! ### Creating and deleting -/

/-- Reads and checks a request for a new task. -/
def checkAcknowledgment (actor : Option Actor) (r : Request.CreateAcknowledgment) (s : Store) :
    Except Failure NewAcknowledgment := do
  let actor ← Policy.authorize actor .createAcknowledgment
  let document ← Intake.document r.documentId r.documentKind
  let recipientIds := Intake.recipients r.recipientIds
  if recipientIds.isEmpty then
    throw .emptyRecipients
  s.requireDocument document
  s.requireUsers recipientIds
  return { document, content := r.content, creatorId := actor.id, recipientIds }

/-- Asks every recipient named to acknowledge a document. -/
def createAcknowledgment (o : Occasion) (actor : Option Actor) (r : Request.CreateAcknowledgment)
    (office : Office) : Except Failure AcknowledgmentTask × Office :=
  match checkAcknowledgment actor r office.store with
  | .error e => (.error e, office)
  | .ok new =>
    match office.enterAcknowledgment o new with
    | (.error fault, office) => (.error (.storage "acknowledgment.create" fault), office)
    | (.ok task, office) =>
      (.ok task,
        office.record (.acknowledgmentCreated new.creatorId task.id new.recipientIds.length))

/-- Reads a request that an actor makes about a task. -/
def readTask (actor : Except Failure Actor) (task : String) :
    Except Failure (Actor × Identifier) := do
  let actor ← actor
  let task ← Intake.identifier "acknowledgment" task
  return (actor, task)

/-- Deletes a task with its recipients. Deleting what does not exist changes nothing. -/
def deleteAcknowledgment (actor : Option Actor) (task : String) (office : Office) :
    Except Failure Unit × Office :=
  match readTask (Policy.authorize actor .deleteAcknowledgment) task with
  | .error e => (.error e, office)
  | .ok (actor, task) =>
    match office.store.deleteAcknowledgment task with
    | (true, store) =>
      (.ok (), (office.withStore store).record (.acknowledgmentDeleted actor.id task))
    | (false, store) => (.ok (), office.withStore store)

/-! ### Viewing and confirming -/

/-- Records that the actor opened a task. -/
def viewAcknowledgment (o : Occasion) (actor : Option Actor) (task : String) (office : Office) :
    Except Failure Unit × Office :=
  match readTask (Policy.requireActor actor) task with
  | .error e => (.error e, office)
  | .ok (actor, task) =>
    match office.store.markViewed task actor.id o.now with
    | (.recorded, store) =>
      (.ok (), (office.withStore store).record (.acknowledgmentViewed actor.id task))
    | (.alreadyRecorded, store) => (.ok (), office.withStore store)
    | (.notRecipient, store) => (.error (noEntry task), office.withStore store)

/-- The events of a confirmation. -/
def confirmationEvents (actor task : Identifier) (outcome : ConfirmOutcome) : List AuditEvent :=
  (if outcome.recipient = .recorded then [.acknowledgmentConfirmed actor task] else [])
    ++ if outcome.completedTask then [.acknowledgmentCompleted task] else []

/-- Records the actor's confirmation; the last one completes the task. -/
def confirmAcknowledgment (o : Occasion) (actor : Option Actor) (task : String)
    (office : Office) : Except Failure ConfirmOutcome × Office :=
  match readTask (Policy.requireActor actor) task with
  | .error e => (.error e, office)
  | .ok (actor, task) =>
    match office.store.markConfirmed task actor.id o.now with
    | (⟨.notRecipient, _⟩, store) => (.error (noEntry task), office.withStore store)
    | (outcome, store) =>
      (.ok outcome,
        (confirmationEvents actor.id task outcome).foldl record (office.withStore store))

/-! ### Reading -/

/-- The task with an identifier, if there is one. -/
def getAcknowledgment (actor : Option Actor) (task : String) (office : Office) :
    Except Failure (Option AcknowledgmentTask) := do
  let (_, task) ← readTask (Policy.authorize actor .viewAcknowledgments) task
  Store.during "acknowledgment.get" (office.store.task? task)

/-- The tasks raised on a document, newest first. -/
def acknowledgmentsOfDocument (actor : Option Actor) (document : String) (office : Office) :
    Except Failure (List AcknowledgmentTask) := do
  let _ ← Policy.authorize actor .viewAcknowledgments
  let document ← Intake.identifier "document" document
  Store.during "acknowledgment.by_document" (office.store.tasksOfDocument document)

/-- The tasks that a user has still to confirm, the actor if none is named. Only the staff sees
those of others. -/
def pendingAcknowledgments (actor : Option Actor) (user : Option String) (office : Office) :
    Except Failure (List AcknowledgmentTask) := do
  let actor ← Policy.authorize actor .viewAcknowledgments
  let user ← match user with
    | some text => Intake.identifier "user" text
    | none => pure actor.id
  if user ≠ actor.id then
    let _ ← Policy.authorize (some actor) .viewOthersAcknowledgments
  Store.during "acknowledgment.pending" (office.store.tasksPendingFor user)

/-- The tasks that are not complete. -/
def activeAcknowledgments (actor : Option Actor) (office : Office) :
    Except Failure (List AcknowledgmentTask) := do
  let _ ← Policy.authorize actor .listActiveAcknowledgments
  Store.during "acknowledgment.active" office.store.activeTasks

end Chancery.Office
