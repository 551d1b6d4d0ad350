import Chancery.Office
import Chancery.Office.Intake
import Chancery.Office.References

/-!
# Running assignments

Any authenticated actor creates assignments; the staff edits and deletes them, a finished one only
an administrator. Moves of the status follow `Policy.transitionRules`, and a denied move leaves an
event although it changes nothing.

Which of several failures a request meets is fixed by the order of the checks: permission first,
then the texts of the request in their order, then the assignment it names, then the references.
Editing looks at the assignment before it reads the new details.

## Main definitions

* `Office.createAssignment`, `Office.updateAssignment`, `Office.moveAssignment`,
  `Office.deleteAssignment`
* `Office.getAssignment`, `Office.listAssignments`
-/

namespace Chancery.Office

/-- The failure of an assignment that does not exist. -/
def noAssignment (id : Identifier) : Failure := .notFound ("assignment " ++ id.text)

/-- The assignment that a step needs. -/
def requireAssignment (s : Store) (operation : String) (id : Identifier) :
    Except Failure Assignment := do
  match ← Store.during operation (s.assignment? id) with
  | some a => return a
  | none => throw (noAssignment id)

/-- Checks that an actor may touch an assignment: a finished one is left to administrators. -/
def requireModifiable (actor : Actor) (a : Assignment) (verb : String) : Except Failure Unit :=
  if a.status = .finished ∧ ¬ Policy.permits actor .modifyFinishedAssignment then
    .error (.invalidState
      ("finished assignments can only be " ++ verb ++ " by an administrator"))
  else .ok ()

/-! ### Creating -/

/-- Reads and checks a request for a new assignment. -/
def checkCreate (actor : Option Actor) (r : Request.CreateAssignment) (s : Store) :
    Except Failure (Actor × NewAssignment) := do
  let actor ← Policy.authorize actor .createAssignment
  let document ← Intake.document r.documentId r.documentKind
  let executorId ← Intake.identifier "executor" r.executorId
  let deadline ← Intake.date "deadline" r.deadline
  let coExecutorIds ← Intake.coExecutors r.coExecutorIds
  s.requireDocument document
  s.requireUsers (executorId :: coExecutorIds)
  return (actor, { document, executorId, content := r.content, deadline, coExecutorIds })

/-- Creates an assignment in status `new`. -/
def createAssignment (o : Occasion) (actor : Option Actor) (r : Request.CreateAssignment)
    (office : Office) : Except Failure Assignment × Office :=
  match checkCreate actor r office.store with
  | .error e => (.error e, office)
  | .ok (actor, new) =>
    match office.enterAssignment o new with
    | (.error fault, office) => (.error (.storage "assignment.create" fault), office)
    | (.ok a, office) => (.ok a, office.record (.assignmentCreated actor.id a.id new.executorId))

/-! ### Editing -/

/-- Reads and checks a request for new details. -/
def checkUpdate (actor : Option Actor) (r : Request.UpdateAssignment) (s : Store) :
    Except Failure (Actor × Identifier × AssignmentUpdate) := do
  let actor ← Policy.authorize actor .updateAssignment
  let id ← Intake.identifier "assignment" r.id
  let existing ← requireAssignment s "assignment.update" id
  requireModifiable actor existing "edited"
  let executorId ← Intake.identifier "executor" r.executorId
  let deadline ← Intake.date "deadline" r.deadline
  let coExecutorIds ← Intake.coExecutors r.coExecutorIds
  s.requireUsers (executorId :: coExecutorIds)
  return (actor, id, { executorId, content := r.content, deadline, coExecutorIds })

/-- Replaces executor, content, deadline and co-executors of an assignment. -/
def updateAssignment (o : Occasion) (actor : Option Actor) (r : Request.UpdateAssignment)
    (office : Office) : Except Failure Assignment × Office :=
  match checkUpdate actor r office.store with
  | .error e => (.error e, office)
  | .ok (actor, id, details) =>
    match office.store.updateAssignment id o.now details with
    | .error fault => (.error (.storage "assignment.update" fault), office)
    | .ok (false, _) => (.error (noAssignment id), office)
    | .ok (true, store) =>
      (requireAssignment store "assignment.update" id,
        (office.withStore store).record (.assignmentUpdated actor.id id))

/-! ### Moving -/

/-- Reads a request to move an assignment. -/
def readMove (actor : Option Actor) (r : Request.MoveAssignment) (s : Store) :
    Except Failure (Actor × Identifier × Status × Assignment) := do
  let actor ← Policy.requireActor actor
  let id ← Intake.identifier "assignment" r.id
  let target ← Intake.status r.status
  let existing ← requireAssignment s "assignment.transition" id
  return (actor, id, target, existing)

/-- Moves an assignment to a status. -/
def moveAssignment (o : Occasion) (actor : Option Actor) (r : Request.MoveAssignment)
    (office : Office) : Except Failure Assignment × Office :=
  match readMove actor r office.store with
  | .error e => (.error e, office)
  | .ok (actor, id, target, existing) =>
    match Policy.authorizeTransition actor existing.executorId existing.status target with
    | .error e =>
      (.error e,
        office.record (.assignmentTransitionDenied actor.id id existing.status target))
    | .ok () =>
      match office.store.setStatus id o.writing target r.report
          (target.completionAfter existing.completedAt o.now) with
      | (false, _) => (.error (noAssignment id), office)
      | (true, store) =>
        (requireAssignment store "assignment.transition" id,
          (office.withStore store).record
            (.assignmentTransitioned actor.id id existing.status target))

/-! ### Reading -/

/-- The assignment with an identifier, if there is one. -/
def getAssignment (actor : Option Actor) (id : String) (office : Office) :
    Except Failure (Option Assignment) := do
  let _ ← Policy.authorize actor .viewAssignments
  let id ← Intake.identifier "assignment" id
  Store.during "assignment.get" (office.store.assignment? id)

/-- One page of the journal. -/
def listAssignments (o : Occasion) (actor : Option Actor) (r : Request.ListAssignments)
    (office : Office) : Except Failure (Page Assignment) := do
  let _ ← Policy.authorize actor .viewAssignments
  let query ← Intake.query o.settings r
  Store.during "assignment.list" (office.store.listAssignments query o.today)

/-! ### Deleting -/

/-- Reads and checks a request to delete an assignment; nothing is to be deleted if there is
none. -/
def checkDelete (actor : Option Actor) (id : String) (s : Store) :
    Except Failure (Option (Actor × Identifier)) := do
  let actor ← Policy.authorize actor .deleteAssignment
  let id ← Intake.identifier "assignment" id
  match ← Store.during "assignment.delete" (s.assignment? id) with
  | none => return none
  | some existing =>
    requireModifiable actor existing "deleted"
    return some (actor, id)

/-- Deletes an assignment with its co-executors. Deleting what does not exist changes nothing. -/
def deleteAssignment (actor : Option Actor) (id : String) (office : Office) :
    Except Failure Unit × Office :=
  match checkDelete actor id office.store with
  | .error e => (.error e, office)
  | .ok none => (.ok (), office)
  | .ok (some (actor, id)) =>
    (.ok (), (office.withStore (office.store.deleteAssignment id).2).record
      (.assignmentDeleted actor.id id))

end Chancery.Office
