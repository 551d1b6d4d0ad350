import Chancery.Office.Acknowledgments
import Chancery.Office.Assignments
import Chancery.Office.Summary

/-!
# Calls on the office

Everything that can be asked of the office, as one type: an entry into the directory, or an
operation of a workflow with its actor and its request. A call meets an office on an occasion; it
is answered or refused, and leaves an office behind.

A history is a list of calls, each with its occasion. What holds of the office whatever is asked of
it, by whomever and in whatever order, is a statement about all histories.

## Main definitions

* `Call`, `Answer`, `Refusal`
* `Call.perform` — one call
* `Office.after` — the office after a history
-/

namespace Chancery

/-- One thing that is asked of the office. -/
inductive Call where
  | addUser (new : NewUser)
  | addDocument (new : NewDocument)
  | createAssignment (actor : Option Actor) (request : Request.CreateAssignment)
  | updateAssignment (actor : Option Actor) (request : Request.UpdateAssignment)
  | moveAssignment (actor : Option Actor) (request : Request.MoveAssignment)
  | deleteAssignment (actor : Option Actor) (id : String)
  | getAssignment (actor : Option Actor) (id : String)
  | listAssignments (actor : Option Actor) (request : Request.ListAssignments)
  | createAcknowledgment (actor : Option Actor) (request : Request.CreateAcknowledgment)
  | viewAcknowledgment (actor : Option Actor) (task : String)
  | confirmAcknowledgment (actor : Option Actor) (task : String)
  | deleteAcknowledgment (actor : Option Actor) (task : String)
  | getAcknowledgment (actor : Option Actor) (task : String)
  | acknowledgmentsOfDocument (actor : Option Actor) (document : String)
  | pendingAcknowledgments (actor : Option Actor) (user : Option String)
  | activeAcknowledgments (actor : Option Actor)
  | summary (actor : Option Actor) (request : Request.Summary)

/-- What the office answers. -/
inductive Answer where
  | user (user : User)
  | document (document : Document)
  | assignment (assignment : Assignment)
  | foundAssignment (found : Option Assignment)
  | assignments (page : Page Assignment)
  | task (task : AcknowledgmentTask)
  | foundTask (found : Option AcknowledgmentTask)
  | tasks (tasks : List AcknowledgmentTask)
  | confirmed (outcome : ConfirmOutcome)
  | summary (stats : DashboardStats)
  | done
  deriving DecidableEq

/-- Why a call is refused: an entry by the store, everything else by the office. -/
inductive Refusal where
  | store (fault : StoreFault)
  | office (failure : Failure)
  deriving DecidableEq, Repr

namespace Call

/-- Whether a call is an entry into the directory, which no actor is named for. -/
def isEntry : Call → Bool
  | addUser _ | addDocument _ => true
  | _ => false

/-- The actor of a call; nobody for an entry into the directory. -/
def actor? : Call → Option Actor
  | addUser _ | addDocument _ => none
  | createAssignment actor _ | updateAssignment actor _ | moveAssignment actor _
  | deleteAssignment actor _ | getAssignment actor _ | listAssignments actor _
  | createAcknowledgment actor _ | viewAcknowledgment actor _ | confirmAcknowledgment actor _
  | deleteAcknowledgment actor _ | getAcknowledgment actor _ | acknowledgmentsOfDocument actor _
  | pendingAcknowledgments actor _ | activeAcknowledgments actor | summary actor _ => actor

/-- An entry with the kind of its answer. -/
def entered {α : Type} (answer : α → Answer) (r : Except StoreFault α × Office) :
    Except Refusal Answer × Office :=
  ((r.1.map answer).mapError .store, r.2)

/-- An operation that may write, with the kind of its answer. -/
def wrote {α : Type} (answer : α → Answer) (r : Except Failure α × Office) :
    Except Refusal Answer × Office :=
  ((r.1.map answer).mapError .office, r.2)

/-- An operation that only reads, with the kind of its answer. -/
def looked {α : Type} (answer : α → Answer) (office : Office) (r : Except Failure α) :
    Except Refusal Answer × Office :=
  wrote answer (r, office)

/-- Performs a call: what the office answers, and the office afterwards. -/
def perform (o : Occasion) (office : Office) : Call → Except Refusal Answer × Office
  | addUser new => entered .user (office.enterUser o new)
  | addDocument new => entered .document (office.enterDocument o new)
  | createAssignment actor r => wrote .assignment (office.createAssignment o actor r)
  | updateAssignment actor r => wrote .assignment (office.updateAssignment o actor r)
  | moveAssignment actor r => wrote .assignment (office.moveAssignment o actor r)
  | deleteAssignment actor id => wrote (fun _ => .done) (office.deleteAssignment actor id)
  | getAssignment actor id => looked .foundAssignment office (office.getAssignment actor id)
  | listAssignments actor r => looked .assignments office (office.listAssignments o actor r)
  | createAcknowledgment actor r => wrote .task (office.createAcknowledgment o actor r)
  | viewAcknowledgment actor task =>
    wrote (fun _ => .done) (office.viewAcknowledgment o actor task)
  | confirmAcknowledgment actor task =>
    wrote .confirmed (office.confirmAcknowledgment o actor task)
  | deleteAcknowledgment actor task =>
    wrote (fun _ => .done) (office.deleteAcknowledgment actor task)
  | getAcknowledgment actor task => looked .foundTask office (office.getAcknowledgment actor task)
  | acknowledgmentsOfDocument actor document =>
    looked .tasks office (office.acknowledgmentsOfDocument actor document)
  | pendingAcknowledgments actor user =>
    looked .tasks office (office.pendingAcknowledgments actor user)
  | activeAcknowledgments actor => looked .tasks office (office.activeAcknowledgments actor)
  | summary actor r => looked .summary office (office.summary o actor r)

@[simp] theorem wrote_snd {α : Type} (answer : α → Answer) (r : Except Failure α × Office) :
    (wrote answer r).2 = r.2 := rfl

end Call

namespace Office

/-- The office after a history of calls. -/
def after (office : Office) (history : List (Occasion × Call)) : Office :=
  history.foldl (fun office call => (call.2.perform call.1 office).2) office

@[simp] theorem after_cons (office : Office) (o : Occasion) (c : Call)
    (history : List (Occasion × Call)) :
    office.after ((o, c) :: history) = (c.perform o office).2.after history := rfl

theorem after_append (office : Office) (h₁ h₂ : List (Occasion × Call)) :
    office.after (h₁ ++ h₂) = (office.after h₁).after h₂ := by
  simp [after, List.foldl_append]

end Office

end Chancery
