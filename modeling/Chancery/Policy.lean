import Chancery.Failure

/-!
# Policy

Every decision about who may do what is looked up in one of three tables, and the functions below
are nothing but the look-ups.

* An *operation* needs an authenticated actor, or one that holds one of some roles.
* A *move* of an assignment's status is judged in one capacity only: the first of administrator,
  clerk and assigned executor that the actor has. A clerk who is also the assigned executor is
  bound by the clerk's rule alone.
* A *dashboard* is shown for the requested role if it is held, and otherwise for the first role of
  the priority list that is.
-/

namespace Chancery

/-- An operation that needs permission. -/
inductive Operation where
  | createAssignment
  | viewAssignments
  | updateAssignment
  | deleteAssignment
  /-- Editing or deleting an assignment whose status is `finished`. -/
  | modifyFinishedAssignment
  | createAcknowledgment
  | deleteAcknowledgment
  | viewAcknowledgments
  | listActiveAcknowledgments
  /-- Reading another user's pending acknowledgments. -/
  | viewOthersAcknowledgments
  | viewDashboard
  deriving DecidableEq, Repr

/-- What an operation does, as refusals word it. -/
def Operation.description : Operation → String
  | .createAssignment => "create assignments"
  | .viewAssignments => "view assignments"
  | .updateAssignment => "update assignments"
  | .deleteAssignment => "delete assignments"
  | .modifyFinishedAssignment => "modify finished assignments"
  | .createAcknowledgment => "create acknowledgments"
  | .deleteAcknowledgment => "delete acknowledgments"
  | .viewAcknowledgments => "view acknowledgments"
  | .listActiveAcknowledgments => "list active acknowledgments"
  | .viewOthersAcknowledgments => "view other users' acknowledgments"
  | .viewDashboard => "view the dashboard"

/-- What an operation asks of the actor. -/
inductive Requirement where
  /-- Any authenticated actor will do. -/
  | authenticated
  /-- The actor has to hold one of the roles. -/
  | anyRole (roles : List Role)
  deriving DecidableEq, Repr

/-- The capacity in which an actor moves an assignment. -/
inductive Capacity where
  | holder (role : Role)
  /-- The assignment's own executor, whatever roles it holds. -/
  | assignedExecutor
  deriving DecidableEq, Repr

/-- The statuses that a rule speaks of. -/
inductive StatusSet where
  | any
  | oneOf (statuses : List Status)
  deriving DecidableEq, Repr

/-- Whether a set of statuses has a member. -/
def StatusSet.contains : StatusSet → Status → Bool
  | .any, _ => true
  | .oneOf ss, s => ss.contains s

/-- The moves that a capacity may make. -/
structure TransitionRule where
  capacity : Capacity
  source : StatusSet
  target : StatusSet
  deriving DecidableEq, Repr

namespace Policy

/-- The roles of the staff that run the office. -/
def staff : List Role := [.admin, .clerk]

/-- What each operation requires. -/
def operationRules : List (Operation × Requirement) :=
  [(.createAssignment, .authenticated),
   (.viewAssignments, .authenticated),
   (.updateAssignment, .anyRole staff),
   (.deleteAssignment, .anyRole staff),
   (.modifyFinishedAssignment, .anyRole [.admin]),
   (.createAcknowledgment, .anyRole staff),
   (.deleteAcknowledgment, .anyRole staff),
   (.viewAcknowledgments, .authenticated),
   (.listActiveAcknowledgments, .anyRole staff),
   (.viewOthersAcknowledgments, .anyRole staff),
   (.viewDashboard, .authenticated)]

/-- The moves each capacity may make, the capacity that decides first. -/
def transitionRules : List TransitionRule :=
  [⟨.holder .admin, .any, .any⟩,
   ⟨.holder .clerk, .oneOf [.completed], .oneOf [.finished, .returned]⟩,
   ⟨.assignedExecutor, .oneOf [.new, .inProgress], .oneOf [.inProgress, .completed]⟩]

/-- The roles whose dashboard is preferred, best first. -/
def dashboardPriority : List Role := [.admin, .clerk, .executor]

/-- The actor of a request, if there is one. -/
def requireActor (actor : Option Actor) : Except Failure Actor :=
  match actor with
  | some a => .ok a
  | none => .error .unauthenticated

/-- What an operation requires. One that no rule mentions is for administrators. -/
def requirementFor (op : Operation) : Requirement :=
  (operationRules.lookup op).getD (.anyRole [.admin])

/-- Whether an actor may perform an operation. -/
def permits (actor : Actor) (op : Operation) : Bool :=
  match requirementFor op with
  | .authenticated => true
  | .anyRole roles => actor.holdsAny roles

/-- The actor of a request, if it may perform an operation. -/
def authorize (actor : Option Actor) (op : Operation) : Except Failure Actor :=
  match actor with
  | none => .error .unauthenticated
  | some a =>
    if permits a op then .ok a else .error (.forbidden ("not permitted to " ++ op.description))

/-- Whether an actor has a capacity towards the assignments of an executor. -/
def hasCapacity (actor : Actor) (executorId : Identifier) : Capacity → Bool
  | .holder role => actor.holds role
  | .assignedExecutor => executorId = actor.id

/-- Whether an actor may move an assignment of an executor from one status to another: the first
rule whose capacity the actor has decides. -/
def transitionPermitted (actor : Actor) (executorId : Identifier) (source target : Status) : Bool :=
  match transitionRules.find? fun rule => hasCapacity actor executorId rule.capacity with
  | some rule => rule.source.contains source && rule.target.contains target
  | none => false

/-- Refuses a move that the rules do not permit. -/
def authorizeTransition (actor : Actor) (executorId : Identifier) (source target : Status) :
    Except Failure Unit :=
  if transitionPermitted actor executorId source target then .ok ()
  else .error (.forbidden
    ("cannot move assignment from " ++ source.name ++ " to " ++ target.name))

/-- The moves that an actor may make with assignments of an executor. -/
def permittedMoves (actor : Actor) (executorId : Identifier) : List (Status × Status) :=
  Status.all.flatMap fun source =>
    (Status.all.filter fun target => transitionPermitted actor executorId source target).map
      fun target => (source, target)

/-- The role whose dashboard an actor sees: the requested one if held, else the first held one of
the priority list, else the executor's. -/
def dashboardRole (actor : Actor) (requested : Option Role) : Role :=
  match requested.filter actor.holds with
  | some role => role
  | none => (dashboardPriority.find? actor.holds).getD .executor

end Policy

end Chancery
