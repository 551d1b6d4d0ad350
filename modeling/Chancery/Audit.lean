import Chancery.Assignment

/-!
# The audit trail

Every change of state leaves an event, and so does every move that was denied. An event is a value
of its own type, so that a history can be reasoned about without reading texts; its type name,
level, wording and fields are read off it when it is written down.
-/

namespace Chancery

/-- How loud an event is. -/
inductive AuditLevel where
  | debug
  | info
  | warn
  deriving DecidableEq, Repr

/-- The name of a level. -/
def AuditLevel.name : AuditLevel → String
  | .debug => "DEBUG"
  | .info => "INFO"
  | .warn => "WARN"

/-- Something that happened in the office. -/
inductive AuditEvent where
  | assignmentCreated (actor assignment executor : Identifier)
  | assignmentUpdated (actor assignment : Identifier)
  | assignmentTransitioned (actor assignment : Identifier) (source target : Status)
  | assignmentTransitionDenied (actor assignment : Identifier) (source target : Status)
  | assignmentDeleted (actor assignment : Identifier)
  | acknowledgmentCreated (actor task : Identifier) (recipients : Nat)
  | acknowledgmentViewed (actor task : Identifier)
  | acknowledgmentConfirmed (actor task : Identifier)
  | acknowledgmentCompleted (task : Identifier)
  | acknowledgmentDeleted (actor task : Identifier)
  deriving DecidableEq

namespace AuditEvent

/-- The name of the event's type. -/
def typeName : AuditEvent → String
  | assignmentCreated .. => "assignment.created"
  | assignmentUpdated .. => "assignment.updated"
  | assignmentTransitioned .. => "assignment.transitioned"
  | assignmentTransitionDenied .. => "assignment.transition.denied"
  | assignmentDeleted .. => "assignment.deleted"
  | acknowledgmentCreated .. => "acknowledgment.created"
  | acknowledgmentViewed .. => "acknowledgment.viewed"
  | acknowledgmentConfirmed .. => "acknowledgment.confirmed"
  | acknowledgmentCompleted .. => "acknowledgment.completed"
  | acknowledgmentDeleted .. => "acknowledgment.deleted"

/-- The event's level: deletions and denials warn, viewing is a detail. -/
def level : AuditEvent → AuditLevel
  | assignmentTransitionDenied .. | assignmentDeleted .. | acknowledgmentDeleted .. => .warn
  | acknowledgmentViewed .. => .debug
  | _ => .info

/-- The event in words. -/
def message : AuditEvent → String
  | assignmentCreated .. => "Assignment created"
  | assignmentUpdated .. => "Assignment details updated"
  | assignmentTransitioned .. => "Assignment status changed"
  | assignmentTransitionDenied .. => "Assignment status change denied"
  | assignmentDeleted .. => "Assignment deleted"
  | acknowledgmentCreated .. => "Acknowledgment created"
  | acknowledgmentViewed .. => "Acknowledgment viewed"
  | acknowledgmentConfirmed .. => "Acknowledgment confirmed"
  | acknowledgmentCompleted .. => "All recipients confirmed; acknowledgment completed"
  | acknowledgmentDeleted .. => "Acknowledgment deleted"

/-- The names and texts of the event's fields. The number of recipients is the one field that is
no text, and has a function of its own. -/
def fields : AuditEvent → List (String × String)
  | assignmentCreated actor assignment executor =>
    [("actor_id", actor.text), ("assignment_id", assignment.text),
     ("executor_id", executor.text)]
  | assignmentUpdated actor assignment | assignmentDeleted actor assignment =>
    [("actor_id", actor.text), ("assignment_id", assignment.text)]
  | assignmentTransitioned actor assignment source target
  | assignmentTransitionDenied actor assignment source target =>
    [("actor_id", actor.text), ("assignment_id", assignment.text), ("from", source.name),
     ("to", target.name)]
  | acknowledgmentCreated actor task _ | acknowledgmentViewed actor task
  | acknowledgmentConfirmed actor task | acknowledgmentDeleted actor task =>
    [("actor_id", actor.text), ("acknowledgment_id", task.text)]
  | acknowledgmentCompleted task => [("acknowledgment_id", task.text)]

/-- The number of recipients that the event reports. -/
def recipients? : AuditEvent → Option Nat
  | acknowledgmentCreated _ _ recipients => some recipients
  | _ => none

end AuditEvent

end Chancery
