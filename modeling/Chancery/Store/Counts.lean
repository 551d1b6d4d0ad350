import Chancery.Store.Lateness

/-!
# Counts

The numbers of the dashboard, counted in the tables by the comparisons of texts. A pair of counts
is always a total and the part of it that was late.

The clerk's window asks when an assignment was finished. That is its recorded completion, or its
last update when none was recorded, both for being counted and for being late; in a user's own
numbers an assignment without a recorded completion is never late.
-/

namespace Chancery.Store

/-- The assignments that involve a user and have a status. -/
def countInvolving (s : Store) (user : Identifier) (status : Status) : Nat :=
  s.assignments.countP fun a => s.involves user a && a.status = status.name

/-- The assignments that involve a user and are overdue. -/
def countOverdueInvolving (s : Store) (user : Identifier) (today : Date) : Nat :=
  s.assignments.countP fun a => s.involves user a && a.isOverdue today

/-- The finished assignments that involve a user, and those of them that were late. -/
def finishedInvolving (s : Store) (user : Identifier) : Nat × Nat :=
  (s.countInvolving user .finished,
    s.assignments.countP fun a =>
      s.involves user a && a.status = Status.finished.name && a.endsLate a.completedAt)

/-- The documents registered within two instants, incoming and outgoing. -/
def documentsWithin (s : Store) (start finish : Instant) : Nat × Nat :=
  (s.incoming.countP fun d => d.createdAt.within start finish,
    s.outgoing.countP fun d => d.createdAt.within start finish)

/-- The overdue assignments whose deadline lies within two dates. -/
def countOverdueWithin (s : Store) (start finish today : Date) : Nat :=
  s.assignments.countP fun a => a.deadlineWithin start finish && a.isOverdue today

/-- Whether the row is a finished assignment whose completion lies within two instants. -/
def finishedWithin (start finish : Instant) (row : AssignmentRow) : Bool :=
  row.status = Status.finished.name
    && (row.completedAt.getD row.updatedAt).within start finish

/-- The assignments finished within two instants, and those of them that were late. -/
def finishedCountsWithin (s : Store) (start finish : Instant) : Nat × Nat :=
  (s.assignments.countP (finishedWithin start finish),
    s.assignments.countP fun a =>
      finishedWithin start finish a && a.endsLate (some (a.completedAt.getD a.updatedAt)))

end Chancery.Store
