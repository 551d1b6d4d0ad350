import Chancery.Store.Basic

/-!
# Lateness as the store sees it

Queries cannot call the rules of the domain; they compare stored texts. These are the stored twins
of `Assignment.involves`, `Assignment.isOverdue` and `Assignment.isFinishedLate`. They agree with
those rules as long as texts compare like the dates they stand for, which is to say for years of
four digits.

The calendar date of a stored instant is a text as well. It exists only for the years from -4713
to 9999, the range of the day count behind it, and not for a leap second; a comparison with a date
that does not exist holds of nothing.
-/

namespace Chancery

/-- The text of the calendar date of a stored instant, where there is one. -/
def Instant.calendarText? (t : Instant) : Option String :=
  if -4713 ≤ t.date.year ∧ t.date.year ≤ 9999 ∧ t.nano < 1000000000 then some t.date.text else none

namespace AssignmentRow

/-- Whether the calendar date of an instant lies after the deadline. -/
def endsLate (row : AssignmentRow) (at? : Option Instant) : Bool :=
  match at?.bind Instant.calendarText?, row.deadline with
  | some day, some deadline => deadline.text < day
  | _, _ => false

/-- Whether the row counts as overdue on the day `today`. -/
def isOverdue (row : AssignmentRow) (today : Date) : Bool :=
  ((row.status = Status.new.name || row.status = Status.inProgress.name)
      && row.deadline.any fun d => d.text < today.text)
    || (row.status = Status.completed.name && row.endsLate row.completedAt)

/-- Whether the deadline lies within two dates. -/
def deadlineWithin (row : AssignmentRow) (start finish : Date) : Bool :=
  row.deadline.any fun d => start.text ≤ d.text && d.text ≤ finish.text

end AssignmentRow

/-- Whether a stored instant lies within two others. -/
def Instant.within (t start finish : Instant) : Bool :=
  start.text ≤ t.text && t.text ≤ finish.text

namespace Store

/-- Whether a user is the executor or a co-executor of the assignment in a row. -/
def involves (s : Store) (user : Identifier) (row : AssignmentRow) : Bool :=
  row.executorId = user.text
    || s.coExecutors.any fun c => c.assignmentId = row.id && c.userId = user.text

end Store

end Chancery
