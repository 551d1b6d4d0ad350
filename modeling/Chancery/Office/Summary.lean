import Chancery.Dashboard
import Chancery.Office
import Chancery.Office.Intake
import Chancery.Office.References
import Chancery.Store.Counts

/-!
# The dashboard

An actor sees the summary of one role, chosen by `Policy.dashboardRole`. An executor sees its own
work, the clerk the registers within a reporting window, the administrator totals. The window is
read whatever the role is, so a window that does not read refuses every summary.
-/

namespace Chancery.Office

/-- Shown for the size of a database that does not report one. -/
def unknownSize : String := "N/A"

/-- An executor's summary of its own work. -/
def executorSummary (o : Occasion) (user : Identifier) (s : Store) :
    Except StoreFault DashboardStats := do
  let (finished, late) := s.finishedInvolving user
  let expiring ← s.expiring (some user) o.today (o.today.addDays o.settings.executorExpiringDays)
  return { DashboardStats.forRole .executor with
    myAssignmentsNew := some (s.countInvolving user .new)
    myAssignmentsInProgress := some (s.countInvolving user .inProgress)
    myAssignmentsOverdue := some (s.countOverdueInvolving user o.today)
    myAssignmentsFinished := some finished
    myAssignmentsFinishedLate := some late
    expiringAssignments := expiring }

/-- The clerk's summary of a reporting window. -/
def clerkSummary (o : Occasion) (w : Window) (s : Store) : Except StoreFault DashboardStats := do
  let (incoming, outgoing) := s.documentsWithin w.start w.finish
  let (finished, late) := s.finishedCountsWithin w.start w.finish
  let expiring ← s.expiring none o.today (o.today.addDays o.settings.clerkExpiringDays)
  return { DashboardStats.forRole .clerk with
    incomingCount := some incoming
    outgoingCount := some outgoing
    allAssignmentsOverdue := some (s.countOverdueWithin w.startDate w.endDate o.today)
    allAssignmentsFinished := some finished
    allAssignmentsFinishedLate := some late
    expiringAssignments := expiring }

/-- The administrator's summary. -/
def adminSummary (o : Occasion) (s : Store) : DashboardStats :=
  { DashboardStats.forRole .admin with
    userCount := some s.userCount
    totalDocuments := some s.documentCount
    dbSize := some ((o.storageSize.map ByteSize.pretty).getD unknownSize) }

/-- The summary of a role. -/
def summaryFor (o : Occasion) (role : Role) (user : Identifier) (w : Window) (s : Store) :
    Except Failure DashboardStats :=
  match role with
  | .executor => Store.during "dashboard.executor" (executorSummary o user s)
  | .clerk => Store.during "dashboard.clerk" (clerkSummary o w s)
  | .admin => .ok (adminSummary o s)

/-- The dashboard summary that an actor sees. -/
def summary (o : Occasion) (actor : Option Actor) (r : Request.Summary) (office : Office) :
    Except Failure DashboardStats := do
  let actor ← Policy.authorize actor .viewDashboard
  let requested := (Text.nonBlank? r.role).bind Role.ofName?
  let window ← Intake.window r o.today
  summaryFor o (Policy.dashboardRole actor requested) actor.id window office.store

end Chancery.Office
