import Chancery.Acknowledgment
import Chancery.Dashboard
import Chancery.Journal
import Chancery.Wire

/-!
# The office's records on the wire

Records write all their fields, absent values as `null`. A dashboard summary is the exception: it
has many fields of which a role fills few, so absent numbers and an empty list are left out.
-/

namespace Chancery

open Wire

instance : Wire DocumentRef where
  encode r := .obj [("id", encode r.id), ("kind", encode r.kind)]
  decode? := record? do
    return { id := ← required "id", kind := ← required "kind" }

instance : Wire User where
  encode u := .obj [
    ("id", encode u.id),
    ("login", encode u.login),
    ("fullName", encode u.fullName),
    ("roles", encode u.roles),
    ("createdAt", encode u.createdAt)]
  decode? := record? do
    return {
      id := ← required "id"
      login := ← required "login"
      fullName := ← required "fullName"
      roles := ← required "roles"
      createdAt := ← required "createdAt" }

instance : Wire Document where
  encode d := .obj [
    ("id", encode d.id),
    ("kind", encode d.kind),
    ("number", encode d.number),
    ("subject", encode d.subject),
    ("createdAt", encode d.createdAt)]
  decode? := record? do
    return {
      id := ← required "id"
      kind := ← required "kind"
      number := ← required "number"
      subject := ← required "subject"
      createdAt := ← required "createdAt" }

instance : Wire CoExecutor where
  encode c := .obj [("userId", encode c.userId), ("fullName", encode c.fullName)]
  decode? := record? do
    return { userId := ← required "userId", fullName := ← optional "fullName" }

instance : Wire Assignment where
  encode a := .obj [
    ("id", encode a.id),
    ("document", encode a.document),
    ("documentNumber", encode a.documentNumber),
    ("documentSubject", encode a.documentSubject),
    ("executorId", encode a.executorId),
    ("executorName", encode a.executorName),
    ("coExecutors", encode a.coExecutors),
    ("content", encode a.content),
    ("deadline", encode a.deadline),
    ("status", encode a.status),
    ("report", encode a.report),
    ("completedAt", encode a.completedAt),
    ("createdAt", encode a.createdAt),
    ("updatedAt", encode a.updatedAt)]
  decode? := record? do
    return {
      id := ← required "id"
      document := ← required "document"
      documentNumber := ← optional "documentNumber"
      documentSubject := ← optional "documentSubject"
      executorId := ← required "executorId"
      executorName := ← optional "executorName"
      coExecutors := ← required "coExecutors"
      content := ← required "content"
      deadline := ← optional "deadline"
      status := ← required "status"
      report := ← optional "report"
      completedAt := ← optional "completedAt"
      createdAt := ← required "createdAt"
      updatedAt := ← required "updatedAt" }

instance : Wire Recipient where
  encode r := .obj [
    ("id", encode r.id),
    ("acknowledgmentId", encode r.acknowledgmentId),
    ("userId", encode r.userId),
    ("userName", encode r.userName),
    ("viewedAt", encode r.viewedAt),
    ("confirmedAt", encode r.confirmedAt),
    ("createdAt", encode r.createdAt)]
  decode? := record? do
    return {
      id := ← required "id"
      acknowledgmentId := ← required "acknowledgmentId"
      userId := ← required "userId"
      userName := ← optional "userName"
      viewedAt := ← optional "viewedAt"
      confirmedAt := ← optional "confirmedAt"
      createdAt := ← required "createdAt" }

instance : Wire AcknowledgmentTask where
  encode t := .obj [
    ("id", encode t.id),
    ("document", encode t.document),
    ("documentNumber", encode t.documentNumber),
    ("content", encode t.content),
    ("creatorId", encode t.creatorId),
    ("creatorName", encode t.creatorName),
    ("createdAt", encode t.createdAt),
    ("completedAt", encode t.completedAt),
    ("recipients", encode t.recipients)]
  decode? := record? do
    return {
      id := ← required "id"
      document := ← required "document"
      documentNumber := ← optional "documentNumber"
      content := ← required "content"
      creatorId := ← required "creatorId"
      creatorName := ← optional "creatorName"
      createdAt := ← required "createdAt"
      completedAt := ← optional "completedAt"
      recipients := ← required "recipients" }

instance {α : Type} [Wire α] : Wire (Page α) where
  encode p := .obj [
    ("items", encode p.items),
    ("totalCount", encode p.totalCount),
    ("page", encode p.page),
    ("pageSize", encode p.pageSize)]
  decode? := record? do
    return {
      items := ← required "items"
      totalCount := ← required "totalCount"
      page := ← required "page"
      pageSize := ← required "pageSize" }

/-- A field that is left out when its value is absent. -/
def presentField {α : Type} [Wire α] (name : String) (value : Option α) : List (String × Json) :=
  match value with
  | some a => [(name, encode a)]
  | none => []

instance : Wire DashboardStats where
  encode s := .obj (
    ("role", encode s.role)
      :: presentField "myAssignmentsNew" s.myAssignmentsNew
      ++ presentField "myAssignmentsInProgress" s.myAssignmentsInProgress
      ++ presentField "myAssignmentsOverdue" s.myAssignmentsOverdue
      ++ presentField "myAssignmentsFinished" s.myAssignmentsFinished
      ++ presentField "myAssignmentsFinishedLate" s.myAssignmentsFinishedLate
      ++ presentField "incomingCount" s.incomingCount
      ++ presentField "outgoingCount" s.outgoingCount
      ++ presentField "allAssignmentsOverdue" s.allAssignmentsOverdue
      ++ presentField "allAssignmentsFinished" s.allAssignmentsFinished
      ++ presentField "allAssignmentsFinishedLate" s.allAssignmentsFinishedLate
      ++ presentField "userCount" s.userCount
      ++ presentField "totalDocuments" s.totalDocuments
      ++ presentField "dbSize" s.dbSize
      ++ (if s.expiringAssignments.isEmpty then []
          else [("expiringAssignments", encode s.expiringAssignments)]))
  decode? := record? do
    return {
      role := ← required "role"
      myAssignmentsNew := ← optional "myAssignmentsNew"
      myAssignmentsInProgress := ← optional "myAssignmentsInProgress"
      myAssignmentsOverdue := ← optional "myAssignmentsOverdue"
      myAssignmentsFinished := ← optional "myAssignmentsFinished"
      myAssignmentsFinishedLate := ← optional "myAssignmentsFinishedLate"
      incomingCount := ← optional "incomingCount"
      outgoingCount := ← optional "outgoingCount"
      allAssignmentsOverdue := ← optional "allAssignmentsOverdue"
      allAssignmentsFinished := ← optional "allAssignmentsFinished"
      allAssignmentsFinishedLate := ← optional "allAssignmentsFinishedLate"
      userCount := ← optional "userCount"
      totalDocuments := ← optional "totalDocuments"
      dbSize := ← optional "dbSize"
      expiringAssignments := ← defaulted "expiringAssignments" [] }

end Chancery
