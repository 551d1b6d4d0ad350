import Chancery.Request
import Chancery.Wire

/-!
# Requests on the wire

Every field of a request is written. Of those that are read, the ones that have a sensible default
may be left out: a deadline, co-executors, a report, and all of a filter or of a dashboard request.
-/

namespace Chancery.Request

open Wire

instance : Wire CreateAssignment where
  encode r := .obj [
    ("documentId", encode r.documentId),
    ("documentKind", encode r.documentKind),
    ("executorId", encode r.executorId),
    ("content", encode r.content),
    ("deadline", encode r.deadline),
    ("coExecutorIds", encode r.coExecutorIds)]
  decode? := record? do
    return {
      documentId := ← required "documentId"
      documentKind := ← required "documentKind"
      executorId := ← required "executorId"
      content := ← required "content"
      deadline := ← defaulted "deadline" none
      coExecutorIds := ← defaulted "coExecutorIds" [] }

instance : Wire UpdateAssignment where
  encode r := .obj [
    ("id", encode r.id),
    ("executorId", encode r.executorId),
    ("content", encode r.content),
    ("deadline", encode r.deadline),
    ("coExecutorIds", encode r.coExecutorIds)]
  decode? := record? do
    return {
      id := ← required "id"
      executorId := ← required "executorId"
      content := ← required "content"
      deadline := ← defaulted "deadline" none
      coExecutorIds := ← defaulted "coExecutorIds" [] }

instance : Wire MoveAssignment where
  encode r := .obj [
    ("id", encode r.id),
    ("status", encode r.status),
    ("report", encode r.report)]
  decode? := record? do
    return {
      id := ← required "id"
      status := ← required "status"
      report := ← defaulted "report" none }

instance : Wire ListAssignments where
  encode r := .obj [
    ("search", encode r.search),
    ("documentId", encode r.documentId),
    ("executorId", encode r.executorId),
    ("status", encode r.status),
    ("deadlineFrom", encode r.deadlineFrom),
    ("deadlineTo", encode r.deadlineTo),
    ("overdueOnly", encode r.overdueOnly),
    ("showFinished", encode r.showFinished),
    ("page", encode r.page),
    ("pageSize", encode r.pageSize)]
  decode? := record? do
    return {
      search := ← defaulted "search" none
      documentId := ← defaulted "documentId" none
      executorId := ← defaulted "executorId" none
      status := ← defaulted "status" none
      deadlineFrom := ← defaulted "deadlineFrom" none
      deadlineTo := ← defaulted "deadlineTo" none
      overdueOnly := ← defaulted "overdueOnly" false
      showFinished := ← defaulted "showFinished" false
      page := ← defaulted "page" none
      pageSize := ← defaulted "pageSize" none }

instance : Wire CreateAcknowledgment where
  encode r := .obj [
    ("documentId", encode r.documentId),
    ("documentKind", encode r.documentKind),
    ("content", encode r.content),
    ("recipientIds", encode r.recipientIds)]
  decode? := record? do
    return {
      documentId := ← required "documentId"
      documentKind := ← required "documentKind"
      content := ← required "content"
      recipientIds := ← required "recipientIds" }

instance : Wire Summary where
  encode r := .obj [
    ("role", encode r.role),
    ("startDate", encode r.startDate),
    ("endDate", encode r.endDate),
    ("period", encode r.period)]
  decode? := record? do
    return {
      role := ← defaulted "role" none
      startDate := ← defaulted "startDate" none
      endDate := ← defaulted "endDate" none
      period := ← defaulted "period" none }

end Chancery.Request
