import Chancery.Json.Reading
import Chancery.Store.Basic
import Chancery.Wire

/-!
# Stores in files

A store is kept in a file as one JSON value, a table per field and a row per item. The columns have
the names of the fields of the rows. A file is read back only if it says what it is, so that a file
of another program is never taken for a store.

## Main definitions

* `Store.encode`, `Store.tables?` — the tables of a store
* `Archive` — a store with what else its file says
* `Archive.text`, `Archive.ofText?` — the file's text
-/

namespace Chancery

open Wire

instance : Wire UserRow where
  encode r := .obj [
    ("id", encode r.id),
    ("login", encode r.login),
    ("fullName", encode r.fullName),
    ("roles", encode r.roles),
    ("createdAt", encode r.createdAt)]
  decode? := record? do
    return {
      id := ← required "id"
      login := ← required "login"
      fullName := ← required "fullName"
      roles := ← required "roles"
      createdAt := ← required "createdAt" }

instance : Wire DocumentRow where
  encode r := .obj [
    ("id", encode r.id),
    ("number", encode r.number),
    ("subject", encode r.subject),
    ("createdAt", encode r.createdAt)]
  decode? := record? do
    return {
      id := ← required "id"
      number := ← required "number"
      subject := ← required "subject"
      createdAt := ← required "createdAt" }

instance : Wire AssignmentRow where
  encode r := .obj [
    ("id", encode r.id),
    ("documentId", encode r.documentId),
    ("documentKind", encode r.documentKind),
    ("executorId", encode r.executorId),
    ("content", encode r.content),
    ("deadline", encode r.deadline),
    ("status", encode r.status),
    ("report", encode r.report),
    ("completedAt", encode r.completedAt),
    ("createdAt", encode r.createdAt),
    ("updatedAt", encode r.updatedAt)]
  decode? := record? do
    return {
      id := ← required "id"
      documentId := ← required "documentId"
      documentKind := ← required "documentKind"
      executorId := ← required "executorId"
      content := ← required "content"
      deadline := ← optional "deadline"
      status := ← required "status"
      report := ← optional "report"
      completedAt := ← optional "completedAt"
      createdAt := ← required "createdAt"
      updatedAt := ← required "updatedAt" }

instance : Wire CoExecutorRow where
  encode r := .obj [("assignmentId", encode r.assignmentId), ("userId", encode r.userId)]
  decode? := record? do
    return { assignmentId := ← required "assignmentId", userId := ← required "userId" }

instance : Wire AcknowledgmentRow where
  encode r := .obj [
    ("id", encode r.id),
    ("documentId", encode r.documentId),
    ("documentKind", encode r.documentKind),
    ("content", encode r.content),
    ("creatorId", encode r.creatorId),
    ("createdAt", encode r.createdAt),
    ("completedAt", encode r.completedAt)]
  decode? := record? do
    return {
      id := ← required "id"
      documentId := ← required "documentId"
      documentKind := ← required "documentKind"
      content := ← required "content"
      creatorId := ← required "creatorId"
      createdAt := ← required "createdAt"
      completedAt := ← optional "completedAt" }

instance : Wire RecipientRow where
  encode r := .obj [
    ("id", encode r.id),
    ("acknowledgmentId", encode r.acknowledgmentId),
    ("userId", encode r.userId),
    ("viewedAt", encode r.viewedAt),
    ("confirmedAt", encode r.confirmedAt),
    ("createdAt", encode r.createdAt)]
  decode? := record? do
    return {
      id := ← required "id"
      acknowledgmentId := ← required "acknowledgmentId"
      userId := ← required "userId"
      viewedAt := ← optional "viewedAt"
      confirmedAt := ← optional "confirmedAt"
      createdAt := ← required "createdAt" }

namespace Store

/-- The form of the tables of a store. -/
def encode (s : Store) : Json :=
  .obj [
    ("users", Wire.encode s.users),
    ("incoming", Wire.encode s.incoming),
    ("outgoing", Wire.encode s.outgoing),
    ("assignments", Wire.encode s.assignments),
    ("coExecutors", Wire.encode s.coExecutors),
    ("acknowledgments", Wire.encode s.acknowledgments),
    ("recipients", Wire.encode s.recipients)]

/-- Reads the tables of a store. -/
def tables? : Json → Option Store :=
  record? do
    return {
      users := ← required "users"
      incoming := ← required "incoming"
      outgoing := ← required "outgoing"
      assignments := ← required "assignments"
      coExecutors := ← required "coExecutors"
      acknowledgments := ← required "acknowledgments"
      recipients := ← required "recipients" }

end Store

instance : Wire Store where
  encode := Store.encode
  decode? := Store.tables?

/-- What a file of a store holds. -/
structure Archive where
  /-- Whether changes go through a log beside the file. -/
  isLogged : Bool
  /-- The tables, once they have been made. -/
  tables : Option Store

namespace Archive

/-- What a file of a store says it is. -/
def format : String := "chancery 1"

instance : Wire Archive where
  encode a := .obj [
    ("format", .str format),
    ("isLogged", encode a.isLogged),
    ("tables", encode a.tables)]
  decode? := record? do
    return { isLogged := ← required "isLogged", tables := ← optional "tables" }

/-- The text of a file. -/
def text (a : Archive) : String := (encode a).pretty ++ "\n"

/-- Whether a value says that it is the archive of a store. -/
def isArchive (v : Json) : Bool :=
  match v.field? "format" with
  | some (.str name) => name = format
  | _ => false

/-- Reads the text of a file. -/
def ofText? (text : String) : Option Archive := do
  let v ← Json.parse? text
  if isArchive v then decode? v else none

end Archive

end Chancery
