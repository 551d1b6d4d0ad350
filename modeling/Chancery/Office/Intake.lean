import Chancery.Calendar.Reading
import Chancery.Calendar.Window
import Chancery.Journal
import Chancery.Policy
import Chancery.Request
import Chancery.Settings
import Chancery.Text.Blank

/-!
# Intake of requests

The texts of a request are read here, one reader per kind of text, and each failure quotes the
text that did not read. A malformed identifier is a bad *reference*; a malformed date, kind,
status or period is a bad *value*.

Lists of identifiers are read in two ways. Co-executors are named deliberately, so one malformed
identifier refuses the request. Recipients are collected from address lists, so malformed entries
are passed over, and only a list of which nothing remains is refused later. Either way a user
counts once, where it is first named.

## Main definitions

* `Intake.identifier`, `Intake.date`, `Intake.status`, `Intake.document`
* `Intake.coExecutors`, `Intake.recipients`
* `Intake.query` — a journal query
* `Intake.window` — a reporting window
-/

namespace Chancery.Intake

/-- Reads an identifier. -/
def identifier (what value : String) : Except Failure Identifier :=
  match Identifier.parse? value with
  | some id => .ok id
  | none => .error (.invalidReference ("malformed " ++ what ++ " id '" ++ value ++ "'"))

/-- Reads an optional date; blank means absent. -/
def date (what : String) (value : Option String) : Except Failure (Option Date) :=
  match Text.nonBlank? value with
  | none => .ok none
  | some s =>
    match Date.parse? s with
    | some d => .ok (some d)
    | none => .error (.validation (what ++ " '" ++ s ++ "' is not a YYYY-MM-DD date"))

/-- Reads a status. -/
def status (value : String) : Except Failure Status :=
  match Status.ofName? (Text.trim value) with
  | some s => .ok s
  | none => .error (.validation ("unknown assignment status '" ++ value ++ "'"))

/-- Reads the kind of a document. -/
def documentKind (value : String) : Except Failure DocumentKind :=
  match DocumentKind.ofName? (Text.trim value) with
  | some k => .ok k
  | none => .error (.validation ("unknown document kind '" ++ value ++ "'"))

/-- Reads a reference to a document, its identifier first. -/
def document (id kind : String) : Except Failure DocumentRef := do
  let id ← identifier "document" id
  let kind ← documentKind kind
  return ⟨id, kind⟩

/-- The members of a list, each where it first stands. -/
def distinct {α : Type} [DecidableEq α] : List α → List α
  | [] => []
  | a :: rest => a :: (distinct rest).filter (· ≠ a)

/-- Reads the co-executors of an assignment. -/
def coExecutors (values : List String) : Except Failure (List Identifier) :=
  (values.mapM (identifier "co-executor")).map distinct

/-- Reads the recipients of an acknowledgment. -/
def recipients (values : List String) : List Identifier :=
  distinct (values.filterMap Identifier.parse?)

/-- Reads an optional text that may be blank. -/
def optionally {α : Type} (read : String → Except Failure α) (value : Option String) :
    Except Failure (Option α) :=
  match Text.nonBlank? value with
  | none => .ok none
  | some s => (read s).map some

/-- Reads a query of the journal. -/
def query (settings : WorkflowSettings) (r : Request.ListAssignments) :
    Except Failure JournalQuery := do
  let (page, pageSize) := settings.normalizePaging r.page r.pageSize
  return {
    search := Text.nonBlank? r.search
    documentId := ← optionally (identifier "document") r.documentId
    executorId := ← optionally (identifier "executor") r.executorId
    status := ← optionally status r.status
    deadlineFrom := ← date "deadlineFrom" r.deadlineFrom
    deadlineTo := ← date "deadlineTo" r.deadlineTo
    overdueOnly := r.overdueOnly
    showFinished := r.showFinished
    page
    pageSize }

/-- Reads the window of a dashboard request: the period if one is named, else the dates. -/
def window (r : Request.Summary) (today : Date) : Except Failure Window :=
  match Text.nonBlank? r.period with
  | some name =>
    match Period.ofName? name with
    | some p => .ok (.ofPeriod p today)
    | none => .error (.validation ("unknown period '" ++ name ++ "'"))
  | none => do
    let start ← date "startDate" r.startDate
    let finish ← date "endDate" r.endDate
    match Window.resolve start finish today with
    | .ok w => return w
    | .error e => throw (.validation e.message)

end Chancery.Intake
