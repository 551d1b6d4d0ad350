import Chancery.Audit
import Chancery.Settings
import Chancery.Store.Acknowledgments
import Chancery.Store.Assignments
import Chancery.Store.Directory

/-!
# The office

The office is its store, the number of identifiers it has drawn and the trail of events it has
left. A request meets it on an *occasion*: a reading of the clock, the settings in force, the
supply of identifiers and the size of the database. One reading of the clock serves a whole
request, except that moving an assignment reads it again: the completion is stamped when the move
has been judged, the update when it is written.

Every operation answers with a value or a failure and leaves an office behind. Operations check
first and write last. The checks only read the store, and a request that fails them leaves the
office as it was; only an insertion that the store refuses has used up its identifiers.

## Main definitions

* `Office`, `Occasion`
* `Office.enterUser` and the other entries, which draw identifiers and insert
-/

namespace Chancery

/-- What a request meets when it arrives. -/
structure Occasion where
  /-- The reading of the clock. -/
  clock : Instant
  settings : WorkflowSettings
  /-- The supply of identifiers, in the order in which they are drawn. -/
  identifiers : Nat → Identifier
  /-- The size of the database in bytes, where it is known. -/
  storageSize : Option Int
  /-- The reading of the clock when a move that was judged is written. -/
  clockAtWriting : Instant := clock

namespace Occasion

/-- The moment that is recorded: the reading of the clock in whole microseconds. -/
def now (o : Occasion) : Instant := o.clock.truncated

/-- The moment at which a move is written, in whole microseconds like the first. -/
def writing (o : Occasion) : Instant := o.clockAtWriting.truncated

/-- The calendar date of the occasion. -/
def today (o : Occasion) : Date := o.clock.date

end Occasion

/-- The office between two requests. -/
structure Office where
  store : Store
  /-- How many identifiers have been drawn. -/
  drawn : Nat
  /-- The events so far, the earliest first. -/
  trail : List AuditEvent
  deriving DecidableEq

namespace Office

/-- The office before its first request. -/
def opened : Office := ⟨.empty, 0, []⟩

instance : Inhabited Office := ⟨opened⟩

/-- The office with an event added to the trail. -/
def record (office : Office) (event : AuditEvent) : Office :=
  { office with trail := office.trail ++ [event] }

/-- The office with another store. -/
def withStore (office : Office) (store : Store) : Office := { office with store }

@[simp] theorem store_record (office : Office) (event : AuditEvent) :
    (office.record event).store = office.store := rfl

@[simp] theorem trail_record (office : Office) (event : AuditEvent) :
    (office.record event).trail = office.trail ++ [event] := rfl

@[simp] theorem store_withStore (office : Office) (store : Store) :
    (office.withStore store).store = store := rfl

@[simp] theorem trail_withStore (office : Office) (store : Store) :
    (office.withStore store).trail = office.trail := rfl

/-- The next identifiers of the supply. -/
def upcoming (office : Office) (o : Occasion) (n : Nat) : List Identifier :=
  (List.range n).map fun i => o.identifiers (office.drawn + i)

/-- The office after drawing identifiers. -/
def afterDrawing (office : Office) (n : Nat) : Office := { office with drawn := office.drawn + n }

@[simp] theorem store_afterDrawing (office : Office) (n : Nat) :
    (office.afterDrawing n).store = office.store := rfl

@[simp] theorem trail_afterDrawing (office : Office) (n : Nat) :
    (office.afterDrawing n).trail = office.trail := rfl

/-- The next identifier of the supply. -/
def nextId (office : Office) (o : Occasion) : Identifier := o.identifiers office.drawn

/-! ### Entries -/

/-- A record that was just written, or the fault of its being gone. -/
def written {α : Type} (found : Except StoreFault (Option α)) : Except StoreFault α :=
  match found with
  | .ok (some a) => .ok a
  | .ok none => .error (.database .notFound)
  | .error fault => .error fault

/-- Enters a new user into the directory. -/
def enterUser (o : Occasion) (new : NewUser) (office : Office) :
    Except StoreFault User × Office :=
  match office.store.addUser (office.nextId o) o.now new with
  | .ok (user, store) => (.ok user, (office.afterDrawing 1).withStore store)
  | .error fault => (.error fault, office.afterDrawing 1)

/-- Enters a new document into the register of its kind. -/
def enterDocument (o : Occasion) (new : NewDocument) (office : Office) :
    Except StoreFault Document × Office :=
  match office.store.addDocument (office.nextId o) o.now new with
  | .ok (document, store) => (.ok document, (office.afterDrawing 1).withStore store)
  | .error fault => (.error fault, office.afterDrawing 1)

/-- Enters a new assignment and reads it back. -/
def enterAssignment (o : Occasion) (new : NewAssignment) (office : Office) :
    Except StoreFault Assignment × Office :=
  let id := office.nextId o
  match office.store.addAssignment id o.now new with
  | .ok store => (written (store.assignment? id), (office.afterDrawing 1).withStore store)
  | .error fault => (.error fault, office.afterDrawing 1)

/-- Enters a new acknowledgment task and reads it back. It takes an identifier of its own and
then one per recipient. -/
def enterAcknowledgment (o : Occasion) (new : NewAcknowledgment) (office : Office) :
    Except StoreFault AcknowledgmentTask × Office :=
  let id := office.nextId o
  let entryIds := (office.afterDrawing 1).upcoming o new.recipientIds.length
  let drawn := office.afterDrawing (new.recipientIds.length + 1)
  match office.store.addAcknowledgment id entryIds o.now new with
  | .ok store => (written (store.task? id), drawn.withStore store)
  | .error fault => (.error fault, drawn)

end Office

end Chancery
