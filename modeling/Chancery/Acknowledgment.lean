import Chancery.Document

/-!
# Acknowledgments

An acknowledgment task asks a fixed set of users to read and confirm a document. Each recipient
has an entry of its own; the task is complete when every entry is confirmed.
-/

namespace Chancery

/-- One recipient's entry on an acknowledgment task. -/
structure Recipient where
  id : Identifier
  acknowledgmentId : Identifier
  userId : Identifier
  userName : Option String
  viewedAt : Option Instant
  confirmedAt : Option Instant
  createdAt : Instant
  deriving DecidableEq

/-- Whether the recipient has confirmed. -/
def Recipient.isConfirmed (r : Recipient) : Bool := r.confirmedAt.isSome

/-- A request to a set of users to read and confirm a document. -/
structure AcknowledgmentTask where
  id : Identifier
  document : DocumentRef
  documentNumber : Option String
  content : String
  creatorId : Identifier
  creatorName : Option String
  createdAt : Instant
  completedAt : Option Instant
  recipients : List Recipient
  deriving DecidableEq

namespace AcknowledgmentTask

/-- Whether the task has been stamped complete. -/
def isCompleted (t : AcknowledgmentTask) : Bool := t.completedAt.isSome

/-- How many recipients have confirmed. -/
def confirmedCount (t : AcknowledgmentTask) : Nat := t.recipients.countP Recipient.isConfirmed

/-- The first entry of a user. -/
def recipient? (t : AcknowledgmentTask) (user : Identifier) : Option Recipient :=
  t.recipients.find? fun r => r.userId = user

end AcknowledgmentTask

/-- What is given to create an acknowledgment task, after its texts were read. -/
structure NewAcknowledgment where
  document : DocumentRef
  content : String
  creatorId : Identifier
  recipientIds : List Identifier

/-- What viewing or confirming did to the entry of the caller. -/
inductive RecipientUpdate where
  /-- The time was recorded by this call. -/
  | recorded
  /-- The time had been recorded before; nothing changed. -/
  | alreadyRecorded
  /-- The caller has no entry on the task. -/
  | notRecipient
  deriving DecidableEq, Repr

/-- What confirming did. -/
structure ConfirmOutcome where
  recipient : RecipientUpdate
  /-- Whether this was the last confirmation and stamped the task complete. -/
  completedTask : Bool
  deriving DecidableEq, Repr

end Chancery
