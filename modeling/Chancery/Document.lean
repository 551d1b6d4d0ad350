import Chancery.Calendar.Instant
import Chancery.Role

/-!
# Users and documents

The directory knows the people who work in the office and the documents registered there. A
document belongs to the register of its kind, and an identifier names a document only together
with that register.
-/

namespace Chancery

/-- Which register a document belongs to. -/
inductive DocumentKind where
  | incoming
  | outgoing
  deriving DecidableEq, Repr

namespace DocumentKind

/-- The name of a register. -/
def name : DocumentKind → String
  | .incoming => "incoming"
  | .outgoing => "outgoing"

/-- The register with exactly the given name. -/
def ofName? : String → Option DocumentKind
  | "incoming" => some .incoming
  | "outgoing" => some .outgoing
  | _ => none

@[simp] theorem ofName?_name (k : DocumentKind) : ofName? k.name = some k := by cases k <;> rfl

end DocumentKind

/-- A reference to a document in the register of its kind. -/
structure DocumentRef where
  id : Identifier
  kind : DocumentKind
  deriving DecidableEq

/-- A registered document. -/
structure Document where
  id : Identifier
  kind : DocumentKind
  number : String
  subject : String
  createdAt : Instant
  deriving DecidableEq

/-- What is given to register a document. -/
structure NewDocument where
  kind : DocumentKind
  number : String
  subject : String
  /-- The moment of registration, when it is not now. -/
  createdAt : Option Instant

/-- A person in the directory. -/
structure User where
  id : Identifier
  login : String
  fullName : String
  roles : RoleSet
  createdAt : Instant
  deriving DecidableEq

/-- The actor that a user is when making requests. -/
def User.actor (u : User) : Actor := ⟨u.id, u.roles⟩

/-- What is given to add a user. -/
structure NewUser where
  login : String
  fullName : String
  roles : RoleSet

end Chancery
