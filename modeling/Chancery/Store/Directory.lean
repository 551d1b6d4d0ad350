import Chancery.Store.Reading

/-!
# The directory in the store

Users are found by identifier or login and documents by identifier within the register of their
kind. Stored identifiers are compared with the canonical text, so a row under another spelling of
an identifier is not found by it.
-/

namespace Chancery.Store

/-- The user with an identifier. -/
def user? (s : Store) (id : Identifier) : Except StoreFault (Option User) :=
  match s.users.find? fun u => u.id = id.text with
  | none => .ok none
  | some row => row.toUser.map some

/-- The user with a login. -/
def userByLogin? (s : Store) (login : String) : Except StoreFault (Option User) :=
  match s.users.find? fun u => u.login = login with
  | none => .ok none
  | some row => row.toUser.map some

/-- Those of the given identifiers that name users, in order. -/
def existingUsers (s : Store) (ids : List Identifier) : List Identifier :=
  ids.filter fun id => s.hasUser id.text

/-- The document that a reference names. -/
def document? (s : Store) (ref : DocumentRef) : Except StoreFault (Option Document) :=
  match (s.register ref.kind).find? fun d => d.id = ref.id.text with
  | none => .ok none
  | some row => (row.toDocument ref.kind).map some

/-- The number of users. -/
def userCount (s : Store) : Nat := s.users.length

/-- The number of documents in both registers. -/
def documentCount (s : Store) : Nat := s.incoming.length + s.outgoing.length

/-- The row of a new user. -/
def userRow (id : Identifier) (now : Instant) (new : NewUser) : UserRow :=
  { id := id.text, login := new.login, fullName := new.fullName, roles := new.roles.text,
    createdAt := now }

/-- Adds a user under an identifier. -/
def addUser (id : Identifier) (now : Instant) (new : NewUser) (s : Store) :
    Except StoreFault (User × Store) := do
  let row := userRow id now new
  let s ← s.insertUser row
  return (← row.toUser, s)

/-- The row of a new document. -/
def documentRow (id : Identifier) (now : Instant) (new : NewDocument) : DocumentRow :=
  { id := id.text, number := new.number, subject := new.subject,
    createdAt := new.createdAt.getD now }

/-- Registers a document under an identifier. -/
def addDocument (id : Identifier) (now : Instant) (new : NewDocument) (s : Store) :
    Except StoreFault (Document × Store) := do
  let row := documentRow id now new
  let s ← s.insertDocument new.kind row
  return (← row.toDocument new.kind, s)

end Chancery.Store
