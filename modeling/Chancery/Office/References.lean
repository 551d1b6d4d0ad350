import Chancery.Failure
import Chancery.Store.Directory

/-!
# References

A request may name users and documents only if they exist. The checks read the directory before
anything is written, and the first name that is missing is reported.
-/

namespace Chancery.Store

/-- Names the step that met a fault of the store. -/
def during {α : Type} (operation : String) (answer : Except StoreFault α) : Except Failure α :=
  answer.mapError (.storage operation)

/-- Checks that a document exists in the register of its kind. -/
def requireDocument (s : Store) (ref : DocumentRef) : Except Failure Unit := do
  match ← during "directory.document" (s.document? ref) with
  | some _ => return ()
  | none =>
    throw (.invalidReference
      (ref.kind.name ++ " document " ++ ref.id.text ++ " does not exist"))

/-- Checks that users exist. -/
def requireUsers (s : Store) (ids : List Identifier) : Except Failure Unit :=
  match ids.find? fun id => !(s.existingUsers ids).contains id with
  | some missing => .error (.invalidReference ("user " ++ missing.text ++ " does not exist"))
  | none => .ok ()

end Chancery.Store
