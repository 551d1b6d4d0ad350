import Chancery.Identifier

/-!
# Roles and actors

Three roles exist, and a person holds any set of them. The set is three flags: two sets with the
same members are then the same value, and a set is always listed in one order.

An actor is whoever makes a request: an identity and the roles it holds. The library authenticates
nobody; an absent actor is an anonymous caller.
-/

namespace Chancery

/-- A role of the staff. -/
inductive Role where
  | admin
  | clerk
  | executor
  deriving DecidableEq, Repr

namespace Role

/-- The roles in their order. -/
def all : List Role := [.admin, .clerk, .executor]

/-- The name of a role. -/
def name : Role → String
  | .admin => "admin"
  | .clerk => "clerk"
  | .executor => "executor"

/-- The role with exactly the given name. -/
def ofExactName? : String → Option Role
  | "admin" => some .admin
  | "clerk" => some .clerk
  | "executor" => some .executor
  | _ => none

@[simp] theorem ofExactName?_name (r : Role) : ofExactName? r.name = some r := by
  cases r <;> rfl

/-- The role with the given name, in any case of ASCII letters and with blanks around it. -/
def ofName? (s : String) : Option Role :=
  ofExactName? (String.ofList ((Text.trimChars s.toList).map Char.toLower))

end Role

/-- A set of roles. -/
structure RoleSet where
  admin : Bool
  clerk : Bool
  executor : Bool
  deriving DecidableEq, Repr

namespace RoleSet

/-- The set without members. -/
def empty : RoleSet := ⟨false, false, false⟩

instance : EmptyCollection RoleSet := ⟨empty⟩

instance : Inhabited RoleSet := ⟨empty⟩

/-- Whether a role is a member. -/
def contains (s : RoleSet) : Role → Bool
  | .admin => s.admin
  | .clerk => s.clerk
  | .executor => s.executor

/-- The set with a member added. -/
def insert (s : RoleSet) : Role → RoleSet
  | .admin => { s with admin := true }
  | .clerk => { s with clerk := true }
  | .executor => { s with executor := true }

/-- The members in their order. -/
def toList (s : RoleSet) : List Role := Role.all.filter s.contains

/-- The set of the listed roles. -/
def ofList (rs : List Role) : RoleSet := rs.foldl insert empty

@[simp] theorem ofList_toList (s : RoleSet) : ofList s.toList = s := by
  obtain ⟨a, c, e⟩ := s
  cases a <;> cases c <;> cases e <;> rfl

/-- The roles named in a text, separated by commas; unknown names are dropped. -/
def parse (s : String) : RoleSet :=
  ofList ((s.toList.splitOn ',').filterMap fun cs => Role.ofName? (String.ofList cs))

/-- The names of the members, separated by commas. -/
def text (s : RoleSet) : String := ",".intercalate (s.toList.map Role.name)

end RoleSet

/-- Whoever makes a request. -/
structure Actor where
  id : Identifier
  roles : RoleSet
  deriving DecidableEq

namespace Actor

/-- Whether the actor holds a role. -/
def holds (a : Actor) (r : Role) : Bool := a.roles.contains r

/-- Whether the actor holds one of the listed roles. -/
def holdsAny (a : Actor) (rs : List Role) : Bool := rs.any a.holds

end Actor

end Chancery
