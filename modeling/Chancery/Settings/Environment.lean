/-!
# Environments

A program is handed its variables as strings of bytes, in each of which an equals sign ends the
name. A variable is looked up by what its string begins with, so that a name with an equals sign in
it reaches into a value.

What a variable is set to need not be a text. Most of those who ask for a variable want one
(`Environment.value?`), and to them a variable that is set to no text is as good as not set.

## Main definitions

* `Environment`
* `Environment.bytes?`, `Environment.value?` — what a variable is set to, and the text that it is
* `Environment.IsReadable` — a variable that is not set to what is no text
* `Environment.set`
-/

namespace Chancery

/-- The variables of a program. -/
structure Environment where
  /-- Names with their values, an equals sign between them. -/
  entries : List (List UInt8)
  deriving DecidableEq, Repr

namespace Environment

/-- The bytes of a variable that is set to a text. -/
def entry (name value : String) : List UInt8 := (name ++ "=" ++ value).toUTF8.data.toList

/-- What the bytes of a variable begin with. -/
def start (name : String) : List UInt8 := entry name ""

/-- What a variable is set to. The empty name is none's. -/
def bytes? (env : Environment) (name : String) : Option (List UInt8) :=
  if name = "" then none
  else (env.entries.find? (start name).isPrefixOf).map (·.drop (start name).length)

/-- The value of a variable that is set to a text. -/
def value? (env : Environment) (name : String) : Option String :=
  (env.bytes? name).bind fun bytes => String.fromUTF8? ⟨bytes.toArray⟩

/-- Whether a variable is set to a text if it is set. -/
def IsReadable (env : Environment) (name : String) : Prop :=
  env.value? name = none → env.bytes? name = none

instance (env : Environment) (name : String) : Decidable (env.IsReadable name) :=
  inferInstanceAs (Decidable (_ → _))

/-- The environment with a variable set to a text. Where it was set before, that is forgotten. -/
def set (env : Environment) (name value : String) : Environment :=
  match env.entries.findIdx? (start name).isPrefixOf with
  | some i => ⟨env.entries.set i (entry name value)⟩
  | none => ⟨env.entries ++ [entry name value]⟩

theorem value?_of_bytes? {env : Environment} {name : String} (h : env.bytes? name = none) :
    env.value? name = none := by
  rw [value?, h, Option.bind_none]

end Environment

end Chancery
