/-!
# Paths of files

A path leads from the root, name by name, and is read before anything is looked up: empty names and
`.` stay where they are, and `..` takes back the name before it. Above the root there is only the
root. What does not begin at the root begins at the folder in which the program works.

A name that is taken back has been entered all the same, so what a path comes by is told apart from
where it leads.

The names are bytes, since a path can hold bytes that are no text.

## Main definitions

* `FilePath`
* `FilePath.ofBytes`, `FilePath.wayOf` — where written bytes lead, and what they come by
* `FilePath.beside` — a file that is named after another
-/

namespace Chancery

/-- A path from the root. -/
structure FilePath where
  /-- The names, outermost first. -/
  names : List (List UInt8)
  deriving DecidableEq, Repr

namespace FilePath

/-- The byte between two names. -/
def separator : UInt8 := 0x2f

/-- The name that stays where it is. -/
def here : List UInt8 := [0x2e]

/-- The name that leads one folder up. -/
def above : List UInt8 := [0x2e, 0x2e]

/-- The path of no names. -/
def root : FilePath := ⟨[]⟩

/-- The folder that a path is in. -/
def parent (p : FilePath) : FilePath := ⟨p.names.dropLast⟩

/-- Follows one name. -/
def enter (p : FilePath) (name : List UInt8) : FilePath :=
  if name = [] ∨ name = here then p
  else if name = above then p.parent
  else ⟨p.names ++ [name]⟩

/-- The paths that names lead to one after another. -/
def way (p : FilePath) : List (List UInt8) → List FilePath
  | [] => []
  | name :: rest => p.enter name :: way (p.enter name) rest

/-- Where written bytes begin. -/
def startOf (folder : FilePath) (bytes : List UInt8) : FilePath :=
  if bytes.head? = some separator then root else folder

/-- Where written bytes lead. -/
def ofBytes (folder : FilePath) (bytes : List UInt8) : FilePath :=
  (bytes.splitOn separator).foldl enter (startOf folder bytes)

/-- What written bytes come by. -/
def wayOf (folder : FilePath) (bytes : List UInt8) : List FilePath :=
  (startOf folder bytes).way (bytes.splitOn separator)

/-- The bytes of a path. -/
def toBytes (p : FilePath) : List UInt8 := p.names.flatMap (separator :: ·)

/-- A path as text, if it is text. The root has a name of its own. -/
def text? (p : FilePath) : Option String :=
  if p = root then some "/" else String.fromUTF8? ⟨p.toBytes.toArray⟩

/-- A file in the same folder, whose name goes on with an ending. -/
def beside (p : FilePath) (ending : String) : FilePath :=
  ⟨p.names.dropLast ++ [p.names.getLastD [] ++ ending.toUTF8.toList]⟩

end FilePath

end Chancery
