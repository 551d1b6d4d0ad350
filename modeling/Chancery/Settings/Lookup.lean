import Chancery.Settings.Environment
import Chancery.Settings.Substitution
import Chancery.Settings.Validation
import Chancery.Toml.Reading
import Chancery.Wire.Settings

/-!
# Looking up settings

A settings file is named by the caller, or by a variable of the environment, or it is the first of
the search paths that is a file. Once one is chosen it has to do: a file that cannot be read,
expanded, parsed or accepted is an error and never gives way to the next one. Only where nothing
was chosen at all may the initial settings stand in.

The world is a parameter: the variables that are set, the paths that are files and the bytes that
can be read. So is what a path is, since a path need not be a text; all that is asked of paths is
in `PathLike`, and where nothing else is said they are texts. The default search paths are: a
directory that is named by no text is not among them.

## Main definitions

* `PathLike`, `Surroundings`
* `searchPaths` — where files are looked for by default
* `Settings.choosePath`, `Settings.loadFile`, `Settings.load`, `Settings.loadOrInitial`
-/

namespace Chancery

/-- What paths are good for. -/
class PathLike (π : Type) where
  /-- The path that a text names. -/
  ofText : String → π
  /-- The extension of a path, if it has one that is a text. -/
  extension? : π → Option String
  /-- A path as it stands in messages. -/
  shown : π → String

/-- What settings are looked up in. -/
structure Surroundings (π : Type := String) where
  env : Environment
  /-- Whether a path names a regular file. -/
  isFile : π → Bool
  /-- The bytes of a file that can be read. -/
  read? : π → Option ByteArray

section Surroundings

variable {π : Type}

/-- The value of a variable that is set to a text. -/
def Surroundings.value? (w : Surroundings π) : String → Option String := w.env.value?

/-- The text of a file that can be read and is text. -/
def Surroundings.readText? (w : Surroundings π) (path : π) : Option String :=
  (w.read? path).bind String.fromUTF8?

/-- The first search path that is a file. -/
def Surroundings.findFile? (w : Surroundings π) (paths : List π) : Option π :=
  paths.find? w.isFile

end Surroundings

/-- Why no settings could be loaded. -/
inductive LoadError (π : Type := String) where
  | notFound
  | unreadable (path : π)
  | unset (reason : Substitution.Unset)
  | unsupported (extension : String)
  /-- The text is no document, or no document of settings. -/
  | malformed
  | invalid (reason : InvalidSettings)
  deriving DecidableEq, Repr

/-- The wording of settings that could not be loaded. What the operating system or the reader of
documents has to say is not repeated. -/
def LoadError.message {π : Type} [PathLike π] : LoadError π → String
  | .notFound => "Configuration file not found in any search location"
  | .unreadable path => "Failed to read configuration file " ++ PathLike.shown path
  | .unset reason => "Environment variable substitution failed: " ++ reason.text
  | .unsupported extension => "Unsupported configuration file format: " ++ extension
  | .malformed => "Failed to parse TOML configuration"
  | .invalid reason => "Configuration validation failed: " ++ reason.message

/-! ### Paths -/

/-- A path below another; an absolute path stands for itself. -/
def joinPath (base path : String) : String :=
  if path.toList.head? = some '/' then path
  else if base = "" ∨ base.toList.getLast? = some '/' then base ++ path
  else base ++ "/" ++ path

/-- The last name of a path. -/
def lastName (path : List Char) : List Char := (path.reverse.takeWhile (· ≠ '/')).reverse

/-- What follows the last point of the last name of a path. A point that begins a name begins no
extension. -/
def extension? (path : String) : Option String :=
  let name := lastName path.toList
  let extension := (name.reverse.takeWhile (· ≠ '.')).reverse
  let stem := name.length - extension.length
  if name = ['.', '.'] ∨ stem ≤ 1 then none else some (String.ofList extension)

@[default_instance]
instance : PathLike String where
  ofText := id
  extension? := extension?
  shown := id

/-- The directory of the user's settings: the one named for it if that is absolute, else the
customary one in the home directory. -/
def userDirectory? (env : String → Option String) : Option String :=
  match (env "XDG_CONFIG_HOME").filter fun d => d.toList.head? = some '/' with
  | some d => some d
  | none => ((env "HOME").filter (· ≠ "")).map fun home => joinPath home ".config"

/-- Where settings files are looked for: the working directory, the user's directory, the
system's. -/
def searchPaths (env : String → Option String) : List String :=
  ["./docflow.toml"]
    ++ ((userDirectory? env).map fun d => joinPath (joinPath d "docflow") "config.toml").toList
    ++ ["/etc/docflow/config.toml"]

/-! ### Loading -/

/-- The variable that names a settings file. -/
def pathVariable : String := "DOCFLOW_CONFIG"

namespace Settings

variable {π : Type}

/-- The path of the settings file: the one given, else the one the environment names, else the
first search path that is a file. -/
def choosePath [PathLike π] (w : Surroundings π) (paths : List π) (given : Option π) :
    Option π :=
  match given with
  | some path => some path
  | none =>
    match w.value? pathVariable with
    | some text => some (PathLike.ofText text)
    | none => w.findFile? paths

/-- Reads the settings of a document. Which documents are read depends on the extension of the
file: `toml`, or none. -/
def ofDocument (extension : Option String) (text : String) : Except (LoadError π) Settings :=
  match extension.filter (· ≠ "toml") with
  | some other => .error (.unsupported other)
  | none =>
    match (Toml.parse? text).bind (Settings.decode? true) with
    | some s => .ok s
    | none => .error .malformed

/-- Refuses settings with problems. -/
def accept (s : Settings) : Except (LoadError π) Settings :=
  match s.validate with
  | .ok () => .ok s
  | .error reason => .error (.invalid reason)

/-- Loads a file. -/
def loadFile [PathLike π] (w : Surroundings π) (path : π) : Except (LoadError π) Settings :=
  match w.readText? path with
  | none => .error (.unreadable path)
  | some text =>
    match Substitution.expand w.value? text with
    | .error reason => .error (.unset reason)
    | .ok text => ofDocument (PathLike.extension? path) text >>= accept

/-- Loads the settings file that is chosen. -/
def load [PathLike π] (w : Surroundings π) (paths : List π) (given : Option π) :
    Except (LoadError π) Settings :=
  match choosePath w paths given with
  | some path => loadFile w path
  | none => .error .notFound

/-- Loads the settings file that is chosen, or the initial settings where none is. -/
def loadOrInitial [PathLike π] (w : Surroundings π) (paths : List π) (given : Option π) :
    Except (LoadError π) Settings :=
  match load w paths given with
  | .error .notFound => .ok .initial
  | other => other

end Settings

end Chancery
