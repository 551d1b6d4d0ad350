import Chancery.Assignment
import Chancery.Calendar.Reading
import Chancery.Json
import Chancery.Word

/-!
# Forms on the wire

A type that is sent or received has one form that is written and a set of forms that are read. All
forms of all types are instances of one class, so that a form is found by type and the forms of
lists and optional values are stated once.

## Records

A record is written as an object with all its fields. It is read from an object, where names that
are not fields are ignored, or from an array that lists the fields in their order. What happens to
a field that is left out depends on the field, and is not the same for the two forms: an absent
optional field is `null` in an object, but in an array it has to be listed unless it has a
default.

Reading a record is a walk over its fields. The state of the walk is what is left to read: all of
an object, or the rest of an array.

## Main definitions

* `Wire` — the class, with `Wire.encode` and `Wire.decode?`
* `Wire.Record`, `Wire.required`, `Wire.optional`, `Wire.defaulted`, `Wire.record?`
-/

namespace Chancery

/-- A type with a form on the wire. -/
class Wire (α : Type) where
  /-- The form that is written. -/
  encode : α → Json
  /-- Reads a form. -/
  decode? : Json → Option α

namespace Wire

/-! ### Values -/

instance : Wire String where
  encode s := .str s
  decode?
    | .str s => some s
    | _ => none

instance : Wire Bool where
  encode b := .bool b
  decode?
    | .bool b => some b
    | _ => none

instance : Wire Int where
  encode n := .int n
  decode?
    | .int n => if isWord n then some n else none
    | _ => none

instance {α : Type} [Wire α] : Wire (Option α) where
  encode
    | none => .null
    | some a => encode a
  decode?
    | .null => some none
    | v => (decode? v).map some

instance {α : Type} [Wire α] : Wire (List α) where
  encode l := .arr (l.map encode)
  decode?
    | .arr items => items.mapM decode?
    | _ => none

/-- Reads a text by a reader of texts. -/
def decodeText? {α : Type} (read? : String → Option α) : Json → Option α
  | .str s => read? s
  | _ => none

/-- Reads a name: the text itself, or an object whose only field has that name and is `null`. -/
def decodeName? {α : Type} (ofName? : String → Option α) : Json → Option α
  | .str s => ofName? s
  | .obj [(s, .null)] => ofName? s
  | _ => none

instance : Wire Identifier where
  encode a := .str a.text
  decode? := decodeText? Identifier.read?

instance : Wire Date where
  encode d := .str d.text
  decode? := decodeText? Date.read?

instance : Wire Instant where
  encode t := .str t.wire
  decode? := decodeText? Instant.read?

instance : Wire Role where
  encode r := .str r.name
  decode? := decodeName? Role.ofExactName?

instance : Wire RoleSet where
  encode s := encode s.toList
  decode? v := (decode? v).map RoleSet.ofList

instance : Wire DocumentKind where
  encode k := .str k.name
  decode? := decodeName? DocumentKind.ofName?

instance : Wire Status where
  encode s := .str s.name
  decode? := decodeName? Status.ofName?

/-! ### Records -/

/-- What is left to read of a record. -/
inductive Record where
  /-- Fields by name. -/
  | named (fields : List (String × Json))
  /-- Fields by position. -/
  | listed (items : List Json)

/-- A walk over the fields of a record, which fails on the first that does not read. -/
abbrev Fields := StateT Record Option

/-- The form of the next field, if there is one. -/
def next? (name : String) : Record → Option Json × Record
  | .named fields => (Json.lookupLast name fields, .named fields)
  | .listed [] => (none, .listed [])
  | .listed (v :: rest) => (some v, .listed rest)

/-- Reads the next field by a reader of forms. `unnamed` stands in for one that an object leaves
out and `unlisted` for one that an array is too short for; without a stand-in the record is
refused. -/
def fieldBy {α : Type} (read : Json → Option α) (name : String) (unnamed unlisted : Option α) :
    Fields α := fun r =>
  match next? name r, r with
  | (some v, rest), _ => (read v).map fun a => (a, rest)
  | (none, rest), .named _ => unnamed.map fun a => (a, rest)
  | (none, rest), .listed _ => unlisted.map fun a => (a, rest)

/-- Reads a field that must be there. -/
def required {α : Type} [Wire α] (name : String) : Fields α := fieldBy decode? name none none

/-- Reads an optional field. An array has to list it. -/
def optional {α : Type} [Wire α] (name : String) : Fields (Option α) :=
  fieldBy decode? name (some none) none

/-- Reads a field that has a default. -/
def defaulted {α : Type} [Wire α] (name : String) (default : α) : Fields α :=
  fieldBy decode? name (some default) (some default)

/-- Whether nothing is left over of a record. Fields of other names do not count. -/
def Record.isFinished : Record → Bool
  | .named _ => true
  | .listed items => items.isEmpty

/-- Reads a record by a walk over its fields; items beyond the last field are refused unless
`surplus` allows them. -/
def recordWith? {α : Type} (surplus : Bool) (fields : Fields α) (v : Json) : Option α :=
  let start := match v with
    | .obj fs => some (Record.named fs)
    | .arr items => some (Record.listed items)
    | _ => none
  match start.bind fields.run with
  | some (a, rest) => if surplus || rest.isFinished then some a else none
  | none => none

/-- Reads a record of which nothing may be left over. -/
def record? {α : Type} (fields : Fields α) (v : Json) : Option α := recordWith? false fields v

end Wire

end Chancery
