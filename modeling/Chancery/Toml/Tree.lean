import Chancery.Json

/-!
# Trees of a TOML document

A TOML document builds a tree of tables from lines that may come in any order, and most of the
format's rules are about what may not be said twice. Whether a table may be extended depends on
how it came about, so every table carries its origin:

* *defined* by a header of its own, which may happen once;
* *implied* by a longer header, so that a header of its own may still come;
* *dotted*, opened by a dotted key, so that only further dotted keys may extend it.

A table written inline is a finished value. Trees are read off as JSON values, for which the
difference between the origins is gone.

## Main definitions

* `Node`, `Entries`
* `Entries.assign?` — a dotted key and its value within a table
* `Entries.openTable?`, `Entries.openElement?` — the two kinds of header
* `Entries.toJson`
-/

namespace Chancery.Toml

/-- How a table came about. -/
inductive Origin where
  | defined
  | implied
  | dotted
  deriving DecidableEq, Repr

/-- A place in the tree of a document. -/
inductive Node where
  | value (value : Json)
  | table (origin : Origin) (entries : List (String × Node))
  /-- A list of tables, each opened by a header in double brackets. -/
  | tables (elements : List (List (String × Node)))
  deriving Inhabited

/-- What a table holds. -/
abbrev Entries := List (String × Node)

namespace Entries

/-- Changes the node under a key. -/
def alter? (key : String) (change : Option Node → Option Node) : Entries → Option Entries
  | [] => (change none).map fun n => [(key, n)]
  | (k, n) :: rest =>
    if k = key then (change (some n)).map fun n => (k, n) :: rest
    else (alter? key change rest).map ((k, n) :: ·)

/-- Changes the last element of a list, if there is one. -/
def changeLast? {α : Type} (change : α → Option α) (l : List α) : Option (List α) :=
  match l.getLast? with
  | some a => (change a).map fun a => l.dropLast ++ [a]
  | none => none

/-- Changes the entries of the table that a header names, opening the tables on the way. A list of
tables is entered at its last element. -/
def atHeader? (change : Entries → Option Entries) : List String → Entries → Option Entries
  | [], entries => change entries
  | key :: keys, entries =>
    alter? key (fun
      | none => (atHeader? change keys []).map (.table .implied)
      | some (.value _) => none
      | some (.table origin entries) => (atHeader? change keys entries).map (.table origin)
      | some (.tables elements) =>
        (changeLast? (atHeader? change keys) elements).map .tables) entries

/-- Opens a table: one that is new or so far only implied becomes defined. -/
def define? (key : String) : Entries → Option Entries :=
  alter? key fun
    | none => some (.table .defined [])
    | some (.table .implied entries) => some (.table .defined entries)
    | _ => none

/-- Adds an element to a list of tables. -/
def extend? (key : String) : Entries → Option Entries :=
  alter? key fun
    | none => some (.tables [[]])
    | some (.tables elements) => some (.tables (elements ++ [[]]))
    | _ => none

/-- Carries out a header in brackets. -/
def openTable? (path : List String) (last : String) : Entries → Option Entries :=
  atHeader? (define? last) path

/-- Carries out a header in double brackets. -/
def openElement? (path : List String) (last : String) : Entries → Option Entries :=
  atHeader? (extend? last) path

/-- Puts a value under a key that is new. -/
def insertNew? (key : String) (v : Json) : Entries → Option Entries :=
  alter? key fun
    | none => some (.value v)
    | some _ => none

/-- Puts a value under a dotted key within a table. `fits` says whether the table so far reached
may hold it: the table of the line itself, or one that dotted keys opened. -/
def assign? (fits : Bool) : List String → String → Json → Entries → Option Entries
  | [], last, v, entries => if fits then insertNew? last v entries else none
  | key :: keys, last, v, entries =>
    alter? key (fun
      | none => (assign? true keys last v []).map (.table .dotted)
      | some (.value _) => none
      | some (.table .defined _) => none
      | some (.table origin entries) =>
        (assign? (origin = .dotted) keys last v entries).map (.table origin)
      | some (.tables elements) =>
        (changeLast? (assign? false keys last v) elements).map .tables) entries

mutual

/-- The JSON value of a node. -/
def nodeJson : Node → Json
  | .value v => v
  | .table _ entries => .obj (entriesJson entries)
  | .tables elements => .arr (elementsJson elements)

/-- The fields of a table. -/
def entriesJson : List (String × Node) → List (String × Json)
  | [] => []
  | (key, n) :: rest => (key, nodeJson n) :: entriesJson rest

/-- The elements of a list of tables. -/
def elementsJson : List (List (String × Node)) → List Json
  | [] => []
  | entries :: rest => .obj (entriesJson entries) :: elementsJson rest

end

/-- The JSON value of a table. -/
def toJson (entries : Entries) : Json := .obj (entriesJson entries)

end Entries

end Chancery.Toml
