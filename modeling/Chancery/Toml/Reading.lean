import Chancery.Toml.Scalar
import Chancery.Toml.Tree

/-!
# Reading TOML documents

A document is a list of lines: headers, keys with values, comments and nothing. A line of keys
belongs to the table of the header before it. Values may span lines where they are arrays or long
strings; inline tables may not.

Nesting is limited, both of values within values and of keys joined by dots, so that a reader
needs no more room than a fixed amount per level.

## Main definitions

* `Toml.parse?` — the JSON value of a whole document
-/

namespace Chancery.Toml

/-- How deep values and keys may nest; the limit itself is out of bounds. -/
def depthLimit : Nat := 80

/-! ### Keys -/

/-- Whether a character may stand in a key without quotes. -/
def isBareKey (c : Char) : Bool := c.isAlphanum || c = '_' || c = '-'

/-- Takes one part of a key from the front. -/
def readPart? (s : List Char) : Option (String × List Char) :=
  match s with
  | '"' :: rest => readKeyString? '"' rest
  | '\x27' :: rest => readKeyString? '\x27' rest
  | _ =>
    let part := s.takeWhile isBareKey
    if part.isEmpty then none else some (String.ofList part, s.drop part.length)

/-- Takes the parts of a key from the front, blanks around each. -/
def readParts? : Nat → List Char → Option (List String × List Char)
  | 0, _ => none
  | fuel + 1, s =>
    match readPart? (skipGap s) with
    | none => none
    | some (part, rest) =>
      match skipGap rest with
      | '.' :: rest => (readParts? fuel rest).map fun (parts, rest) => (part :: parts, rest)
      | rest => some ([part], rest)

/-- A key: the tables it passes through and its last part. -/
structure Key where
  path : List String
  last : String

/-- Takes a key from the front. -/
def readKey? (s : List Char) : Option (Key × List Char) :=
  match readParts? (depthLimit - 1) s with
  | some (parts, rest) => parts.getLast?.map fun last => (⟨parts.dropLast, last⟩, rest)
  | none => none

/-! ### Values -/

/-- Removes blanks, line breaks and comments from the front; within a comment at first if so
told. -/
def skipFill (inComment : Bool) : List Char → List Char
  | [] => []
  | c :: rest =>
    if inComment && isPlain c then skipFill true rest
    else if c = '\n' ∨ c = '\r' ∧ rest.head? = some '\n' then skipFill false rest
    else if inComment then c :: rest
    else if isGap c then skipFill false rest
    else if c = '#' then skipFill true rest
    else c :: rest

mutual

/-- Takes a value at a depth of nesting from the front. -/
def readValue? : Nat → Nat → List Char → Option (Json × List Char)
  | 0, _, _ => none
  | fuel + 1, depth, s =>
    match s with
    | '"' :: rest => (readString? '"' rest).map fun (text, rest) => (.str text, rest)
    | '\x27' :: rest => (readString? '\x27' rest).map fun (text, rest) => (.str text, rest)
    | '[' :: rest =>
      if depth + 1 < depthLimit then
        (readItems? fuel (depth + 1) rest).map fun (items, rest) => (.arr items, rest)
      else none
    | '{' :: rest =>
      if depth + 1 < depthLimit then
        match skipGap rest with
        | '}' :: rest => some (.obj [], rest)
        | rest => (readPairs? fuel (depth + 1) [] rest).map fun (entries, rest) =>
            (Entries.toJson entries, rest)
      else none
    | _ => readScalar? s

/-- Takes the remaining items of an array from the front, up to its bracket. -/
def readItems? : Nat → Nat → List Char → Option (List Json × List Char)
  | 0, _, _ => none
  | fuel + 1, depth, s =>
    match skipFill false s with
    | ']' :: rest => some ([], rest)
    | s =>
      match readValue? fuel depth s with
      | none => none
      | some (v, rest) =>
        match skipFill false rest with
        | ',' :: rest => (readItems? fuel depth rest).map fun (items, rest) => (v :: items, rest)
        | ']' :: rest => some ([v], rest)
        | _ => none

/-- Takes the remaining keys and values of an inline table from the front, up to its brace. -/
def readPairs? : Nat → Nat → Entries → List Char → Option (Entries × List Char)
  | 0, _, _, _ => none
  | fuel + 1, depth, entries, s =>
    match readKey? s with
    | some (key, '=' :: rest) =>
      match readValue? fuel depth (skipGap rest) with
      | none => none
      | some (v, rest) =>
        match entries.assign? true key.path key.last v with
        | none => none
        | some entries =>
          match skipGap rest with
          | ',' :: rest => readPairs? fuel depth entries rest
          | '}' :: rest => some (entries, rest)
          | _ => none
    | _ => none

end

/-! ### Documents -/

/-- Takes the rest of a line from the front: blanks, a comment, and a line break unless the
document ends. -/
def readLineEnd? (s : List Char) : Option (List Char) :=
  let s := skipGap s
  let s := if s.head? = some '#' then s.dropWhile isPlain else s
  if s.isEmpty then some [] else lineBreak? s

/-- A document as far as it has been read: the tree and the header in force. -/
structure Document where
  entries : Entries
  header : List String

/-- Carries out a header. -/
def Document.open? (isElement : Bool) (key : Key) (d : Document) : Option Document :=
  let opened :=
    if isElement then d.entries.openElement? key.path key.last
    else d.entries.openTable? key.path key.last
  opened.map fun entries => ⟨entries, key.path ++ [key.last]⟩

/-- Carries out a line with a key and a value. -/
def Document.assign? (key : Key) (v : Json) (d : Document) : Option Document :=
  let assign := Entries.assign? true key.path key.last v
  (Entries.atHeader? assign d.header d.entries).map fun entries => { d with entries }

/-- Takes one line from the front and carries it out. -/
def readLine (d : Document) (s : List Char) : Option (Document × List Char) :=
  match s with
  | '[' :: '[' :: rest =>
    match readKey? rest with
    | some (key, ']' :: ']' :: rest) => do
      let rest ← readLineEnd? rest
      let d ← d.open? true key
      return (d, rest)
    | _ => none
  | '[' :: rest =>
    match readKey? rest with
    | some (key, ']' :: rest) => do
      let rest ← readLineEnd? rest
      let d ← d.open? false key
      return (d, rest)
    | _ => none
  | c :: _ =>
    if c = '#' ∨ (lineBreak? s).isSome then (readLineEnd? s).map fun rest => (d, rest)
    else
      match readKey? s with
      | some (key, '=' :: rest) => do
        let rest := skipGap rest
        let (v, rest) ← readValue? (2 * rest.length + 2) 0 rest
        let rest ← readLineEnd? rest
        let d ← d.assign? key v
        return (d, rest)
      | _ => none
  | [] => some (d, [])

/-- Takes all lines. -/
def readLines? : Nat → Document → List Char → Option Document
  | 0, _, _ => none
  | fuel + 1, d, s =>
    match skipGap s with
    | [] => some d
    | s =>
      match readLine d s with
      | some (d, rest) => readLines? fuel d rest
      | none => none

/-- The JSON value of a document. A byte order mark in front does not count. -/
def parse? (text : String) : Option Json :=
  let s := match text.toList with
    | '\ufeff' :: rest => rest
    | s => s
  (readLines? (s.length + 1) ⟨[], []⟩ s).map fun d => d.entries.toJson

end Chancery.Toml
