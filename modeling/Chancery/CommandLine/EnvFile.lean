import Chancery.Settings.Environment
import Chancery.Text.Alphanumeric
import Chancery.Text.Blank

/-!
# Variables kept in a file

A file may set variables for the program, one per line as `name=value`, with an optional `export`
in front and `#` before comments. The environment has the last word: a variable that is set to a
text already keeps its value. The first line that does not read, or is no text, ends the reading,
and what was read before it stays.

No variable can hold a zero byte, and a line that sets one to such a text cannot be passed over:
the program stops there.

A line goes on over its end inside quotes. In values, single quotes keep everything, double quotes
keep blanks, and outside both a blank ends the value. A backslash takes away the meaning of the
next character, and `$name` stands for a variable. A name without braces ends before the first
character that is neither letter nor number, in any script.

## Main definitions

* `EnvFile.logicalLines` — the text cut into lines
* `EnvFile.readValue?` — the right-hand side of a line
* `EnvFile.withText?` — an environment after a text
* `EnvFile.leadingText` — the text of a file
-/

namespace Chancery.EnvFile

/-! ### Lines -/

/-- Where a scan for the end of a line stands. -/
inductive Scan where
  | complete
  | afterBlank
  | escape
  | single (escaped : Bool)
  | double (escaped : Bool)
  | comment
  deriving DecidableEq, Repr

/-- The scan after a character that no blank, escape or quote precedes. -/
def Scan.ofPlain (c : Char) : Scan :=
  if c = '\\' then .escape
  else if c = '"' then .double false
  else if c = '\x27' then .single false
  else .complete

/-- The scan after one more character. -/
def Scan.next (c : Char) : Scan → Scan
  | .complete => if Text.isBlank c && c ≠ '\n' && c ≠ '\r' then .afterBlank else .ofPlain c
  | .afterBlank => if c = '#' then .comment else .ofPlain c
  | .escape => .complete
  | .single true => .single false
  | .single false =>
    if c = '\\' then .single true else if c = '\x27' then .complete else .single false
  | .double true => .double false
  | .double false =>
    if c = '\\' then .double true else if c = '"' then .complete else .double false
  | .comment => .comment

/-- Scans to the end of a text or the start of a comment: what stands before it, and the scan. -/
def scan : Scan → List Char → List Char × Scan
  | state, [] => ([], state)
  | state, c :: rest =>
    match state.next c with
    | .comment => ([], .comment)
    | state =>
      let (before, last) := scan state rest
      (c :: before, last)

/-- A text cut after every end of line. -/
def physicalLines : List Char → List (List Char)
  | [] => []
  | c :: rest =>
    if c = '\n' then [c] :: physicalLines rest
    else
      match physicalLines rest with
      | [] => [[c]]
      | line :: lines => (c :: line) :: lines

/-- A line without its end. -/
def withoutEnd (line : List Char) : List Char :=
  match line.reverse with
  | '\n' :: '\r' :: rest => rest.reverse
  | '\n' :: rest => rest.reverse
  | _ => line

/-- Whether a line is all comment. -/
def isComment (line : List Char) : Bool := (Text.trimLeft line).head? = some '#'

/-- The lines of a text; `none` for one that does not end. `begun` is the line so far. -/
def logicalLines : Scan → List Char → List (List Char) → List (Option (List Char))
  | state, _, [] => if state = .complete then [] else [none]
  | state, begun, line :: rest =>
    if begun.isEmpty && isComment line then logicalLines .complete [] rest
    else
      match scan state line with
      | (_, .complete) => some (withoutEnd (begun ++ line)) :: logicalLines .complete [] rest
      | (before, .comment) => some (begun ++ before) :: logicalLines .complete [] rest
      | (_, state) => logicalLines state (begun ++ line) rest

/-! ### Values -/

/-- Where the reading of a value stands. The flag says whether it is inside double quotes, and a
name is kept backwards. -/
inductive Place where
  | text (quoted : Bool)
  | escape (quoted : Bool)
  | single
  | name (quoted : Bool) (reversed : List Char)
  | braced (quoted : Bool) (reversed : List Char)
  /-- After the blank that ends the value. -/
  | ending

/-- The value of a variable; one that is not set is empty. -/
def lookUp (env : String → Option String) (reversed : List Char) : List Char :=
  ((env (String.ofList reversed.reverse)).getD "").toList

/-- What an escaped character stands for. -/
def unescape? (c : Char) : Option Char :=
  if c = 'n' then some '\n'
  else if ['\\', '\x27', '"', '$', ' '].contains c then some c
  else none

/-- Reads a value. -/
def readValue? (env : String → Option String) : Place → List Char → Option (List Char)
  | .text false, [] | .escape false, [] | .ending, [] => some []
  | .name false reversed, [] => some (lookUp env reversed)
  | _, [] => none
  | .text quoted, c :: rest =>
    if c = '$' then readValue? env (.name quoted []) rest
    else if c = '\\' then readValue? env (.escape quoted) rest
    else if c = '"' then readValue? env (.text !quoted) rest
    else if !quoted && c = '\x27' then readValue? env .single rest
    else if !quoted && (c = ' ' || c = '\t') then readValue? env .ending rest
    else (readValue? env (.text quoted) rest).map (c :: ·)
  | .escape quoted, c :: rest => do
    let c ← unescape? c
    return c :: (← readValue? env (.text quoted) rest)
  | .single, c :: rest =>
    if c = '\x27' then readValue? env (.text false) rest
    else (readValue? env .single rest).map (c :: ·)
  | .name quoted reversed, c :: rest =>
    if Text.isAlphanumeric c then readValue? env (.name quoted (c :: reversed)) rest
    else if c = '{' && reversed.isEmpty then readValue? env (.braced quoted []) rest
    else
      (if c = '$' then readValue? env (.name quoted []) rest
        else (readValue? env (.text quoted) rest).map (c :: ·)).map (lookUp env reversed ++ ·)
  | .braced quoted reversed, c :: rest =>
    if c = '}' then (readValue? env (.text quoted) rest).map (lookUp env reversed ++ ·)
    else readValue? env (.braced quoted (c :: reversed)) rest
  | .ending, c :: rest =>
    if c = ' ' || c = '\t' then readValue? env .ending rest
    else if c = '#' then some []
    else none

/-! ### Assignments -/

/-- Takes a name from the front. -/
def takeName? (s : List Char) : Option (List Char × List Char) :=
  match s with
  | c :: _ =>
    if c.isAlpha || c = '_' then
      some (s.span fun c => c.isAlphanum || c = '_' || c = '.')
    else none
  | [] => none

/-- Takes the sign between name and value, with the blanks around it. -/
def takeEquals? (s : List Char) : Option (List Char) :=
  match Text.trimLeft s with
  | '=' :: rest => some (Text.trimLeft rest)
  | _ => none

/-- Takes a name and the sign after it. The word `export` in front of a name means nothing, and
before the sign it is a name itself. -/
def takeTarget? (s : List Char) : Option (List Char × List Char) := do
  let (name, rest) ← takeName? s
  match takeEquals? rest with
  | some value => return (name, value)
  | none =>
    if name = "export".toList then
      let (name, rest) ← takeName? (Text.trimLeft rest)
      return (name, ← takeEquals? rest)
    else none

/-- Reads a line: `some none` is a line that sets nothing. -/
def readLine? (env : String → Option String) (line : List Char) :
    Option (Option (String × String)) :=
  let s := Text.trimChars line
  if s.isEmpty || s.head? = some '#' then some none
  else do
    let (name, value) ← takeTarget? s
    let value ←
      if value.head? = some '#' then some [] else readValue? env (.text false) value
    return some (String.ofList name, String.ofList value)

/-- An environment after the lines that set variables, up to the first line that does not read;
`none` if a variable cannot be set. One that is set to a text already keeps its value. -/
def withLines? : Environment → List (Option (List Char)) → Option Environment
  | env, some line :: rest =>
    match readLine? env.value? line with
    | none => some env
    | some none => withLines? env rest
    | some (some (name, value)) =>
      if (env.value? name).isSome then withLines? env rest
      else if value.toList.contains '\x00' then none
      else withLines? (env.set name value) rest
  | env, _ => some env

/-- An environment after a text; `none` if a variable cannot be set. A mark of byte order at the
front of the text is passed over. -/
def withText? (env : Environment) (text : String) : Option Environment :=
  let s := text.toList
  let s := if s.head? = some '\ufeff' then s.tail else s
  withLines? env (logicalLines .complete [] (physicalLines s))

/-- Bytes cut after every end of line. -/
def byteLines : List UInt8 → List (List UInt8)
  | [] => []
  | b :: rest =>
    if b = 0x0A then [b] :: byteLines rest
    else
      match byteLines rest with
      | [] => [[b]]
      | line :: lines => (b :: line) :: lines

/-- The texts of the lines before the first that is no text. -/
def leadingTexts : List (List UInt8) → List String
  | [] => []
  | line :: lines =>
    match String.fromUTF8? ⟨line.toArray⟩ with
    | some text => text :: leadingTexts lines
    | none => []

/-- The text of a file, up to the first line that is no text. -/
def leadingText (bytes : ByteArray) : String :=
  String.join (leadingTexts (byteLines bytes.toList))

end Chancery.EnvFile
