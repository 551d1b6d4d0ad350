/-!
# Text for terminals

A text can be marked for a terminal by control sequences, which say how the rest of it is shown.
Anywhere else it is written without them, and without the control characters that do not move on
in the text. The marks may stand around texts that come from elsewhere and hold sequences of their
own, complete or not, so the whole text is read the way a terminal reads it.

A sequence begins with an escape character, and its next character tells what it is: a command with
parameters, which ends with its first letter or a sign among the letters; a title, which ends with a
bell; a string, which ends with the byte `9C`, be that a part of a character; or something shorter.
Two control characters cancel a sequence, and another escape character begins a new one.

A line break or a tabulator inside a command is shown at once, together with what follows it up to
the next control character. Only there does the command go on.

## Main definitions

* `bold`, `heading` — marked texts
* `ControlState` — what a terminal is in the middle of
* `plain` — a text without controls
-/

namespace Chancery.Text

/-- A text in bold type. -/
def bold (s : String) : String := "\x1b[1m" ++ s ++ "\x1b[0m"

/-- A text in bold type that is underlined. -/
def heading (s : String) : String := "\x1b[1m\x1b[4m" ++ s ++ "\x1b[0m"

/-- What a terminal is in the middle of. -/
inductive ControlState where
  | ground
  | escape
  /-- A short sequence, up to its last character. -/
  | short
  | command
  | title
  /-- The front of a string for a device: nothing, parameters or signs so far. -/
  | deviceStart
  | deviceParameters
  | deviceSigns
  | string
  deriving DecidableEq, Repr

/-- Whether a character is between two others. -/
def isBetween (first last c : Char) : Bool := first ≤ c && c ≤ last

/-- Whether a control character only moves on in the text. -/
def isSpacing (c : Char) : Bool := c = '\t' || c = '\n' || c = '\x0c' || c = '\r'

/-- The byte that ends a string. -/
def stringEnd : UInt8 := 0x9c

namespace ControlState

/-- What a character leads to that cancels everything. -/
def cancelled? (c : Char) : Option ControlState :=
  if c = '\x1b' then some .escape
  else if c = '\x18' || c = '\x1a' then some .ground
  else none

/-- What the character after an escape character leads to. -/
def opened (c : Char) : ControlState :=
  if isBetween ' ' '/' c then .short
  else if c = '[' then .command
  else if c = ']' then .title
  else if c = 'P' then .deviceStart
  else if c = 'X' || c = '^' || c = '_' then .string
  else if isBetween '0' '~' c then .ground
  else .escape

/-- What one more character leads to, if it cancels nothing. -/
def following (s : ControlState) (c : Char) : ControlState :=
  match s with
  | .ground => .ground
  | .escape => opened c
  | .short => if isBetween '0' '~' c then .ground else .short
  | .command => if isBetween '@' '~' c then .ground else .command
  | .title => if c = '\x07' then .ground else .title
  | .deviceStart =>
    if isBetween ' ' '/' c then .deviceSigns
    else if isBetween '0' '?' c then .deviceParameters
    else if isBetween '@' '~' c then .string
    else .deviceStart
  | .deviceParameters =>
    if isBetween ' ' '/' c then .deviceSigns
    else if isBetween '<' '~' c then .string
    else .deviceParameters
  | .deviceSigns => if isBetween '0' '~' c then .string else .deviceSigns
  | .string => if (String.utf8EncodeChar c).contains stringEnd then .ground else .string

/-- What one more character leads to. -/
def next (s : ControlState) (c : Char) : ControlState := (cancelled? c).getD (s.following c)

/-- Whether a character is shown. -/
def shows (s : ControlState) (c : Char) : Bool :=
  match s with
  | .ground => isSpacing c || (' ' ≤ c && c ≠ '\x7f')
  | .escape | .short | .command => isSpacing c
  | _ => false

end ControlState

/-- The characters of a text that are shown. While some are being shown, what the terminal was in
the middle of waits; a character outside ASCII ends it. -/
def shownChars (isShowing : Bool) (s : ControlState) : List Char → List Char
  | [] => []
  | c :: rest =>
    if isShowing then
      if ControlState.ground.shows c then
        c :: shownChars true (if c.toNat < 128 then s else .ground) rest
      else shownChars false (s.next c) rest
    else if s.shows c then c :: shownChars true (s.next c) rest
    else shownChars false (s.next c) rest

/-- A text without controls. -/
def plain (s : String) : String := String.ofList (shownChars false .ground s.toList)

end Chancery.Text
