import Chancery.Calendar.Instant
import Chancery.Text.Blank

/-!
# Reading dates and instants

Two readers of dates exist because two kinds of text are read.

A *request* date is what a person typed, `Date.parse?`: year, month and day joined by hyphens that
follow their numbers immediately, with blanks allowed before each number. A year without a sign
has at most four digits; with a sign it may have any number, as long as the calendar's range of
years, `-262143` to `262142`, holds it.

A *message* date, `Date.read?`, comes from another program and is read more loosely: blanks may
also stand before the hyphens and at the end.

Instants come only in messages. `Instant.read?` takes a message date, a separator (`T`, `t` or a
blank), a time with an optional fraction, and then `Z`, `UTC` or an offset, and moves the reading
to UTC, where the range of years holds too. Digits of the fraction beyond the ninth are dropped.

All readers work from the front of a list of characters and hand back the rest.
-/

namespace Chancery

namespace Date

/-- The years that texts may name. -/
def inRange (year : Int) : Bool := -262143 ≤ year && year ≤ 262142

/-- Takes a literal character from the front. -/
def expect? (c : Char) : List Char → Option (List Char)
  | [] => none
  | d :: s => if c = d then some s else none

/-- Takes a year from the front: blanks, then a sign and digits, or at most four digits. -/
def takeYear? (s : List Char) : Option (Int × List Char) :=
  match Text.trimLeft s with
  | '-' :: r => (Text.scanNumber? none r).map fun (n, rest) => (-(n : Int), rest)
  | '+' :: r => (Text.scanNumber? none r).map fun (n, rest) => ((n : Int), rest)
  | r => (Text.scanNumber? (some 4) r).map fun (n, rest) => ((n : Int), rest)

/-- Takes a number of one or two digits from the front, after blanks. -/
def takeField? (s : List Char) : Option (Nat × List Char) :=
  Text.scanNumber? (some 2) (Text.trimLeft s)

/-- Takes a date from the front. `gap` says whether blanks may stand before the hyphens. -/
def take? (gap : Bool) (s : List Char) : Option (Date × List Char) := do
  let skip := fun r => if gap then Text.trimLeft r else r
  let (year, s) ← takeYear? s
  let s ← expect? '-' (skip s)
  let (month, s) ← takeField? s
  let s ← expect? '-' (skip s)
  let (day, s) ← takeField? s
  if inRange year then
    let date ← of? year month day
    return (date, s)
  else none

/-- Reads the date of a request; nothing may follow it. -/
def parse? (s : String) : Option Date :=
  match take? false s.toList with
  | some (d, []) => some d
  | _ => none

/-- Reads the date of a message; blanks may follow it. -/
def read? (s : String) : Option Date :=
  match take? true s.toList with
  | some (d, rest) => if (Text.trimLeft rest).isEmpty then some d else none
  | none => none

end Date

namespace Instant

/-- Takes the time of day from the front, up to and including the fraction: seconds since
midnight and nanoseconds, with second 60 as a leap second. -/
def takeClock? (s : List Char) : Option ((Nat × Nat) × List Char) := do
  let (hour, s) ← Date.takeField? s
  let s ← Date.expect? ':' (Text.trimLeft s)
  let (minute, s) ← Date.takeField? s
  let s ← Date.expect? ':' (Text.trimLeft s)
  let (second, s) ← Date.takeField? s
  let (nano, s) ← match s with
    | '.' :: r =>
      match Text.scanNumber? (some 9) r with
      | none => none
      | some (n, rest) =>
        some (n * Nat.pow 10 (9 - (r.length - rest.length)), rest.dropWhile Text.isDigit)
    | _ => some (0, s)
  if hour ≤ 23 ∧ minute ≤ 59 ∧ second ≤ 60 then
    let base := hour * 3600 + minute * 60
    if second = 60 then return ((base + 59, nano + 1000000000), s)
    else return ((base + second, nano), s)
  else none

/-- Takes the offset from UTC from the front, in seconds east. -/
def takeOffset? (s : List Char) : Option (Int × List Char) :=
  match s with
  | 'Z' :: r | 'z' :: r => some (0, r)
  | sign :: h₁ :: h₂ :: r =>
    if (sign = '+' ∨ sign = '-' ∨ sign = '−') ∧ Text.isDigit h₁ ∧ Text.isDigit h₂ then
      match r.dropWhile (fun c => c = ':' || Text.isBlank c) with
      | m₁ :: m₂ :: rest =>
        let minutes := Text.decimalValue [m₁, m₂]
        let hours := Text.decimalValue [h₁, h₂]
        if Text.isDigit m₁ ∧ Text.isDigit m₂ ∧ minutes ≤ 59 ∧ hours ≤ 23 then
          let seconds : Int := hours * 3600 + minutes * 60
          some (if sign = '+' then seconds else -seconds, rest)
        else none
      | _ => none
    else none
  | _ => none

/-- Takes the zone from the front, `UTC` in any case or an offset. -/
def takeZone? (s : List Char) : Option (Int × List Char) :=
  let s := Text.trimLeft s
  if (s.take 3).map Char.toLower = ['u', 't', 'c'] then some (0, s.drop 3) else takeOffset? s

/-- The instant that a local reading denotes at an offset of less than a day, unless it lies in a
year that texts may not name. -/
def ofLocal? (date : Date) (second nano : Nat) (offset : Int) : Option Instant :=
  let utc : Int := second - offset
  let date := if utc < 0 then date.prev else if 86400 ≤ utc then date.next else date
  let second := (utc % 86400).toNat
  if h : second < 86400 ∧ (nano < 1000000000 ∨ second % 60 = 59 ∧ nano < 2000000000) then
    if Date.inRange date.year then some ⟨date, second, nano, h.1, h.2⟩ else none
  else none

/-- Takes an instant from the front. -/
def take? (s : List Char) : Option (Instant × List Char) := do
  let (date, s) ← Date.take? true s
  let s ← match s with
    | 'T' :: r | 't' :: r | ' ' :: r => some r
    | _ => none
  let ((second, nano), s) ← takeClock? s
  let (offset, s) ← takeZone? s
  let t ← ofLocal? date second nano offset
  return (t, s)

/-- Reads the instant of a message; blanks may follow it. -/
def read? (s : String) : Option Instant :=
  match take? s.toList with
  | some (t, rest) => if (Text.trimLeft rest).isEmpty then some t else none
  | none => none

end Instant

end Chancery
