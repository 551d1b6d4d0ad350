import Chancery.Calendar.Date

/-!
# Instants

An instant is a UTC date and a time of day in seconds and nanoseconds. Keeping the date as a
component makes "the calendar date of an instant" a projection, which is what every lateness rule
and every reporting window asks for.

The time of day admits leap seconds in the usual representation: the nanoseconds of the last
second of a minute may run on to two thousand million, and the text then shows second 60.

Clock readings are cut to microseconds before they are recorded. Instants that come from elsewhere
keep their nanoseconds.

## Texts

* `Instant.text` — `YYYY-MM-DD HH:MM:SS` and a fraction, the stored form, compared as text
* `Instant.wire` — the same with `T` and `Z`, the form in messages
* `Instant.rfc3339` — with `T` and `+00:00`, the form shown to people

The fraction is absent when zero and otherwise has the fewest of three, six and nine digits that
lose nothing.
-/

namespace Chancery

/-- A UTC instant with nanoseconds. -/
structure Instant where
  date : Date
  /-- Seconds since midnight. -/
  second : Nat
  /-- Nanoseconds into the second, a thousand million and more inside a leap second. -/
  nano : Nat
  second_lt : second < 86400
  nano_lt : nano < 1000000000 ∨ second % 60 = 59 ∧ nano < 2000000000
  deriving DecidableEq

namespace Instant

@[ext] theorem ext {a b : Instant} (hd : a.date = b.date) (hs : a.second = b.second)
    (hn : a.nano = b.nano) : a = b := by
  cases a; cases b; simp_all

/-- The instant at which a date begins. -/
def midnight (d : Date) : Instant := ⟨d, 0, 0, by decide, by decide⟩

/-- The last microsecond of a date. -/
def endOfDay (d : Date) : Instant := ⟨d, 86399, 999999000, by decide, by decide⟩

/-- The instant that lies a number of nanoseconds after the beginning of 1970, where no leap
second counts. -/
def ofUnixNanos (n : Nat) : Instant :=
  ⟨Date.epoch.forward (n / 1000000000 / 86400), n / 1000000000 % 86400, n % 1000000000,
    by omega, by omega⟩

instance : Inhabited Instant := ⟨midnight default⟩

/-- The instant cut to whole microseconds. -/
def truncated (t : Instant) : Instant :=
  ⟨t.date, t.second, t.nano - t.nano % 1000, t.second_lt, by have := t.nano_lt; omega⟩

/-! ### Order -/

/-- Chronological order. -/
def lt (a b : Instant) : Prop :=
  a.date < b.date ∨ a.date = b.date ∧ (a.second < b.second ∨ a.second = b.second ∧ a.nano < b.nano)

instance : LT Instant := ⟨lt⟩

instance : LE Instant := ⟨fun a b => ¬ b < a⟩

instance (a b : Instant) : Decidable (a < b) := by
  show Decidable (lt a b)
  unfold lt
  infer_instance

instance (a b : Instant) : Decidable (a ≤ b) := inferInstanceAs (Decidable (¬ b < a))

/-! ### Text -/

/-- The fraction of a second: nothing, or a point and three, six or nine digits. -/
def fractionChars (nano : Nat) : List Char :=
  if nano = 0 then []
  else if nano % 1000000 = 0 then '.' :: Text.fixedDigits 10 3 (nano / 1000000)
  else if nano % 1000 = 0 then '.' :: Text.fixedDigits 10 6 (nano / 1000)
  else '.' :: Text.fixedDigits 10 9 nano

/-- The time of day, `HH:MM:SS` and the fraction. A leap second shows as second 60. -/
def clockChars (t : Instant) : List Char :=
  let leap := 1000000000 ≤ t.nano
  Text.fixedDigits 10 2 (t.second / 3600) ++ ':' :: Text.fixedDigits 10 2 (t.second / 60 % 60)
    ++ ':' :: Text.fixedDigits 10 2 (t.second % 60 + if leap then 1 else 0)
    ++ fractionChars (if leap then t.nano - 1000000000 else t.nano)

/-- The stored text as characters: date, space, time of day. -/
def chars (t : Instant) : List Char := t.date.chars ++ ' ' :: t.clockChars

/-- The stored text: date, space, time of day. -/
def text (t : Instant) : String := String.ofList t.chars

@[simp] theorem toList_text (t : Instant) : t.text.toList = t.chars := by simp [text]

/-- The text in messages: date, `T`, time of day, `Z`. -/
def wireChars (t : Instant) : List Char := t.date.chars ++ 'T' :: t.clockChars ++ ['Z']

@[inherit_doc wireChars]
def wire (t : Instant) : String := String.ofList t.wireChars

/-- The text shown to people: date, `T`, time of day, `+00:00`. -/
def rfc3339 (t : Instant) : String :=
  String.ofList (t.date.chars ++ 'T' :: t.clockChars ++ "+00:00".toList)

end Instant

end Chancery
