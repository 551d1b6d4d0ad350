import Chancery.Text.Digits

/-!
# Calendar dates

A date of the proleptic Gregorian calendar is a year, a month and a day, with the proof that the
three name a day that exists. Nothing is counted from an epoch: the questions asked of dates here
are which of two comes first, which is the first of its month, quarter or year, and which day is
`n` days on, and for those the components are the data.

Dates are ordered by year, then month, then day. Moving by days is a repeated step to the next or
the previous day, so what a step keeps, any number of steps keeps.

## The text of a date

`YYYY-MM-DD`, with four digits for the years 0 to 9999. Other years carry a sign and at least four
digits. Stored dates are compared as texts, and the two orders agree exactly on the years 0 to
9999: a sign sorts before every digit.

## Main definitions

* `Date`, `Date.of?` — a day that exists, and its checked construction
* `Date.next`, `Date.prev`, `Date.addDays`
* `Date.text`
-/

namespace Chancery

/-- Whether a year of the proleptic Gregorian calendar has 29 days in February. -/
def isLeapYear (year : Int) : Bool :=
  year % 4 = 0 && (year % 100 ≠ 0 || year % 400 = 0)

/-- The number of days of a month, and `0` for a number that names no month. -/
def daysInMonth (year : Int) (month : Nat) : Nat :=
  if month = 2 then if isLeapYear year then 29 else 28
  else if month = 4 ∨ month = 6 ∨ month = 9 ∨ month = 11 then 30
  else if 1 ≤ month ∧ month ≤ 12 then 31
  else 0

/-- A date of the proleptic Gregorian calendar. -/
structure Date where
  year : Int
  month : Nat
  day : Nat
  day_pos : 1 ≤ day
  day_le : day ≤ daysInMonth year month
  deriving DecidableEq

theorem daysInMonth_le (year : Int) (month : Nat) : daysInMonth year month ≤ 31 := by
  unfold daysInMonth; grind

theorem month_bounds {year : Int} {month : Nat} (h : 1 ≤ daysInMonth year month) :
    1 ≤ month ∧ month ≤ 12 := by
  unfold daysInMonth at h; grind

theorem daysInMonth_pos {year : Int} {month : Nat} (h : 1 ≤ month ∧ month ≤ 12) :
    28 ≤ daysInMonth year month := by
  unfold daysInMonth; grind

namespace Date

@[ext] theorem ext {a b : Date} (hy : a.year = b.year) (hm : a.month = b.month)
    (hd : a.day = b.day) : a = b := by
  cases a; cases b; simp_all

theorem month_bounds (d : Date) : 1 ≤ d.month ∧ d.month ≤ 12 :=
  Chancery.month_bounds (Nat.le_trans d.day_pos d.day_le)

theorem day_le_31 (d : Date) : d.day ≤ 31 := Nat.le_trans d.day_le (daysInMonth_le _ _)

/-- The date with the given year, month and day, if there is one. -/
def of? (year : Int) (month day : Nat) : Option Date :=
  if h : 1 ≤ day ∧ day ≤ daysInMonth year month then some ⟨year, month, day, h.1, h.2⟩ else none

/-- The first day of a month. -/
def firstOfMonth (year : Int) (month : Nat) (h : 1 ≤ month ∧ month ≤ 12) : Date :=
  ⟨year, month, 1, Nat.le_refl 1, Nat.le_trans (by omega) (daysInMonth_pos h)⟩

/-- The first day of 1970, from which clocks count. -/
def epoch : Date := firstOfMonth 1970 1 (by decide)

instance : Inhabited Date := ⟨epoch⟩

/-! ### Order -/

/-- Chronological order: by year, then month, then day. -/
def lt (a b : Date) : Prop :=
  a.year < b.year ∨ a.year = b.year ∧ (a.month < b.month ∨ a.month = b.month ∧ a.day < b.day)

instance : LT Date := ⟨lt⟩

instance : LE Date := ⟨fun a b => ¬ b < a⟩

instance (a b : Date) : Decidable (a < b) := by
  show Decidable (lt a b)
  unfold lt
  infer_instance

instance (a b : Date) : Decidable (a ≤ b) := inferInstanceAs (Decidable (¬ b < a))

theorem lt_def {a b : Date} : a < b ↔ a.year < b.year ∨
    a.year = b.year ∧ (a.month < b.month ∨ a.month = b.month ∧ a.day < b.day) := Iff.rfl

theorem le_def {a b : Date} : a ≤ b ↔ ¬ b < a := Iff.rfl

/-! ### Moving by days -/

/-- The day after. -/
def next (d : Date) : Date :=
  if h : d.day + 1 ≤ daysInMonth d.year d.month then
    ⟨d.year, d.month, d.day + 1, by omega, h⟩
  else if h' : d.month + 1 ≤ 12 then firstOfMonth d.year (d.month + 1) ⟨by omega, h'⟩
  else firstOfMonth (d.year + 1) 1 (by decide)

/-- The last day of a month. -/
def lastOfMonth (year : Int) (month : Nat) (h : 1 ≤ month ∧ month ≤ 12) : Date :=
  ⟨year, month, daysInMonth year month, Nat.le_trans (by omega) (daysInMonth_pos h),
    Nat.le_refl _⟩

/-- The day before. -/
def prev (d : Date) : Date :=
  if h : 2 ≤ d.day then
    ⟨d.year, d.month, d.day - 1, by omega, Nat.le_trans (Nat.sub_le _ _) d.day_le⟩
  else if h' : 2 ≤ d.month then
    lastOfMonth d.year (d.month - 1) (by have := d.month_bounds; omega)
  else lastOfMonth (d.year - 1) 12 (by decide)

/-- The day `n` days on. -/
def forward : Nat → Date → Date
  | 0, d => d
  | n + 1, d => forward n d.next

/-- The day `n` days back. -/
def backward : Nat → Date → Date
  | 0, d => d
  | n + 1, d => backward n d.prev

/-- The day `n` days on, or back when `n` is negative. -/
def addDays (d : Date) : Int → Date
  | .ofNat n => forward n d
  | .negSucc n => backward (n + 1) d

/-! ### Text -/

/-- The year as a date text writes it. -/
def yearChars (year : Int) : List Char :=
  if 0 ≤ year ∧ year ≤ 9999 then Text.fixedDigits 10 4 year.natAbs
  else (if 0 ≤ year then '+' else '-') :: Text.paddedDecimal 4 year.natAbs

/-- The text of a date as characters. -/
def chars (d : Date) : List Char :=
  yearChars d.year ++ '-' :: Text.fixedDigits 10 2 d.month ++ '-' :: Text.fixedDigits 10 2 d.day

/-- The text of a date, `YYYY-MM-DD`. -/
def text (d : Date) : String := String.ofList d.chars

@[simp] theorem toList_text (d : Date) : d.text.toList = d.chars := by simp [text]

end Date

end Chancery
