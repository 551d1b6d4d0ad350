import Chancery.Calendar.Instant

/-!
# Reporting windows

A reporting window is a span of whole calendar days, both ends included. It is either named, the
month, quarter or year up to today, or bounded by two dates of which either may be left out.

Records are compared with the window by their instants, so a window also has a first and a last
instant. The last is the last microsecond of its last day: recorded instants are whole
microseconds, and none of them falls between it and the next midnight.
-/

namespace Chancery

/-- A reporting period that ends today. -/
inductive Period where
  | month
  | quarter
  | year
  deriving DecidableEq, Repr

namespace Period

/-- The period with a given name. -/
def ofName? : String → Option Period
  | "month" => some .month
  | "quarter" => some .quarter
  | "year" => some .year
  | _ => none

/-- The first month of the period that holds `month`. -/
def firstMonth (p : Period) (month : Nat) : Nat :=
  match p with
  | .month => month
  | .quarter => (month - 1) / 3 * 3 + 1
  | .year => 1

theorem firstMonth_bounds (p : Period) {month : Nat} (h : 1 ≤ month ∧ month ≤ 12) :
    1 ≤ p.firstMonth month ∧ p.firstMonth month ≤ 12 := by
  cases p <;> simp only [firstMonth] <;> omega

/-- The first day of the period that holds `today`. -/
def startFor (p : Period) (today : Date) : Date :=
  .firstOfMonth today.year (p.firstMonth today.month) (p.firstMonth_bounds today.month_bounds)

end Period

/-- A span of whole calendar days, both ends included. -/
structure Window where
  startDate : Date
  endDate : Date
  deriving DecidableEq

namespace Window

/-- Why two bounds make no window: the first lies after the second. -/
structure Inverted where
  startDate : Date
  endDate : Date
  deriving DecidableEq

/-- The wording of an inverted window. -/
def Inverted.message (e : Inverted) : String :=
  "start date " ++ e.startDate.text ++ " is after end date " ++ e.endDate.text

/-- The window with the given bounds; the start defaults to the first of the current month and
the end to today. -/
def resolve (startDate endDate : Option Date) (today : Date) : Except Inverted Window :=
  let s := startDate.getD (Period.month.startFor today)
  let e := endDate.getD today
  if e < s then .error ⟨s, e⟩ else .ok ⟨s, e⟩

/-- The period up to today. -/
def ofPeriod (p : Period) (today : Date) : Window := ⟨p.startFor today, today⟩

/-- The first instant of the window. -/
def start (w : Window) : Instant := .midnight w.startDate

/-- The last instant of the window, in whole microseconds. -/
def finish (w : Window) : Instant := .endOfDay w.endDate

end Window

end Chancery
