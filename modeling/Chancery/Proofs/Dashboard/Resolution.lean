import Chancery.Proofs.Calendar.Order
import Chancery.Proofs.Office.Dates
import Mathlib.Order.Bounds.Defs

/-!
# How a reporting window is resolved

The first day of a period is the first of all days that lie in one month, quarter or year with
today, today among them, so a window that is asked for by its period is never inverted. A request
that names a period is answered by the name alone; whatever stands in its two dates is not even
read. A request that names none gets the window between its two dates, with the first of the month
and today in the place of the ones that are missing, unless that window is inverted or one of the
dates is not written as a date.

Quarters are numbered by rounding the month up, which is not how their first months are found.

## Main definitions

* `Period.Shared` — two days lie in one month, quarter or year
* `Intake.HasBounds` — the window has the bounds that a request asks for

## Main results

* `Period.startFor_isLeast`
* `Intake.window_of_period`, `Intake.window_eq_ok_iff`, `Intake.window_refused`
* `Intake.window_resolves`
-/

namespace Chancery

/-! ### Periods -/

/-- The quarter of the year that a day lies in, from one to four. -/
def Date.quarter (d : Date) : Nat := (d.month + 2) / 3

namespace Period

variable {p : Period} {today d : Date}

/-- Whether two days lie in one calendar month, quarter or year. -/
def Shared (p : Period) (d e : Date) : Prop :=
  d.year = e.year ∧
    match p with
    | .month => d.month = e.month
    | .quarter => d.quarter = e.quarter
    | .year => True

theorem Shared.refl (p : Period) (d : Date) : p.Shared d d := by
  cases p <;> exact ⟨rfl, by first | rfl | trivial⟩

/-- The first day of a period lies in the period. -/
theorem shared_startFor (p : Period) (today : Date) : p.Shared (p.startFor today) today := by
  have hmonth := today.month_bounds
  cases p with
  | month => exact ⟨rfl, rfl⟩
  | quarter =>
    refine ⟨rfl, ?_⟩
    show ((today.month - 1) / 3 * 3 + 1 + 2) / 3 = (today.month + 2) / 3
    omega
  | year => exact ⟨rfl, trivial⟩

/-- No month of a period comes before its first. -/
theorem Shared.firstMonth_le (h : p.Shared d today) : p.firstMonth today.month ≤ d.month := by
  have hmonth := d.month_bounds
  cases p with
  | month => exact Nat.le_of_eq h.2.symm
  | quarter =>
    have hquarter : (d.month + 2) / 3 = (today.month + 2) / 3 := h.2
    show (today.month - 1) / 3 * 3 + 1 ≤ d.month
    omega
  | year => exact hmonth.1

/-- No day of a period comes before its first. -/
theorem Shared.startFor_le (h : p.Shared d today) : p.startFor today ≤ d := by
  have hyear := h.1
  have hmonth := h.firstMonth_le
  have hday := d.day_pos
  rw [Date.le_def, Date.lt_def]
  simp only [startFor, Date.firstOfMonth]
  omega

/-- **A period starts with the first of its days.** -/
theorem startFor_isLeast (p : Period) (today : Date) :
    IsLeast {d | p.Shared d today} (p.startFor today) :=
  ⟨p.shared_startFor today, fun _ hd => hd.startFor_le⟩

theorem startFor_le (p : Period) (today : Date) : p.startFor today ≤ today :=
  (Shared.refl p today).startFor_le

/-- The name of a period. -/
def name : Period → String
  | month => "month"
  | quarter => "quarter"
  | year => "year"

theorem ofName?_eq_some {text : String} : ofName? text = some p ↔ text = p.name := by
  constructor
  · intro h
    unfold ofName? at h
    split at h <;> first | (obtain rfl := Option.some.inj h; rfl) | cases h
  · rintro rfl
    cases p <;> rfl

/-- There are three names. -/
theorem ofName?_eq_none {text : String} :
    ofName? text = none ↔ text ∉ ["month", "quarter", "year"] := by
  rw [Option.eq_none_iff_forall_ne_some]
  constructor
  · intro hnone hmem
    simp only [List.mem_cons, List.not_mem_nil, or_false] at hmem
    rcases hmem with rfl | rfl | rfl
    · exact hnone month rfl
    · exact hnone quarter rfl
    · exact hnone year rfl
  · intro hmem p hp
    rw [ofName?_eq_some.1 hp] at hmem
    cases p <;> simp [name] at hmem

end Period

/-! ### Bounds of a window -/

namespace Window

variable {startDate endDate : Option Date} {today : Date} {w : Window}

/-- A window is resolved unless its bounds are inverted. -/
theorem resolve_eq_ok_iff : resolve startDate endDate today = .ok w ↔
    w.startDate = startDate.getD (Period.month.startFor today) ∧ w.endDate = endDate.getD today ∧
      w.startDate ≤ w.endDate := by
  unfold resolve
  simp only
  split <;> rename_i hinverted
  · simp only [reduceCtorEq, false_iff]
    rintro ⟨hstart, hend, hle⟩
    rw [hstart, hend] at hle
    exact hle hinverted
  · rw [Except.ok.injEq]
    constructor
    · rintro rfl
      exact ⟨rfl, rfl, hinverted⟩
    · rintro ⟨hstart, hend, -⟩
      rw [← hstart, ← hend]

end Window

/-! ### Requests -/

namespace Intake

variable {r : Request.Summary} {today : Date} {name : String} {w : Window}

/-- Whether a window has the bounds that are written in a request, the first of the month in the
place of a missing start and today in the place of a missing end, and is not inverted. -/
structure HasBounds (r : Request.Summary) (today : Date) (w : Window) : Prop where
  start : ∃ written, Denotes Date.IsWritten r.startDate written ∧
    w.startDate = written.getD (Period.month.startFor today)
  finish : ∃ written, Denotes Date.IsWritten r.endDate written ∧ w.endDate = written.getD today
  ordered : w.startDate ≤ w.endDate

/-- **A request that names a period is answered by the name alone.** -/
theorem window_of_period (hname : Text.nonBlank? r.period = some name) (today : Date) :
    window r today = (Period.ofName? name).elim
      (.error (.validation ("unknown period '" ++ name ++ "'")))
      fun p => .ok (.ofPeriod p today) := by
  simp only [window, hname]
  cases Period.ofName? name <;> rfl

/-- A request that names no period is read date by date. -/
theorem window_of_dates (hname : Text.nonBlank? r.period = none) :
    window r today = .ok w ↔
      ∃ start, date "startDate" r.startDate = .ok start ∧
        ∃ finish, date "endDate" r.endDate = .ok finish ∧
          Window.resolve start finish today = .ok w := by
  simp only [window, hname, bind_eq_ok]
  refine exists_congr fun start => and_congr_right fun _ => exists_congr fun finish =>
    and_congr_right fun _ => ?_
  split <;> rename_i hresolve <;> rw [hresolve] <;> simp [pure, Except.pure, throw, throwThe,
    MonadExceptOf.throw]

/-- **Without a period, a window is given if and only if it has the bounds that are asked for.** -/
theorem window_eq_ok_iff (hname : Text.nonBlank? r.period = none) :
    window r today = .ok w ↔ HasBounds r today w := by
  rw [window_of_dates hname]
  constructor
  · rintro ⟨start, hstart, finish, hfinish, hresolve⟩
    obtain ⟨hs, he, hle⟩ := Window.resolve_eq_ok_iff.1 hresolve
    exact ⟨⟨start, date_eq_ok_iff.1 hstart, hs⟩, ⟨finish, date_eq_ok_iff.1 hfinish, he⟩, hle⟩
  · rintro ⟨⟨start, hstart, hs⟩, ⟨finish, hfinish, he⟩, hle⟩
    exact ⟨start, date_eq_ok_iff.2 hstart, finish, date_eq_ok_iff.2 hfinish,
      Window.resolve_eq_ok_iff.2 ⟨hs, he, hle⟩⟩

/-- A date that does not read is a bad value. -/
theorem date_eq_error {what : String} {text : Option String} {e : Failure}
    (h : date what text = .error e) : ∃ message, e = .validation message := by
  unfold date at h
  split at h
  · cases h
  · split at h
    · cases h
    · exact ⟨_, (Except.error.inj h).symm⟩

/-- **A window that is not given is refused as a bad value.** -/
theorem window_refused {e : Failure} (h : window r today = .error e) :
    ∃ message, e = .validation message := by
  unfold window at h
  split at h
  · split at h
    · cases h
    · exact ⟨_, (Except.error.inj h).symm⟩
  · cases hstart : date "startDate" r.startDate with
    | error e' =>
      rw [hstart] at h
      obtain rfl : e' = e := Except.error.inj h
      exact date_eq_error hstart
    | ok start =>
      cases hfinish : date "endDate" r.endDate with
      | error e' =>
        rw [hstart, hfinish] at h
        obtain rfl : e' = e := Except.error.inj h
        exact date_eq_error hfinish
      | ok finish =>
        simp only [hstart, hfinish, bind, Except.bind] at h
        split at h
        · cases h
        · exact ⟨_, (Except.error.inj h).symm⟩

/-- **Windows are resolved soundly on every day.** A period starts with the least day in one month,
quarter or year with today, so that it is not inverted. A request that names a period is answered
whatever is written in its dates, with the window of that period, and refused only for a name that
none has. A request that names no period is answered with a window exactly if the window has the
bounds that are asked for, and is otherwise refused as a bad value. And a moment in whole
microseconds lies between the two ends of a window exactly if its day is one of the window's. -/
theorem window_resolves (today : Date) :
    (∀ p : Period, IsLeast {d | p.Shared d today} (p.startFor today) ∧
      (Window.ofPeriod p today).startDate = p.startFor today ∧
      (Window.ofPeriod p today).endDate = today ∧ p.startFor today ≤ today) ∧
    (∀ (r : Request.Summary) (name : String), Text.nonBlank? r.period = some name →
      (∀ startDate endDate,
        window { r with startDate, endDate } today = window r today) ∧
      (∀ p : Period, name = p.name → window r today = .ok (.ofPeriod p today)) ∧
      ((∃ e, window r today = .error e) ↔ name ∉ ["month", "quarter", "year"])) ∧
    (∀ r : Request.Summary, Text.nonBlank? r.period = none →
      (∀ w, window r today = .ok w ↔ HasBounds r today w) ∧
      ((∀ w, ¬ HasBounds r today w) → ∃ message, window r today = .error (.validation message))) ∧
    ∀ (w : Window) (t : Instant), t.nano < 1000000000 → t.nano % 1000 = 0 →
      (w.start ≤ t ∧ t ≤ w.finish ↔ w.startDate ≤ t.date ∧ t.date ≤ w.endDate) := by
  refine ⟨fun p => ⟨p.startFor_isLeast today, rfl, rfl, p.startFor_le today⟩,
    fun r name hname => ⟨fun startDate endDate => ?_, fun p hp => ?_, ?_⟩,
    fun r hname => ⟨fun w => window_eq_ok_iff hname, fun hnone => ?_⟩, fun w t hnano hwhole => ?_⟩
  · rw [window_of_period hname, window_of_period (r := { r with startDate, endDate }) hname]
  · rw [window_of_period hname, Period.ofName?_eq_some.2 hp]
    rfl
  · rw [window_of_period hname, ← Period.ofName?_eq_none]
    cases Period.ofName? name <;> simp
  · cases hwindow : window r today with
    | ok w => exact absurd ((window_eq_ok_iff hname).1 hwindow) (hnone w)
    | error e =>
      obtain ⟨message, rfl⟩ := window_refused hwindow
      exact ⟨message, rfl⟩
  · exact and_congr Instant.midnight_le_iff (Instant.le_endOfDay_iff hnano hwhole)

/-- A day in the second month of a quarter. -/
def autumnDay : Date := ⟨2026, 11, 20, by decide, by decide⟩

/-- A request for a quarter, with dates that do not read. -/
def quarterly : Request.Summary := ⟨none, some "10/05/2026", some "today", some " quarter "⟩

/-- A request for what lies before the month, without a start. -/
def backwards : Request.Summary := ⟨none, none, some "2026-10-31", some " "⟩

theorem window_resolves_of_autumnDay :
    (Text.nonBlank? quarterly.period = some "quarter" ∧
      window quarterly autumnDay = .ok (.ofPeriod .quarter autumnDay) ∧
      (Window.ofPeriod .quarter autumnDay).startDate.text = "2026-10-01") ∧
    (Text.nonBlank? backwards.period = none ∧ (∀ w, ¬ HasBounds backwards autumnDay w) ∧
      ∃ message, window backwards autumnDay = .error (.validation message)) ∧
    ((Instant.endOfDay autumnDay).nano < 1000000000 ∧
      (Instant.endOfDay autumnDay).nano % 1000 = 0 ∧
      (⟨autumnDay, autumnDay⟩ : Window).start ≤ .endOfDay autumnDay ∧
      ¬ .endOfDay autumnDay ≤ (⟨autumnDay, autumnDay.prev⟩ : Window).finish) := by
  obtain ⟨-, hperiod, hdates, hmoments⟩ := window_resolves autumnDay
  have hquarter : Text.nonBlank? quarterly.period = some "quarter" := by decide +kernel
  have hblank : Text.nonBlank? backwards.period = none := by decide +kernel
  have hinverted : ∀ w, ¬ HasBounds backwards autumnDay w := by
    have hnone : (window backwards autumnDay).toOption = none := by decide +kernel
    intro w hw
    rw [((hdates backwards hblank).1 w).2 hw] at hnone
    cases hnone
  have hwithin := hmoments ⟨autumnDay, autumnDay⟩ (.endOfDay autumnDay) (by decide) (by decide)
  have hafter := hmoments ⟨autumnDay, autumnDay.prev⟩ (.endOfDay autumnDay) (by decide) (by decide)
  refine ⟨⟨hquarter, (hperiod quarterly _ hquarter).2.1 .quarter rfl, by decide +kernel⟩,
    ⟨hblank, hinverted, (hdates backwards hblank).2 hinverted⟩, by decide, by decide,
    (hwithin.2 ⟨by decide, by decide⟩).1, fun hle => ?_⟩
  have hstart : (⟨autumnDay, autumnDay.prev⟩ : Window).start ≤ .endOfDay autumnDay :=
    (hwithin.2 ⟨by decide, by decide⟩).1
  exact absurd (hafter.1 ⟨hstart, hle⟩).2 (by decide)

end Intake

end Chancery
