import Chancery.Proofs.Calendar.Reading
import Chancery.Proofs.Text.Blank

/-!
# How a date may be written

Requests are documented to write dates as `YYYY-MM-DD`, and the reader of requests takes every such
text if the date exists. But it takes more. It reads a month and a day of one digit, and a year of
fewer than four; it skips blanks in front of the month and of the day; and behind a sign it reads a
year of any length, as long as the calendar's range holds it. That is all: `Date.parse?_eq_some_iff`
says exactly which texts are read, and as which dates.

What sets the documented texts apart from the others is plain: ten characters, each a digit or a
hyphen, the first a digit (`Date.isDocumented_iff`).

## Main definitions

* `Date.IsDocumented` — a text is a date as requests are documented to write it
* `Date.IsWritten` — a text is a date as requests may write it

## Main results

* `Date.parse?_eq_some_iff`
* `Date.isDocumented_iff`
-/

namespace Chancery

namespace Date

open Text

/-! ### Two forms -/

/-- A date as it is documented: four digits, two and two, joined by hyphens. -/
def IsDocumented (s : List Char) (d : Date) : Prop :=
  ∃ year month day n, s = year ++ '-' :: (month ++ '-' :: day) ∧
    Spells year n ∧ d.year = n ∧ year.length = 4 ∧
    Spells month d.month ∧ month.length = 2 ∧ Spells day d.day ∧ day.length = 2

/-- A year as it may be written: at most four digits, or any number of them behind a sign. -/
inductive IsYear : List Char → Int → Prop where
  | plain {s : List Char} {n : Nat} (digits : Spells s n) (short : s.length ≤ 4) : IsYear s n
  | plus {s : List Char} {n : Nat} (digits : Spells s n) : IsYear ('+' :: s) n
  | minus {s : List Char} {n : Nat} (digits : Spells s n) : IsYear ('-' :: s) (-n)

/-- A month or a day as it may be written: one digit or two, behind blanks. -/
def IsField (s : List Char) (n : Nat) : Prop :=
  ∃ gap digits, s = gap ++ digits ∧ AllBlank gap ∧ Spells digits n ∧ digits.length ≤ 2

/-- A date as it may be written. -/
def IsWritten (s : List Char) (d : Date) : Prop :=
  inRange d.year = true ∧ ∃ year month day, s = year ++ '-' :: (month ++ '-' :: day) ∧
    IsYear year d.year ∧ IsField month d.month ∧ IsField day d.day

variable {s rest : List Char} {d : Date} {n : Nat} {y : Int}

/-! ### The fields -/

theorem expect?_eq_some_iff {c : Char} : expect? c s = some rest ↔ s = c :: rest := by
  cases s with
  | nil => simp [expect?]
  | cons d s =>
    rw [expect?, List.cons.injEq]
    split
    · rename_i hc
      rw [Option.some.injEq, hc, eq_self_iff_true, true_and]
    · rename_i hc
      simp [Ne.symm hc]

theorem exists_of_takeField? (h : takeField? s = some (n, rest)) :
    ∃ field, s = field ++ rest ∧ IsField field n := by
  obtain ⟨gap, hgap, hs⟩ := exists_gap s
  obtain ⟨digits, hdigits, hspells, hlength⟩ := exists_of_scanNumber? h
  refine ⟨gap ++ digits, ?_, gap, digits, rfl, hgap, hspells, hlength 2 rfl⟩
  rw [List.append_assoc, ← hdigits, ← hs]

theorem IsField.takeField?_append {field : List Char} (h : IsField field n) (hrest : Ends rest) :
    takeField? (field ++ rest) = some (n, rest) := by
  obtain ⟨gap, digits, rfl, hgap, hspells, hlength⟩ := h
  rw [takeField?, List.append_assoc, hgap.trimLeft_append, hspells.trimLeft_append]
  have hn : n < 100 := Nat.lt_of_lt_of_le hspells.lt_pow (Nat.pow_le_pow_right (by decide) hlength)
  exact hspells.scanNumber?_append (some 2) (by simpa using hlength) (by omega) hrest

theorem exists_of_takeYear? (h : takeYear? s = some (y, rest)) :
    ∃ year, trimLeft s = year ++ rest ∧ IsYear year y := by
  unfold takeYear? at h
  split at h
  · rename_i s' hs
    obtain ⟨⟨n, rest'⟩, hscan, heq⟩ := Option.map_eq_some_iff.1 h
    obtain ⟨rfl, rfl⟩ := Prod.mk.inj heq
    obtain ⟨digits, rfl, hdigits, -⟩ := exists_of_scanNumber? hscan
    exact ⟨'-' :: digits, hs, .minus hdigits⟩
  · rename_i s' hs
    obtain ⟨⟨n, rest'⟩, hscan, heq⟩ := Option.map_eq_some_iff.1 h
    obtain ⟨rfl, rfl⟩ := Prod.mk.inj heq
    obtain ⟨digits, rfl, hdigits, -⟩ := exists_of_scanNumber? hscan
    exact ⟨'+' :: digits, hs, .plus hdigits⟩
  · obtain ⟨⟨n, rest'⟩, hscan, heq⟩ := Option.map_eq_some_iff.1 h
    obtain ⟨rfl, rfl⟩ := Prod.mk.inj heq
    obtain ⟨digits, hs, hdigits, hlength⟩ := exists_of_scanNumber? hscan
    exact ⟨digits, hs, .plain hdigits (hlength 4 rfl)⟩

theorem IsYear.takeYear?_eq {year : List Char} (h : IsYear year y) (hy : inRange y = true)
    (hs : trimLeft s = year ++ rest) (hrest : Ends rest) : takeYear? s = some (y, rest) := by
  have hbounds : -262143 ≤ y ∧ y ≤ 262142 := by simpa [inRange] using hy
  cases h with
  | @plain digits n hdigits hshort =>
    have hscan := hdigits.scanNumber?_append (some 4) (by simpa using hshort) (by omega) hrest
    obtain ⟨c, digits', rfl, hc⟩ := hdigits.exists_cons
    rw [List.cons_append] at hs hscan
    -- A digit is no sign.
    have hminus : c ≠ '-' := by rintro rfl; exact absurd hc (by decide)
    have hplus : c ≠ '+' := by rintro rfl; exact absurd hc (by decide)
    rw [takeYear?, hs]
    split
    · rename_i heq
      exact absurd (List.cons.inj heq).1 hminus
    · rename_i heq
      exact absurd (List.cons.inj heq).1 hplus
    · rw [hscan, Option.map_some]
  | plus hdigits =>
    have hscan := hdigits.scanNumber?_append none (by simp) (by omega) hrest
    simp only [takeYear?, hs, List.cons_append, hscan, Option.map_some]
  | minus hdigits =>
    have hscan := hdigits.scanNumber?_append none (by simp) (by omega) hrest
    simp only [takeYear?, hs, List.cons_append, hscan, Option.map_some]

/-! ### The whole date -/

/-- **A request's date is read off a text if and only if it is written there**, but for blanks in
front of it. -/
theorem parse?_eq_some_iff {text : String} :
    parse? text = some d ↔ IsWritten (trimLeft text.toList) d := by
  have hparse : parse? text = some d ↔ take? false text.toList = some (d, []) := by
    unfold parse?
    split
    · rename_i d' htake
      simp [htake]
    · rename_i hnot
      exact ⟨nofun, fun h => absurd h (hnot d)⟩
  have hhyphen : ∀ s, Ends ('-' :: s) := fun _ => ends_cons (by decide)
  rw [hparse]
  simp only [take?, Bool.false_eq_true, if_false, Option.bind_eq_bind, Option.bind_eq_some_iff]
  constructor
  · rintro ⟨⟨y, s₁⟩, hyear, s₂, hfirst, ⟨month, s₃⟩, hmonth, s₄, hsecond, ⟨day, s₅⟩, hday, h⟩
    split at h
    · rename_i hy
      obtain ⟨d', hof, heq⟩ := Option.bind_eq_some_iff.1 h
      obtain ⟨rfl, rfl⟩ := Prod.mk.inj (Option.some.inj heq)
      obtain ⟨rfl, rfl, rfl⟩ := of?_eq_some_iff.1 hof
      obtain ⟨yearText, htext, hyear⟩ := exists_of_takeYear? hyear
      obtain ⟨monthText, hs₂, hmonth⟩ := exists_of_takeField? hmonth
      obtain ⟨dayText, hs₄, hday⟩ := exists_of_takeField? hday
      have hs₁ : s₁ = '-' :: s₂ := expect?_eq_some_iff.1 hfirst
      have hs₃ : s₃ = '-' :: s₄ := expect?_eq_some_iff.1 hsecond
      refine ⟨hy, yearText, monthText, dayText, ?_, hyear, hmonth, hday⟩
      rw [htext, hs₁, hs₂, hs₃, hs₄, List.append_nil]
    · cases h
  · rintro ⟨hy, yearText, monthText, dayText, htext, hyear, hmonth, hday⟩
    refine ⟨_, hyear.takeYear?_eq hy htext (hhyphen _), _, expect?_eq_some_iff.2 rfl, _,
      hmonth.takeField?_append (hhyphen _), _, expect?_eq_some_iff.2 rfl, (d.day, []), ?_, ?_⟩
    · simpa using hday.takeField?_append ends_nil
    · simp [hy, of?_self]

/-! ### The documented form among the others -/

theorem IsDocumented.isWritten (h : IsDocumented s d) : IsWritten s d := by
  obtain ⟨year, month, day, n, rfl, hyear, hn, hfour, hmonth, htwo, hday, htwo'⟩ := h
  have hlt : n < 10 ^ 4 := hfour ▸ hyear.lt_pow
  refine ⟨?_, year, month, day, rfl, ?_, ⟨[], month, rfl, allBlank_nil, hmonth, htwo.le⟩,
    [], day, rfl, allBlank_nil, hday, htwo'.le⟩
  · simp only [inRange, Bool.and_eq_true, decide_eq_true_eq]
    omega
  · rw [hn]
    exact .plain hyear hfour.le

/-- Whether a text has ten characters, digits and hyphens, and begins with a digit. -/
def IsPlain (s : List Char) : Prop :=
  s.length = 10 ∧ (∀ c ∈ s, isDigit c = true ∨ c = '-') ∧ ∃ c ∈ s.head?, isDigit c = true

/-- A field without blanks is nothing but its digits. -/
theorem IsField.spells_of_plain (h : IsField s n) (hs : ∀ c ∈ s, isDigit c = true ∨ c = '-') :
    Spells s n ∧ s.length ≤ 2 := by
  obtain ⟨gap, digits, rfl, hgap, hspells, hlength⟩ := h
  cases gap with
  | nil => exact ⟨hspells, hlength⟩
  | cons c gap =>
    have hblank := hgap c List.mem_cons_self
    rcases hs c List.mem_cons_self with hdigit | rfl
    · rw [isBlank_of_isDigit hdigit] at hblank
      cases hblank
    · exact absurd hblank (by decide)

/-- **The documented form is the plain one** of those that are read: without signs and blanks, and
with no digit left out. -/
theorem isDocumented_iff : IsDocumented s d ↔ IsWritten s d ∧ IsPlain s := by
  constructor
  · intro h
    refine ⟨h.isWritten, ?_⟩
    obtain ⟨year, month, day, n, rfl, hyear, -, hfour, hmonth, htwo, hday, htwo'⟩ := h
    obtain ⟨c, year', rfl, hc⟩ := hyear.exists_cons
    refine ⟨by simp_all, ?_, c, rfl, hc⟩
    intro c' hc'
    simp only [List.mem_append, List.mem_cons] at hc'
    have := hyear.isDigit c'
    have := hmonth.isDigit c'
    have := hday.isDigit c'
    grind
  · rintro ⟨⟨-, year, month, day, rfl, hyear, hmonth, hday⟩, hlength, hplain, c, hhead, hc⟩
    obtain ⟨hmonth, htwo⟩ := hmonth.spells_of_plain fun c hc => hplain c (by simp [hc])
    obtain ⟨hday, htwo'⟩ := hday.spells_of_plain fun c hc => hplain c (by simp [hc])
    simp only [List.length_append, List.length_cons] at hlength
    generalize hy : d.year = y at hyear
    cases hyear with
    | plain hyear hfour =>
      exact ⟨year, month, day, _, rfl, hyear, hy, by omega, hmonth, by omega, hday, by omega⟩
    | plus _ =>
      cases hhead
      exact absurd hc (by decide)
    | minus _ =>
      cases hhead
      exact absurd hc (by decide)

end Date

end Chancery
