import Chancery.Calendar.Instant

/-!
# The order of dates and instants

Between a day and the next there is no other (`Date.next_le_iff`).

Instants are ordered by date, then second, then nanosecond, which makes the order the
lexicographic one on five numbers. Everything about it is read off `Instant.le_iff`, which spells
that out; the comparisons are then linear arithmetic.

Cutting to microseconds keeps the order, so what holds of clock readings holds of the moments that
are recorded for them.
-/

namespace Chancery

namespace Date

variable {a b c d m : Date}

theorem le_of_lt (h : a < b) : a ≤ b := by
  rw [le_def]
  rw [lt_def] at *
  omega

theorem le_trans (hab : a ≤ b) (hbc : b ≤ c) : a ≤ c := by
  rw [le_def] at *
  rw [lt_def] at *
  omega

/-- **The next day is the first one after.** -/
theorem next_le_iff : m.next ≤ d ↔ m < d := by
  have hm := m.month_bounds
  have hd := d.month_bounds
  have hmday := m.day_le
  have hday := d.day_le
  have hpos := d.day_pos
  have hsame : d.year = m.year → d.month = m.month →
      daysInMonth d.year d.month = daysInMonth m.year m.month := by
    intro hyear hmonth
    rw [hyear, hmonth]
  rw [le_def, lt_def, lt_def]
  by_cases hmonth : m.day + 1 ≤ daysInMonth m.year m.month
  · simp only [next, dif_pos hmonth]
    omega
  · by_cases hyear : m.month + 1 ≤ 12
    · simp only [next, dif_neg hmonth, dif_pos hyear, firstOfMonth]
      omega
    · simp only [next, dif_neg hmonth, dif_neg hyear, firstOfMonth]
      omega

theorem lt_next (m : Date) : m < m.next := next_le_iff.1 (by rw [le_def, lt_def]; omega)

end Date

namespace Instant

variable {a b c : Instant}

theorem le_iff : a ≤ b ↔ ¬ (b.date.year < a.date.year ∨ b.date.year = a.date.year ∧
    (b.date.month < a.date.month ∨ b.date.month = a.date.month ∧
      (b.date.day < a.date.day ∨ b.date.day = a.date.day ∧
        (b.second < a.second ∨ b.second = a.second ∧ b.nano < a.nano)))) := by
  show ¬ Instant.lt b a ↔ _
  unfold Instant.lt
  rw [Date.lt_def, Date.ext_iff]
  omega

theorem le_refl (a : Instant) : a ≤ a := by
  rw [le_iff]
  omega

theorem le_trans (hab : a ≤ b) (hbc : b ≤ c) : a ≤ c := by
  rw [le_iff] at *
  omega

theorem truncated_le_truncated (h : a ≤ b) : a.truncated ≤ b.truncated := by
  rw [le_iff] at *
  simp only [truncated]
  omega

/-- **A day begins with its midnight.** -/
theorem midnight_le_iff {d : Date} {t : Instant} : midnight d ≤ t ↔ d ≤ t.date := by
  show ¬ Instant.lt t (midnight d) ↔ ¬ t.date < d
  simp only [lt, midnight, Nat.not_lt_zero, and_false, or_false]

/-- **Among whole microseconds a day ends with its last.** Leap seconds come after it. -/
theorem le_endOfDay_iff {d : Date} {t : Instant} (hnano : t.nano < 1000000000)
    (hwhole : t.nano % 1000 = 0) : t ≤ endOfDay d ↔ t.date ≤ d := by
  have hsecond := t.second_lt
  have hnone : ¬ (86399 < t.second ∨ 86399 = t.second ∧ 999999000 < t.nano) := by omega
  show ¬ Instant.lt (endOfDay d) t ↔ ¬ d < t.date
  simp only [lt, endOfDay, hnone, and_false, or_false]

end Instant

end Chancery
