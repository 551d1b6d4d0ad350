import Chancery.Calendar.Reading
import Chancery.Proofs.Calendar.TextOrder
import Chancery.Proofs.Text.Scanning

/-!
# Dates and instants read back

The readers are looser than the texts that are written, so that reading a text back is a matter of
what the readers do not do: skip a blank that is not there, take a digit of the next field, see a
sign in front of four digits. None of this can happen, because every field of a text is a decimal
with something other than a digit behind it.

The range of years is the readers' own and the texts know nothing of it. A date outside the range
has a text that no reader takes; dates within it read back, and only they are ever read.

## Main results

* `Date.read?_text`, `Date.inRange_of_read?`
* `Instant.read?_wire`, `Instant.inRange_of_read?`
-/

namespace Chancery

open Text

namespace Date

variable {rest : List Char}

theorem of?_self (d : Date) : of? d.year d.month d.day = some d := by
  simp [of?, d.day_pos, d.day_le]

theorem takeField?_append {n : Nat} (hn : n < 100) (hrest : Ends rest) :
    takeField? (fixedDigits 10 2 n ++ rest) = some (n, rest) := by
  have h : Spells (fixedDigits 10 2 n) n := spells_fixedDigits (by decide) hn
  rw [takeField?, h.trimLeft_append]
  exact h.scanNumber?_append (some 2) (by simp) (by omega) hrest

/-- A year reads back: the sign in front of one that does not have four digits lifts the limit on
its digits. -/
theorem takeYear?_append {year : Int} (hyear : inRange year = true) (hrest : Ends rest) :
    takeYear? (yearChars year ++ rest) = some (year, rest) := by
  have hbounds : -262143 ≤ year ∧ year ≤ 262142 := by simpa [inRange] using hyear
  unfold yearChars
  split
  · rename_i hfour
    have h : Spells (fixedDigits 10 4 year.natAbs) year.natAbs :=
      spells_fixedDigits (by decide) (by omega)
    obtain ⟨c, s, hs, hc⟩ := h.exists_cons
    have hscan := h.scanNumber?_append (some 4) (by simp) (by omega) hrest
    have habs : ((year.natAbs : Nat) : Int) = year := by omega
    rw [takeYear?, h.trimLeft_append]
    rw [hs, List.cons_append] at hscan ⊢
    split
    · rename_i heq
      rw [(List.cons.inj heq).1] at hc
      exact absurd hc (by decide)
    · rename_i heq
      rw [(List.cons.inj heq).1] at hc
      exact absurd hc (by decide)
    · simp only [hscan, Option.map_some, habs]
  · have h := spells_paddedDecimal (show 0 < 4 by decide) year.natAbs
    have hscan := h.scanNumber?_append none (by simp) (by omega) hrest
    rw [List.cons_append]
    split
    · have habs : ((year.natAbs : Nat) : Int) = year := by omega
      have htrim : trimLeft ('+' :: (paddedDecimal 4 year.natAbs ++ rest)) =
          '+' :: (paddedDecimal 4 year.natAbs ++ rest) := rfl
      simp only [takeYear?, htrim, hscan, Option.map_some, habs]
    · have habs : -((year.natAbs : Nat) : Int) = year := by omega
      have htrim : trimLeft ('-' :: (paddedDecimal 4 year.natAbs ++ rest)) =
          '-' :: (paddedDecimal 4 year.natAbs ++ rest) := rfl
      simp only [takeYear?, htrim, hscan, Option.map_some, habs]

/-- Nothing is skipped in front of a hyphen. -/
theorem expect?_hyphen (gap : Bool) (s : List Char) :
    expect? '-' (if gap then trimLeft ('-' :: s) else '-' :: s) = some s := by
  cases gap <;> rfl

/-- The text of a date within the range is taken off the front as a whole. -/
theorem take?_append (gap : Bool) {d : Date} (hd : inRange d.year = true) (hrest : Ends rest) :
    take? gap (d.chars ++ rest) = some (d, rest) := by
  have hmonth := d.month_bounds
  have hday := d.day_le_31
  have hhyphen : ∀ s, Ends ('-' :: s) := fun _ => ends_cons (by decide)
  have hchars : d.chars ++ rest = yearChars d.year ++ '-' :: (fixedDigits 10 2 d.month ++
      '-' :: (fixedDigits 10 2 d.day ++ rest)) := by
    simp [chars]
  rw [take?, hchars, takeYear?_append hd (hhyphen _), Option.bind_eq_bind, Option.bind_some]
  simp only [Option.bind_eq_bind, Option.bind_some, expect?_hyphen,
    takeField?_append (show d.month < 100 by omega) (hhyphen _),
    takeField?_append (show d.day < 100 by omega) hrest, hd, if_true, of?_self]
  rfl

/-- **The text of a date within the range reads back.** -/
theorem read?_text {d : Date} (hd : inRange d.year = true) : read? d.text = some d := by
  have htake := take?_append true hd ends_nil
  rw [List.append_nil] at htake
  simp [read?, htake]

theorem of?_eq_some_iff {year : Int} {month day : Nat} {d : Date} :
    of? year month day = some d ↔ d.year = year ∧ d.month = month ∧ d.day = day := by
  constructor
  · intro h
    unfold of? at h
    split at h
    · rw [← Option.some.inj h]
      exact ⟨rfl, rfl, rfl⟩
    · cases h
  · rintro ⟨rfl, rfl, rfl⟩
    exact of?_self d

/-- Every date that is read is within the range. -/
theorem inRange_of_take? {gap : Bool} {s : List Char} {d : Date}
    (h : take? gap s = some (d, rest)) :
    inRange d.year = true := by
  simp only [take?, Option.bind_eq_bind, Option.bind_eq_some_iff] at h
  obtain ⟨⟨year, s₁⟩, -, s₂, -, ⟨month, s₃⟩, -, s₄, -, ⟨day, s₅⟩, -, h⟩ := h
  split at h
  · rename_i hyear
    obtain ⟨d', hof, hd⟩ := Option.bind_eq_some_iff.1 h
    obtain ⟨rfl, -⟩ := Prod.mk.inj (Option.some.inj hd)
    rwa [(of?_eq_some_iff.1 hof).1]
  · cases h

theorem inRange_of_read? {s : String} {d : Date} (h : read? s = some d) :
    inRange d.year = true := by
  unfold read? at h
  split at h
  · rename_i d' rest htake
    split at h
    · rw [← Option.some.inj h]
      exact inRange_of_take? htake
    · cases h
  · cases h

end Date

namespace Instant

/-- A fraction is nothing, or a point and a decimal of at most nine digits that is the number of
nanoseconds without zeros at its end. -/
theorem fractionChars_cases {nano : Nat} (hnano : nano < 1000000000) :
    nano = 0 ∧ fractionChars nano = [] ∨
    ∃ s n k, fractionChars nano = '.' :: s ∧ Spells s n ∧ s.length + k = 9 ∧ n < 1000000000 ∧
      n * 10 ^ k = nano := by
  unfold fractionChars
  split
  · exact .inl ⟨‹_›, rfl⟩
  split
  · exact .inr ⟨_, nano / 1000000, 6, rfl, spells_fixedDigits (by decide) (by omega), by simp,
      by omega, by omega⟩
  split
  · exact .inr ⟨_, nano / 1000, 3, rfl, spells_fixedDigits (by decide) (by omega), by simp,
      by omega, by omega⟩
  · exact .inr ⟨_, nano, 0, rfl, spells_fixedDigits (by decide) (by omega), by simp, hnano,
      Nat.mul_one nano⟩

/-- The fields of a time of day are read one after the other; second 60 is a leap second. -/
theorem takeClock?_fields {hour minute second nano : Nat} (hhour : hour ≤ 23)
    (hminute : minute ≤ 59) (hsecond : second ≤ 60) (hnano : nano < 1000000000)
    (rest : List Char) :
    takeClock? (fixedDigits 10 2 hour ++ ':' :: (fixedDigits 10 2 minute ++
        ':' :: (fixedDigits 10 2 second ++ (fractionChars nano ++ 'Z' :: rest)))) =
      some (if second = 60 then (hour * 3600 + minute * 60 + 59, nano + 1000000000)
        else (hour * 3600 + minute * 60 + second, nano), 'Z' :: rest) := by
  have hcolon : ∀ s, Ends (':' :: s) := fun _ => ends_cons (by decide)
  have hskip : ∀ s, Date.expect? ':' (trimLeft (':' :: s)) = some s := fun _ => rfl
  have hz : Ends ('Z' :: rest) := ends_cons (by decide)
  have hend : Ends (fractionChars nano ++ 'Z' :: rest) := by
    rcases fractionChars_cases hnano with ⟨-, hchars⟩ | ⟨s, n, k, hchars, -⟩
    · rwa [hchars]
    · rw [hchars]
      exact ends_cons (by decide)
  simp only [takeClock?, Option.bind_eq_bind, Option.bind_some, hskip,
    Date.takeField?_append (show hour < 100 by omega) (hcolon _),
    Date.takeField?_append (show minute < 100 by omega) (hcolon _),
    Date.takeField?_append (show second < 100 by omega) hend, hhour, hminute, hsecond, and_self,
    if_true]
  rcases fractionChars_cases hnano with ⟨rfl, hchars⟩ | ⟨s, n, k, hchars, hs, hlen, hn, hvalue⟩
  · by_cases hleap : second = 60 <;> simp [hchars, hleap]
  · have hscan := hs.scanNumber?_append (some 9) (by simp; omega) (by omega) hz
    have hwidth : 9 - ((s ++ 'Z' :: rest).length - ('Z' :: rest).length) = k := by
      rw [List.length_append, Nat.add_sub_cancel]
      omega
    rw [hchars, List.cons_append]
    simp only [hscan, hwidth, Nat.pow_eq, hvalue]
    split <;> rfl

/-- The time of day of an instant reads back, leap seconds included. -/
theorem takeClock?_append (t : Instant) (rest : List Char) :
    takeClock? (t.clockChars ++ 'Z' :: rest) = some ((t.second, t.nano), 'Z' :: rest) := by
  have hsecond := t.second_lt
  have hnano := t.nano_lt
  have hchars : t.clockChars ++ 'Z' :: rest = fixedDigits 10 2 (t.second / 3600) ++
      ':' :: (fixedDigits 10 2 (t.second / 60 % 60) ++
        ':' :: (fixedDigits 10 2 (t.second % 60 + if 1000000000 ≤ t.nano then 1 else 0) ++
          (fractionChars (if 1000000000 ≤ t.nano then t.nano - 1000000000 else t.nano) ++
            'Z' :: rest))) := by
    simp [clockChars_eq]
  rw [hchars, takeClock?_fields (by omega) (by omega) (by split <;> omega) (by split <;> omega)]
  by_cases hleap : 1000000000 ≤ t.nano
  · have hlast : t.second % 60 = 59 := by omega
    have hbase : t.second / 3600 * 3600 + t.second / 60 % 60 * 60 + 59 = t.second := by omega
    simp only [if_pos hleap, hlast, if_true, hbase, Nat.sub_add_cancel hleap]
  · have hshown : ¬ t.second % 60 + 0 = 60 := by omega
    have hbase : t.second / 3600 * 3600 + t.second / 60 % 60 * 60 + (t.second % 60 + 0) =
        t.second := by omega
    simp only [if_neg hleap, if_neg hshown, hbase]

theorem ofLocal?_self {t : Instant} (ht : Date.inRange t.date.year = true) :
    ofLocal? t.date t.second t.nano 0 = some t := by
  have hsecond := t.second_lt
  have hmod : (((t.second : Int) - 0) % 86400).toNat = t.second := by omega
  unfold ofLocal?
  simp only [hmod]
  rw [if_neg (by omega), if_neg (by omega), dif_pos ⟨hsecond, t.nano_lt⟩, if_pos ht]

/-- The text of an instant within the range is taken off the front as a whole. -/
theorem take?_wireChars {t : Instant} (ht : Date.inRange t.date.year = true) :
    take? t.wireChars = some (t, []) := by
  have hchars : t.wireChars = t.date.chars ++ 'T' :: (t.clockChars ++ ['Z']) := by
    simp [wireChars]
  have hzone : takeZone? ['Z'] = some (0, []) := by decide
  rw [take?, hchars, Date.take?_append true ht (ends_cons (by decide))]
  simp only [Option.bind_eq_bind, Option.bind_some, takeClock?_append, hzone, ofLocal?_self ht]
  rfl

/-- **The text of an instant within the range reads back**, to the nanosecond. -/
theorem read?_wire {t : Instant} (ht : Date.inRange t.date.year = true) :
    read? t.wire = some t := by
  simp [read?, wire, take?_wireChars ht]

/-- Wherever an offset moves a reading, it stays within the range or is refused. -/
theorem inRange_of_ofLocal? {date : Date} {second nano : Nat} {offset : Int} {t : Instant}
    (h : ofLocal? date second nano offset = some t) : Date.inRange t.date.year = true := by
  simp only [ofLocal?, Option.dite_none_right_eq_some, Option.ite_none_right_eq_some,
    Option.some.injEq] at h
  obtain ⟨-, hyear, rfl⟩ := h
  exact hyear

theorem inRange_of_take? {s rest : List Char} {t : Instant} (h : take? s = some (t, rest)) :
    Date.inRange t.date.year = true := by
  simp only [take?, Option.bind_eq_bind, Option.bind_eq_some_iff] at h
  obtain ⟨⟨_, _⟩, -, h⟩ := h
  -- Whichever separator stands behind the date, the rest is read in the same way.
  split at h
  case h_4 => cases h
  all_goals
    simp only [Option.bind_some, Option.bind_eq_some_iff] at h
    obtain ⟨_, -, _, -, _, ht, heq⟩ := h
    obtain ⟨rfl, -⟩ := Prod.mk.inj (Option.some.inj heq)
    exact inRange_of_ofLocal? ht

/-- Every instant that is read is within the range. -/
theorem inRange_of_read? {s : String} {t : Instant} (h : read? s = some t) :
    Date.inRange t.date.year = true := by
  unfold read? at h
  split at h
  · rename_i t' rest htake
    split at h
    · rw [← Option.some.inj h]
      exact inRange_of_take? htake
    · cases h
  · cases h

end Instant

end Chancery
