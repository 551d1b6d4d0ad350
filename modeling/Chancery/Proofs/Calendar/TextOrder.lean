import Chancery.Proofs.Text.Order
import Chancery.Store.Lateness

/-!
# The order of stored dates and instants

Queries compare dates and instants by their stored texts. A text of a date is four digits of the
year, two of the month and two of the day as long as the year has four digits, and such texts are
ordered like the dates. Any other year carries a sign, and a sign comes before every digit. So a
date with a negative year stands where it belongs, before all of them, and a date after the year
9999 stands there too, where it does not belong: it is the only kind of date that a comparison
with a date of four digits misplaces (`Date.text_lt_text_iff`).

An instant adds a time of day of fixed width and a fraction without the zeros at its end.

## Main definitions

* `Date.HasFourDigitYear`

## Main results

* `Date.text_lt_text_iff`, `Date.text_between_iff` — any date against one or two of four digits
* `Instant.text_lt_text_iff`, `Instant.text_inj` — two instants of four digits
* `texts_lt_texts_iff` — the keys by which records are sorted
-/

namespace Chancery

namespace Date

/-- Whether the year of a date has four digits and no sign. -/
def HasFourDigitYear (d : Date) : Prop := 0 ≤ d.year ∧ d.year ≤ 9999

instance (d : Date) : Decidable d.HasFourDigitYear := by
  unfold HasFourDigitYear
  infer_instance

variable {d t : Date}

theorem chars_of_hasFourDigitYear (hd : d.HasFourDigitYear) :
    d.chars = Text.fixedDigits 10 4 d.year.natAbs ++ '-' :: (Text.fixedDigits 10 2 d.month ++
      '-' :: Text.fixedDigits 10 2 d.day) := by
  have hyear : 0 ≤ d.year ∧ d.year ≤ 9999 := hd
  rw [chars, yearChars, if_pos hyear]
  simp

/-- Dates with years of four digits are ordered like their texts. -/
theorem chars_lt_chars_iff (hd : d.HasFourDigitYear) (ht : t.HasFourDigitYear) :
    d.chars < t.chars ↔ d < t := by
  obtain ⟨hd0, hd9⟩ := id hd
  obtain ⟨ht0, ht9⟩ := id ht
  have hdm := d.month_bounds
  have htm := t.month_bounds
  have hdd := d.day_le_31
  have htd := t.day_le_31
  rw [chars_of_hasFourDigitYear hd, chars_of_hasFourDigitYear ht,
    Text.append_lt_append_iff (by simp), Text.cons_lt_cons_self_iff,
    Text.append_lt_append_iff (by simp), Text.cons_lt_cons_self_iff,
    Text.fixedDigits_lt_iff (by decide) (by decide) (by omega) (by omega),
    Text.fixedDigits_lt_iff (by decide) (by decide) (by omega) (by omega),
    Text.fixedDigits_lt_iff (by decide) (by decide) (by omega) (by omega),
    Text.fixedDigits_inj (by decide) (by decide) (by omega) (by omega),
    Text.fixedDigits_inj (by decide) (by decide) (by omega) (by omega), lt_def]
  omega

theorem chars_inj (hd : d.HasFourDigitYear) (ht : t.HasFourDigitYear) :
    d.chars = t.chars ↔ d = t := by
  constructor
  · intro h
    have hdt : ¬ d < t := by
      rw [← chars_lt_chars_iff hd ht, h]
      exact List.lt_irrefl _
    have htd : ¬ t < d := by
      rw [← chars_lt_chars_iff ht hd, h]
      exact List.lt_irrefl _
    rw [lt_def] at hdt htd
    rw [Date.ext_iff]
    omega
  · rintro rfl
    rfl

/-- A year with a sign comes before all years of four digits. -/
theorem chars_lt_chars_of_not (hd : ¬ d.HasFourDigitYear) (ht : t.HasFourDigitYear) :
    d.chars < t.chars := by
  have first : ∃ c rest, t.chars = c :: rest ∧ '0' ≤ c := by
    have hlen := Text.length_fixedDigits 10 4 t.year.natAbs
    cases hyear : Text.fixedDigits 10 4 t.year.natAbs with
    | nil => rw [hyear] at hlen; cases hlen
    | cons c rest =>
      refine ⟨c, _, by rw [chars_of_hasFourDigitYear ht, hyear]; rfl, ?_⟩
      exact Text.zero_le_of_mem_fixedDigits (hyear ▸ List.mem_cons_self)
  have hyear : ¬ (0 ≤ d.year ∧ d.year ≤ 9999) := hd
  obtain ⟨c, rest, hchars, hc⟩ := first
  rw [hchars, chars, yearChars, if_neg hyear, List.cons_append, List.cons_append,
    List.cons_lt_cons_iff]
  left
  split
  · exact Std.lt_of_lt_of_le (by decide) hc
  · exact Std.lt_of_lt_of_le (by decide) hc

/-- **Against a date of four digits, only a date after the year 9999 is misplaced.** It comes
before, as if it lay in the past. -/
theorem text_lt_text_iff (ht : t.HasFourDigitYear) :
    d.text < t.text ↔ d < t ∨ 9999 < d.year := by
  show d.text.toList < t.text.toList ↔ _
  rw [toList_text, toList_text]
  by_cases hd : d.HasFourDigitYear
  · have hnot : ¬ 9999 < d.year := by unfold HasFourDigitYear at hd; omega
    simp only [chars_lt_chars_iff hd ht, hnot, or_false]
  · refine iff_of_true (chars_lt_chars_of_not hd ht) ?_
    unfold HasFourDigitYear at hd ht
    rw [lt_def]
    omega

theorem text_inj (hd : d.HasFourDigitYear) (ht : t.HasFourDigitYear) :
    d.text = t.text ↔ d = t := by
  rw [← chars_inj hd ht, ← toList_text, ← toList_text, String.toList_inj]

theorem HasFourDigitYear.of_between {start finish : Date} (hstart : start.HasFourDigitYear)
    (hfinish : finish.HasFourDigitYear) (hle : start ≤ d) (hle' : d ≤ finish) :
    d.HasFourDigitYear := by
  unfold HasFourDigitYear at *
  rw [le_def, lt_def] at hle hle'
  omega

/-- **Between two dates of four digits no date is misplaced.** -/
theorem text_between_iff {start finish : Date} (hstart : start.HasFourDigitYear)
    (hfinish : finish.HasFourDigitYear) :
    (start.text ≤ d.text ∧ d.text ≤ finish.text) ↔ start ≤ d ∧ d ≤ finish := by
  rw [← String.not_lt, ← String.not_lt, text_lt_text_iff hstart, not_or, ← le_def, and_assoc]
  refine and_congr_right fun hle => ?_
  constructor
  · rintro ⟨hyear, hle'⟩
    have hd : d.HasFourDigitYear := by
      unfold HasFourDigitYear at *
      rw [le_def, lt_def] at hle
      omega
    rw [text_lt_text_iff hd] at hle'
    exact fun h => hle' (.inl h)
  · intro hle'
    have hd := hstart.of_between hfinish hle hle'
    rw [text_lt_text_iff hd]
    unfold HasFourDigitYear at hfinish hd
    exact ⟨by omega, not_or.2 ⟨hle', by omega⟩⟩

end Date

namespace Instant

variable {a b : Instant}

/-! ### Fractions -/

/-- The fraction with its zeros is nine digits. -/
theorem exists_fractionChars {n : Nat} (hn : n ≠ 0) :
    ∃ ds k, fractionChars n = '.' :: ds ∧ (∀ c ∈ ds, '0' ≤ c) ∧
      Text.fixedDigits 10 9 n = ds ++ List.replicate k '0' := by
  unfold fractionChars
  rw [if_neg hn]
  split
  · rename_i h
    refine ⟨_, 6, rfl, fun _ => Text.zero_le_of_mem_fixedDigits, ?_⟩
    rw [← Text.fixedDigits_mul_pow (by decide) 3 6, show n / 1000000 * 10 ^ 6 = n by omega]
  · split
    · refine ⟨_, 3, rfl, fun _ => Text.zero_le_of_mem_fixedDigits, ?_⟩
      rw [← Text.fixedDigits_mul_pow (by decide) 6 3, show n / 1000 * 10 ^ 3 = n by omega]
    · exact ⟨_, 0, rfl, fun _ => Text.zero_le_of_mem_fixedDigits, by simp⟩

theorem fractionChars_lt_of_lt {m n : Nat} (h : m < n) (hn : n < 1000000000) :
    fractionChars m < fractionChars n := by
  obtain ⟨ds, k, hds, -, hpad⟩ := exists_fractionChars (show n ≠ 0 by omega)
  by_cases hm : m = 0
  · rw [hds, hm]
    exact List.nil_lt_cons _ _
  · obtain ⟨ds', k', hds', hdigits, hpad'⟩ := exists_fractionChars hm
    have hlen := congrArg List.length hpad
    have hlen' := congrArg List.length hpad'
    have hlt := (Text.fixedDigits_lt_iff (by decide) (by decide)
      (show m < 10 ^ 9 by omega) (show n < 10 ^ 9 by omega)).2 h
    rw [hpad, hpad'] at hlt
    rw [hds, hds', Text.cons_lt_cons_self_iff]
    refine Text.lt_of_append_zeros_lt hdigits ?_ hlt
    simp at hlen hlen'
    omega

/-- Fractions are ordered like the nanoseconds they stand for. -/
theorem fractionChars_lt_iff {m n : Nat} (hm : m < 1000000000) (hn : n < 1000000000) :
    fractionChars m < fractionChars n ↔ m < n := by
  refine ⟨fun h => ?_, fun h => fractionChars_lt_of_lt h hn⟩
  rcases Nat.lt_trichotomy m n with hlt | rfl | hgt
  · exact hlt
  · exact absurd h (List.lt_irrefl _)
  · exact absurd h (List.lt_asymm (fractionChars_lt_of_lt hgt hm))

/-! ### Instants -/

theorem clockChars_eq (t : Instant) :
    t.clockChars = Text.fixedDigits 10 2 (t.second / 3600) ++
      ':' :: (Text.fixedDigits 10 2 (t.second / 60 % 60) ++
        ':' :: (Text.fixedDigits 10 2
            (t.second % 60 + if 1000000000 ≤ t.nano then 1 else 0) ++
          fractionChars (if 1000000000 ≤ t.nano then t.nano - 1000000000 else t.nano))) := by
  simp [clockChars]

/-- The times of day of two instants are ordered like their texts, leap seconds included. -/
theorem clockChars_lt_iff : a.clockChars < b.clockChars ↔
    a.second < b.second ∨ a.second = b.second ∧ a.nano < b.nano := by
  have ha := a.second_lt
  have hb := b.second_lt
  have ha' := a.nano_lt
  have hb' := b.nano_lt
  rw [clockChars_eq, clockChars_eq, Text.append_lt_append_iff (by simp),
    Text.cons_lt_cons_self_iff, Text.append_lt_append_iff (by simp), Text.cons_lt_cons_self_iff,
    Text.append_lt_append_iff (by simp),
    Text.fixedDigits_lt_iff (by decide) (by decide) (by omega) (by omega),
    Text.fixedDigits_lt_iff (by decide) (by decide) (by omega) (by omega),
    Text.fixedDigits_lt_iff (by decide) (by decide) (by split <;> omega) (by split <;> omega),
    Text.fixedDigits_inj (by decide) (by decide) (by omega) (by omega),
    Text.fixedDigits_inj (by decide) (by decide) (by omega) (by omega),
    Text.fixedDigits_inj (by decide) (by decide) (by split <;> omega) (by split <;> omega),
    fractionChars_lt_iff (by split <;> omega) (by split <;> omega)]
  split <;> split <;> omega

/-- **Instants with years of four digits are ordered like their stored texts.** -/
theorem text_lt_text_iff (ha : a.date.HasFourDigitYear) (hb : b.date.HasFourDigitYear) :
    a.text < b.text ↔ a < b := by
  have hlen : a.date.chars.length = b.date.chars.length := by
    rw [Date.chars_of_hasFourDigitYear ha, Date.chars_of_hasFourDigitYear hb]
    simp
  show a.text.toList < b.text.toList ↔ _
  rw [toList_text, toList_text, chars, chars, Text.append_lt_append_iff hlen,
    Text.cons_lt_cons_self_iff, Date.chars_lt_chars_iff ha hb, Date.chars_inj ha hb,
    clockChars_lt_iff]
  rfl

theorem eq_of_not_lt (hab : ¬ a < b) (hba : ¬ b < a) : a = b := by
  have hab : ¬ Instant.lt a b := hab
  have hba : ¬ Instant.lt b a := hba
  unfold Instant.lt at hab hba
  rw [Date.lt_def, Date.ext_iff] at hab hba
  rw [Instant.ext_iff, Date.ext_iff]
  omega

theorem text_inj (ha : a.date.HasFourDigitYear) (hb : b.date.HasFourDigitYear) :
    a.text = b.text ↔ a = b := by
  constructor
  · intro h
    apply eq_of_not_lt
    · rw [← text_lt_text_iff ha hb, h]
      exact String.lt_irrefl _
    · rw [← text_lt_text_iff hb ha, h]
      exact String.lt_irrefl _
  · rintro rfl
    rfl

end Instant

/-! ### Sort keys -/

/-- Moments and identifiers together are ordered like their texts. -/
theorem texts_lt_texts_iff {now now' : Instant} {id id' : Identifier}
    (hyear : now.date.HasFourDigitYear) (hyear' : now'.date.HasFourDigitYear) :
    [now.text, id.text] < [now'.text, id'.text] ↔
      now < now' ∨ now = now' ∧ id.number < id'.number := by
  rw [List.cons_lt_cons_iff, List.cons_lt_cons_iff, Instant.text_lt_text_iff hyear hyear',
    Instant.text_inj hyear hyear', Identifier.text_lt_text_iff]
  simp

/-- Dates and moments together are ordered like their texts. -/
theorem dueTexts_lt_dueTexts_iff {d d' : Date} {t t' : Instant} (hd : d.HasFourDigitYear)
    (hd' : d'.HasFourDigitYear) (ht : t.date.HasFourDigitYear) (ht' : t'.date.HasFourDigitYear) :
    [d.text, t.text] < [d'.text, t'.text] ↔ d < d' ∨ d = d' ∧ t < t' := by
  rw [List.cons_lt_cons_iff, List.cons_lt_cons_iff, Date.text_lt_text_iff hd',
    or_iff_left (Int.not_lt.2 hd.2), Date.text_inj hd hd', Instant.text_lt_text_iff ht ht']
  simp

end Chancery
