import Chancery.Text.Pattern
import Mathlib.Data.List.Forall2
import Mathlib.Data.List.Infix

/-!
# What a search pattern means

A pattern is read from left to right against a whole text: `%` passes over any part of it, `_` over
one character, and every other character over one that compares the same. `Text.Fits` says so in
as many rules. The matcher fills in a table instead, a row of answers for every tail of the text
and in it one answer for every tail of the pattern, and `matchesPattern_iff` says that it comes to
the same.

A search puts `%` on both sides of what it looks for. If that holds neither of the two wild
characters, the pattern fits the texts in which it stands somewhere (`fits_anywhere_iff`). If it
does hold one, the pattern fits more.

## Main definitions

* `Text.Fits`

## Main results

* `Text.matchesPattern_iff`
* `Text.fits_anywhere_iff`
-/

namespace Chancery.Text

/-- Whether a pattern fits a whole text. -/
inductive Fits : List Char → List Char → Prop
  | nil : Fits [] []
  | many {ps rest t : List Char} (hrest : rest <:+ t) (h : Fits ps rest) : Fits ('%' :: ps) t
  | one {ps t : List Char} (c : Char) (h : Fits ps t) : Fits ('_' :: ps) (c :: t)
  | same {p c : Char} {ps t : List Char} (hp : p ≠ '%')
      (hc : foldPatternChar p = foldPatternChar c) (h : Fits ps t) : Fits (p :: ps) (c :: t)

variable {p c : Char} {ps t : List Char}

theorem fits_nil_iff : Fits [] t ↔ t = [] := by
  constructor
  · rintro ⟨⟩
    rfl
  · rintro rfl
    exact .nil

theorem fits_many_iff : Fits ('%' :: ps) t ↔ ∃ rest, rest <:+ t ∧ Fits ps rest := by
  constructor
  · rintro (_ | ⟨hrest, h⟩ | _ | ⟨hp, -, -⟩)
    · exact ⟨_, hrest, h⟩
    · exact absurd rfl hp
  · rintro ⟨rest, hrest, h⟩
    exact .many hrest h

theorem fits_many_nil_iff : Fits ('%' :: ps) [] ↔ Fits ps [] := by
  simp [fits_many_iff]

theorem fits_many_cons_iff : Fits ('%' :: ps) (c :: t) ↔ Fits ps (c :: t) ∨ Fits ('%' :: ps) t := by
  simp only [fits_many_iff, List.suffix_cons_iff, or_and_right, exists_or, exists_eq_left]

theorem not_fits_nil (hp : p ≠ '%') : ¬ Fits (p :: ps) [] := by
  rintro (_ | ⟨-, -⟩)
  exact hp rfl

theorem fits_cons_iff (hp : p ≠ '%') : Fits (p :: ps) (c :: t) ↔
    (p = '_' ∨ foldPatternChar p = foldPatternChar c) ∧ Fits ps t := by
  constructor
  · rintro (_ | _ | ⟨-, h⟩ | ⟨-, hc, h⟩)
    · exact absurd rfl hp
    · exact ⟨.inl rfl, h⟩
    · exact ⟨.inr hc, h⟩
  · rintro ⟨rfl | hc, h⟩
    · exact .one c h
    · exact .same hp hc h

/-! ### The rows of the matcher -/

/-- Whether a row holds the answers for a text: whether it is fitted by the pattern, and by every
tail of the pattern. -/
def IsRow (t ps : List Char) (row : List Bool) : Prop :=
  List.Forall₂ (fun tail here => here = true ↔ Fits tail t) ps.tails row

theorem IsRow.headD_iff {row : List Bool} (h : IsRow t ps row) :
    row.headD false = true ↔ Fits ps t := by
  cases ps <;> cases h <;> assumption

theorem isRow_emptyRow (ps : List Char) : IsRow [] ps (emptyRow ps) := by
  induction ps with
  | nil => exact .cons (iff_of_true rfl .nil) .nil
  | cons p ps ih =>
    refine .cons ?_ ih
    rw [Bool.and_eq_true, decide_eq_true_eq, ih.headD_iff]
    constructor
    · rintro ⟨rfl, h⟩
      exact fits_many_nil_iff.2 h
    · intro h
      by_cases hp : p = '%'
      · subst hp
        exact ⟨rfl, fits_many_nil_iff.1 h⟩
      · exact absurd h (not_fits_nil hp)

theorem isRow_consRow {old : List Bool} (h : IsRow t ps old) (c : Char) :
    IsRow (c :: t) ps (consRow c ps old) := by
  induction ps generalizing old with
  | nil =>
    refine .cons ?_ .nil
    rw [fits_nil_iff]
    simp
  | cons p ps ih =>
    have hhere := h.headD_iff
    have htail : IsRow t ps old.tail := by
      cases h
      assumption
    refine .cons ?_ (ih htail)
    by_cases hp : p = '%'
    · subst hp
      rw [if_pos rfl, Bool.or_eq_true, (ih htail).headD_iff, hhere, fits_many_cons_iff]
    · rw [if_neg hp, Bool.and_eq_true, Bool.or_eq_true, decide_eq_true_eq, decide_eq_true_eq,
        htail.headD_iff, fits_cons_iff hp]

/-- **The matcher decides whether a pattern fits**, both cut at their first NUL. -/
theorem matchesPattern_iff {pattern text : List Char} :
    matchesPattern pattern text = true ↔ Fits (untilNul pattern) (untilNul text) := by
  have hrow : IsRow (untilNul text) (untilNul pattern)
      ((untilNul text).foldr (fun c row => consRow c (untilNul pattern) row)
        (emptyRow (untilNul pattern))) := by
    induction untilNul text with
    | nil => exact isRow_emptyRow _
    | cons c t ih => exact isRow_consRow ih c
  exact hrow.headD_iff

/-! ### Looking for a text anywhere -/

/-- A pattern without wild characters fits what compares the same, character by character. -/
theorem fits_append_iff {ps qs : List Char} (hps : ∀ p ∈ ps, p ≠ '%' ∧ p ≠ '_') :
    Fits (ps ++ qs) t ↔
      ∃ u rest, u ++ rest = t ∧ u.map foldPatternChar = ps.map foldPatternChar ∧ Fits qs rest := by
  induction ps generalizing t with
  | nil => simp
  | cons p ps ih =>
    obtain ⟨⟨hmany, hone⟩, hps⟩ := List.forall_mem_cons.1 hps
    cases t with
    | nil =>
      refine iff_of_false (not_fits_nil hmany) ?_
      rintro ⟨u, rest, heq, hu, -⟩
      rw [(List.append_eq_nil_iff.1 heq).1] at hu
      cases hu
    | cons c t =>
      rw [List.cons_append, fits_cons_iff hmany, or_iff_right hone, ih hps]
      constructor
      · rintro ⟨hc, u, rest, rfl, hu, h⟩
        exact ⟨c :: u, rest, rfl, by rw [List.map_cons, List.map_cons, hc, hu], h⟩
      · rintro ⟨u, rest, heq, hu, h⟩
        cases u with
        | nil => cases hu
        | cons d u =>
          obtain ⟨rfl, rfl⟩ := List.cons.inj heq
          obtain ⟨hc, hu⟩ := List.cons.inj hu
          exact ⟨hc.symm, u, rest, rfl, hu, h⟩

/-- **A text without wild characters is looked for as it stands**, up to what compares the
same. -/
theorem fits_anywhere_iff (hps : ∀ p ∈ ps, p ≠ '%' ∧ p ≠ '_') :
    Fits ('%' :: (ps ++ ['%'])) t ↔
      ps.map foldPatternChar <:+: t.map foldPatternChar := by
  have hall : ∀ rest, Fits ['%'] rest := fun rest =>
    .many (List.nil_suffix (l := rest)) .nil
  simp only [fits_many_iff, fits_append_iff hps]
  constructor
  · rintro ⟨-, ⟨before, rfl⟩, u, rest, rfl, hu, -⟩
    exact ⟨before.map foldPatternChar, rest.map foldPatternChar, by simp [hu]⟩
  · rintro ⟨before, after, heq⟩
    obtain ⟨front, rest, rfl, hfront, -⟩ := List.map_eq_append_iff.1 heq.symm
    obtain ⟨skipped, u, rfl, -, hu⟩ := List.map_eq_append_iff.1 hfront
    exact ⟨u ++ rest, ⟨skipped, by simp⟩, u, rest, rfl, hu, fits_many_iff.1 (hall rest)⟩

end Chancery.Text
