import Chancery.Text.Blank
import Mathlib.Data.List.DropRight

/-!
# Trimming

A text is trimmed by dropping the blanks at its two ends. So a text is its trimmed text between two
gaps, texts of blanks only, and gaps put around a text do not change what it is trimmed to.

## Main definitions

* `Text.AllBlank`

## Main results

* `Text.trimChars_gaps` — gaps around a text do not matter
* `Text.exists_gaps` — every text is its trimmed text between two gaps
* `Text.trimChars_trimChars`
-/

namespace Chancery.Text

variable {g s t before after : List Char}

/-- Whether a text has nothing but blanks in it. -/
def AllBlank (g : List Char) : Prop := ∀ c ∈ g, isBlank c = true

instance : DecidablePred AllBlank := fun g => List.decidableBAll _ g

theorem allBlank_nil : AllBlank [] := by simp [AllBlank]

/-! ### One end -/

theorem AllBlank.trimLeft_append (hg : AllBlank g) (s : List Char) :
    trimLeft (g ++ s) = trimLeft s :=
  List.dropWhile_append_of_pos hg

theorem AllBlank.trimLeft_eq_nil (hg : AllBlank g) : trimLeft g = [] :=
  List.dropWhile_eq_nil_iff.2 hg

theorem exists_gap (s : List Char) : ∃ g, AllBlank g ∧ s = g ++ trimLeft s :=
  ⟨s.takeWhile isBlank, fun _ => List.mem_takeWhile_imp, List.takeWhile_append_dropWhile.symm⟩

theorem trimLeft_of_isPrefix (hst : s <+: t) (ht : trimLeft t = t) : trimLeft s = s := by
  obtain ⟨rest, rfl⟩ := hst
  cases s with
  | nil => rfl
  | cons c s =>
    refine List.dropWhile_cons_of_neg fun hc => ?_
    rw [trimLeft, List.cons_append, List.dropWhile_cons_of_pos hc] at ht
    have hlength := (List.dropWhile_sublist isBlank (l := s ++ rest)).length_le
    rw [ht, List.length_cons] at hlength
    omega

theorem trimRight_isPrefix (s : List Char) : trimRight s <+: s :=
  List.rdropWhile_prefix isBlank s

theorem AllBlank.trimRight_append (hg : AllBlank g) (s : List Char) :
    trimRight (s ++ g) = trimRight s := by
  have hreverse : AllBlank g.reverse := fun c hc => hg c (List.mem_reverse.1 hc)
  rw [trimRight, List.reverse_append, ← trimLeft, hreverse.trimLeft_append, trimLeft, ← trimRight]

theorem exists_gap_right (s : List Char) : ∃ g, AllBlank g ∧ s = trimRight s ++ g := by
  obtain ⟨g, hg, hs⟩ := exists_gap s.reverse
  refine ⟨g.reverse, fun c hc => hg c (List.mem_reverse.1 hc), ?_⟩
  rw [trimRight, ← trimLeft, ← List.reverse_append, ← hs, List.reverse_reverse]

/-! ### Both ends -/

/-- **Gaps around a text do not change what it is trimmed to.** -/
theorem trimChars_gaps (hbefore : AllBlank before) (hafter : AllBlank after) (s : List Char) :
    trimChars (before ++ s ++ after) = trimChars s := by
  rw [List.append_assoc, trimChars, hbefore.trimLeft_append, trimLeft, List.dropWhile_append]
  split
  · rename_i hempty
    rw [← trimLeft, hafter.trimLeft_eq_nil, trimChars, trimLeft, List.isEmpty_iff.1 hempty]
  · exact hafter.trimRight_append _

/-- Every text is its trimmed text between two gaps. -/
theorem exists_gaps (s : List Char) :
    ∃ before after, AllBlank before ∧ AllBlank after ∧ s = before ++ trimChars s ++ after := by
  obtain ⟨before, hbefore, hs⟩ := exists_gap s
  obtain ⟨after, hafter, htrim⟩ := exists_gap_right (trimLeft s)
  refine ⟨before, after, hbefore, hafter, ?_⟩
  rw [trimChars, List.append_assoc, ← htrim, ← hs]

theorem trimLeft_trimChars (s : List Char) : trimLeft (trimChars s) = trimChars s :=
  trimLeft_of_isPrefix (trimRight_isPrefix _) (List.dropWhile_idempotent _ _)

/-- Trimming once is enough. -/
theorem trimChars_trimChars (s : List Char) : trimChars (trimChars s) = trimChars s := by
  rw [trimChars, trimLeft_trimChars]
  exact List.rdropWhile_idempotent _ _

theorem trim_trim (s : String) : trim (trim s) = trim s := by
  rw [trim, toList_trim, trimChars_trimChars, ← trim]

/-! ### Optional texts -/

theorem nonBlank?_trim {s : String} (h : trim s ≠ "") : nonBlank? (some s) = some (trim s) := by
  simp [nonBlank?, h]

theorem nonBlank?_of_trim_eq_empty {s : String} (h : trim s = "") : nonBlank? (some s) = none := by
  rw [nonBlank?, Option.map_some, h]
  rfl

theorem exists_of_nonBlank? {text : Option String} {s : String} (h : nonBlank? text = some s) :
    ∃ t, text = some t ∧ trim t = s := by
  cases text with
  | none => cases h
  | some t =>
    obtain ⟨heq, -⟩ := Option.filter_eq_some_iff.1 h
    exact ⟨t, rfl, Option.some.inj heq⟩

end Chancery.Text
