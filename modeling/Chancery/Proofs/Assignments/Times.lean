import Chancery.Proofs.Assignments.Fate

/-!
# The times of stored assignments

Every time that the table of assignments holds of the creation or the completion of a piece of work
is a moment that the run has recorded, which is a reading of its clock in whole microseconds. What
holds of all readings of the clock therefore holds of all stored times.

## Main results

* `Office.times_of_rowUnder?`, `Office.times_of_mem`
-/

namespace Chancery

/-- What a status keeps or records as completion is the completion before or the present moment. -/
theorem Status.completionAfter_cases {target : Status} {recorded : Option Instant} {now t : Instant}
    (h : target.completionAfter recorded now = some t) : recorded = some t ∨ t = now := by
  cases target <;> simp_all [completionAfter]

namespace Office

variable {run : List (Occasion × Call)} {n : Nat}

/-- The times of a row are moments of the run. -/
theorem times_of_rowUnder? {id : Identifier} {row : AssignmentRow}
    (h : (stage run n).store.rowUnder? id = some row) :
    (∃ call ∈ run, row.createdAt = call.1.now) ∧
      ∀ t, row.completedAt = some t → ∃ call ∈ run, t = call.1.now := by
  induction n generalizing row with
  | zero => cases h
  | succ n ih =>
    rcases stage_fate run n id with ⟨o, c, answer, hc, -, fate⟩ | ⟨-, hsame⟩
    · have here : (o, c) ∈ run := List.mem_of_getElem? hc
      generalize hafter : (stage run (n + 1)).store.rowUnder? id = after at fate h
      generalize hbefore : (stage run n).store.rowUnder? id = before at fate ih
      subst h
      cases fate with
      | kept _ _ => exact ih rfl
      | entered _ => exact ⟨⟨_, here, rfl⟩, fun t ht => by cases ht⟩
      | edited _ _ =>
        obtain ⟨hcreated, hcompleted⟩ := ih rfl
        exact ⟨hcreated, hcompleted⟩
      | moved _ _ _ _ =>
        obtain ⟨hcreated, hcompleted⟩ := ih rfl
        refine ⟨hcreated, fun t ht => ?_⟩
        rcases Status.completionAfter_cases ht with ht | rfl
        · exact hcompleted t ht
        · exact ⟨_, here, rfl⟩
    · rw [hsame] at h
      exact ih h

theorem times_of_mem {row : AssignmentRow} (h : row ∈ (stage run n).store.assignments) :
    (∃ call ∈ run, row.createdAt = call.1.now) ∧
      ∀ t, row.completedAt = some t → ∃ call ∈ run, t = call.1.now := by
  obtain ⟨id, hid⟩ := (orderly_stage run n).assignmentTexts row h
  exact times_of_rowUnder? ((orderly_stage run n).rowUnder?_of_mem h hid.symm)

end Office

end Chancery
