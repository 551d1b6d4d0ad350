import Chancery.Proofs.Office.Runs
import Mathlib.Data.List.Nodup

/-!
# How the trail grows

A call only adds to the trail. So an event that stands somewhere in the trail of a stage was added
by one of the calls before that stage, and what stood before it then stands before it still
(`exists_telling`). Events name the one record they are about, an assignment or a task.

A history of a record under its identifier makes sense only if the identifier is not given to two
records. The supply of identifiers is therefore supposed to be without repetitions as far as it has
been drawn from (`DrawsApart`); of the identifiers that no call draws nothing is supposed.

## Main definitions

* `AuditEvent.assignment?`, `AuditEvent.task?` — the record that an event is about
* `Office.drawnAt`, `Office.WasDrawn`, `Office.DrawsApart`

## Main results

* `Call.Outcome.trail_prefix`, `Office.exists_telling`
* `Office.DrawsApart.not_mem_drawnAt` — what has been drawn is not drawn again
-/

namespace Chancery

/-! ### What events are about -/

namespace AuditEvent

/-- The assignment that an event names. -/
def assignment? : AuditEvent → Option Identifier
  | assignmentCreated _ id _ | assignmentUpdated _ id | assignmentTransitioned _ id _ _
  | assignmentTransitionDenied _ id _ _ | assignmentDeleted _ id => some id
  | _ => none

/-- The task that an event names. -/
def task? : AuditEvent → Option Identifier
  | acknowledgmentCreated _ id _ | acknowledgmentViewed _ id | acknowledgmentConfirmed _ id
  | acknowledgmentCompleted id | acknowledgmentDeleted _ id => some id
  | _ => none

end AuditEvent

/-! ### One call -/

namespace Office

@[simp] theorem trail_foldl_record (office : Office) (events : List AuditEvent) :
    (events.foldl record office).trail = office.trail ++ events := by
  induction events generalizing office with
  | nil => rw [List.foldl_nil, List.append_nil]
  | cons event events ih =>
    rw [List.foldl_cons, ih, trail_record, List.append_assoc, List.singleton_append]

/-- A confirmation tells of its task only. -/
theorem of_mem_confirmationEvents {actor task : Identifier} {outcome : ConfirmOutcome}
    {e : AuditEvent} (h : e ∈ confirmationEvents actor task outcome) :
    e.assignment? = none ∧ e.task? = some task := by
  simp only [confirmationEvents, List.mem_append, List.mem_ite_nil_right, List.mem_singleton] at h
  rcases h with ⟨-, rfl⟩ | ⟨-, rfl⟩ <;> exact ⟨rfl, rfl⟩

/-- The identifiers that have been drawn between one office and a later one. -/
def drawnBetween (o : Occasion) (office office' : Office) : List Identifier :=
  office.upcoming o (office'.drawn - office.drawn)

/-- The next identifier is drawn when anything is. -/
theorem nextId_mem_drawnBetween {o : Occasion} {office office' : Office}
    (h : office.drawn < office'.drawn) : office.nextId o ∈ drawnBetween o office office' := by
  refine List.mem_map.2 ⟨0, List.mem_range.2 (by omega), rfl⟩

end Office

namespace Call.Outcome

variable {o : Occasion} {office office' : Office} {c : Call} {answer : Except Refusal Answer}

/-- No call takes anything out of the trail. -/
theorem trail_prefix (hout : Outcome o office c answer office') :
    office.trail <+: office'.trail := by
  cases hout with
  | refused _ | looked _ | userEntered _ | documentEntered _ | assignmentUnread _ _ _
  | assignmentAbsent _ | taskUnread _ _ _ | taskAbsent _ _ | viewedBefore _ _ _
  | confirmedBefore _ _ _ => exact List.prefix_rfl
  | assignmentCreated _ _ _ | assignmentUpdated _ _ | moveDenied _ _ | assignmentMoved _ _ _
  | assignmentDeleted _ | taskCreated _ _ _ | taskDeleted _ _ | taskViewed _ _ =>
    exact List.prefix_append _ _
  | taskConfirmed _ _ _ =>
    rw [Office.trail_foldl_record]
    exact List.prefix_append _ _

end Call.Outcome

/-! ### Stages -/

namespace Office

variable {run : List (Occasion × Call)} {n m : Nat} {id : Identifier}

/-- The trail of a stage is the beginning of the trail of every later one. -/
theorem trail_prefix_stage (run : List (Occasion × Call)) (h : n ≤ m) :
    (stage run n).trail <+: (stage run m).trail := by
  induction h with
  | refl => exact List.prefix_rfl
  | @step m _ ih =>
    rcases stage_step run m with ⟨o, c, answer, -, -, hout⟩ | ⟨-, same⟩
    · exact ih.trans hout.trail_prefix
    · rw [Nat.succ_eq_add_one, same]
      exact ih

/-- **Every event was added by one call.** What stands before it in the trail is what stood there
before the call and what the call had added until then. -/
theorem exists_telling {before after : List AuditEvent} {e : AuditEvent}
    (h : (stage run m).trail = before ++ e :: after) :
    ∃ n < m, ∃ told more, before = (stage run n).trail ++ told ∧
      (stage run (n + 1)).trail = (stage run n).trail ++ (told ++ e :: more) := by
  induction m generalizing after with
  | zero => cases List.append_eq_nil_iff.1 h.symm with | intro _ h => cases h
  | succ m ih =>
    obtain ⟨events, hevents⟩ := trail_prefix_stage run (Nat.le_add_right m 1)
    rw [h] at hevents
    rcases List.append_eq_append_iff.1 hevents with
      ⟨told, hbefore, rfl⟩ | ⟨rest, htrail, hrest⟩
    · exact ⟨m, Nat.lt_succ_self m, told, after, hbefore, by rw [h, hbefore, List.append_assoc]⟩
    · cases rest with
      | nil =>
        rw [List.append_nil] at htrail
        rw [List.nil_append] at hrest
        refine ⟨m, Nat.lt_succ_self m, [], after, ?_, ?_⟩
        · rw [htrail, List.append_nil]
        · rw [h, htrail, List.nil_append]
      | cons e' rest =>
        obtain ⟨rfl, -⟩ := List.cons.inj hrest
        obtain ⟨n, hn, told, more, hbefore, htold⟩ := ih htrail
        exact ⟨n, by omega, told, more, hbefore, htold⟩

/-- The identifiers that the call of a run with a number draws. -/
def drawnAt (run : List (Occasion × Call)) (n : Nat) : List Identifier :=
  match run[n]? with
  | some (o, _) => drawnBetween o (stage run n) (stage run (n + 1))
  | none => []

/-- Whether an identifier has been drawn by one of the first calls of a run. -/
def WasDrawn (run : List (Occasion × Call)) (n : Nat) (id : Identifier) : Prop :=
  ∃ k < n, id ∈ drawnAt run k

/-- Whether the identifiers that the calls of a run draw are all different. -/
def DrawsApart (run : List (Occasion × Call)) : Prop :=
  ((List.range run.length).flatMap (drawnAt run)).Nodup

instance (run : List (Occasion × Call)) : Decidable (DrawsApart run) :=
  inferInstanceAs (Decidable (List.Nodup _))

theorem drawnAt_eq {o : Occasion} {c : Call} (h : run[n]? = some (o, c)) :
    drawnAt run n = drawnBetween o (stage run n) (stage run (n + 1)) := by
  rw [drawnAt, h]

theorem wasDrawn_of_mem {o : Occasion} {c : Call} (h : run[n]? = some (o, c))
    (hid : id ∈ drawnBetween o (stage run n) (stage run (n + 1))) : WasDrawn run (n + 1) id :=
  ⟨n, Nat.lt_succ_self n, drawnAt_eq h ▸ hid⟩

theorem WasDrawn.succ (h : WasDrawn run n id) : WasDrawn run (n + 1) id := by
  obtain ⟨k, hk, hid⟩ := h
  exact ⟨k, by omega, hid⟩

/-- **What has been drawn is not drawn again.** -/
theorem DrawsApart.not_mem_drawnAt (h : DrawsApart run) (hid : WasDrawn run n id) :
    id ∉ drawnAt run n := by
  obtain ⟨k, hk, hdrawn⟩ := hid
  intro again
  rcases Nat.lt_or_ge n run.length with hn | hn
  · have apart := (List.nodup_flatMap.1 h).2
    have hpair := List.pairwise_iff_getElem.1 apart k n (by simp; omega) (by simpa using hn) hk
    simp only [List.getElem_range] at hpair
    exact hpair hdrawn again
  · simp [drawnAt, List.getElem?_eq_none hn] at again

/-- **What is drawn is drawn by one call.** -/
theorem DrawsApart.eq_of_mem_drawnAt (h : DrawsApart run) (hn : id ∈ drawnAt run n)
    (hm : id ∈ drawnAt run m) : n = m := by
  rcases Nat.lt_trichotomy n m with hlt | heq | hlt
  · exact absurd hm (h.not_mem_drawnAt ⟨n, hlt, hn⟩)
  · exact heq
  · exact absurd hn (h.not_mem_drawnAt ⟨m, hlt, hm⟩)

end Office

end Chancery
