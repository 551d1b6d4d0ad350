import Chancery.Proofs.Trail.Receipts
import Chancery.Proofs.Trail.Standing

/-!
# The audit trail is a faithful history

What the trail of a run says about one assignment and about one task, and how it belongs to what
the tables hold. The invariants that carry it are those of the two modules before: the standings
through which the trail takes an assignment, and the receipts and marks of a task.

The identifiers that the calls draw are supposed to be all different. Otherwise two records might
bear one identifier after each other, and the trail would tell two histories in one.

## Main definitions

* `Office.AssignmentTrail`, `Office.TaskTrail`

## Main results

* `Call.Outcome.of_denial` — a denial says what is stored and changes nothing
* `Office.trail_faithful`
-/

namespace Chancery

namespace Call

variable {o : Occasion} {office office' : Office} {c : Call} {answer : Except Refusal Answer}
  {id actor : Identifier} {source target : Status} {told more : List AuditEvent}

/-- A call that tells of a denial tells of nothing else and does nothing else. The denial says from
which status the assignment was to be moved, and that is the one that is stored. -/
theorem Outcome.of_denial (hout : Outcome o office c answer office')
    (h : office.store.Constrained)
    (htold : office'.trail =
      office.trail ++ (told ++ .assignmentTransitionDenied actor id source target :: more)) :
    told = [] ∧ office' = office.record (.assignmentTransitionDenied actor id source target) ∧
      ∃ row, office.store.rowUnder? id = some row ∧ row.status = source.name := by
  -- What the call has told contains the denial, so it is the denial of a move.
  have denies : ∀ events, office'.trail = office.trail ++ events →
      events = told ++ .assignmentTransitionDenied actor id source target :: more :=
    fun events hevents => List.append_cancel_left (hevents.symm.trans htold)
  have member : ∀ events, office'.trail = office.trail ++ events →
      AuditEvent.assignmentTransitionDenied actor id source target ∈ events := by
    intro events hevents
    rw [denies events hevents]
    exact List.mem_append_right _ List.mem_cons_self
  cases hout with
  | refused _ | looked _ | userEntered _ | documentEntered _ | assignmentUnread _ _ _
  | assignmentAbsent _ | taskUnread _ _ _ | taskAbsent _ _ | viewedBefore _ _ _
  | confirmedBefore _ _ _ => cases member [] (List.append_nil _).symm
  | assignmentCreated _ _ _ | assignmentUpdated _ _ | assignmentMoved _ _ _ | assignmentDeleted _
  | taskCreated _ _ _ | taskDeleted _ _ | taskViewed _ _ =>
    cases List.mem_singleton.1 (member _ rfl)
  | taskConfirmed _ _ _ =>
    have htask := (Office.of_mem_confirmationEvents (member _ (Office.trail_foldl_record _ _))).1
    cases htask
  | @moveDenied _ _ mover id' target' existing e read _ =>
    cases List.mem_singleton.1 (member _ rfl)
    have only := congrArg List.length (denies _ rfl)
    obtain ⟨-, -, -, hex⟩ := Office.of_readMove read
    obtain ⟨row, hrow, hreads⟩ := h.rowUnder?_of_assignment? hex
    refine ⟨List.eq_nil_of_length_eq_zero ?_, rfl, row, hrow, hreads.status⟩
    simp only [List.length_cons, List.length_nil, List.length_append] at only
    omega

end Call

namespace Office

variable {run : List (Occasion × Call)}

/-- What the trail of a run says about one assignment. -/
structure AssignmentTrail (run : List (Occasion × Call)) (id : Identifier) : Prop where
  /-- The first event that names the assignment is its creation. -/
  opens : ∀ n e, (stage run n).trail.find? (fun e => e.assignment? = some id) = some e →
    ∃ actor executor, e = .assignmentCreated actor id executor
  /-- A move starts from the status to which the one before it led, and the first from `new`. -/
  linked : ∀ n before actor source target after,
    (stage run n).trail = before ++ .assignmentTransitioned actor id source target :: after →
    source = AuditEvent.statusTold id before
  /-- While the assignment exists, its stored status is the one to which the last move led. -/
  current : ∀ n row, (stage run n).store.rowUnder? id = some row →
    row.status = (AuditEvent.statusTold id (stage run n).trail).name
  /-- Once its deletion is told the assignment is absent and is not named again. -/
  closed : ∀ n before actor after,
    (stage run n).trail = before ++ .assignmentDeleted actor id :: after →
    (stage run n).store.rowUnder? id = none ∧ ∀ e ∈ after, e.assignment? ≠ some id
  /-- The denial of a move was told by a call that did nothing else, and it says from which status
  the assignment was to be moved: the one that was stored at that moment. -/
  denied : ∀ n before actor source target after,
    (stage run n).trail = before ++ .assignmentTransitionDenied actor id source target :: after →
    ∃ k < n, (stage run k).trail = before ∧
      stage run (k + 1) =
        (stage run k).record (.assignmentTransitionDenied actor id source target) ∧
      ∃ row, (stage run k).store.rowUnder? id = some row ∧ row.status = source.name

/-- What the trail of a run says about one task. -/
structure TaskTrail (run : List (Occasion × Call)) (id : Identifier) : Prop where
  completedOnce : ∀ n, (stage run n).trail.count (.acknowledgmentCompleted id) ≤ 1
  confirmedOnce : ∀ n user, (stage run n).trail.count (.acknowledgmentConfirmed user id) ≤ 1
  viewedOnce : ∀ n user, (stage run n).trail.count (.acknowledgmentViewed user id) ≤ 1
  /-- While the task exists, its completion has been told exactly if it is stamped complete. -/
  completed : ∀ n row, (stage run n).store.taskUnder? id = some row →
    (.acknowledgmentCompleted id ∈ (stage run n).trail ↔ row.completedAt.isSome = true)
  /-- While the task exists, a user's confirmation has been told exactly if the user's entry has
  the time of one. -/
  confirmed : ∀ n row, (stage run n).store.taskUnder? id = some row → ∀ user,
    (.acknowledgmentConfirmed user id ∈ (stage run n).trail ↔
      ∃ r ∈ (stage run n).store.entriesUnder id,
        r.userId = user.text ∧ r.confirmedAt.isSome = true)

theorem exists_denial {n : Nat} {id actor : Identifier} {source target : Status}
    {before after : List AuditEvent}
    (h : (stage run n).trail =
      before ++ .assignmentTransitionDenied actor id source target :: after) :
    ∃ k < n, (stage run k).trail = before ∧
      stage run (k + 1) =
        (stage run k).record (.assignmentTransitionDenied actor id source target) ∧
      ∃ row, (stage run k).store.rowUnder? id = some row ∧ row.status = source.name := by
  obtain ⟨k, hk, told, more, rfl, htold⟩ := exists_telling h
  rcases stage_step run k with ⟨o, c, answer, -, -, hout⟩ | ⟨-, same⟩
  · obtain ⟨rfl, hoffice, hrow⟩ := hout.of_denial (orderly_stage run k).toConstrained htold
    exact ⟨k, hk, (List.append_nil _).symm, hoffice, hrow⟩
  · rw [same, List.self_eq_append_right] at htold
    cases List.append_eq_nil_iff.1 htold with | intro _ h => cases h

/-- **The audit trail is a faithful history** of every assignment and of every task, in every run
whose calls draw no identifier twice. -/
theorem trail_faithful (apart : DrawsApart run) (id : Identifier) :
    AssignmentTrail run id ∧ TaskTrail run id := by
  refine ⟨⟨?_, ?_, ?_, ?_, ?_⟩, ⟨?_, ?_, ?_, ?_, ?_⟩⟩
  · intro n e first
    obtain ⟨st, tells, -⟩ := standing_stage apart n id
    exact tells.created_of_find? first
  · intro n before actor source target after htrail
    obtain ⟨st, tells, -⟩ := standing_stage apart n id
    exact (htrail ▸ tells).source_eq
  · intro n row hrow
    obtain ⟨st, tells, fits, -⟩ := standing_stage apart n id
    obtain ⟨present, hstatus⟩ := (hrow ▸ fits).status_eq
    rw [hstatus, tells.status_eq present]
  · intro n before actor after htrail
    obtain ⟨st, tells, fits, -⟩ := standing_stage apart n id
    obtain ⟨hgone, unnamed⟩ := (htrail ▸ tells).gone_of_deleted
    exact ⟨(hgone ▸ fits : Standing.gone.Fits _), unnamed⟩
  · intro n before actor source target after htrail
    exact exists_denial htrail
  · exact fun n => (receipted_stage apart n id).1.once .completed
  · exact fun n user => (receipted_stage apart n id).1.once (.confirmed user)
  · exact fun n user => (receipted_stage apart n id).1.once (.viewed user)
  · exact fun n row hrow => (receipted_stage apart n id).1.event_mem_iff hrow .completed rfl
  · exact fun n row hrow user =>
      (receipted_stage apart n id).1.event_mem_iff hrow (.confirmed user) rfl

theorem trail_faithful_of_runs :
    DrawsApart finishingRun ∧ AssignmentTrail finishingRun (.ofNat 3) ∧
      (stage finishingRun 7).trail =
        [.assignmentCreated anna.id (.ofNat 3) boris.id,
          .assignmentTransitioned boris.id (.ofNat 3) .new .completed,
          .assignmentTransitioned anna.id (.ofNat 3) .completed .finished] ∧
      DrawsApart circulatingRun ∧ TaskTrail circulatingRun (.ofNat 6) ∧
      (stage circulatingRun 12).trail =
        [.acknowledgmentCreated anna.id (.ofNat 4) 1,
          .acknowledgmentCreated anna.id (.ofNat 6) 2,
          .acknowledgmentViewed boris.id (.ofNat 6),
          .acknowledgmentConfirmed boris.id (.ofNat 6),
          .acknowledgmentConfirmed vera.id (.ofNat 6),
          .acknowledgmentCompleted (.ofNat 6)] := by
  have finished : DrawsApart finishingRun ∧ (stage finishingRun 7).trail =
      [.assignmentCreated anna.id (.ofNat 3) boris.id,
        .assignmentTransitioned boris.id (.ofNat 3) .new .completed,
        .assignmentTransitioned anna.id (.ofNat 3) .completed .finished] := by
    decide +kernel
  have circulated : DrawsApart circulatingRun ∧ (stage circulatingRun 12).trail =
      [.acknowledgmentCreated anna.id (.ofNat 4) 1,
        .acknowledgmentCreated anna.id (.ofNat 6) 2,
        .acknowledgmentViewed boris.id (.ofNat 6),
        .acknowledgmentConfirmed boris.id (.ofNat 6),
        .acknowledgmentConfirmed vera.id (.ofNat 6),
        .acknowledgmentCompleted (.ofNat 6)] := by
    decide +kernel
  exact ⟨finished.1, (trail_faithful finished.1 _).1, finished.2, circulated.1,
    (trail_faithful circulated.1 _).2, circulated.2⟩

end Office

end Chancery
