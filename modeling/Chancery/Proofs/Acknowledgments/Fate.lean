import Chancery.Proofs.Acknowledgments.Entries
import Chancery.Proofs.Office.Runs
import Chancery.Proofs.Store.Rereading

/-!
# What one call does to one acknowledgment task

The row of a task and its entries are followed together through one call: the task is entered with
an entry per recipient, an entry is viewed or confirmed, the last confirmation stamps the row, or
the task is deleted with its entries. Everything else keeps both. This is the counterpart of `Fate`
for assignments.

A confirmation comes in two forms, according to whether it leaves somebody unconfirmed. The second
reports the task complete exactly if the row had no stamp before.

## Main definitions

* `TaskFate`

## Main results

* `Call.Outcome.taskFate` — the fate of a task in one call
* `Office.stage_taskFate` — the fate of a task from one stage to the next
-/

namespace Chancery

/-- Whether a call is a confirmation that reported a task complete. -/
def Call.isCompletionOf (id : Identifier) : Call → Except Refusal Answer → Bool
  | .confirmAcknowledgment _ text, .ok (.confirmed outcome) =>
    outcome.completedTask && Identifier.parse? text = some id
  | _, _ => false

open Store in
/-- What becomes of the task under an identifier in one call: the call, what is answered, the row
and the entries before, and the row and the entries after. -/
inductive TaskFate (o : Occasion) (id : Identifier) :
    Call → Except Refusal Answer → Option AcknowledgmentRow → List RecipientRow →
      Option AcknowledgmentRow → List RecipientRow → Prop
  | kept {c answer row entries} (uncompleted : c.isCompletionOf id answer = false) :
      TaskFate o id c answer row entries row entries
  | entered {actor r new task entryIds}
      (recipients : new.recipientIds = Intake.recipients r.recipientIds)
      (nonempty : new.recipientIds ≠ [])
      (drawn : List.length entryIds = new.recipientIds.length)
      (named : task.id = id) :
      TaskFate o id (.createAcknowledgment actor r) (.ok (.task task)) none []
        (some (acknowledgmentRow id o.now new))
        (recipientRows id o.now (entryIds.zip new.recipientIds))
  | viewed {viewer text answer row entries} :
      TaskFate o id (.viewAcknowledgment (some viewer) text) answer (some row) entries (some row)
        (entries.map fun r =>
          if r.userId = viewer.id.text && r.viewedAt.isNone then RecipientRow.view o.now r else r)
  | confirmed {confirmer text row entries entries'}
      (waiting : List.any entries
        (fun r => r.userId = confirmer.id.text && r.confirmedAt.isNone) = true)
      (confirms : entries' = entries.map fun r =>
        if r.userId = confirmer.id.text && r.confirmedAt.isNone then RecipientRow.confirm o.now r
        else r)
      (outstanding : (entries'.any fun r => r.confirmedAt.isNone) = true) :
      TaskFate o id (.confirmAcknowledgment (some confirmer) text)
        (.ok (.confirmed ⟨.recorded, false⟩)) (some row) entries (some row) entries'
  | completed {confirmer text row entries entries'}
      (named : Identifier.parse? text = some id)
      (waiting : List.any entries
        (fun r => r.userId = confirmer.id.text && r.confirmedAt.isNone) = true)
      (confirms : entries' = entries.map fun r =>
        if r.userId = confirmer.id.text && r.confirmedAt.isNone then RecipientRow.confirm o.now r
        else r)
      (settled : (entries'.any fun r => r.confirmedAt.isNone) = false) :
      TaskFate o id (.confirmAcknowledgment (some confirmer) text)
        (.ok (.confirmed ⟨.recorded, row.completedAt.isNone⟩)) (some row) entries
        (some (if row.completedAt.isNone then AcknowledgmentRow.complete o.now row else row))
        entries'
  | deleted {deleter text answer row entries} :
      TaskFate o id (.deleteAcknowledgment (some deleter) text) answer (some row) entries none []

namespace Call

variable {o : Occasion} {office office' : Office} {c : Call} {answer : Except Refusal Answer}

theorem isCompletionOf_error (id : Identifier) (c : Call) (e : Refusal) :
    c.isCompletionOf id (.error e) = false := by
  cases c <;> rfl

theorem isCompletionOf_of_isReading (id : Identifier) (h : c.isReading = true) :
    c.isCompletionOf id answer = false := by
  cases c <;> first | rfl | exact Bool.noConfusion h

theorem isCompletionOf_of_ne {id id' : Identifier} {actor : Option Actor} {text : String}
    (named : Identifier.parse? text = some id') (hne : id ≠ id') (answer : Except Refusal Answer) :
    (confirmAcknowledgment actor text).isCompletionOf id answer = false := by
  cases answer with
  | error e => rfl
  | ok answer => cases answer <;> simp [isCompletionOf, named, Ne.symm hne]

/-- A call that leaves the row and the entries of a task alone keeps it. -/
theorem taskFate_of_eq {s s' : Store} {id : Identifier}
    (uncompleted : c.isCompletionOf id answer = false)
    (hrow : s'.taskUnder? id = s.taskUnder? id)
    (hentries : s'.entriesUnder id = s.entriesUnder id) :
    TaskFate o id c answer (s.taskUnder? id) (s.entriesUnder id) (s'.taskUnder? id)
      (s'.entriesUnder id) := by
  rw [hrow, hentries]
  exact .kept uncompleted

namespace Outcome

/-- **What a call does to the task under an identifier.** -/
theorem taskFate (hout : Outcome o office c answer office') (h : office.store.Orderly)
    (id : Identifier) :
    TaskFate o id c answer (office.store.taskUnder? id) (office.store.entriesUnder id)
      (office'.store.taskUnder? id) (office'.store.entriesUnder id) := by
  cases hout with
  | refused _ => exact taskFate_of_eq (isCompletionOf_error id _ _) rfl rfl
  | looked reads => exact taskFate_of_eq (isCompletionOf_of_isReading id reads) rfl rfl
  | userEntered added =>
    obtain ⟨-, rfl⟩ := Store.insertUser_eq_ok.1 (Store.addUser_eq_ok.1 added).1
    exact taskFate_of_eq rfl rfl rfl
  | documentEntered added =>
    obtain ⟨-, rfl⟩ := Store.insertDocument_eq_ok.1 (Store.addDocument_eq_ok.1 added).1
    refine taskFate_of_eq rfl ?_ ?_
    · simp [Store.taskUnder?]
    · simp [Store.entriesUnder]
  | assignmentCreated _ added _ =>
    obtain ⟨-, rfl⟩ := Store.addAssignment_eq added
    exact taskFate_of_eq rfl rfl rfl
  | assignmentUnread _ added _ =>
    obtain ⟨-, rfl⟩ := Store.addAssignment_eq added
    exact taskFate_of_eq rfl rfl rfl
  | assignmentUpdated _ updated =>
    obtain ⟨-, -, hrows⟩ := Store.updateAssignment_eq_ok.1 updated
    obtain rfl := Store.insertCoExecutors_eq hrows
    exact taskFate_of_eq rfl rfl rfl
  | moveDenied _ _ => exact taskFate_of_eq rfl rfl rfl
  | assignmentMoved _ _ moved =>
    obtain ⟨-, rfl⟩ := Prod.mk.inj moved
    exact taskFate_of_eq rfl rfl rfl
  | assignmentDeleted _ => exact taskFate_of_eq rfl rfl rfl
  | assignmentAbsent _ => exact taskFate_of_eq rfl rfl rfl
  | @taskCreated actor r new store task checked added read =>
    obtain ⟨hrecipients, hne, -⟩ := Office.of_checkAcknowledgment checked
    have row := Store.taskUnder?_addAcknowledgment added id
    have entries := Store.entriesUnder_addAcknowledgment added id
    by_cases hid : office.nextId o = id
    · subst hid
      have absent := (Store.addAcknowledgment_eq added).1
      rw [if_pos rfl] at row entries
      rw [Office.store_record, Office.store_withStore, row, entries,
        Store.taskUnder?_eq_none_iff.2 absent, h.entriesUnder_eq_nil absent, List.nil_append]
      refine .entered hrecipients hne ?_ (Store.id_of_task? read)
      simp [Office.upcoming]
    · rw [if_neg hid] at row entries
      exact taskFate_of_eq rfl row (entries.trans (List.append_nil _))
  | taskUnread _ added unread =>
    obtain ⟨t, ht⟩ := h.toConstrained.task?_addAcknowledgment added
    rw [written_eq_ok.2 ht] at unread
    cases unread
  | @taskDeleted actor text deleter task read present =>
    obtain ⟨hauth, -⟩ := Office.readTask_eq_ok.1 read
    obtain ⟨rfl, -⟩ := Policy.authorize_eq_ok.1 hauth
    have row := office.store.taskUnder?_deleteAcknowledgment task id
    have entries := office.store.entriesUnder_deleteAcknowledgment task id
    by_cases hid : id = task
    · subst hid
      obtain ⟨before, hbefore⟩ := Store.exists_taskUnder? present
      rw [if_pos rfl] at row entries
      rw [Office.store_record, Office.store_withStore, row, entries, hbefore]
      exact .deleted
    · rw [if_neg hid] at row entries
      exact taskFate_of_eq rfl row entries
  | @taskAbsent actor text deleter task read absent =>
    have row := office.store.taskUnder?_deleteAcknowledgment task id
    have entries := office.store.entriesUnder_deleteAcknowledgment task id
    by_cases hid : id = task
    · subst hid
      rw [if_pos rfl] at row entries
      refine taskFate_of_eq rfl (row.trans ?_) (entries.trans ?_)
      · exact (Store.taskUnder?_eq_none_iff.2 absent).symm
      · exact (h.entriesUnder_eq_nil absent).symm
    · rw [if_neg hid] at row entries
      exact taskFate_of_eq rfl row entries
  | @taskViewed actor text viewer task read unseen =>
    obtain rfl := Policy.requireActor_eq_ok.1 (Office.readTask_eq_ok.1 read).1
    by_cases hid : id = task
    · subst hid
      rw [Store.any_isUnseen] at unseen
      obtain ⟨row, hrow⟩ := h.exists_taskUnder?_of_any unseen
      rw [Office.store_record, Office.store_withStore, Store.entriesUnder_viewEntry,
        show (office.store.viewEntry id viewer.id o.now).taskUnder? id =
          office.store.taskUnder? id from rfl, hrow]
      exact .viewed
    · exact taskFate_of_eq rfl rfl (Store.entriesUnder_viewEntry_of_ne hid)
  | viewedBefore _ _ _ => exact taskFate_of_eq rfl rfl rfl
  | @taskConfirmed actor text confirmer task outcome store read waiting confirmed =>
    obtain ⟨hactor, named⟩ := Office.readTask_eq_ok.1 read
    obtain rfl := Policy.requireActor_eq_ok.1 hactor
    rw [Office.store_foldl_record, Office.store_withStore]
    by_cases hid : id = task
    · subst hid
      have waitingHere := waiting
      rw [Store.any_isWaiting] at waitingHere
      obtain ⟨row, hrow⟩ := h.exists_taskUnder?_of_any waitingHere
      obtain ⟨entries, ⟨ho, rfl, hrow'⟩ | ⟨ho, rfl, hrow'⟩⟩ :=
        h.markConfirmed_here hrow waiting confirmed
      · rw [hrow, hrow']
        exact .confirmed waitingHere entries ho
      · rw [hrow, hrow']
        exact .completed named waitingHere entries ho
    · obtain ⟨row, entries⟩ := Store.markConfirmed_of_ne hid waiting confirmed
      exact taskFate_of_eq (isCompletionOf_of_ne named hid _) row entries
  | confirmedBefore _ _ _ => exact taskFate_of_eq rfl rfl rfl

end Outcome

end Call

namespace Office

/-- **What becomes of the task under an identifier from one stage to the next.** -/
theorem stage_taskFate (run : List (Occasion × Call)) (n : Nat) (id : Identifier) :
    (∃ o c answer, run[n]? = some (o, c) ∧ answer = (c.perform o (stage run n)).1 ∧
      TaskFate o id c answer ((stage run n).store.taskUnder? id)
        ((stage run n).store.entriesUnder id) ((stage run (n + 1)).store.taskUnder? id)
        ((stage run (n + 1)).store.entriesUnder id)) ∨
      run[n]? = none ∧ stage run (n + 1) = stage run n := by
  rcases stage_step run n with ⟨o, c, answer, hc, hanswer, hout⟩ | same
  · exact .inl ⟨o, c, answer, hc, hanswer, hout.taskFate (orderly_stage run n) id⟩
  · exact .inr same

end Office

end Chancery
