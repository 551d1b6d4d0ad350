import Chancery.Office.Direct
import Chancery.Proofs.Office.Runs
import Chancery.Proofs.Store.Rereading

/-!
# What fails leaves no trace

Whatever is refused has changed nothing in the tables: a call on the office, of whatever kind and
for whatever reason, and a write past the workflows. For most failures that is because nothing had
been written when they were found. The exception is the reading that follows a write. It may not
fail, and in a store that satisfies its constraints it does not, whatever texts the store holds.

The constraints are all that is supposed. They hold of every office that comes about by calls, by
direct writes and by rows that are put into the tables as they are (`Office.Arises.constrained`).

## Main definitions

* `Office.Arises` — offices whose tables may hold texts that do not read

## Main results

* `Call.Outcome.store_eq_of_error`, `DirectWrite.store_eq_of_error`
* `Office.failure_changes_nothing`
-/

namespace Chancery

open Store

variable {o : Occasion} {office office' : Office}

/-! ### Calls -/

namespace Call

variable {c : Call} {answer : Except Refusal Answer}

theorem answerWith_ne_error {α : Type} {answer : α → Answer} {r : Except Failure α}
    (h : ∃ a, r = .ok a) (e : Refusal) : answerWith answer r ≠ .error e := by
  obtain ⟨a, rfl⟩ := h
  intro he
  cases he

/-- **A call that is refused leaves the tables as they were.** -/
theorem Outcome.store_eq_of_error (hout : Outcome o office c answer office')
    (h : office.store.Constrained) {e : Refusal} (he : answer = .error e) :
    office'.store = office.store := by
  cases hout with
  | refused _ => rfl
  | looked _ => rfl
  | userEntered _ => cases he
  | documentEntered _ => cases he
  | assignmentCreated _ _ _ => cases he
  | assignmentUnread _ added unread =>
    obtain ⟨a, ha⟩ := h.assignment?_addAssignment added
    rw [written_eq_ok.2 ha] at unread
    cases unread
  | assignmentUpdated checked updated =>
    obtain ⟨-, -, -, ⟨existing, hex, -⟩, -⟩ := Office.of_checkUpdate checked
    obtain ⟨a, ha⟩ := h.assignment?_updateAssignment hex updated
    exact absurd he (answerWith_ne_error ⟨a, Office.requireAssignment_eq_ok.2 ha⟩ e)
  | moveDenied _ _ => rfl
  | @assignmentMoved _ _ _ id target existing _ read _ moved =>
    obtain ⟨-, -, -, hex⟩ := Office.of_readMove read
    obtain ⟨-, rfl⟩ := Prod.mk.inj moved
    obtain ⟨a, ha⟩ := h.assignment?_setStatus hex target _ _
    exact absurd he (answerWith_ne_error ⟨a, Office.requireAssignment_eq_ok.2 ha⟩ e)
  | assignmentDeleted _ => cases he
  | assignmentAbsent _ => cases he
  | taskCreated _ _ _ => cases he
  | taskUnread _ added unread =>
    obtain ⟨t, ht⟩ := h.task?_addAcknowledgment added
    rw [written_eq_ok.2 ht] at unread
    cases unread
  | taskDeleted _ _ => cases he
  | taskAbsent _ _ => cases he
  | taskViewed _ _ => cases he
  | viewedBefore _ _ _ => cases he
  | taskConfirmed _ _ _ => cases he
  | confirmedBefore _ _ _ => cases he

/-- No call breaks a constraint of the tables. -/
theorem Outcome.constrained (hout : Outcome o office c answer office')
    (h : office.store.Constrained) : office'.store.Constrained := by
  cases hout with
  | refused _ => exact h
  | looked _ => exact h
  | userEntered added => exact h.insertUser (addUser_eq_ok.1 added).1
  | documentEntered added => exact h.insertDocument (addDocument_eq_ok.1 added).1
  | assignmentCreated _ added _ => exact h.addAssignment added
  | assignmentUnread _ added _ => exact h.addAssignment added
  | assignmentUpdated _ updated => exact h.updateAssignment updated
  | moveDenied _ _ => exact h
  | assignmentMoved _ _ moved =>
    obtain ⟨-, rfl⟩ := Prod.mk.inj moved
    exact h.setStatus _ _ _ _ _
  | assignmentDeleted _ => exact h.deleteAssignment _
  | assignmentAbsent _ => exact h
  | taskCreated _ added _ => exact h.addAcknowledgment added
  | taskUnread _ added _ => exact h.addAcknowledgment added
  | taskDeleted _ _ => exact h.deleteAcknowledgment _
  | taskAbsent _ _ => exact h.deleteAcknowledgment _
  | taskViewed _ _ => exact h.viewEntry _ _ _
  | viewedBefore _ _ _ => exact h
  | @taskConfirmed _ _ confirmer task outcome store _ _ confirmed =>
    have marked : (office.store.markConfirmed task confirmer.id o.now).2.Constrained :=
      h.markConfirmed task confirmer.id o.now
    rw [confirmed] at marked
    simpa using marked
  | confirmedBefore _ _ _ => exact h

end Call

/-! ### Direct writes -/

namespace DirectWrite

theorem enterAssignment_store_of_error (h : office.store.Constrained) {new : NewAssignment}
    {fault : StoreFault} (he : (office.enterAssignment o new).1 = .error fault) :
    (office.enterAssignment o new).2.store = office.store := by
  unfold Office.enterAssignment at he ⊢
  cases hadd : office.store.addAssignment (office.nextId o) o.now new with
  | error e => simp only [hadd, Office.store_afterDrawing]
  | ok store =>
    obtain ⟨a, ha⟩ := h.assignment?_addAssignment hadd
    simp only [hadd, Call.written_eq_ok.2 ha] at he
    cases he

theorem enterAcknowledgment_store_of_error (h : office.store.Constrained)
    {new : NewAcknowledgment} {fault : StoreFault}
    (he : (office.enterAcknowledgment o new).1 = .error fault) :
    (office.enterAcknowledgment o new).2.store = office.store := by
  unfold Office.enterAcknowledgment at he ⊢
  cases hadd : office.store.addAcknowledgment (office.nextId o)
      ((office.afterDrawing 1).upcoming o new.recipientIds.length) o.now new with
  | error e => simp only [hadd, Office.store_afterDrawing]
  | ok store =>
    obtain ⟨t, ht⟩ := h.task?_addAcknowledgment hadd
    simp only [hadd, Call.written_eq_ok.2 ht] at he
    cases he

theorem map_eq_error {ε α β : Type} {f : α → β} {x : Except ε α} {e : ε}
    (h : x.map f = .error e) : x = .error e := by
  cases x with
  | error e' => rw [show e' = e from Except.error.inj h]
  | ok a => cases h

/-- **A direct write that is refused leaves the tables as they were.** -/
theorem store_eq_of_error (h : office.store.Constrained) {w : DirectWrite} {fault : StoreFault}
    (he : (w.perform o office).1 = .error fault) :
    (w.perform o office).2.store = office.store := by
  cases w with
  | addAssignment new => exact enterAssignment_store_of_error h (map_eq_error he)
  | updateAssignment id details =>
    unfold perform at he ⊢
    cases hu : office.store.updateAssignment id o.now details with
    | error e => simp only [hu]
    | ok r => simp only [hu] at he; cases he
  | setStatus _ _ _ _ => cases he
  | deleteAssignment _ => cases he
  | addAcknowledgment new => exact enterAcknowledgment_store_of_error h (map_eq_error he)
  | markViewed _ _ => cases he
  | markConfirmed _ _ => cases he
  | deleteAcknowledgment _ => cases he

/-- No direct write breaks a constraint of the tables. -/
theorem constrained (h : office.store.Constrained) (w : DirectWrite) :
    (w.perform o office).2.store.Constrained := by
  cases w with
  | addAssignment new =>
    simp only [perform, Office.enterAssignment]
    cases hadd : office.store.addAssignment (office.nextId o) o.now new with
    | error e => exact h
    | ok store => exact h.addAssignment hadd
  | updateAssignment id details =>
    unfold perform
    cases hu : office.store.updateAssignment id o.now details with
    | error e =>
      simp only [hu]
      exact h
    | ok r =>
      obtain ⟨found, store⟩ := r
      simp only [hu, Office.store_withStore]
      cases found with
      | false =>
        rw [eq_of_updateAssignment_false hu]
        exact h
      | true => exact h.updateAssignment hu
  | setStatus id status report completedAt =>
    exact h.setStatus id o.now status report completedAt
  | deleteAssignment id => exact h.deleteAssignment id
  | addAcknowledgment new =>
    simp only [perform, Office.enterAcknowledgment]
    cases hadd : office.store.addAcknowledgment (office.nextId o)
        ((office.afterDrawing 1).upcoming o new.recipientIds.length) o.now new with
    | error e => exact h
    | ok store => exact h.addAcknowledgment hadd
  | markViewed task user => exact h.markViewed task user o.now
  | markConfirmed task user => exact h.markConfirmed task user o.now
  | deleteAcknowledgment task => exact h.deleteAcknowledgment task

end DirectWrite

/-! ### Offices of unknown origin -/

theorem RawRow.constrained {s s' : Store} (h : s.Constrained) {row : RawRow}
    (hrow : row.insert s = .ok s') : s'.Constrained := by
  cases row with
  | user row => exact h.insertUser hrow
  | document kind row => exact h.insertDocument hrow
  | assignment row => exact h.insertAssignment hrow
  | coExecutor row => exact h.insertCoExecutor hrow
  | acknowledgment row => exact h.insertAcknowledgment hrow
  | recipient row => exact h.insertRecipient hrow

namespace Office

/-- Whether an office comes about from one that has just opened, by calls, by direct writes and by
rows that are put into the tables as they are. -/
inductive Arises : Office → Prop
  | opened : Arises opened
  | called {office : Office} (o : Occasion) (c : Call) (h : Arises office) :
      Arises (c.perform o office).2
  | wrote {office : Office} (o : Occasion) (w : DirectWrite) (h : Arises office) :
      Arises (w.perform o office).2
  | inserted {office : Office} {store : Store} (row : RawRow)
      (hrow : row.insert office.store = .ok store) (h : Arises office) :
      Arises (office.withStore store)

/-- **Whatever is written by whatever way, the tables keep their constraints.** -/
theorem Arises.constrained (h : office.Arises) : office.store.Constrained := by
  induction h with
  | opened => exact constrained_empty
  | called o c _ ih => exact (Call.perform_outcome o _ c).constrained ih
  | wrote o w _ ih => exact w.constrained ih
  | inserted row hrow _ ih => exact row.constrained ih hrow

/-- **What fails changes nothing.** In every office whose tables satisfy their constraints, with
whatever texts in them, a call that is refused, on whatever grounds, leaves all tables as they
were, and so does a direct write that is refused. -/
theorem failure_changes_nothing (h : office.store.Constrained) (o : Occasion) :
    (∀ (c : Call) (e : Refusal), (c.perform o office).1 = .error e →
      (c.perform o office).2.store = office.store) ∧
    ∀ (w : DirectWrite) (fault : StoreFault), (w.perform o office).1 = .error fault →
      (w.perform o office).2.store = office.store :=
  ⟨fun c _ he => (Call.perform_outcome o office c).store_eq_of_error h he,
    fun _ _ he => DirectWrite.store_eq_of_error h he⟩

/-- An assignment on a document whose identifier does not read. -/
def strayRow : AssignmentRow :=
  { id := (Identifier.ofNat 3).text
    documentId := "nowhere"
    documentKind := "incoming"
    executorId := boris.id.text
    content := "Have it mended"
    deadline := none
    status := "new"
    report := none
    completedAt := none
    createdAt := (minute 3).now
    updatedAt := (minute 3).now }

/-- The office of a run with a row put in that does not read. -/
def tampered : Office :=
  let office := opened.after (finishingRun.take 3)
  office.withStore
    { office.store with assignments := office.store.assignments ++ [strayRow] }

theorem arises_after {office : Office} (h : office.Arises) (run : List (Occasion × Call)) :
    (office.after run).Arises := by
  induction run generalizing office with
  | nil => exact h
  | cons call run ih => exact ih (h.called call.1 call.2)

theorem arises_tampered : tampered.Arises := by
  refine .inserted (.assignment strayRow) (insertAssignment_eq_ok.2 ⟨?_, ?_, ?_, ?_⟩)
    (arises_after .opened (finishingRun.take 3))
  · decide +kernel
  · decide +kernel
  · decide +kernel
  · rfl

/-- The request to move an assignment on. -/
def moveOn : Request.MoveAssignment := ⟨"00000000000000000000000000000003", "in_progress", none⟩

theorem failure_changes_nothing_of_tampered :
    tampered.store.Constrained ∧
      ((Call.moveAssignment (some anna) moveOn).perform (minute 4) tampered).1 =
        .error (.office (.storage "assignment.transition"
          (.corruptValue "assignments.document_id" "nowhere"))) ∧
      ((Call.moveAssignment (some anna) moveOn).perform (minute 4) tampered).2.store =
        tampered.store := by
  have hconstrained := arises_tampered.constrained
  have hrefused : ((Call.moveAssignment (some anna) moveOn).perform (minute 4) tampered).1 =
      .error (.office (.storage "assignment.transition"
        (.corruptValue "assignments.document_id" "nowhere"))) := by decide +kernel
  exact ⟨hconstrained, hrefused,
    (failure_changes_nothing hconstrained (minute 4)).1 _ _ hrefused⟩

end Office

end Chancery
