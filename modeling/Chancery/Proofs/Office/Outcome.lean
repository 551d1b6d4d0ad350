import Chancery.Office.Calls
import Chancery.Proofs.Office.Checks

/-!
# How a call can end

`Call.perform` is opened here and nowhere else. `Outcome` lists the ways in which a call can end,
each with the check that was passed and the write that was made, and `perform_outcome` says that
there are no others. A property of one call is then a case analysis on its outcome, and a property
of all runs an induction on top of that.

The list makes no assumption on the store. In an office whose store holds texts that do not read, a
record may be written and then fail to read back, and the two outcomes that say so
(`assignmentUnread`, `taskUnread`) are part of the list.

## Main definitions

* `Call.Outcome`

## Main results

* `Call.perform_outcome`
-/

namespace Chancery

namespace Call

/-- Whether a call only reads. -/
def isReading : Call → Bool
  | getAssignment .. | listAssignments .. | getAcknowledgment .. | acknowledgmentsOfDocument ..
  | pendingAcknowledgments .. | activeAcknowledgments .. | summary .. => true
  | _ => false

/-- The answer to an operation of a workflow. -/
def answerWith {α : Type} (answer : α → Answer) (r : Except Failure α) : Except Refusal Answer :=
  (r.map answer).mapError .office

theorem answerWith_eq_ok {α : Type} {answer : α → Answer} {r : Except Failure α} {b : Answer} :
    answerWith answer r = .ok b ↔ ∃ a, r = .ok a ∧ answer a = b := by
  cases r <;> simp [answerWith, Except.map, Except.mapError]

theorem answerWith_eq_office {α : Type} {answer : α → Answer} {r : Except Failure α}
    {e : Failure} : answerWith answer r = .error (.office e) ↔ r = .error e := by
  cases r <;> simp [answerWith, Except.map, Except.mapError]

open Office in
/-- The ways in which a call can end on an occasion in an office: the call, what is answered, and
the office that is left. -/
inductive Outcome (o : Occasion) (office : Office) : Call → Except Refusal Answer → Office → Prop
  /-- Nothing is written. An insertion that the store refused has drawn its identifiers. -/
  | refused {c e} (n : Nat) : Outcome o office c (.error e) (office.afterDrawing n)
  | looked {c answer} (reads : c.isReading = true) : Outcome o office c answer office
  | userEntered {new user store}
      (added : office.store.addUser (office.nextId o) o.now new = .ok (user, store)) :
      Outcome o office (.addUser new) (.ok (.user user)) ((office.afterDrawing 1).withStore store)
  | documentEntered {new document store}
      (added : office.store.addDocument (office.nextId o) o.now new = .ok (document, store)) :
      Outcome o office (.addDocument new) (.ok (.document document))
        ((office.afterDrawing 1).withStore store)
  | assignmentCreated {actor r creator new store a}
      (checked : checkCreate actor r office.store = .ok (creator, new))
      (added : office.store.addAssignment (office.nextId o) o.now new = .ok store)
      (read : store.assignment? (office.nextId o) = .ok (some a)) :
      Outcome o office (.createAssignment actor r) (.ok (.assignment a))
        (((office.afterDrawing 1).withStore store).record
          (.assignmentCreated creator.id a.id new.executorId))
  | assignmentUnread {actor r creator new store fault}
      (checked : checkCreate actor r office.store = .ok (creator, new))
      (added : office.store.addAssignment (office.nextId o) o.now new = .ok store)
      (unread : written (store.assignment? (office.nextId o)) = .error fault) :
      Outcome o office (.createAssignment actor r)
        (.error (.office (.storage "assignment.create" fault)))
        ((office.afterDrawing 1).withStore store)
  | assignmentUpdated {actor r editor id details store}
      (checked : checkUpdate actor r office.store = .ok (editor, id, details))
      (updated : office.store.updateAssignment id o.now details = .ok (true, store)) :
      Outcome o office (.updateAssignment actor r)
        (answerWith .assignment (requireAssignment store "assignment.update" id))
        ((office.withStore store).record (.assignmentUpdated editor.id id))
  | moveDenied {actor r mover id target existing e}
      (read : readMove actor r office.store = .ok (mover, id, target, existing))
      (denied : Policy.authorizeTransition mover existing.executorId existing.status target =
        .error e) :
      Outcome o office (.moveAssignment actor r) (.error (.office e))
        (office.record (.assignmentTransitionDenied mover.id id existing.status target))
  | assignmentMoved {actor r mover id target existing store}
      (read : readMove actor r office.store = .ok (mover, id, target, existing))
      (permitted : Policy.transitionPermitted mover existing.executorId existing.status target =
        true)
      (moved : office.store.setStatus id o.writing target r.report
        (target.completionAfter existing.completedAt o.now) = (true, store)) :
      Outcome o office (.moveAssignment actor r)
        (answerWith .assignment (requireAssignment store "assignment.transition" id))
        ((office.withStore store).record
          (.assignmentTransitioned mover.id id existing.status target))
  | assignmentDeleted {actor text deleter id}
      (checked : checkDelete actor text office.store = .ok (some (deleter, id))) :
      Outcome o office (.deleteAssignment actor text) (.ok .done)
        ((office.withStore (office.store.deleteAssignment id).2).record
          (.assignmentDeleted deleter.id id))
  | assignmentAbsent {actor text} (checked : checkDelete actor text office.store = .ok none) :
      Outcome o office (.deleteAssignment actor text) (.ok .done) office
  | taskCreated {actor r new store task}
      (checked : checkAcknowledgment actor r office.store = .ok new)
      (added : office.store.addAcknowledgment (office.nextId o)
        ((office.afterDrawing 1).upcoming o new.recipientIds.length) o.now new = .ok store)
      (read : store.task? (office.nextId o) = .ok (some task)) :
      Outcome o office (.createAcknowledgment actor r) (.ok (.task task))
        (((office.afterDrawing (new.recipientIds.length + 1)).withStore store).record
          (.acknowledgmentCreated new.creatorId task.id new.recipientIds.length))
  | taskUnread {actor r new store fault}
      (checked : checkAcknowledgment actor r office.store = .ok new)
      (added : office.store.addAcknowledgment (office.nextId o)
        ((office.afterDrawing 1).upcoming o new.recipientIds.length) o.now new = .ok store)
      (unread : written (store.task? (office.nextId o)) = .error fault) :
      Outcome o office (.createAcknowledgment actor r)
        (.error (.office (.storage "acknowledgment.create" fault)))
        ((office.afterDrawing (new.recipientIds.length + 1)).withStore store)
  | taskDeleted {actor text deleter task}
      (read : readTask (Policy.authorize actor .deleteAcknowledgment) text = .ok (deleter, task))
      (present : office.store.hasAcknowledgment task.text = true) :
      Outcome o office (.deleteAcknowledgment actor text) (.ok .done)
        ((office.withStore (office.store.deleteAcknowledgment task).2).record
          (.acknowledgmentDeleted deleter.id task))
  | taskAbsent {actor text deleter task}
      (read : readTask (Policy.authorize actor .deleteAcknowledgment) text = .ok (deleter, task))
      (absent : office.store.hasAcknowledgment task.text = false) :
      Outcome o office (.deleteAcknowledgment actor text) (.ok .done)
        (office.withStore (office.store.deleteAcknowledgment task).2)
  | taskViewed {actor text viewer task}
      (read : readTask (Policy.requireActor actor) text = .ok (viewer, task))
      (unseen : office.store.recipients.any (Store.RecipientRow.isUnseen task viewer.id) = true) :
      Outcome o office (.viewAcknowledgment actor text) (.ok .done)
        ((office.withStore (office.store.viewEntry task viewer.id o.now)).record
          (.acknowledgmentViewed viewer.id task))
  | viewedBefore {actor text viewer task}
      (read : readTask (Policy.requireActor actor) text = .ok (viewer, task))
      (seen : office.store.recipients.any (Store.RecipientRow.isUnseen task viewer.id) = false)
      (entry : office.store.hasEntry task viewer.id = true) :
      Outcome o office (.viewAcknowledgment actor text) (.ok .done) office
  | taskConfirmed {actor text confirmer task outcome store}
      (read : readTask (Policy.requireActor actor) text = .ok (confirmer, task))
      (waiting :
        office.store.recipients.any (Store.RecipientRow.isWaiting task confirmer.id) = true)
      (confirmed : office.store.markConfirmed task confirmer.id o.now = (outcome, store)) :
      Outcome o office (.confirmAcknowledgment actor text) (.ok (.confirmed outcome))
        ((confirmationEvents confirmer.id task outcome).foldl record (office.withStore store))
  | confirmedBefore {actor text confirmer task}
      (read : readTask (Policy.requireActor actor) text = .ok (confirmer, task))
      (settled :
        office.store.recipients.any (Store.RecipientRow.isWaiting task confirmer.id) = false)
      (entry : office.store.hasEntry task confirmer.id = true) :
      Outcome o office (.confirmAcknowledgment actor text)
        (.ok (.confirmed ⟨.alreadyRecorded, false⟩)) office

open Office

variable {o : Occasion} {office : Office}

/-! ### One operation each -/

theorem addUser_outcome (new : NewUser) :
    Outcome o office (.addUser new) ((addUser new).perform o office).1
      ((addUser new).perform o office).2 := by
  simp only [perform, entered, enterUser]
  split
  · exact .userEntered ‹_›
  · exact .refused 1

theorem addDocument_outcome (new : NewDocument) :
    Outcome o office (.addDocument new) ((addDocument new).perform o office).1
      ((addDocument new).perform o office).2 := by
  simp only [perform, entered, enterDocument]
  split
  · exact .documentEntered ‹_›
  · exact .refused 1

/-- What was written is found when it is read. -/
theorem written_eq_ok {α : Type} {found : Except StoreFault (Option α)} {a : α} :
    written found = .ok a ↔ found = .ok (some a) := by
  unfold written
  split <;> simp

theorem createAssignment_outcome (actor : Option Actor) (r : Request.CreateAssignment) :
    Outcome o office (.createAssignment actor r) ((createAssignment actor r).perform o office).1
      ((createAssignment actor r).perform o office).2 := by
  simp only [perform, wrote, Office.createAssignment, enterAssignment]
  cases hc : checkCreate actor r office.store with
  | error e => exact .refused 0
  | ok checked =>
    obtain ⟨creator, new⟩ := checked
    cases hadd : office.store.addAssignment (office.nextId o) o.now new with
    | error fault => simp only [hadd]; exact .refused 1
    | ok store =>
      cases hread : written (store.assignment? (office.nextId o)) with
      | error fault => simp only [hadd, hread]; exact .assignmentUnread hc hadd hread
      | ok a => simp only [hadd, hread]; exact .assignmentCreated hc hadd (written_eq_ok.1 hread)

theorem updateAssignment_outcome (actor : Option Actor) (r : Request.UpdateAssignment) :
    Outcome o office (.updateAssignment actor r) ((updateAssignment actor r).perform o office).1
      ((updateAssignment actor r).perform o office).2 := by
  simp only [perform, wrote, Office.updateAssignment]
  cases hc : checkUpdate actor r office.store with
  | error e => exact .refused 0
  | ok checked =>
    simp only
    split
    · exact .refused 0
    · exact .refused 0
    · exact .assignmentUpdated hc ‹_›

theorem moveAssignment_outcome (actor : Option Actor) (r : Request.MoveAssignment) :
    Outcome o office (.moveAssignment actor r) ((moveAssignment actor r).perform o office).1
      ((moveAssignment actor r).perform o office).2 := by
  simp only [perform, wrote, Office.moveAssignment]
  cases hc : readMove actor r office.store with
  | error e => exact .refused 0
  | ok read =>
    obtain ⟨mover, id, target, existing⟩ := read
    simp only
    split
    · exact .moveDenied hc ‹_›
    · rename_i hp
      split
      · exact .refused 0
      · exact .assignmentMoved hc (Policy.authorizeTransition_eq_ok.1 hp) ‹_›

theorem deleteAssignment_outcome (actor : Option Actor) (text : String) :
    Outcome o office (.deleteAssignment actor text)
      ((deleteAssignment actor text).perform o office).1
      ((deleteAssignment actor text).perform o office).2 := by
  simp only [perform, wrote, Office.deleteAssignment]
  split
  · exact .refused 0
  · exact .assignmentAbsent ‹_›
  · exact .assignmentDeleted ‹_›

theorem createAcknowledgment_outcome (actor : Option Actor) (r : Request.CreateAcknowledgment) :
    Outcome o office (.createAcknowledgment actor r)
      ((createAcknowledgment actor r).perform o office).1
      ((createAcknowledgment actor r).perform o office).2 := by
  simp only [perform, wrote, Office.createAcknowledgment, enterAcknowledgment]
  cases hc : checkAcknowledgment actor r office.store with
  | error e => exact .refused 0
  | ok new =>
    cases hadd : office.store.addAcknowledgment (office.nextId o)
        ((office.afterDrawing 1).upcoming o new.recipientIds.length) o.now new with
    | error fault => simp only [hadd]; exact .refused _
    | ok store =>
      cases hread : written (store.task? (office.nextId o)) with
      | error fault => simp only [hadd, hread]; exact .taskUnread hc hadd hread
      | ok task => simp only [hadd, hread]; exact .taskCreated hc hadd (written_eq_ok.1 hread)

theorem deleteAcknowledgment_outcome (actor : Option Actor) (text : String) :
    Outcome o office (.deleteAcknowledgment actor text)
      ((deleteAcknowledgment actor text).perform o office).1
      ((deleteAcknowledgment actor text).perform o office).2 := by
  simp only [perform, wrote, Office.deleteAcknowledgment]
  cases hc : readTask (Policy.authorize actor .deleteAcknowledgment) text with
  | error e => exact .refused 0
  | ok read =>
    simp only [Store.deleteAcknowledgment]
    split
    · rename_i h
      obtain ⟨hpresent, rfl⟩ := Prod.mk.inj h
      exact .taskDeleted hc hpresent
    · rename_i h
      obtain ⟨habsent, rfl⟩ := Prod.mk.inj h
      exact .taskAbsent hc habsent

theorem viewAcknowledgment_outcome (actor : Option Actor) (text : String) :
    Outcome o office (.viewAcknowledgment actor text)
      ((viewAcknowledgment actor text).perform o office).1
      ((viewAcknowledgment actor text).perform o office).2 := by
  simp only [perform, wrote, Office.viewAcknowledgment]
  cases hc : readTask (Policy.requireActor actor) text with
  | error e => exact .refused 0
  | ok read =>
    obtain ⟨viewer, task⟩ := read
    rcases office.store.markViewed_cases task viewer.id o.now with
      ⟨hu, h⟩ | ⟨hu, he, h⟩ | ⟨-, h⟩ <;> simp only [h]
    · exact .taskViewed hc hu
    · exact .viewedBefore hc hu he
    · exact .refused 0

theorem confirmAcknowledgment_outcome (actor : Option Actor) (text : String) :
    Outcome o office (.confirmAcknowledgment actor text)
      ((confirmAcknowledgment actor text).perform o office).1
      ((confirmAcknowledgment actor text).perform o office).2 := by
  simp only [perform, wrote, Office.confirmAcknowledgment]
  cases hc : readTask (Policy.requireActor actor) text with
  | error e => exact .refused 0
  | ok read =>
    obtain ⟨confirmer, task⟩ := read
    rcases office.store.markConfirmed_cases task confirmer.id o.now with
      ⟨hw, -, h⟩ | ⟨hw, -, h⟩ | ⟨hw, he, h⟩ | ⟨-, h⟩ <;> simp only [h]
    · exact .taskConfirmed hc hw h
    · exact .taskConfirmed hc hw h
    · exact .confirmedBefore hc hw he
    · exact .refused 0

/-- **Every call ends in one of the listed ways.** -/
theorem perform_outcome (o : Occasion) (office : Office) (c : Call) :
    Outcome o office c (c.perform o office).1 (c.perform o office).2 := by
  cases c with
  | addUser new => exact addUser_outcome new
  | addDocument new => exact addDocument_outcome new
  | createAssignment actor r => exact createAssignment_outcome actor r
  | updateAssignment actor r => exact updateAssignment_outcome actor r
  | moveAssignment actor r => exact moveAssignment_outcome actor r
  | deleteAssignment actor id => exact deleteAssignment_outcome actor id
  | createAcknowledgment actor r => exact createAcknowledgment_outcome actor r
  | viewAcknowledgment actor task => exact viewAcknowledgment_outcome actor task
  | confirmAcknowledgment actor task => exact confirmAcknowledgment_outcome actor task
  | deleteAcknowledgment actor task => exact deleteAcknowledgment_outcome actor task
  | _ => exact .looked rfl

end Call

end Chancery
