import Chancery.Proofs.Acknowledgments.Loading
import Chancery.Proofs.Office.Runs
import Chancery.Proofs.Store.Rereading

/-!
# What a successful call leaves as it was

A write is a handful of statements over whole tables, each with a condition that picks the rows it
means. A condition that is missing or wrong would reach rows of other records, and nothing in the
answer would show it. `WritesOnly` says, for every operation, which rows may differ afterwards and
in which columns; what it does not mention is the same in all seven tables, in the same order.

Nothing is asked of the store for this, not even the constraints: the conditions are about single
rows. The constraints are needed for calls that find done what they ask for (`Call.FindsDone`).
Only they say that a viewed entry is the only entry of its user on the task, and that a task that
is not there has no entries that deleting it could remove.

## Main definitions

* `SameBut` — two tables with the same rows but for some that differ as allowed
* `Store.WritesOnly` — what each operation may change
* `Call.FindsDone` — the calls that have nothing left to do

## Main results

* `Call.Outcome.writesOnly`
* `Office.writes_confined`
-/

namespace Chancery

/-! ### Tables that differ in some rows -/

/-- Whether two tables have the same rows in the same order, but for rows that are picked, which
may differ as allowed. -/
def SameBut {α : Type} (picked : α → Prop) (allowed : α → α → Prop) (rows rows' : List α) : Prop :=
  List.Forall₂ (fun a b => b = a ∨ picked a ∧ allowed a b) rows rows'

namespace SameBut

variable {α : Type} {picked : α → Prop} {allowed : α → α → Prop}

theorem refl (rows : List α) : SameBut picked allowed rows rows :=
  List.forall₂_same.2 fun _ _ => .inl rfl

/-- An update under a condition changes picked rows only, if the condition picks them. -/
theorem map {p : α → Prop} [DecidablePred p] {f : α → α} (hp : ∀ a, p a → picked a)
    (hf : ∀ a, allowed a (f a)) (rows : List α) :
    SameBut picked allowed rows (rows.map fun a => if p a then f a else a) := by
  refine List.forall₂_map_right_iff.2 (List.forall₂_same.2 fun a _ => ?_)
  by_cases ha : p a
  · rw [if_pos ha]
    exact .inr ⟨hp a ha, hf a⟩
  · exact .inl (if_neg ha)

end SameBut

namespace Store

/-- What a successful call may change: the call, what it is answered, and the store it leaves. -/
inductive WritesOnly (s : Store) : Call → Answer → Store → Prop
  /-- Reading changes nothing. -/
  | read {c answer} (reads : c.isReading = true) : WritesOnly s c answer s
  | userEntered {new user row} (record : UserRow.id row = user.id.text) :
      WritesOnly s (.addUser new) (.user user) { s with users := s.users ++ [row] }
  | documentEntered {new document row} (record : DocumentRow.id row = document.id.text) :
      WritesOnly s (.addDocument new) (.document document) (s.enroll new.kind row)
  /-- A new assignment is added with its co-executors. -/
  | assignmentCreated {actor r a row coExecutors} (record : AssignmentRow.id row = a.id.text)
      (fresh : s.hasAssignment row.id = false) (own : ∀ c ∈ coExecutors, c.assignmentId = row.id) :
      WritesOnly s (.createAssignment actor r) (.assignment a)
        { s with assignments := s.assignments ++ [row]
                 coExecutors := s.coExecutors ++ coExecutors }
  /-- Executor, content, deadline and time of update of the named assignment change, and its
  co-executors are replaced. -/
  | assignmentUpdated {actor r id answer assignments coExecutors}
      (named : Identifier.parse? r.id = some id)
      (edited : SameBut (fun a => a.id = id.text)
        (fun a b => b = { a with executorId := b.executorId, content := b.content,
                                 deadline := b.deadline, updatedAt := b.updatedAt })
        s.assignments assignments)
      (own : ∀ c ∈ coExecutors, CoExecutorRow.assignmentId c = id.text) :
      WritesOnly s (.updateAssignment actor r) answer
        { s with assignments
                 coExecutors :=
                  (s.coExecutors.filter fun c => c.assignmentId ≠ id.text) ++ coExecutors }
  /-- Status, time of completion and time of update of the named assignment change, and the report
  if one is given. -/
  | assignmentMoved {actor r id answer assignments} (named : Identifier.parse? r.id = some id)
      (moved : SameBut (fun a => a.id = id.text)
        (fun a b => b = { a with status := b.status, report := b.report,
                                 completedAt := b.completedAt, updatedAt := b.updatedAt } ∧
          (r.report = none → b.report = a.report))
        s.assignments assignments) :
      WritesOnly s (.moveAssignment actor r) answer { s with assignments }
  /-- The named assignment goes with its co-executors. -/
  | assignmentDeleted {actor text id} (named : Identifier.parse? text = some id) :
      WritesOnly s (.deleteAssignment actor text) .done
        { s with assignments := s.assignments.filter fun a => a.id ≠ id.text
                 coExecutors := s.coExecutors.filter fun c => c.assignmentId ≠ id.text }
  /-- There is no such assignment, and nothing goes. -/
  | assignmentAbsent {actor text id} (named : Identifier.parse? text = some id)
      (absent : s.hasAssignment id.text = false) :
      WritesOnly s (.deleteAssignment actor text) .done s
  /-- A new task is added with its recipients. -/
  | taskCreated {actor r t row recipients} (record : AcknowledgmentRow.id row = t.id.text)
      (fresh : s.hasAcknowledgment row.id = false)
      (own : ∀ entry ∈ recipients, entry.acknowledgmentId = row.id) :
      WritesOnly s (.createAcknowledgment actor r) (.task t)
        { s with acknowledgments := s.acknowledgments ++ [row]
                 recipients := s.recipients ++ recipients }
  /-- The time of viewing of the caller's own entry on the named task changes at most. -/
  | taskViewed {viewer text id recipients} (named : Identifier.parse? text = some id)
      (viewed : SameBut (fun r => r.acknowledgmentId = id.text ∧ r.userId = viewer.id.text)
        (fun r r' => r' = { r with viewedAt := r'.viewedAt }) s.recipients recipients) :
      WritesOnly s (.viewAcknowledgment (some viewer) text) .done { s with recipients }
  /-- The times of the caller's own entry on the named task change at most, and the time of
  completion of this task. -/
  | taskConfirmed {confirmer text id outcome acknowledgments recipients}
      (named : Identifier.parse? text = some id)
      (confirmed : SameBut (fun r => r.acknowledgmentId = id.text ∧ r.userId = confirmer.id.text)
        (fun r r' => r' = { r with viewedAt := r'.viewedAt, confirmedAt := r'.confirmedAt })
        s.recipients recipients)
      (completed : SameBut (fun t => t.id = id.text)
        (fun t t' => t' = { t with completedAt := t'.completedAt })
        s.acknowledgments acknowledgments) :
      WritesOnly s (.confirmAcknowledgment (some confirmer) text) (.confirmed outcome)
        { s with acknowledgments, recipients }
  /-- The named task goes with its recipients. -/
  | taskDeleted {actor text id} (named : Identifier.parse? text = some id) :
      WritesOnly s (.deleteAcknowledgment actor text) .done
        { s with acknowledgments := s.acknowledgments.filter fun t => t.id ≠ id.text
                 recipients := s.recipients.filter fun r => r.acknowledgmentId ≠ id.text }

variable {s : Store} {task user : Identifier} {now : Instant}

/-! ### Deletions that find nothing -/

/-- Where nothing is found there is no row. -/
theorem hasAssignment_of_assignment?_none {id : Identifier} (h : s.assignment? id = .ok none) :
    s.hasAssignment id.text = false := by
  by_contra hhas
  obtain ⟨row, hrow, hid⟩ := hasAssignment_iff.1 (Bool.not_eq_false _ ▸ hhas)
  unfold assignment? at h
  cases hload : s.loadAssignments (s.assignments.filter fun a => a.id = id.text) with
  | error e => rw [hload] at h; cases h
  | ok as =>
    obtain ⟨cos, -, hread⟩ := bind_eq_ok.1 hload
    have hlength := length_of_readTaking hread
    rw [hload] at h
    rw [List.head?_eq_none_iff.1 (Except.ok.inj h), List.length_map] at hlength
    have hmem : row ∈ s.assignments.filter fun a => a.id = id.text :=
      List.mem_filter.2 ⟨hrow, decide_eq_true hid⟩
    rw [List.eq_nil_of_length_eq_zero hlength.symm] at hmem
    cases hmem

/-! ### The two changes to entries -/

theorem sameBut_viewEntry (s : Store) (task user : Identifier) (now : Instant) :
    SameBut (fun r => r.acknowledgmentId = task.text ∧ r.userId = user.text)
      (fun r r' => r' = { r with viewedAt := r'.viewedAt })
      s.recipients (s.viewEntry task user now).recipients := by
  refine SameBut.map (p := fun r => RecipientRow.isUnseen task user r = true)
    (f := RecipientRow.view now) (fun r hr => ?_) (fun _ => ?_) s.recipients
  · simpa [RecipientRow.isEntry] using (Bool.and_eq_true_iff.1 hr).1
  · rfl

theorem sameBut_confirmEntry (s : Store) (task user : Identifier) (now : Instant) :
    SameBut (fun r => r.acknowledgmentId = task.text ∧ r.userId = user.text)
      (fun r r' => r' = { r with viewedAt := r'.viewedAt, confirmedAt := r'.confirmedAt })
      s.recipients (s.confirmEntry task user now).recipients := by
  refine SameBut.map (p := fun r => RecipientRow.isWaiting task user r = true)
    (f := RecipientRow.confirm now) (fun r hr => ?_) (fun _ => ?_) s.recipients
  · simpa [RecipientRow.isEntry] using (Bool.and_eq_true_iff.1 hr).1
  · rfl

theorem sameBut_stampComplete (s : Store) (task : Identifier) (now : Instant) :
    SameBut (fun t => t.id = task.text) (fun t t' => t' = { t with completedAt := t'.completedAt })
      s.acknowledgments (s.stampComplete task now).2.acknowledgments := by
  refine SameBut.map (p := fun t => AcknowledgmentRow.isOpen task t = true)
    (f := AcknowledgmentRow.complete now) (fun t ht => ?_) (fun _ => ?_) s.acknowledgments
  · exact of_decide_eq_true (Bool.and_eq_true_iff.1 ht).1
  · rfl

/-- Confirming may stamp the task, and either way changes only this and the caller's entry. -/
theorem writesOnly_markConfirmed {confirmer : Actor} {text : String} (outcome : ConfirmOutcome)
    (named : Identifier.parse? text = some task) :
    s.WritesOnly (.confirmAcknowledgment (some confirmer) text) (.confirmed outcome)
      (s.markConfirmed task confirmer.id now).2 := by
  rcases s.markConfirmed_cases task confirmer.id now with
    ⟨-, -, he⟩ | ⟨-, -, he⟩ | ⟨-, -, he⟩ | ⟨-, he⟩ <;> rw [he]
  · exact .taskConfirmed named (s.sameBut_confirmEntry task confirmer.id now) (.refl _)
  · exact .taskConfirmed named (s.sameBut_confirmEntry task confirmer.id now)
      ((s.confirmEntry task confirmer.id now).sameBut_stampComplete task now)
  · exact .taskConfirmed named (.refl _) (.refl _)
  · exact .taskConfirmed named (.refl _) (.refl _)

/-! ### Entries that have their times -/

namespace Constrained

/-- A user has no other entry on a task than the one at hand. -/
theorem eq_of_isEntry (h : s.Constrained) {r r' : RecipientRow} (hr : r ∈ s.recipients)
    (hr' : r' ∈ s.recipients) (hentry : RecipientRow.isEntry task user r = true)
    (hentry' : RecipientRow.isEntry task user r' = true) : r = r' := by
  simp only [RecipientRow.isEntry, Bool.and_eq_true, decide_eq_true_eq] at hentry hentry'
  exact h.recipient_eq hr hr' (hentry.1.trans hentry'.1.symm) (hentry.2.trans hentry'.2.symm)

theorem any_isUnseen_of_viewed (h : s.Constrained) {r : RecipientRow} (hr : r ∈ s.recipients)
    (hentry : RecipientRow.isEntry task user r = true) (hviewed : r.viewedAt.isSome = true) :
    s.recipients.any (RecipientRow.isUnseen task user) = false := by
  refine List.any_eq_false.2 fun r' hr' hunseen => ?_
  obtain ⟨hentry', hnone⟩ := Bool.and_eq_true_iff.1 hunseen
  rw [← h.eq_of_isEntry hr hr' hentry hentry', ← Option.not_isSome, hviewed] at hnone
  cases hnone

theorem any_isWaiting_of_confirmed (h : s.Constrained) {r : RecipientRow}
    (hr : r ∈ s.recipients) (hentry : RecipientRow.isEntry task user r = true)
    (hconfirmed : r.confirmedAt.isSome = true) :
    s.recipients.any (RecipientRow.isWaiting task user) = false := by
  refine List.any_eq_false.2 fun r' hr' hwaiting => ?_
  obtain ⟨hentry', hnone⟩ := Bool.and_eq_true_iff.1 hwaiting
  rw [← h.eq_of_isEntry hr hr' hentry hentry', ← Option.not_isSome, hconfirmed] at hnone
  cases hnone

/-- Deleting a task that is not there finds no entries of it either. -/
theorem deleteAcknowledgment_of_absent (h : s.Constrained)
    (absent : s.hasAcknowledgment task.text = false) : (s.deleteAcknowledgment task).2 = s := by
  have tasks : (s.acknowledgments.filter fun t => t.id ≠ task.text) = s.acknowledgments := by
    refine List.filter_eq_self.2 fun t ht => decide_eq_true fun hid => ?_
    rw [hasAcknowledgment_iff.2 ⟨t, ht, hid⟩] at absent
    cases absent
  have entries :
      (s.recipients.filter fun r => r.acknowledgmentId ≠ task.text) = s.recipients := by
    refine List.filter_eq_self.2 fun r hr => decide_eq_true fun hown => ?_
    rw [← hown, (h.recipients r hr).1] at absent
    cases absent
  rw [Store.deleteAcknowledgment, tasks, entries]

end Constrained

end Store

theorem Office.of_checkDelete_none {s : Store} {actor : Option Actor} {text : String}
    (h : checkDelete actor text s = .ok none) :
    ∃ id, Identifier.parse? text = some id ∧ s.assignment? id = .ok none := by
  simp only [checkDelete, bind_eq_ok, Intake.identifier_eq_ok, Store.during_eq_ok] at h
  obtain ⟨_, -, id, hid, found, hfound, h⟩ := h
  cases found with
  | none => exact ⟨id, hid, hfound⟩
  | some existing =>
    obtain ⟨_, -, h⟩ := bind_eq_ok.1 h
    cases h

namespace Call

open Store

variable {o : Occasion} {office office' : Office} {c : Call}

/-- **Every way in which a call can succeed changes what it is meant to change, and nothing
else.** -/
theorem Outcome.writesOnly {answer : Answer} (hout : Outcome o office c (.ok answer) office') :
    office.store.WritesOnly c answer office'.store := by
  generalize hok : Except.ok answer = result at hout
  cases hout with
  | refused _ | assignmentUnread _ _ _ | moveDenied _ _ | taskUnread _ _ _ => cases hok
  | looked reads =>
    exact .read reads
  | userEntered added =>
    cases hok
    obtain ⟨inserted, read⟩ := addUser_eq_ok.1 added
    obtain ⟨-, rfl⟩ := insertUser_eq_ok.1 inserted
    obtain ⟨id, hid, rfl⟩ := UserRow.toUser_eq_ok.1 read
    exact .userEntered ((isCanonical_text _).eq_text hid)
  | documentEntered added =>
    cases hok
    obtain ⟨inserted, read⟩ := addDocument_eq_ok.1 added
    obtain ⟨-, rfl⟩ := insertDocument_eq_ok.1 inserted
    obtain ⟨id, hid, rfl⟩ := DocumentRow.toDocument_eq_ok.1 read
    exact .documentEntered ((isCanonical_text _).eq_text hid)
  | assignmentCreated checked added read =>
    cases hok
    obtain ⟨hfresh, rfl⟩ := addAssignment_eq added
    refine .assignmentCreated ?_ hfresh fun c hc => ?_
    · rw [id_of_assignment? read]
      rfl
    · obtain ⟨u, -, rfl⟩ := List.mem_map.1 hc
      rfl
  | @assignmentUpdated actor r editor id details store checked updated =>
    obtain ⟨-, -, inserted⟩ := updateAssignment_eq_ok.1 updated
    obtain rfl := insertCoExecutors_eq inserted
    refine .assignmentUpdated (Office.of_checkUpdate checked).2.2.1 ?_ fun c hc => ?_
    · refine SameBut.map (p := fun a => a.id = id.text)
        (f := AssignmentRow.withDetails o.now details) (fun _ ha => ha) (fun _ => ?_) _
      rfl
    · obtain ⟨u, -, rfl⟩ := List.mem_map.1 hc
      rfl
  | @assignmentMoved actor r mover id target existing store read permitted moved =>
    obtain ⟨-, rfl⟩ := Prod.mk.inj moved
    refine .assignmentMoved (Office.of_readMove read).2.1 ?_
    refine SameBut.map (p := fun a => a.id = id.text)
      (f := AssignmentRow.moved o.writing target r.report
        (target.completionAfter existing.completedAt o.now))
      (fun _ ha => ha) (fun a => ?_) _
    refine ⟨rfl, fun hnone => ?_⟩
    rw [AssignmentRow.moved, hnone]
    rfl
  | assignmentDeleted checked =>
    cases hok
    exact .assignmentDeleted (Office.of_checkDelete checked).2.2.1
  | assignmentAbsent checked =>
    cases hok
    obtain ⟨id, named, hnone⟩ := Office.of_checkDelete_none checked
    exact .assignmentAbsent named (hasAssignment_of_assignment?_none hnone)
  | taskCreated checked added read =>
    cases hok
    obtain ⟨hfresh, rfl⟩ := addAcknowledgment_eq added
    refine .taskCreated ?_ hfresh fun r hr => ?_
    · rw [id_of_task? read]
      rfl
    · obtain ⟨e, -, rfl⟩ := List.mem_map.1 hr
      rfl
  | taskDeleted read _ =>
    cases hok
    exact .taskDeleted (Office.readTask_eq_ok.1 read).2
  | taskAbsent read _ =>
    cases hok
    exact .taskDeleted (Office.readTask_eq_ok.1 read).2
  | taskViewed read _ =>
    cases hok
    obtain ⟨hactor, named⟩ := Office.readTask_eq_ok.1 read
    obtain rfl := Policy.requireActor_eq_ok.1 hactor
    exact .taskViewed named (office.store.sameBut_viewEntry _ _ _)
  | viewedBefore read _ _ =>
    cases hok
    obtain ⟨hactor, named⟩ := Office.readTask_eq_ok.1 read
    obtain rfl := Policy.requireActor_eq_ok.1 hactor
    exact .taskViewed named (.refl _)
  | @taskConfirmed _ _ confirmer task outcome store read _ confirmed =>
    cases hok
    obtain ⟨hactor, named⟩ := Office.readTask_eq_ok.1 read
    obtain rfl := Policy.requireActor_eq_ok.1 hactor
    have written : office.store.WritesOnly _ (.confirmed outcome)
        (office.store.markConfirmed task confirmer.id o.now).2 :=
      writesOnly_markConfirmed outcome named
    rw [confirmed] at written
    rw [Office.store_foldl_record]
    exact written
  | confirmedBefore read _ _ =>
    cases hok
    obtain ⟨hactor, named⟩ := Office.readTask_eq_ok.1 read
    obtain rfl := Policy.requireActor_eq_ok.1 hactor
    exact .taskConfirmed named (.refl _) (.refl _)

/-! ### Calls with nothing left to do -/

/-- Whether a call asks to delete what is not there, or to view or confirm what the caller has
viewed or confirmed. -/
def FindsDone (s : Store) : Call → Prop
  | deleteAssignment _ text =>
    ∃ id, Identifier.parse? text = some id ∧ s.hasAssignment id.text = false
  | deleteAcknowledgment _ text =>
    ∃ id, Identifier.parse? text = some id ∧ s.hasAcknowledgment id.text = false
  | viewAcknowledgment (some viewer) text =>
    ∃ id, Identifier.parse? text = some id ∧ ∃ r ∈ s.recipients,
      RecipientRow.isEntry id viewer.id r = true ∧ r.viewedAt.isSome = true
  | confirmAcknowledgment (some confirmer) text =>
    ∃ id, Identifier.parse? text = some id ∧ ∃ r ∈ s.recipients,
      RecipientRow.isEntry id confirmer.id r = true ∧ r.confirmedAt.isSome = true
  | _ => False

theorem Outcome.nothing_of_findsDone {answer : Except Refusal Answer}
    (hout : Outcome o office c answer office') (h : office.store.Constrained)
    (hdone : c.FindsDone office.store) :
    office'.store = office.store ∧ office'.trail = office.trail := by
  cases hout with
  | refused _ | looked _ | assignmentAbsent _ | viewedBefore _ _ _ | confirmedBefore _ _ _ =>
    exact ⟨rfl, rfl⟩
  | userEntered _ | documentEntered _ | assignmentCreated _ _ _ | assignmentUnread _ _ _
  | assignmentUpdated _ _ | moveDenied _ _ | assignmentMoved _ _ _ | taskCreated _ _ _
  | taskUnread _ _ _ => cases hdone
  | assignmentDeleted checked =>
    obtain ⟨-, -, named, existing, hfound, -⟩ := Office.of_checkDelete checked
    obtain ⟨id, named', habsent⟩ := hdone
    cases Option.some.inj (named.symm.trans named')
    rw [hasAssignment_of_assignment? hfound] at habsent
    cases habsent
  | taskDeleted read present =>
    obtain ⟨id, named, habsent⟩ := hdone
    cases Option.some.inj ((Office.readTask_eq_ok.1 read).2.symm.trans named)
    rw [present] at habsent
    cases habsent
  | taskAbsent read absent =>
    exact ⟨h.deleteAcknowledgment_of_absent absent, rfl⟩
  | taskViewed read unseen =>
    obtain ⟨hactor, named⟩ := Office.readTask_eq_ok.1 read
    obtain rfl := Policy.requireActor_eq_ok.1 hactor
    obtain ⟨id, named', r, hr, hentry, hviewed⟩ := hdone
    cases Option.some.inj (named.symm.trans named')
    rw [h.any_isUnseen_of_viewed hr hentry hviewed] at unseen
    cases unseen
  | taskConfirmed read waiting confirmed =>
    obtain ⟨hactor, named⟩ := Office.readTask_eq_ok.1 read
    obtain rfl := Policy.requireActor_eq_ok.1 hactor
    obtain ⟨id, named', r, hr, hentry, hconfirmed⟩ := hdone
    cases Option.some.inj (named.symm.trans named')
    rw [h.any_isWaiting_of_confirmed hr hentry hconfirmed] at waiting
    cases waiting

end Call

namespace Office

/-- **What a call leaves as it was.** A successful call changes the columns of the rows that it is
meant to change and nothing else in any table, whatever the store holds. A call that finds done
what it asks for changes nothing at all. -/
theorem writes_confined (o : Occasion) (office : Office) (c : Call) :
    (∀ answer, (c.perform o office).1 = .ok answer →
      office.store.WritesOnly c answer (c.perform o office).2.store) ∧
    (office.store.Constrained → c.FindsDone office.store →
      (c.perform o office).2.store = office.store ∧
        (c.perform o office).2.trail = office.trail) := by
  have hout := Call.perform_outcome o office c
  refine ⟨fun answer hanswer => ?_, fun h hdone => hout.nothing_of_findsDone h hdone⟩
  rw [hanswer] at hout
  exact hout.writesOnly

/-- An executor of `circulatingRun` confirms, as the last of two recipients of a task, and again. -/
theorem writes_confined_of_circulatingRun :
    let before := stage circulatingRun 9
    let after := stage circulatingRun 10
    let call := Call.confirmAcknowledgment (some vera) "00000000000000000000000000000006"
    (call.perform (minute 7) before).1 = .ok (.confirmed ⟨.recorded, true⟩) ∧
      before.store.WritesOnly call (.confirmed ⟨.recorded, true⟩)
        (call.perform (minute 7) before).2.store ∧
      after.store.Constrained ∧ call.FindsDone after.store ∧
      (call.perform (minute 8) after).2.store = after.store := by
  have answer : ((Call.confirmAcknowledgment (some vera)
      "00000000000000000000000000000006").perform (minute 7) (stage circulatingRun 9)).1 =
        .ok (.confirmed ⟨.recorded, true⟩) := by decide +kernel
  have constrained := (orderly_stage circulatingRun 10).toConstrained
  have confirmed : (Call.confirmAcknowledgment (some vera)
      "00000000000000000000000000000006").FindsDone (stage circulatingRun 10).store :=
    ⟨.ofNat 6, by decide +kernel, by decide +kernel⟩
  exact ⟨answer, (writes_confined (minute 7) (stage circulatingRun 9) _).1 _ answer, constrained,
    confirmed,
    ((writes_confined (minute 8) (stage circulatingRun 10) _).2 constrained confirmed).1⟩

end Office

end Chancery
