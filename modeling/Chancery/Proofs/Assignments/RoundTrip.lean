import Chancery.Proofs.Assignments.Fate
import Chancery.Proofs.Office.Failures
import Chancery.Proofs.Store.Names

/-!
# What is written is what is read

An assignment is answered when it is entered or edited, and from then on it is read, by anybody and
under any spelling of its identifier. Between the request and the reading lie two tables, texts of
identifiers, a look-up of names and a sort. This module says that none of it shows: the answer has
what the request names, all names are resolved, and later readings hand out the same value as long
as nobody has edited, moved or deleted the assignment with success.

What may happen in between is anything else. Calls about other assignments keep the rows of this
one, refused calls keep everything, and the directory only grows, so that the names that were
resolved once stay resolved to the same.

## Main definitions

* `Assignment.HasDetails` — an assignment has the details that a request names
* `Call.rewrites`, `Office.IsLeftAlone` — when a later reading may differ

## Main results

* `Office.assignment_reads_back`
-/

namespace Chancery

/-- Whether an assignment has the executor, the content, the deadline and the co-executors that
the texts of a request name, and every co-executor once. -/
structure Assignment.HasDetails (a : Assignment) (executor content : String)
    (deadline : Option String) (coExecutors : List String) : Prop where
  executorId : Identifier.parse? executor = some a.executorId
  content : a.content = content
  deadline : Intake.date "deadline" deadline = .ok a.deadline
  once : (a.coExecutors.map CoExecutor.userId).Nodup
  mem_coExecutors : ∀ u, u ∈ a.coExecutors.map CoExecutor.userId ↔
    ∃ text ∈ coExecutors, Identifier.parse? text = some u

/-! ### Co-executor rows after a write -/

namespace Store

variable {s s' : Store} {id : Identifier} {now : Instant}

theorem mem_coExecutorRows {u : Identifier} {users : List Identifier} :
    (⟨id.text, u.text⟩ : CoExecutorRow) ∈ coExecutorRows id.text users ↔ u ∈ users := by
  simp [coExecutorRows]

/-- The co-executors of a new assignment are those it was entered with. -/
theorem Constrained.mem_coExecutors_addAssignment (h : s.Constrained) {new : NewAssignment}
    (ha : s.addAssignment id now new = .ok s') (u : Identifier) :
    (⟨id.text, u.text⟩ : CoExecutorRow) ∈ s'.coExecutors ↔ u ∈ new.coExecutorIds := by
  obtain ⟨hfresh, rfl⟩ := addAssignment_eq ha
  rw [List.mem_append, mem_coExecutorRows, or_iff_right]
  intro hold
  have hpresent := (h.coExecutors _ hold).1
  rw [hfresh] at hpresent
  exact Bool.noConfusion hpresent

/-- The co-executors of an edited assignment are those it was edited to have. -/
theorem mem_coExecutors_updateAssignment {u : AssignmentUpdate}
    (hu : s.updateAssignment id now u = .ok (true, s')) (v : Identifier) :
    (⟨id.text, v.text⟩ : CoExecutorRow) ∈ s'.coExecutors ↔ v ∈ u.coExecutorIds := by
  obtain ⟨-, -, hrows⟩ := updateAssignment_eq_ok.1 hu
  obtain rfl := insertCoExecutors_eq hrows
  rw [List.mem_append, mem_coExecutorRows, or_iff_right]
  intro hold
  simp [dropCoExecutors] at hold

end Store

/-! ### One call -/

namespace Call

open Store

variable {o : Occasion} {office office' : Office} {c : Call} {answer : Except Refusal Answer}
  {actor : Option Actor} {a : Assignment}

theorem Outcome.of_assignmentCreated {r : Request.CreateAssignment}
    (hout : Outcome o office (.createAssignment actor r) answer office')
    (hanswer : answer = .ok (.assignment a)) :
    ∃ creator new, Office.checkCreate actor r office.store = .ok (creator, new) ∧
      office.store.addAssignment (office.nextId o) o.now new = .ok office'.store ∧
      office'.store.assignment? (office.nextId o) = .ok (some a) := by
  cases hout with
  | refused _ => cases hanswer
  | looked reads => cases reads
  | assignmentCreated checked added read =>
    obtain rfl := Answer.assignment.inj (Except.ok.inj hanswer)
    exact ⟨_, _, checked, added, read⟩
  | assignmentUnread _ _ _ => cases hanswer

theorem Outcome.of_assignmentUpdated {r : Request.UpdateAssignment}
    (hout : Outcome o office (.updateAssignment actor r) answer office')
    (hanswer : answer = .ok (.assignment a)) :
    ∃ editor id details, Office.checkUpdate actor r office.store = .ok (editor, id, details) ∧
      office.store.updateAssignment id o.now details = .ok (true, office'.store) ∧
      office'.store.assignment? id = .ok (some a) := by
  cases hout with
  | refused _ => cases hanswer
  | looked reads => cases reads
  | assignmentUpdated checked updated =>
    obtain ⟨b, hb, heq⟩ := answerWith_eq_ok.1 hanswer
    obtain rfl := Answer.assignment.inj heq
    exact ⟨_, _, _, checked, updated, Office.requireAssignment_eq_ok.1 hb⟩

/-- **A new assignment is what was asked for**, in status `new` and made at this moment. -/
theorem Outcome.of_created {r : Request.CreateAssignment}
    (hout : Outcome o office (.createAssignment actor r) answer office')
    (hanswer : answer = .ok (.assignment a)) (h : office.store.Orderly) :
    office'.store.assignment? a.id = .ok (some a) ∧ office'.store.Resolves a ∧
      a.HasDetails r.executorId r.content r.deadline r.coExecutorIds ∧
      Intake.document r.documentId r.documentKind = .ok a.document ∧
      a.status = .new ∧ a.report = none ∧ a.completedAt = none ∧ a.createdAt = o.now ∧
      a.updatedAt = o.now := by
  have h' := hout.orderly h
  obtain ⟨creator, new, checked, added, read⟩ := hout.of_assignmentCreated hanswer
  have hid := id_of_assignment? read
  rw [← hid] at added read
  have hrow := rowUnder?_addAssignment added a.id
  rw [if_pos rfl] at hrow
  have hyields : office'.store.Yields (assignmentRow a.id o.now new) a :=
    ⟨(of_rowUnder? hrow).1, rfl, read⟩
  have hreads := hyields.reads h'.toConstrained
  obtain ⟨hdocument, hexecutor, hcontent, hdeadline, hcoExecutors⟩ :=
    Office.requested_of_checkCreate checked
  obtain ⟨-, hnamed⟩ := Intake.of_coExecutors hcoExecutors
  refine ⟨read, hyields.resolves h', ?_, ?_, Status.name_injective hreads.status.symm,
    hreads.report, hreads.completedAt, hreads.createdAt, hreads.updatedAt⟩
  · exact {
      executorId := by
        rw [hexecutor, ← hreads.executorId]
        exact (Identifier.parse?_text _).symm
      content := hreads.content.trans hcontent
      deadline := by rw [hdeadline, hreads.deadline]; rfl
      once := hyields.nodup_coExecutors h'
      mem_coExecutors := fun u => by
        rw [hyields.mem_coExecutors_iff h', ← hnamed u]
        exact h.mem_coExecutors_addAssignment added u }
  · have hid : new.document.id = a.document.id :=
      Option.some.inj ((Identifier.parse?_text _).symm.trans hreads.documentId)
    have hkind : new.document.kind = a.document.kind :=
      DocumentKind.name_injective hreads.documentKind
    rw [hdocument, show new.document = a.document from congrArg₂ DocumentRef.mk hid hkind]

/-- **An edited assignment is what was asked for**, and otherwise what it was. -/
theorem Outcome.of_edited {r : Request.UpdateAssignment}
    (hout : Outcome o office (.updateAssignment actor r) answer office')
    (hanswer : answer = .ok (.assignment a)) (h : office.store.Orderly) :
    Identifier.parse? r.id = some a.id ∧ office'.store.assignment? a.id = .ok (some a) ∧
      office'.store.Resolves a ∧
      a.HasDetails r.executorId r.content r.deadline r.coExecutorIds ∧
      ∃ b, office.store.assignment? a.id = .ok (some b) ∧ a.document = b.document ∧
        a.status = b.status ∧ a.report = b.report ∧ a.completedAt = b.completedAt ∧
        a.createdAt = b.createdAt ∧ a.updatedAt = o.now := by
  have h' := hout.orderly h
  obtain ⟨editor, id, details, checked, updated, read⟩ := hout.of_assignmentUpdated hanswer
  obtain rfl : a.id = id := id_of_assignment? read
  obtain ⟨-, -, hnamedId, ⟨b, hb, -⟩, -⟩ := Office.of_checkUpdate checked
  obtain ⟨row, hrow, hbefore⟩ := h.rowUnder?_of_assignment? hb
  have hafter := rowUnder?_updateAssignment updated a.id
  simp only [if_true, hrow, Option.map_some] at hafter
  have hyields : office'.store.Yields (AssignmentRow.withDetails o.now details row) a :=
    ⟨(of_rowUnder? hafter).1, (of_rowUnder? hafter).2, read⟩
  have hreads := hyields.reads h'.toConstrained
  obtain ⟨hexecutor, hcontent, hdeadline, hcoExecutors⟩ :=
    Office.requested_of_checkUpdate checked
  obtain ⟨-, hnamed⟩ := Intake.of_coExecutors hcoExecutors
  refine ⟨hnamedId, read, hyields.resolves h', ?_, b, hb, ?_,
    Status.name_injective (hreads.status.symm.trans hbefore.status),
    hreads.report.trans hbefore.report.symm, hreads.completedAt.trans hbefore.completedAt.symm,
    hreads.createdAt.trans hbefore.createdAt.symm, hreads.updatedAt⟩
  · exact {
      executorId := by
        rw [hexecutor, ← hreads.executorId]
        exact (Identifier.parse?_text _).symm
      content := hreads.content.trans hcontent
      deadline := by rw [hdeadline, hreads.deadline]; rfl
      once := hyields.nodup_coExecutors h'
      mem_coExecutors := fun u => by
        rw [hyields.mem_coExecutors_iff h', ← hnamed u, (of_rowUnder? hafter).2]
        exact mem_coExecutors_updateAssignment updated u }
  · have hid : a.document.id = b.document.id :=
      Option.some.inj (hreads.documentId.symm.trans hbefore.documentId)
    have hkind : a.document.kind = b.document.kind :=
      DocumentKind.name_injective (hreads.documentKind.symm.trans hbefore.documentKind)
    exact congrArg₂ DocumentRef.mk hid hkind

/-! ### Calls that leave an assignment alone -/

/-- Whether a call may change the assignment with an identifier: it edits, moves or deletes it. -/
def rewrites (id : Identifier) : Call → Bool
  | updateAssignment _ r => Identifier.parse? r.id = some id
  | moveAssignment _ r => Identifier.parse? r.id = some id
  | deleteAssignment _ text => Identifier.parse? text = some id
  | _ => false

/-- Editing another assignment keeps the rows of this one. -/
theorem Outcome.keeps_of_update {r : Request.UpdateAssignment} {id : Identifier}
    (hout : Outcome o office (.updateAssignment actor r) answer office')
    (hother : Identifier.parse? r.id ≠ some id) :
    office'.store.rowUnder? id = office.store.rowUnder? id ∧
      office'.store.coExecutorsUnder id = office.store.coExecutorsUnder id := by
  cases hout with
  | refused _ => exact ⟨rfl, rfl⟩
  | looked reads => cases reads
  | @assignmentUpdated _ _ _ id' _ _ checked updated =>
    have hne : id ≠ id' := by
      rintro rfl
      exact hother (Office.of_checkUpdate checked).2.2.1
    have hrow := rowUnder?_updateAssignment updated id
    simp only [if_neg hne, Option.map_id'] at hrow
    exact ⟨hrow, coExecutorsUnder_updateAssignment hne updated⟩

/-- Deleting another assignment keeps the rows of this one. -/
theorem Outcome.keeps_of_delete {text : String} {id : Identifier}
    (hout : Outcome o office (.deleteAssignment actor text) answer office')
    (hother : Identifier.parse? text ≠ some id) :
    office'.store.rowUnder? id = office.store.rowUnder? id ∧
      office'.store.coExecutorsUnder id = office.store.coExecutorsUnder id := by
  cases hout with
  | refused _ => exact ⟨rfl, rfl⟩
  | looked reads => cases reads
  | @assignmentDeleted _ _ _ id' checked =>
    have hne : id ≠ id' := by
      rintro rfl
      exact hother (Office.of_checkDelete checked).2.2.1
    have hrow := office.store.rowUnder?_deleteAssignment id' id
    rw [if_neg hne] at hrow
    exact ⟨hrow, coExecutorsUnder_dropCoExecutors hne⟩
  | assignmentAbsent _ => exact ⟨rfl, rfl⟩

/-- **A call that is refused or about something else leaves an assignment as it is.** -/
theorem Outcome.assignment?_eq (hout : Outcome o office c answer office')
    (h : office.store.Orderly) {id : Identifier} (ha : office.store.assignment? id = .ok (some a))
    (hquiet : c.rewrites id = true → ∃ e, answer = .error e) :
    office'.store.assignment? id = .ok (some a) := by
  have kept : office'.store.rowUnder? id = office.store.rowUnder? id ∧
      office'.store.coExecutorsUnder id = office.store.coExecutorsUnder id →
      office'.store.assignment? id = .ok (some a) := fun hsame =>
    (h.assignment?_congr_of_rowUnder? (hout.orderly h) hout.growsTo hsame.1 hsame.2).trans ha
  by_cases hrewrites : c.rewrites id = true
  · obtain ⟨e, he⟩ := hquiet hrewrites
    rw [hout.store_eq_of_error h.toConstrained he, ha]
  · obtain ⟨row, hrow, -⟩ := h.rowUnder?_of_assignment? ha
    have hfate := hout.fate h id
    rw [hrow] at hfate
    generalize hafter : office'.store.rowUnder? id = after at hfate
    cases hfate with
    | kept _ hcos => exact kept ⟨hafter.trans hrow.symm, hcos⟩
    | edited _ _ => exact kept (hout.keeps_of_update fun hid => hrewrites (decide_eq_true hid))
    | moved named _ _ _ => exact absurd (decide_eq_true named) hrewrites
    | deleted _ _ => exact kept (hout.keeps_of_delete fun hid => hrewrites (decide_eq_true hid))

end Call

/-! ### Runs -/

namespace Office

variable {run : List (Occasion × Call)} {n m : Nat} {id : Identifier} {a : Assignment}

/-- Whether from one stage to another every call that edits, moves or deletes an assignment is
refused. -/
def IsLeftAlone (run : List (Occasion × Call)) (n m : Nat) (id : Identifier) : Prop :=
  ∀ i o c, n ≤ i → i < m → run[i]? = some (o, c) → c.rewrites id = true →
    ∃ e, (c.perform o (stage run i)).1 = .error e

/-- **An assignment that is left alone is read as the same value.** -/
theorem IsOnFile.later (ha : IsOnFile run n id a) (hnm : n ≤ m) (halone : IsLeftAlone run n m id) :
    IsOnFile run m id a := by
  induction hnm with
  | refl => exact ha
  | @step m hnm ih =>
    have hm : IsOnFile run m id a :=
      ih fun i o c hni him hc => halone i o c hni (by omega) hc
    rcases stage_step run m with ⟨o, c, answer, hc, rfl, hout⟩ | ⟨-, hsame⟩
    · exact hout.assignment?_eq (orderly_stage run m) hm (halone m o c hnm (Nat.lt_succ_self m) hc)
    · rw [IsOnFile, hsame]
      exact hm

/-- Whether an assignment is what anybody gets who asks for it, under any spelling of its
identifier, at a stage and as long after it as the assignment is left alone. -/
def IsReadBack (run : List (Occasion × Call)) (n : Nat) (a : Assignment) : Prop :=
  ∀ m, n ≤ m → IsLeftAlone run n m a.id → ∀ viewer text, Identifier.parse? text = some a.id →
    (stage run m).getAssignment (some viewer) text = .ok (some a)

theorem IsOnFile.isReadBack (ha : IsOnFile run n a.id a) : IsReadBack run n a :=
  fun _ hnm halone viewer _ htext =>
    getAssignment_eq_ok.2 ⟨⟨viewer, rfl⟩, a.id, htext, ha.later hnm halone⟩

/-- **What is written of an assignment is what is read.** Whoever enters an assignment with
success is answered with one in status `new`, made now, that has what the request names and shows
all names of people and document. Whoever edits one with success is answered with what it was,
except for what the request names. Both are read back from then on until the assignment is edited,
moved or deleted with success. -/
theorem assignment_reads_back (run : List (Occasion × Call)) (n : Nat) (o : Occasion)
    (actor : Option Actor) (a : Assignment) :
    (∀ r : Request.CreateAssignment, run[n]? = some (o, .createAssignment actor r) →
      (Call.perform o (stage run n) (.createAssignment actor r)).1 = .ok (.assignment a) →
      a.HasDetails r.executorId r.content r.deadline r.coExecutorIds ∧
        Intake.document r.documentId r.documentKind = .ok a.document ∧
        a.status = .new ∧ a.report = none ∧ a.completedAt = none ∧ a.createdAt = o.now ∧
        a.updatedAt = o.now ∧ (stage run (n + 1)).store.Resolves a ∧ IsReadBack run (n + 1) a) ∧
    ∀ r : Request.UpdateAssignment, run[n]? = some (o, .updateAssignment actor r) →
      (Call.perform o (stage run n) (.updateAssignment actor r)).1 = .ok (.assignment a) →
      Identifier.parse? r.id = some a.id ∧
        a.HasDetails r.executorId r.content r.deadline r.coExecutorIds ∧
        (∃ b, IsOnFile run n a.id b ∧ a.document = b.document ∧ a.status = b.status ∧
          a.report = b.report ∧ a.completedAt = b.completedAt ∧ a.createdAt = b.createdAt ∧
          a.updatedAt = o.now) ∧
        (stage run (n + 1)).store.Resolves a ∧ IsReadBack run (n + 1) a := by
  have h := orderly_stage run n
  constructor
  · intro r hc hanswer
    have hout := Call.perform_outcome o (stage run n) (.createAssignment actor r)
    rw [← stage_succ hc] at hout
    obtain ⟨hfound, hresolves, hdetails, hdocument, hstatus, hreport, hcompleted, hcreated,
      hupdated⟩ := hout.of_created hanswer h
    exact ⟨hdetails, hdocument, hstatus, hreport, hcompleted, hcreated, hupdated, hresolves,
      IsOnFile.isReadBack hfound⟩
  · intro r hc hanswer
    have hout := Call.perform_outcome o (stage run n) (.updateAssignment actor r)
    rw [← stage_succ hc] at hout
    obtain ⟨hid, hfound, hresolves, hdetails, hbefore⟩ := hout.of_edited hanswer h
    exact ⟨hid, hdetails, hbefore, hresolves, IsOnFile.isReadBack hfound⟩

/-- The request for a shared assignment: three texts name one co-executor. -/
def sharing : Request.CreateAssignment :=
  ⟨"00000000000000000000000000000002", "incoming", "00000000000000000000000000000001",
    "Have it mended", some "1970-02-01",
    ["00000000000000000000000000000001", "\x7b00000000-0000-0000-0000-000000000001\x7d",
      "urn:uuid:00000000-0000-0000-0000-000000000001"]⟩

/-- The request that leaves it to somebody else. -/
def unsharing : Request.UpdateAssignment :=
  ⟨"00000000000000000000000000000003", "00000000000000000000000000000000", "Mend it", none, []⟩

/-- An assignment is entered with co-executors and edited. -/
def sharingRun : List (Occasion × Call) :=
  finishingRun.take 3 ++
    [(minute 3, .createAssignment (some anna) sharing),
     (minute 4, .updateAssignment (some anna) unsharing)]

/-- The answer to the first of the two calls. -/
def sharedAssignment : Assignment :=
  { id := .ofNat 3
    document := ⟨.ofNat 2, .incoming⟩
    documentNumber := some "17/b"
    documentSubject := some "The roof"
    executorId := .ofNat 1
    executorName := some "Boris"
    coExecutors := [⟨.ofNat 1, some "Boris"⟩]
    content := "Have it mended"
    deadline := Date.parse? "1970-02-01"
    status := .new
    report := none
    completedAt := none
    createdAt := (minute 3).now
    updatedAt := (minute 3).now }

/-- The answer to the second. -/
def unsharedAssignment : Assignment :=
  { sharedAssignment with
    executorId := .ofNat 0
    executorName := some "Anna"
    coExecutors := []
    content := "Mend it"
    deadline := none
    updatedAt := (minute 4).now }

theorem assignment_reads_back_of_sharingRun :
    (sharedAssignment.HasDetails sharing.executorId sharing.content sharing.deadline
        sharing.coExecutorIds ∧
      (stage sharingRun 4).store.Resolves sharedAssignment ∧
      IsReadBack sharingRun 4 sharedAssignment) ∧
    unsharedAssignment.HasDetails unsharing.executorId unsharing.content unsharing.deadline
        unsharing.coExecutorIds ∧
      (stage sharingRun 5).store.Resolves unsharedAssignment ∧
      IsReadBack sharingRun 5 unsharedAssignment := by
  have hcreated : (Call.perform (minute 3) (stage sharingRun 3)
      (.createAssignment (some anna) sharing)).1 = .ok (.assignment sharedAssignment) := by
    decide +kernel
  have hedited : (Call.perform (minute 4) (stage sharingRun 4)
      (.updateAssignment (some anna) unsharing)).1 = .ok (.assignment unsharedAssignment) := by
    decide +kernel
  obtain ⟨hdetails, -, -, -, -, -, -, hresolves, hread⟩ :=
    (assignment_reads_back sharingRun 3 (minute 3) (some anna) sharedAssignment).1 sharing rfl
      hcreated
  obtain ⟨-, hdetails', -, hresolves', hread'⟩ :=
    (assignment_reads_back sharingRun 4 (minute 4) (some anna) unsharedAssignment).2 unsharing rfl
      hedited
  exact ⟨⟨hdetails, hresolves, hread⟩, hdetails', hresolves', hread'⟩

end Office

end Chancery
