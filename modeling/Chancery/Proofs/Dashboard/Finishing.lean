import Chancery.Proofs.Journal.Lateness
import Chancery.Proofs.Store.Rereading

/-!
# Finishing work

Completed work counts as overdue if it was completed after its deadline, and finished work as
finished late. The two rules, and their twins in the tables, are written for different statuses and
never hold together. What connects them is the move from one status to the other: it is the one move
that keeps the recorded completion, and no move touches the deadline. So the verdict that the work
has when it is finished is the one that it had before, on whatever day that is asked.

For the numbers of a user's dashboard the move is a change of one row, and a row adds to a number
nothing or one. If the row involves the user then finished work grows by it, and what leaves the
overdue work is found among the work finished late.

## Main definitions

* `OwnCounts` — the numbers of a user's own work
* `OwnCounts.Finishes` — how they change when one assignment is finished
* `Assignment.IsFinishedFrom`

## Main results

* `Store.Constrained.finishes_setStatus` — the change of the numbers
* `Office.finishing_keeps_verdict`
-/

namespace Chancery

/-! ### The verdict -/

/-- Whether an assignment is what another becomes when it is finished. -/
structure Assignment.IsFinishedFrom (b a : Assignment) : Prop where
  id : b.id = a.id
  status : b.status = .finished
  deadline : b.deadline = a.deadline
  completedAt : b.completedAt = a.completedAt
  involves : ∀ user, b.involves user = a.involves user

/-- **Finished work was late if it was overdue when it was completed.** -/
theorem Assignment.IsFinishedFrom.isFinishedLate_eq {a b : Assignment} (h : b.IsFinishedFrom a)
    (ha : a.status = .completed) (day : Date) : b.isFinishedLate = a.isOverdue day := by
  rw [isFinishedLate, isOverdue, h.status, h.deadline, h.completedAt, ha]
  cases a.deadline <;> cases a.completedAt <;> rfl

namespace AssignmentRow

variable {row : AssignmentRow}

/-- In the tables, completed work is overdue if it ended late, on whatever day that is asked. -/
theorem isOverdue_of_completed (h : row.status = Status.completed.name) (today : Date) :
    row.isOverdue today = row.endsLate row.completedAt := by
  simp [isOverdue, h, Status.name]

theorem isOverdue_of_finished (h : row.status = Status.finished.name) (today : Date) :
    row.isOverdue today = false := by
  simp [isOverdue, h, Status.name]

end AssignmentRow

/-! ### The numbers of a user -/

/-- The numbers of a user's own work. -/
structure OwnCounts where
  new : Nat
  inProgress : Nat
  overdue : Nat
  finished : Nat
  finishedLate : Nat
  deriving DecidableEq

/-- How the numbers of a user change when an assignment is finished, whether it involves the user or
not. -/
structure OwnCounts.Finishes (involved : Bool) (c c' : OwnCounts) : Prop where
  new : c'.new = c.new
  inProgress : c'.inProgress = c.inProgress
  finished : c'.finished = c.finished + involved.toNat
  late : c'.overdue + c'.finishedLate = c.overdue + c.finishedLate
  untouched : involved = false → c' = c

namespace OwnCounts

variable {p : AssignmentRow → Bool} {before after : List AssignmentRow} {row row' : AssignmentRow}
  {today : Date}

/-- The numbers of those rows that pass a test. -/
def ofRows (p : AssignmentRow → Bool) (today : Date) (rows : List AssignmentRow) : OwnCounts where
  new := rows.countP fun a => p a && a.status = Status.new.name
  inProgress := rows.countP fun a => p a && a.status = Status.inProgress.name
  overdue := rows.countP fun a => p a && a.isOverdue today
  finished := rows.countP fun a => p a && a.status = Status.finished.name
  finishedLate := rows.countP fun a =>
    p a && a.status = Status.finished.name && a.endsLate a.completedAt

/-- A row among others adds one to a number or nothing. -/
theorem countP_middle {α : Type} (p : α → Bool) (before after : List α) (a : α) :
    (before ++ a :: after).countP p = (before ++ after).countP p + (p a).toNat := by
  rw [List.countP_append, List.countP_cons, List.countP_append, ← Nat.add_assoc]
  cases p a <;> rfl

/-- **A row that is finished in place** moves from the overdue work to the work finished late, if it
is late at all. -/
theorem finishes_ofRows (hp : p row' = p row) (hcompleted : row.status = Status.completed.name)
    (hfinished : row'.status = Status.finished.name)
    (hlate : row'.endsLate row'.completedAt = row.endsLate row.completedAt) :
    Finishes (p row) (ofRows p today (before ++ row :: after))
      (ofRows p today (before ++ row' :: after)) := by
  have hover := AssignmentRow.isOverdue_of_completed hcompleted today
  have hover' := AssignmentRow.isOverdue_of_finished hfinished today
  simp only [ofRows, countP_middle, hp, hover, hover', hcompleted, hfinished, hlate, Status.name]
  cases p row with
  | false => exact ⟨rfl, rfl, rfl, rfl, fun _ => rfl⟩
  | true =>
    refine ⟨rfl, rfl, rfl, ?_, fun h => Bool.noConfusion h⟩
    simp only [Bool.true_and, Bool.and_false, Bool.and_self, Bool.toNat_false, decide_true,
      decide_false, String.reduceEq, Bool.false_and]
    omega

end OwnCounts

namespace Store

variable {s : Store} {user : Identifier} {today : Date}

/-- The numbers of a user's own work, as the store counts them on a day. -/
def ownCounts (s : Store) (user : Identifier) (today : Date) : OwnCounts where
  new := s.countInvolving user .new
  inProgress := s.countInvolving user .inProgress
  overdue := s.countOverdueInvolving user today
  finished := (s.finishedInvolving user).1
  finishedLate := (s.finishedInvolving user).2

theorem ownCounts_eq_ofRows (s : Store) (user : Identifier) (today : Date) :
    s.ownCounts user today = .ofRows (s.involves user) today s.assignments := rfl

/-- **Finishing completed work changes the numbers of those that it involves**, and of nobody
else. -/
theorem Constrained.finishes_setStatus (h : s.Constrained) {id : Identifier} {row : AssignmentRow}
    (hrow : row ∈ s.assignments) (hid : row.id = id.text)
    (hcompleted : row.status = Status.completed.name) (now : Instant) (report : Option String)
    (user : Identifier) (today : Date) :
    OwnCounts.Finishes (s.involves user row) (s.ownCounts user today)
      ((s.setStatus id now .finished report row.completedAt).2.ownCounts user today) := by
  obtain ⟨before, after, hbefore, hafter⟩ :=
    h.exists_split_setStatus hrow hid now .finished report row.completedAt
  rw [hafter, ownCounts_eq_ofRows, ownCounts_eq_ofRows, hbefore]
  -- The co-executors are untouched, so the work involves whom it did.
  exact OwnCounts.finishes_ofRows rfl hcompleted rfl rfl

/-- **Work that is finished reads**, with the deadline and the completion that it had, and involves
whom it did. -/
theorem Orderly.exists_isFinishedFrom (hs : s.Orderly) {row : AssignmentRow} {a : Assignment}
    (hrow : s.Yields row a) (now : Instant) (report : Option String) :
    ∃ b, (s.setStatus a.id now .finished report a.completedAt).2.assignment? a.id = .ok (some b) ∧
      b.IsFinishedFrom a := by
  obtain ⟨b, hb⟩ : ∃ b, (s.setStatus a.id now .finished report a.completedAt).2.assignment? a.id =
      .ok (some b) := hs.assignment?_setStatus hrow.found .finished report a.completedAt
  have hs' : (s.setStatus a.id now .finished report a.completedAt).2.Orderly :=
    hs.setStatus .finished report a.completedAt
  obtain ⟨row', hrow'⟩ := exists_row_yields hb
  have hid : b.id = a.id := id_of_assignment? hb
  have hmoved : AssignmentRow.moved now .finished report a.completedAt row ∈
      (s.setStatus a.id now .finished report a.completedAt).2.assignments :=
    List.mem_map.2 ⟨row, hrow.stored, if_pos hrow.id⟩
  obtain rfl : AssignmentRow.moved now .finished report a.completedAt row = row' :=
    hs'.row_eq_of_id_eq hmoved hrow'.stored (by rw [hrow'.id, hid, ← hrow.id]; rfl)
  have hreads := hrow.reads hs.toConstrained
  have hreads' := hrow'.reads hs'.toConstrained
  refine ⟨b, hb, hid, Status.name_injective hreads'.status.symm,
    hreads'.deadline.trans hreads.deadline.symm, hreads'.completedAt, fun user => ?_⟩
  rw [hrow'.involves_eq hs', hrow.involves_eq hs]
  rfl

end Store

/-! ### What the office answers -/

/-- Whether a summary shows the numbers of a user. -/
structure DashboardStats.ShowsOwn (stats : DashboardStats) (c : OwnCounts) : Prop where
  new : stats.myAssignmentsNew = some ↑c.new
  inProgress : stats.myAssignmentsInProgress = some ↑c.inProgress
  overdue : stats.myAssignmentsOverdue = some ↑c.overdue
  finished : stats.myAssignmentsFinished = some ↑c.finished
  finishedLate : stats.myAssignmentsFinishedLate = some ↑c.finishedLate

namespace Office

variable {office : Office}

/-- Whether a user has certain numbers on a day: in the tables, and on the executor's view of its
dashboard. -/
structure CountsOwn (office : Office) (user : Identifier) (today : Date) (c : OwnCounts) :
    Prop where
  stored : office.store.ownCounts user today = c
  shown : ∀ (o : Occasion) (viewer : Actor) (rs : Request.Summary) (w : Window),
    viewer.id = user → o.today = today → Intake.window rs today = .ok w →
    Policy.dashboardRole viewer ((Text.nonBlank? rs.role).bind Role.ofName?) = .executor →
    ∃ stats, office.summary o (some viewer) rs = .ok stats ∧ stats.ShowsOwn c

theorem countsOwn_ownCounts (hs : office.store.Orderly) (user : Identifier) (today : Date) :
    office.CountsOwn user today (office.store.ownCounts user today) where
  stored := rfl
  shown o viewer rs w huser hday hw hrole := by
    subst huser hday
    obtain ⟨stats, hstats, hnew, hprogress, hoverdue, hfinished, hlate⟩ :=
      summary_of_executor hs hw hrole
    exact ⟨stats, hstats, hnew, hprogress, hoverdue, hfinished, hlate⟩

/-- What a move that is permitted does, and answers. -/
theorem moveAssignment_of_permitted {o : Occasion} {actor : Option Actor}
    {r : Request.MoveAssignment} {mover : Actor} {id : Identifier} {target : Status}
    {existing : Assignment}
    (hread : readMove actor r office.store = .ok (mover, id, target, existing))
    (hpermitted : Policy.transitionPermitted mover existing.executorId existing.status target =
      true) {store : Store} (hstore : (office.store.setStatus id o.writing target r.report
        (target.completionAfter existing.completedAt o.now)).2 = store) :
    office.moveAssignment o actor r = (requireAssignment store "assignment.transition" id,
      (office.withStore store).record
        (.assignmentTransitioned mover.id id existing.status target)) := by
  have hmay := Policy.authorizeTransition_eq_ok.2 hpermitted
  have hhas := Store.hasAssignment_of_assignment? (of_readMove hread).2.2.2
  subst hstore
  simp only [moveAssignment, hread, hmay, Store.setStatus, hhas]

/-- **Finishing completed work carries its verdict over.** In every state that comes about by calls,
whoever may finish a completed assignment, and asks for it at any time, is answered with the
finished assignment. It is finished late if and only if it was overdue, on whatever day that is
asked. For every user and day the overdue work and the work finished late are together as many as
before; there is one more finished assignment if it involves the user, and if it does not, no number
changes. -/
theorem finishing_keeps_verdict (run : List (Occasion × Call)) (o : Occasion) {actor : Actor}
    {r : Request.MoveAssignment} {a : Assignment}
    (hfound : (opened.after run).store.assignment? a.id = .ok (some a))
    (hcompleted : a.status = .completed) (hid : Identifier.parse? r.id = some a.id)
    (htarget : Intake.status r.status = .ok .finished)
    (hpermitted : Policy.transitionPermitted actor a.executorId .completed .finished = true) :
    ∃ b office', (opened.after run).moveAssignment o (some actor) r = (.ok b, office') ∧
      office'.store.assignment? a.id = .ok (some b) ∧ b.IsFinishedFrom a ∧
      (∀ day, b.isFinishedLate = a.isOverdue day) ∧
      ∀ user day, ∃ c c', (opened.after run).CountsOwn user day c ∧
        office'.CountsOwn user day c' ∧ OwnCounts.Finishes (a.involves user) c c' := by
  have hs := orderly_after run
  generalize opened.after run = office at *
  have hread : readMove (some actor) r office.store = .ok (actor, a.id, .finished, a) := by
    simp only [readMove, bind_eq_ok, Policy.requireActor_eq_ok, Intake.identifier_eq_ok,
      requireAssignment_eq_ok]
    exact ⟨actor, rfl, a.id, hid, .finished, htarget, a, hfound, rfl⟩
  have hmove := moveAssignment_of_permitted (o := o) hread (hcompleted ▸ hpermitted) rfl
  obtain ⟨row, hrow⟩ := Store.exists_row_yields hfound
  have hreads := hrow.reads hs.toConstrained
  obtain ⟨b, hb, hfinished⟩ := hs.exists_isFinishedFrom hrow o.writing r.report
  rw [Status.completionAfter, requireAssignment_eq_ok.2 hb] at hmove
  refine ⟨b, _, hmove, hb, hfinished, hfinished.isFinishedLate_eq hcompleted, fun user day =>
    ⟨_, _, countsOwn_ownCounts hs user day, countsOwn_ownCounts (hs.setStatus _ _ _) user day, ?_⟩⟩
  rw [hrow.involves_eq hs, hreads.completedAt]
  exact hs.finishes_setStatus hrow.stored hrow.id (by rw [hreads.status, hcompleted]) _ _ _ _

/-- Work that is handed out after its deadline, and completed. -/
def lateRun : List (Occasion × Call) :=
  finishingRun.take 3 ++
    [(minute 3, .createAssignment (some anna)
       ⟨"00000000000000000000000000000002", "incoming", "00000000000000000000000000000001",
        "Have it mended", some "1969-12-31", []⟩),
     (minute 4, .moveAssignment (some boris)
       ⟨"00000000000000000000000000000003", "completed", none⟩)]

/-- That work, when it is completed. -/
def lateWork : Assignment where
  id := .ofNat 3
  document := ⟨.ofNat 2, .incoming⟩
  documentNumber := some "17/b"
  documentSubject := some "The roof"
  executorId := boris.id
  executorName := some "Boris"
  coExecutors := []
  content := "Have it mended"
  deadline := Date.parse? "1969-12-31"
  status := .completed
  report := none
  completedAt := some (minute 4).now
  createdAt := (minute 3).now
  updatedAt := (minute 4).writing

/-- The request to finish it. -/
def finishing : Request.MoveAssignment := ⟨"00000000000000000000000000000003", "finished", none⟩

/-- The executor of `lateRun` has one assignment overdue, and one finished late when the clerk has
finished it. -/
theorem finishing_keeps_verdict_of_lateRun :
    ((opened.after lateRun).store.assignment? lateWork.id = .ok (some lateWork) ∧
      lateWork.status = .completed ∧ Identifier.parse? finishing.id = some lateWork.id ∧
      Intake.status finishing.status = .ok .finished ∧
      Policy.transitionPermitted anna lateWork.executorId .completed .finished = true) ∧
    (opened.after lateRun).store.ownCounts boris.id (minute 9).today = ⟨0, 0, 1, 0, 0⟩ ∧
    ∃ b office', (opened.after lateRun).moveAssignment (minute 9) (some anna) finishing =
        (.ok b, office') ∧ b.isFinishedLate = true ∧
      ∃ c, office'.CountsOwn boris.id (minute 9).today c ∧ c.new = 0 ∧ c.inProgress = 0 ∧
        c.finished = 1 ∧ c.overdue + c.finishedLate = 1 := by
  have hfound : (opened.after lateRun).store.assignment? lateWork.id = .ok (some lateWork) := by
    decide +kernel
  have hid : Identifier.parse? finishing.id = some lateWork.id := by decide +kernel
  have htarget : Intake.status finishing.status = .ok .finished := by decide +kernel
  have hpermitted : Policy.transitionPermitted anna lateWork.executorId .completed .finished =
      true := by decide +kernel
  have hbefore : (opened.after lateRun).store.ownCounts boris.id (minute 9).today =
      ⟨0, 0, 1, 0, 0⟩ := by decide +kernel
  have hinvolves : lateWork.involves boris.id = true := by decide +kernel
  obtain ⟨b, office', hmove, -, -, hlate, hcounts⟩ :=
    finishing_keeps_verdict lateRun (minute 9) hfound rfl hid htarget hpermitted
  obtain ⟨c, c', hc, hc', hchange⟩ := hcounts boris.id (minute 9).today
  obtain rfl := hbefore.symm.trans hc.stored
  rw [hinvolves] at hchange
  exact ⟨⟨hfound, rfl, hid, htarget, hpermitted⟩, hbefore, b, office', hmove,
    (hlate (minute 9).today).trans (by decide +kernel), c', hc', hchange.new,
    hchange.inProgress, hchange.finished, hchange.late⟩

end Office

end Chancery
