import Chancery.Proofs.Dashboard.Resolution
import Chancery.Proofs.Journal.Lateness

/-!
# The dashboard of an outsider

An actor outside the staff sees one view of the dashboard, its own work, however it spells the role
that it asks for. This module compares two offices in which the same assignments involve the actor
and everything else may differ: other users' work, the documents nobody refers to, the order of the
tables, the size of the database. The actor is answered the same in both, so the answer cannot tell
it anything about the rest.

Every number of the view is a count of rows that involve the actor, and the list is one of such
rows. The rows are not the same in the two offices, but an assignment determines the row it is read
from (`Store.Yields.row_eq`), so whatever is asked of rows can be asked of assignments. One lemma,
`Store.SharesWork.perm`, then serves all six queries.

The list is sorted by texts, and the table decides the order of work with equal sort keys. Up to
that the two lists are the same.

## Main definitions

* `Assignment.row` — an assignment printed back as a row
* `Store.SharesWork` — the same assignments involve a user in two stores
* `Office.SameSummary`, `Office.IsOwnSummary`

## Main results

* `Store.SharesWork.perm`, `Store.SharesWork.countP_eq`
* `Office.outsider_sees_own_work`
-/

namespace Chancery

/-! ### Assignments printed back -/

/-- The row that an assignment is read from. -/
def Assignment.row (a : Assignment) : AssignmentRow :=
  { id := a.id.text
    documentId := a.document.id.text
    documentKind := a.document.kind.name
    executorId := a.executorId.text
    content := a.content
    deadline := a.deadline
    status := a.status.name
    report := a.report
    completedAt := a.completedAt
    createdAt := a.createdAt
    updatedAt := a.updatedAt }

namespace Store

variable {s s' : Store} {user : Identifier}

/-- **An assignment on file determines its row.** -/
theorem Yields.row_eq {row : AssignmentRow} {a : Assignment} (h : s.Yields row a)
    (hs : s.Orderly) : row = a.row := by
  have hreads := h.reads hs.toConstrained
  have hdocument := (hs.isCanonical_of_isRegistered (hs.assignmentDocuments row h.stored)).eq_text
    hreads.documentId
  have hexecutor := (hs.isCanonical_of_hasUser (hs.executors row h.stored)).eq_text
    hreads.executorId
  cases row
  simp only [Assignment.row, AssignmentRow.mk.injEq]
  exact ⟨h.id, hdocument, hreads.documentKind, hexecutor, hreads.content.symm,
    hreads.deadline.symm, hreads.status, hreads.report.symm, hreads.completedAt.symm,
    hreads.createdAt.symm, hreads.updatedAt.symm⟩

/-! ### Work that involves a user -/

/-- Whether some rows are those that involve a user and pass a test, each of them once. -/
structure IsWorkOf (s : Store) (user : Identifier) (p : AssignmentRow → Bool)
    (rows : List AssignmentRow) : Prop where
  once : rows.Nodup
  mem_iff : ∀ row, row ∈ rows ↔
    row ∈ s.assignments ∧ s.involves user row = true ∧ p row = true

theorem isWorkOf_filter (hs : s.Constrained) (user : Identifier) (p : AssignmentRow → Bool) :
    s.IsWorkOf user p (s.assignments.filter fun row => s.involves user row && p row) where
  once := (List.Nodup.of_map _ hs.assignmentIds).filter _
  mem_iff row := by rw [List.mem_filter, Bool.and_eq_true]

/-- The assignments read for such rows are those that involve the user and whose own rows pass. -/
theorem IsWorkOf.mem_read_iff (hs : s.Orderly) {p : AssignmentRow → Bool}
    {rows : List AssignmentRow} {as : List Assignment} (h : s.IsWorkOf user p rows)
    (has : List.Forall₂ s.Yields rows as) (a : Assignment) :
    a ∈ as ↔ s.assignment? a.id = .ok (some a) ∧ a.involves user = true ∧ p a.row = true := by
  constructor
  · intro ha
    obtain ⟨row, hrow, hread⟩ := exists_left_of_mem has ha
    obtain ⟨-, hinvolves, hp⟩ := (h.mem_iff row).1 hrow
    rw [hread.involves_eq hs, ← hread.row_eq hs]
    exact ⟨hread.found, hinvolves, hp⟩
  · rintro ⟨hfound, hinvolves, hp⟩
    obtain ⟨row, hread⟩ := exists_row_yields hfound
    rw [hread.involves_eq hs] at hinvolves
    rw [← hread.row_eq hs] at hp
    obtain ⟨b, hb, hread'⟩ := exists_right_of_mem has ((h.mem_iff row).2
      ⟨hread.stored, hinvolves, hp⟩)
    rwa [hread.unique hread']

/-- Such rows can be read. -/
theorem IsWorkOf.exists_loadAssignments (hs : s.Orderly) {p : AssignmentRow → Bool}
    {rows : List AssignmentRow} (h : s.IsWorkOf user p rows) :
    ∃ as, s.loadAssignments rows = .ok as ∧ List.Forall₂ s.Yields rows as :=
  hs.exists_loadAssignments (fun row hrow => ((h.mem_iff row).1 hrow).1) h.once

/-- No assignment is read twice. -/
theorem IsWorkOf.nodup_read (hs : s.Orderly) {p : AssignmentRow → Bool}
    {rows : List AssignmentRow} {as : List Assignment} (h : s.IsWorkOf user p rows)
    (has : List.Forall₂ s.Yields rows as) : as.Nodup :=
  hs.nodup_of_yields h.once has

/-! ### Two stores -/

/-- Whether the same assignments involve a user in two stores, with the same names, numbers and
subjects. -/
def SharesWork (user : Identifier) (s s' : Store) : Prop :=
  ∀ a : Assignment, a.involves user = true →
    (s.assignment? a.id = .ok (some a) ↔ s'.assignment? a.id = .ok (some a))

variable {p : AssignmentRow → Bool} {rows rows' : List AssignmentRow} {as as' : List Assignment}

/-- **What is read of a user's work is the same**, whatever is asked of it. -/
theorem SharesWork.perm (h : SharesWork user s s') (hs : s.Orderly) (hs' : s'.Orderly)
    (hrows : s.IsWorkOf user p rows) (has : List.Forall₂ s.Yields rows as)
    (hrows' : s'.IsWorkOf user p rows') (has' : List.Forall₂ s'.Yields rows' as') :
    as.Perm as' := by
  rw [List.perm_ext_iff_of_nodup (hrows.nodup_read hs has) (hrows'.nodup_read hs' has')]
  intro a
  rw [hrows.mem_read_iff hs has, hrows'.mem_read_iff hs' has']
  constructor
  · rintro ⟨hfound, hinvolves, hp⟩
    exact ⟨(h a hinvolves).1 hfound, hinvolves, hp⟩
  · rintro ⟨hfound, hinvolves, hp⟩
    exact ⟨(h a hinvolves).2 hfound, hinvolves, hp⟩

/-- **Counts of a user's work are the same.** -/
theorem SharesWork.countP_eq (h : SharesWork user s s') (hs : s.Orderly) (hs' : s'.Orderly)
    (p : AssignmentRow → Bool) :
    s.assignments.countP (fun row => s.involves user row && p row) =
      s'.assignments.countP fun row => s'.involves user row && p row := by
  have hrows := isWorkOf_filter hs.toConstrained user p
  have hrows' := isWorkOf_filter hs'.toConstrained user p
  obtain ⟨as, -, has⟩ := hrows.exists_loadAssignments hs
  obtain ⟨as', -, has'⟩ := hrows'.exists_loadAssignments hs'
  rw [List.countP_eq_length_filter, List.countP_eq_length_filter, has.length_eq, has'.length_eq]
  exact (h.perm hs hs' hrows has hrows' has').length_eq

/-- To see that two stores share a user's work it is enough to read it in both. -/
theorem sharesWork_of_loadAssignments_eq (hs : s.Orderly) (hs' : s'.Orderly)
    (h : s.loadAssignments (s.assignments.filter fun row => s.involves user row && true) =
      s'.loadAssignments (s'.assignments.filter fun row => s'.involves user row && true)) :
    SharesWork user s s' := by
  have hrows := isWorkOf_filter hs.toConstrained user fun _ => true
  have hrows' := isWorkOf_filter hs'.toConstrained user fun _ => true
  obtain ⟨as, hload, has⟩ := hrows.exists_loadAssignments hs
  obtain ⟨as', hload', has'⟩ := hrows'.exists_loadAssignments hs'
  rw [hload, hload', Except.ok.injEq] at h
  subst h
  intro a ha
  have hmem := (hrows.mem_read_iff hs has a).symm.trans (hrows'.mem_read_iff hs' has' a)
  simpa only [ha, and_true] using hmem

end Store

/-! ### The expiring list -/

/-- The sort key of an assignment in the list of expiring work. -/
def Assignment.expiringKey (a : Assignment) : List String := Store.expiringKey a.row

/-- Whether two lists of expiring work differ at most in the order of assignments with equal sort
keys. -/
structure SameUpToTies (as as' : List Assignment) : Prop where
  perm : as.Perm as'
  keys : as.map Assignment.expiringKey = as'.map Assignment.expiringKey

namespace Store

variable {s s' : Store} {user : Identifier}

theorem Yields.map_expiringKey (hs : s.Orderly) {rows : List AssignmentRow}
    {as : List Assignment} (has : List.Forall₂ s.Yields rows as) :
    as.map Assignment.expiringKey = rows.map expiringKey := by
  induction has with
  | nil => rfl
  | cons hread _ ih =>
    rw [List.map_cons, List.map_cons, ih, Assignment.expiringKey, ← hread.row_eq hs]

/-- Two lists that are sorted by a key and hold the same hold the same keys at each place. -/
theorem map_key_eq_of_perm {α : Type} {key : α → List String} {l l' : List α} (h : l.Perm l')
    (hl : (l.map key).Pairwise fun k k' => ¬ k' < k)
    (hl' : (l'.map key).Pairwise fun k k' => ¬ k' < k) : l.map key = l'.map key := by
  refine (h.map key).eq_of_pairwise (fun k k' _ _ hkk' hk'k => ?_) hl hl'
  exact List.le_antisymm (List.not_lt.1 hkk') (List.not_lt.1 hk'k)

/-- A user's expiring work, read and sorted. -/
theorem Orderly.exists_ownExpiring (hs : s.Orderly) (user : Identifier) (start finish : Date) :
    ∃ rows as, s.expiring (some user) start finish = .ok as ∧
      s.IsWorkOf user (isExpiring start finish) rows ∧ List.Forall₂ s.Yields rows as ∧
      (as.map Assignment.expiringKey).Pairwise fun k k' => ¬ k' < k := by
  obtain ⟨as, hload, has⟩ := hs.exists_expiring (some user) start finish
  refine ⟨_, as, hload, ⟨hs.nodup_expiringRows .., fun row => ?_⟩, has, ?_⟩
  · rw [mem_expiringRows, Option.all_some, Bool.and_eq_true, and_comm (a := _ = true)]
  · rw [Yields.map_expiringKey hs has, List.pairwise_map]
    exact s.pairwise_expiringRows (some user) start finish

theorem SharesWork.sameUpToTies (h : SharesWork user s s') (hs : s.Orderly) (hs' : s'.Orderly)
    (start finish : Date) :
    ∃ as as', s.expiring (some user) start finish = .ok as ∧
      s'.expiring (some user) start finish = .ok as' ∧ SameUpToTies as as' := by
  obtain ⟨rows, as, hload, hrows, has, hsorted⟩ := hs.exists_ownExpiring user start finish
  obtain ⟨rows', as', hload', hrows', has', hsorted'⟩ := hs'.exists_ownExpiring user start finish
  have hperm := h.perm hs hs' hrows has hrows' has'
  exact ⟨as, as', hload, hload', hperm, map_key_eq_of_perm hperm hsorted hsorted'⟩

end Store

/-! ### The answers -/

/-- Whoever is no administrator and no clerk sees the executor's view, whatever role it asks
for. -/
theorem Policy.dashboardRole_of_outsider {actor : Actor} (ha : actor.holds .admin = false)
    (hk : actor.holds .clerk = false) (requested : Option Role) :
    dashboardRole actor requested = .executor := by
  have unasked : (dashboardPriority.find? actor.holds).getD .executor = .executor := by
    cases he : actor.holds .executor <;> simp [dashboardPriority, ha, hk, he]
  unfold dashboardRole
  cases hfilter : requested.filter actor.holds with
  | none => exact unasked
  | some role =>
    have hholds := (Option.filter_eq_some_iff.1 hfilter).2
    cases role with
    | admin => rw [ha] at hholds; cases hholds
    | clerk => rw [hk] at hholds; cases hholds
    | executor => rfl

namespace Office

/-- Whether two answers to a request for a summary are the same but for the order of expiring work
with equal sort keys. -/
def SameSummary : Except Failure DashboardStats → Except Failure DashboardStats → Prop
  | .ok stats, .ok stats' =>
    stats' = { stats with expiringAssignments := stats'.expiringAssignments } ∧
      SameUpToTies stats.expiringAssignments stats'.expiringAssignments
  | .error e, .error e' => e = e'
  | _, _ => False

/-- The answers that show a user nothing but its own work: the failure of a window that does not
read, or an executor's summary with the five numbers and the list. -/
inductive IsOwnSummary (r : Request.Summary) (today : Date) (user : Identifier) :
    Except Failure DashboardStats → Prop
  | refused {message} (window : Intake.window r today = .error (.validation message)) :
      IsOwnSummary r today user (.error (.validation message))
  | shown {w new inProgress overdue finished late expiring}
      (window : Intake.window r today = .ok w)
      (own : ∀ a ∈ expiring, Assignment.involves a user = true) :
      IsOwnSummary r today user (.ok { DashboardStats.forRole .executor with
        myAssignmentsNew := some new
        myAssignmentsInProgress := some inProgress
        myAssignmentsOverdue := some overdue
        myAssignmentsFinished := some finished
        myAssignmentsFinishedLate := some late
        expiringAssignments := expiring })

variable {o o' : Occasion} {office office' : Office} {actor : Actor} {r : Request.Summary}

/-- What an outsider is answered, in terms of the window and the executor's view. -/
theorem summary_eq_of_outsider (o : Occasion) (office : Office) (r : Request.Summary)
    (ha : actor.holds .admin = false) (hk : actor.holds .clerk = false) :
    office.summary o (some actor) r = (Intake.window r o.today).bind fun _ =>
      Store.during "dashboard.executor" (executorSummary o actor.id office.store) := by
  have hmay : Policy.authorize (some actor) .viewDashboard = .ok actor :=
    Policy.authorize_eq_ok.2 ⟨rfl, rfl⟩
  simp only [summary, hmay, Policy.dashboardRole_of_outsider ha hk, summaryFor, bind, Except.bind]

/-- The executor's view, where its list can be read. -/
theorem executorSummary_eq {s : Store} {user : Identifier} {as : List Assignment}
    (has : s.expiring (some user) o.today (o.today.addDays o.settings.executorExpiringDays) =
      .ok as) :
    executorSummary o user s = .ok { DashboardStats.forRole .executor with
      myAssignmentsNew := some (s.countInvolving user .new)
      myAssignmentsInProgress := some (s.countInvolving user .inProgress)
      myAssignmentsOverdue := some (s.countOverdueInvolving user o.today)
      myAssignmentsFinished := some (s.finishedInvolving user).1
      myAssignmentsFinishedLate := some (s.finishedInvolving user).2
      expiringAssignments := as } := by
  unfold executorSummary
  rw [has]
  rfl

/-- An outsider is answered with its own work. -/
theorem isOwnSummary_of_outsider (hs : office.store.Orderly) (o : Occasion) (r : Request.Summary)
    (ha : actor.holds .admin = false) (hk : actor.holds .clerk = false) :
    IsOwnSummary r o.today actor.id (office.summary o (some actor) r) := by
  rw [summary_eq_of_outsider o office r ha hk]
  cases hw : Intake.window r o.today with
  | error e =>
    obtain ⟨message, rfl⟩ := Intake.window_refused hw
    exact .refused hw
  | ok w =>
    obtain ⟨rows, as, has, hwork, hread, -⟩ := hs.exists_ownExpiring actor.id o.today
      (o.today.addDays o.settings.executorExpiringDays)
    rw [Except.bind, executorSummary_eq has]
    exact .shown hw fun a hmem => ((hwork.mem_read_iff hs hread a).1 hmem).2.1

/-- The numbers of the executor's view are the same where the same work involves the user. -/
theorem sameSummary_executor {s s' : Store} {user : Identifier} (hs : s.Orderly)
    (hs' : s'.Orderly) (h : Store.SharesWork user s s') (hday : o'.today = o.today)
    (hsettings : o'.settings = o.settings) :
    SameSummary (Store.during "dashboard.executor" (executorSummary o user s))
      (Store.during "dashboard.executor" (executorSummary o' user s')) := by
  obtain ⟨as, as', has, has', hties⟩ := h.sameUpToTies hs hs' o.today
    (o.today.addDays o.settings.executorExpiringDays)
  have counts := h.countP_eq hs hs'
  have hstatus : ∀ status, s'.countInvolving user status = s.countInvolving user status :=
    fun status => (counts fun row => row.status = status.name).symm
  have hoverdue : s'.countOverdueInvolving user o.today = s.countOverdueInvolving user o.today :=
    (counts fun row => row.isOverdue o.today).symm
  have hlate : (s'.finishedInvolving user).2 = (s.finishedInvolving user).2 := by
    simp only [Store.finishedInvolving, Bool.and_assoc]
    exact (counts fun row =>
      row.status = Status.finished.name && row.endsLate row.completedAt).symm
  have hfinished : (s'.finishedInvolving user).1 = (s.finishedInvolving user).1 :=
    hstatus .finished
  rw [← hday, ← hsettings] at has'
  rw [executorSummary_eq has, executorSummary_eq has', hday, hstatus, hstatus, hoverdue, hlate,
    hfinished]
  exact ⟨rfl, hties⟩

/-- **The dashboard shows an outsider nothing but its own work.** In two states that come about by
any calls, and in which the same assignments involve an actor that is neither administrator nor
clerk, the same request on the same day and under the same settings is answered the same, whatever
it spells. The answer is the failure of a window that does not read, or the actor's own numbers. -/
theorem outsider_sees_own_work (run run' : List (Occasion × Call)) (o o' : Occasion)
    (hday : o'.today = o.today) (hsettings : o'.settings = o.settings) (actor : Actor)
    (ha : actor.holds .admin = false) (hk : actor.holds .clerk = false)
    (h : Store.SharesWork actor.id (opened.after run).store (opened.after run').store)
    (r : Request.Summary) :
    SameSummary ((opened.after run).summary o (some actor) r)
        ((opened.after run').summary o' (some actor) r) ∧
      IsOwnSummary r o.today actor.id ((opened.after run).summary o (some actor) r) := by
  have hs := orderly_after run
  have hs' := orderly_after run'
  refine ⟨?_, isOwnSummary_of_outsider hs o r ha hk⟩
  rw [summary_eq_of_outsider o _ r ha hk, summary_eq_of_outsider o' _ r ha hk, hday]
  cases Intake.window r o.today with
  | error e => exact rfl
  | ok w => exact sameSummary_executor hs hs' h hday hsettings

/-- The work of `dueRun`, followed by work that does not concern its executor. -/
def busierRun : List (Occasion × Call) :=
  dueRun ++
    [(minute 4, .addUser ⟨"clara", "Clara", boris.roles⟩),
     (minute 5, .createAssignment (some anna)
       ⟨"00000000000000000000000000000002", "incoming", "00000000000000000000000000000004",
        "Paint it", some "2026-01-20", []⟩)]

theorem outsider_sees_own_work_of_busierRun :
    boris.holds .admin = false ∧ boris.holds .clerk = false ∧
      Store.SharesWork boris.id (opened.after dueRun).store (opened.after busierRun).store ∧
      (opened.after dueRun).store.assignments.length <
        (opened.after busierRun).store.assignments.length ∧
      SameSummary ((opened.after dueRun).summary (minute 9) (some boris) ownSummary)
        ((opened.after busierRun).summary (minute 9) (some boris) ownSummary) := by
  have hs := orderly_stage dueRun dueRun.length
  have hs' := orderly_stage busierRun busierRun.length
  rw [stage_length] at hs hs'
  have hshares : Store.SharesWork boris.id (opened.after dueRun).store
      (opened.after busierRun).store :=
    Store.sharesWork_of_loadAssignments_eq hs hs' (by decide +kernel)
  exact ⟨rfl, rfl, hshares, by decide +kernel,
    (outsider_sees_own_work dueRun busierRun (minute 9) (minute 9) rfl rfl boris rfl rfl hshares
      ownSummary).1⟩

end Office

end Chancery
