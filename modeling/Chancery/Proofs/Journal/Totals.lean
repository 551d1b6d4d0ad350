import Chancery.Proofs.Journal.Lateness
import Chancery.Proofs.Store.Directory

/-!
# Numbers of the dashboard and totals of the journal

The numbers of a dashboard are counted in the tables; the total of a listing is counted among rows
that have passed the filters of a query. Nothing is shared between the two but the tables. This
module says that for the listings one would compare them with they are the same numbers.

It is enough to compare the two conditions on one row. The total of a listing without search text
is a count too (`Orderly.listAssignments_total`), and each number of the dashboard is the count of
the rows that pass a particular query. The one condition that a query adds, hiding finished work,
is void for the queries in question: work that is new, in progress or overdue is not finished.

Directories have no query. There the number is compared with what can be looked up, one by one.

## Main definitions

* `Office.ListsTotal` — what every listing of a query counts
* `Office.CountsOwnWork`, `Office.CountsWindow`, `Office.CountsDirectory`

## Main results

* `Office.dashboard_counts_listings`
-/

namespace Chancery

/-- The query that asks for everything but finished work. -/
def JournalQuery.plain : JournalQuery := ⟨none, none, none, none, none, none, false, false, 1, 1⟩

/-- The query that asks for the work of a user. -/
def JournalQuery.ownWork (user : Identifier) : JournalQuery :=
  { JournalQuery.plain with executorId := some user }

/-- In its own words the query for a user's work is a request. -/
theorem Intake.query_ownWork (settings : WorkflowSettings) (user : Identifier)
    (status : Option Status) (overdueOnly showFinished : Bool) (page pageSize : Option Int) :
    query settings ⟨none, none, some user.text, status.map Status.name, none, none, overdueOnly,
        showFinished, page, pageSize⟩ =
      .ok { JournalQuery.ownWork user with
        status, overdueOnly, showFinished
        page := (settings.normalizePaging page pageSize).1
        pageSize := (settings.normalizePaging page pageSize).2 } := by
  have huser : Text.nonBlank? (some user.text) = some user.text := by
    have htrim : Text.trim user.text = user.text := by
      rw [Text.trim, Identifier.toList_text, Identifier.trimChars_chars, Identifier.text]
    have hne : user.text ≠ "" := by
      intro hempty
      have hlength := congrArg (fun t : String => t.toList.length) hempty
      simp only [Identifier.toList_text, Identifier.length_chars] at hlength
      cases hlength
    simp [Text.nonBlank?, htrim, hne]
  have hexecutor : optionally (identifier "executor") (some user.text) = .ok (some user) := by
    have hread : identifier "executor" user.text = .ok user :=
      identifier_eq_ok.2 (Identifier.parse?_text user)
    simp only [optionally, huser, hread]
    rfl
  have hstatus : optionally Intake.status (status.map Status.name) = .ok status := by
    cases status with
    | none => rfl
    | some st => cases st <;> decide
  exact query_eq_ok.2 ⟨none, rfl, some user, hexecutor, status, hstatus, none, rfl, none, rfl, rfl⟩

namespace Store

variable {s : Store} {q : JournalQuery} {today : Date} {user : Identifier}

/-! ### Totals are counts -/

/-- **A listing without search text is always answered**, and its total is the number of rows that
pass the filters. -/
theorem Orderly.listAssignments_total (hs : s.Orderly) (hsearch : q.search = none)
    (today : Date) :
    ∃ answer, s.listAssignments q today = .ok answer ∧
      answer.totalCount = s.assignments.countP (s.passesFilters q today) := by
  have hpattern : queryPattern? q = none := by rw [queryPattern?, hsearch]; rfl
  obtain ⟨L, hL⟩ := hs.exists_journal q today
  have hmatch : s.matchingAssignments q today =
      .ok (s.assignments.filter (s.meets q today)) :=
    matchingAssignments_eq_ok.2 ⟨fun pattern hp => absurd hp (by simp [hpattern]), rfl⟩
  have hmeets : s.meets q today = s.passesFilters q today := by
    funext row
    simp [meets, passesSearch, hpattern]
  refine ⟨_, hs.listAssignments_eq hmatch hL, ?_⟩
  rw [← hL.length_eq, journalRows, (sortByKeyDesc_perm _ _).length_eq, hmeets,
    List.countP_eq_length_filter]

/-! ### Counts are totals -/

/-- Overdue work is not finished. -/
theorem status_ne_finished_of_isOverdue {row : AssignmentRow} (h : row.isOverdue today = true) :
    row.status ≠ Status.finished.name := by
  intro hfinished
  rw [AssignmentRow.isOverdue, hfinished] at h
  have hne : Status.finished.name ≠ Status.new.name ∧
      Status.finished.name ≠ Status.inProgress.name ∧
      Status.finished.name ≠ Status.completed.name := by decide
  simp [hne] at h

/-- A number of a user's own work by status is the number of rows that pass the query for it. -/
theorem countInvolving_eq_countP {status : Status} (showFinished : Bool)
    (hshown : status = .finished → showFinished = true) :
    s.countInvolving user status = s.assignments.countP (s.passesFilters
      { JournalQuery.ownWork user with status := some status, showFinished } today) := by
  refine List.countP_congr fun row _ => ?_
  have hvisible : row.status = status.name →
      (showFinished = true ∨ row.status ≠ Status.finished.name) := by
    rintro hstatus
    by_cases hf : status = .finished
    · exact .inl (hshown hf)
    · exact .inr fun h => hf (Status.name_injective (hstatus.symm.trans h))
  simp only [passesFilters, JournalQuery.ownWork, JournalQuery.plain, Option.all_none,
    Option.all_some, Bool.true_and, Bool.and_true, Bool.not_false, Bool.true_or, Bool.and_eq_true,
    Bool.or_eq_true, decide_eq_true_eq]
  exact ⟨fun h => ⟨h, hvisible h.2⟩, fun h => h.1⟩

/-- The number of a user's overdue work is the number of rows that pass the query for it. -/
theorem countOverdueInvolving_eq_countP (showFinished : Bool) :
    s.countOverdueInvolving user today = s.assignments.countP (s.passesFilters
      { JournalQuery.ownWork user with overdueOnly := true, showFinished } today) := by
  refine List.countP_congr fun row _ => ?_
  simp only [passesFilters, JournalQuery.ownWork, JournalQuery.plain, Option.all_none,
    Option.all_some, Bool.true_and, Bool.and_true, Bool.not_true, Bool.false_or, Bool.and_eq_true,
    Bool.or_eq_true, decide_eq_true_eq]
  exact ⟨fun h => ⟨⟨h.1, .inr (status_ne_finished_of_isOverdue h.2)⟩, h.2⟩,
    fun h => ⟨h.1.1, h.2⟩⟩

/-- The number of overdue work within two dates is the number of rows that pass the query for
it. -/
theorem countOverdueWithin_eq_countP (start finish : Date) (showFinished : Bool) :
    s.countOverdueWithin start finish today = s.assignments.countP (s.passesFilters
      { JournalQuery.plain with
          deadlineFrom := some start, deadlineTo := some finish, overdueOnly := true,
          showFinished } today) := by
  refine List.countP_congr fun row _ => ?_
  have hwithin : row.deadlineWithin start finish =
      ((row.deadline.any fun d => start.text ≤ d.text) &&
        row.deadline.any fun d => d.text ≤ finish.text) := by
    unfold AssignmentRow.deadlineWithin
    cases row.deadline <;> simp
  simp only [passesFilters, JournalQuery.plain, Option.all_none, Option.all_some, Bool.true_and,
    Bool.not_true, Bool.false_or, hwithin, Bool.and_eq_true, Bool.or_eq_true, decide_eq_true_eq]
  exact ⟨fun h => ⟨⟨⟨.inr (status_ne_finished_of_isOverdue h.2), h.1.1⟩, h.1.2⟩, h.2⟩,
    fun h => ⟨⟨h.1.1.2, h.1.2⟩, h.2⟩⟩

end Store

namespace Office

variable {office : Office} {o : Occasion}

/-! ### What listings count -/

/-- Whether every listing of a query counts a number of assignments on a day: whoever asks for it,
in whatever words and for whichever page. -/
def ListsTotal (office : Office) (day : Date) (q : JournalQuery) (n : Int) : Prop :=
  ∀ (o : Occasion) (viewer : Actor) (r : Request.ListAssignments) (page pageSize : Int),
    o.today = day → Intake.query o.settings r = .ok { q with page, pageSize } →
    ∃ answer, office.listAssignments o (some viewer) r = .ok answer ∧ answer.totalCount = n

theorem listsTotal_countP (hs : office.store.Orderly) {q : JournalQuery}
    (hsearch : q.search = none) (day : Date) :
    office.ListsTotal day q (office.store.assignments.countP
      (office.store.passesFilters q day)) := by
  intro o viewer r page pageSize hday hq
  obtain ⟨answer, hanswer, htotal⟩ :=
    hs.listAssignments_total (q := { q with page, pageSize }) hsearch o.today
  refine ⟨answer, listAssignments_eq_ok.2 ⟨rfl, _, hq, hanswer⟩, ?_⟩
  rw [htotal, hday]
  rfl

/-! ### The three summaries -/

/-- Whether the numbers of an executor's summary are the totals of the listings of a user's
work. -/
structure CountsOwnWork (office : Office) (day : Date) (user : Identifier)
    (stats : DashboardStats) : Prop where
  new : ∃ n, stats.myAssignmentsNew = some n ∧ ∀ showFinished,
    office.ListsTotal day { JournalQuery.ownWork user with status := some .new, showFinished } n
  inProgress : ∃ n, stats.myAssignmentsInProgress = some n ∧ ∀ showFinished,
    office.ListsTotal day
      { JournalQuery.ownWork user with status := some .inProgress, showFinished } n
  overdue : ∃ n, stats.myAssignmentsOverdue = some n ∧ ∀ showFinished,
    office.ListsTotal day { JournalQuery.ownWork user with overdueOnly := true, showFinished } n
  finished : ∃ n, stats.myAssignmentsFinished = some n ∧
    office.ListsTotal day
      { JournalQuery.ownWork user with status := some .finished, showFinished := true } n

/-- Whether the overdue number of a clerk's summary is the total of the listing of what is overdue
with a deadline in the window. -/
def CountsWindow (office : Office) (day : Date) (w : Window) (stats : DashboardStats) : Prop :=
  ∃ n, stats.allAssignmentsOverdue = some n ∧ ∀ showFinished,
    office.ListsTotal day
      { JournalQuery.plain with
          deadlineFrom := some w.startDate, deadlineTo := some w.endDate, overdueOnly := true,
          showFinished } n

/-- Whether the numbers of an administrator's summary are those of the users and of the documents
that can be looked up. -/
structure CountsDirectory (office : Office) (stats : DashboardStats) : Prop where
  users : ∃ us : List User, Store.Holds office.store.user? User.id us ∧
    stats.userCount = some us.length
  documents : ∃ ds : List Document, Store.Holds office.store.document? Document.ref ds ∧
    stats.totalDocuments = some ds.length

theorem countsOwnWork (hs : office.store.Orderly) {user : Identifier} {stats : DashboardStats}
    (hstats : executorSummary o user office.store = .ok stats) :
    office.CountsOwnWork o.today user stats := by
  obtain ⟨expiring, -, h⟩ := bind_eq_ok.1 hstats
  obtain rfl := Except.ok.inj h
  exact {
    new := ⟨_, rfl, fun showFinished => by
      rw [Store.countInvolving_eq_countP showFinished (by simp)]
      exact listsTotal_countP hs rfl _⟩
    inProgress := ⟨_, rfl, fun showFinished => by
      rw [Store.countInvolving_eq_countP showFinished (by simp)]
      exact listsTotal_countP hs rfl _⟩
    overdue := ⟨_, rfl, fun showFinished => by
      rw [Store.countOverdueInvolving_eq_countP showFinished]
      exact listsTotal_countP hs rfl _⟩
    finished := ⟨_, rfl, by
      show office.ListsTotal _ _ (office.store.countInvolving user .finished : Nat)
      rw [Store.countInvolving_eq_countP true (fun _ => rfl)]
      exact listsTotal_countP hs rfl _⟩ }

theorem countsWindow (hs : office.store.Orderly) {w : Window} {stats : DashboardStats}
    (hstats : clerkSummary o w office.store = .ok stats) :
    office.CountsWindow o.today w stats := by
  obtain ⟨expiring, -, h⟩ := bind_eq_ok.1 hstats
  obtain rfl := Except.ok.inj h
  refine ⟨_, rfl, fun showFinished => ?_⟩
  rw [Store.countOverdueWithin_eq_countP _ _ showFinished]
  exact listsTotal_countP hs rfl _

theorem countsDirectory (hs : office.store.Orderly) (o : Occasion) :
    office.CountsDirectory (adminSummary o office.store) where
  users := by
    obtain ⟨us, hlength, hus⟩ := hs.exists_users
    exact ⟨us, hus, by rw [hlength]; rfl⟩
  documents := by
    obtain ⟨ds, hlength, hds⟩ := hs.exists_documents
    exact ⟨ds, hds, by rw [hlength]; rfl⟩

/-- Every summary of an orderly office is answered. -/
theorem exists_summaryFor (hs : office.store.Orderly) (o : Occasion) (role : Role)
    (user : Identifier) (w : Window) :
    ∃ stats, summaryFor o role user w office.store = .ok stats := by
  cases role with
  | executor =>
    obtain ⟨expiring, hexpiring, -⟩ := hs.exists_expiring (some user) o.today
      (o.today.addDays o.settings.executorExpiringDays)
    exact ⟨_, Store.during_eq_ok.2 (bind_eq_ok.2 ⟨expiring, hexpiring, rfl⟩)⟩
  | clerk =>
    obtain ⟨expiring, hexpiring, -⟩ := hs.exists_expiring none o.today
      (o.today.addDays o.settings.clerkExpiringDays)
    exact ⟨_, Store.during_eq_ok.2 (bind_eq_ok.2 ⟨expiring, hexpiring, rfl⟩)⟩
  | admin => exact ⟨_, rfl⟩

/-- **The numbers of a dashboard are the totals of listings.** Whoever asks for a summary with a
window that reads is answered, in every state that comes about by calls. For an executor the
numbers are the totals of the listings of its own work, for a clerk of the overdue work in the
window, on the same day; for an administrator they are the numbers of users and documents. -/
theorem dashboard_counts_listings (run : List (Occasion × Call)) (o : Occasion) (viewer : Actor)
    (rs : Request.Summary) (w : Window) (hw : Intake.window rs o.today = .ok w) :
    ∃ stats, (opened.after run).summary o (some viewer) rs = .ok stats ∧
      match Policy.dashboardRole viewer ((Text.nonBlank? rs.role).bind Role.ofName?) with
      | .executor => (opened.after run).CountsOwnWork o.today viewer.id stats
      | .clerk => (opened.after run).CountsWindow o.today w stats
      | .admin => (opened.after run).CountsDirectory stats := by
  have hs := orderly_after run
  generalize opened.after run = office at *
  generalize hrole : Policy.dashboardRole viewer ((Text.nonBlank? rs.role).bind Role.ofName?) = role
  obtain ⟨stats, hstats⟩ := exists_summaryFor hs o role viewer.id w
  refine ⟨stats, ?_, ?_⟩
  · subst hrole
    exact bind_eq_ok.2 ⟨viewer, Policy.authorize_eq_ok.2 ⟨rfl, rfl⟩,
      bind_eq_ok.2 ⟨w, hw, hstats⟩⟩
  · cases role with
    | executor => exact countsOwnWork hs (Store.during_eq_ok.1 hstats)
    | clerk => exact countsWindow hs (Store.during_eq_ok.1 hstats)
    | admin =>
      obtain rfl := Except.ok.inj hstats
      exact countsDirectory hs o

/-- The executor of `dueRun` has one assignment on its summary, new and overdue at once, and
whoever lists its overdue work finds as many. -/
theorem dashboard_counts_listings_of_dueRun :
    ∃ w, Intake.window ownSummary (minute 9).today = .ok w ∧
      ∃ stats, (opened.after dueRun).summary (minute 9) (some boris) ownSummary = .ok stats ∧
        (opened.after dueRun).CountsOwnWork (minute 9).today boris.id stats ∧
        ∃ answer, (opened.after dueRun).listAssignments (minute 9) (some anna)
            ⟨none, none, some boris.id.text, none, none, none, true, false, none, none⟩ =
              .ok answer ∧
          stats.myAssignmentsOverdue = some answer.totalCount := by
  obtain ⟨w, hw⟩ : ∃ w, Intake.window ownSummary (minute 9).today = .ok w := ⟨_, rfl⟩
  obtain ⟨stats, hstats, hcounts⟩ :=
    dashboard_counts_listings dueRun (minute 9) boris ownSummary w hw
  have hcounts : (opened.after dueRun).CountsOwnWork (minute 9).today boris.id stats := hcounts
  obtain ⟨n, hn, hlists⟩ := hcounts.overdue
  obtain ⟨answer, hanswer, htotal⟩ := hlists false (minute 9) anna _ _ _ rfl
    (Intake.query_ownWork (minute 9).settings boris.id none true false none none)
  exact ⟨w, hw, stats, hstats, hcounts, answer, hanswer, by rw [hn, htotal]⟩

end Office

end Chancery
