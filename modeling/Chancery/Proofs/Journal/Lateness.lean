import Chancery.Office.Summary
import Chancery.Proofs.Journal.Faithful

/-!
# Lateness in the store and in the domain

The rule of lateness exists twice: on dates, as `Assignment.isOverdue` and
`Assignment.isFinishedLate`, and on texts, in the queries of the journal and the dashboard. This
module says how far the two agree, once for one row and then for everything that is computed from
rows: the pages of a request for overdue work and the numbers of a dashboard.

They part at one point. A deadline after the year 9999 has a text that comes before the texts of
all ordinary dates, so the store takes it for past. Every assignment with such a deadline on which
work is owed counts as overdue, and every one with a recorded completion as completed late, although
its deadline lies ahead by thousands of years. With that exception, spelled out as
`Assignment.isTakenForOverdue` and `Assignment.isTakenForLate`, the two are the same. A deadline
before the year 0 is not affected: its text comes first as well, and rightly so.

The clock is supposed to show years of four digits and no leap second, since the store knows the
calendar date of other instants under another text or not at all.

## Main definitions

* `Assignment.isTakenForOverdue`, `Assignment.isTakenForLate` — where the store errs
* `Store.expiringRows` — the rows of the list of expiring work

## Main results

* `Store.Yields.isOverdue_eq`, `Store.Yields.isFinishedLate_eq` — one row
* `Office.lateness_of_queries` — the journal and the dashboard
-/

namespace Chancery

namespace Assignment

/-- Whether the deadline lies after the year 9999. -/
def hasDistantDeadline (a : Assignment) : Bool := a.deadline.any fun d => 9999 < d.year

/-- Whether queries take the assignment for overdue, which it is not: its deadline is distant, and
work is owed or a completion is recorded. -/
def isTakenForOverdue (a : Assignment) : Bool :=
  a.hasDistantDeadline && (a.status.isActive || (a.status = .completed && a.completedAt.isSome))

/-- Whether queries take the assignment for finished late, which it is not. -/
def isTakenForLate (a : Assignment) : Bool :=
  a.hasDistantDeadline && (a.status = .finished && a.completedAt.isSome)

variable {a : Assignment} {today : Date}

/-- A distant deadline is not past. -/
theorem isOverdue_of_isTakenForOverdue (htoday : today.HasFourDigitYear)
    (hcompleted : ∀ t, a.completedAt = some t → t.date.HasFourDigitYear)
    (h : a.isTakenForOverdue = true) : a.isOverdue today = false := by
  rw [isTakenForOverdue, Bool.and_eq_true, hasDistantDeadline, Option.any_eq_true] at h
  obtain ⟨⟨d, hd, hdistant⟩, -⟩ := h
  have hdistant : 9999 < d.year := of_decide_eq_true hdistant
  have ahead : ∀ t : Date, t.HasFourDigitYear → ¬ d < t := by
    intro t ht
    unfold Date.HasFourDigitYear at ht
    rw [Date.lt_def]
    omega
  unfold isOverdue
  simp only [hd]
  cases a.status <;> simp only [decide_eq_false (ahead today htoday)]
  cases hc : a.completedAt with
  | none => rfl
  | some t => exact decide_eq_false (ahead _ (hcompleted t hc))

theorem isFinishedLate_of_isTakenForLate
    (hcompleted : ∀ t, a.completedAt = some t → t.date.HasFourDigitYear)
    (h : a.isTakenForLate = true) : a.isFinishedLate = false := by
  simp only [isTakenForLate, hasDistantDeadline, Bool.and_eq_true, Option.any_eq_true,
    decide_eq_true_eq, Option.isSome_iff_exists] at h
  obtain ⟨⟨d, hd, hdistant⟩, hstatus, t, ht⟩ := h
  have hyear := hcompleted t ht
  have hahead : ¬ d < t.date := by
    unfold Date.HasFourDigitYear at hyear
    rw [Date.lt_def]
    omega
  simp only [isFinishedLate, hstatus, hd, ht, decide_eq_false hahead]

end Assignment

/-! ### One row -/

/-- An ordinary moment has its calendar date. -/
theorem Instant.calendarText?_eq {t : Instant} (hyear : t.date.HasFourDigitYear)
    (hnano : t.nano < 1000000000) : t.calendarText? = some t.date.text := by
  unfold Date.HasFourDigitYear at hyear
  rw [calendarText?, if_pos ⟨by omega, hyear.2, hnano⟩]

/-- Whether a moment is an ordinary one: a year of four digits, and no leap second. -/
def Instant.IsOrdinary (t : Instant) : Prop := t.date.HasFourDigitYear ∧ t.nano < 1000000000

instance (t : Instant) : Decidable t.IsOrdinary := by
  unfold Instant.IsOrdinary
  infer_instance

theorem Instant.IsOrdinary.truncated {t : Instant} (h : t.IsOrdinary) : t.truncated.IsOrdinary :=
  ⟨h.1, Nat.lt_of_le_of_lt (Nat.sub_le _ _) h.2⟩

/-- The comparison of a row's completion with its deadline. -/
theorem AssignmentRow.endsLate_eq {row : AssignmentRow}
    (hcompleted : ∀ t, row.completedAt = some t → t.IsOrdinary) :
    row.endsLate row.completedAt = row.deadline.any fun d =>
      row.completedAt.any fun t => d < t.date || 9999 < d.year := by
  unfold endsLate
  cases ht : row.completedAt with
  | none => cases row.deadline <;> rfl
  | some t =>
    obtain ⟨hyear, hnano⟩ := hcompleted t ht
    cases row.deadline with
    | none => simp
    | some d =>
      rw [Option.bind_some, Instant.calendarText?_eq hyear hnano, Bool.eq_iff_iff]
      simp [Date.text_lt_text_iff hyear]

namespace Store

variable {s : Store} {row : AssignmentRow} {a : Assignment} {today : Date}

/-- **What a row says of lateness**: what the assignment says, or a deadline that is taken for
past. -/
theorem Yields.isOverdue_eq (h : s.Yields row a) (hs : s.Constrained)
    (htoday : today.HasFourDigitYear)
    (hcompleted : ∀ t, row.completedAt = some t → t.IsOrdinary) :
    row.isOverdue today = (a.isOverdue today || a.isTakenForOverdue) := by
  have hreads := h.reads hs
  have hdeadline : ∀ d : Date, decide (d.text < today.text) =
      (decide (d < today) || decide (9999 < d.year)) := by
    intro d
    rw [Bool.eq_iff_iff]
    simp [Date.text_lt_text_iff htoday]
  unfold AssignmentRow.isOverdue Assignment.isOverdue Assignment.isTakenForOverdue
    Assignment.hasDistantDeadline
  rw [AssignmentRow.endsLate_eq hcompleted, hreads.deadline, hreads.completedAt]
  simp only [h.status_iff hs, hdeadline]
  cases row.deadline with
  | none => simp
  | some d => cases row.completedAt <;> cases a.status <;> simp [Status.isActive]

theorem Yields.isFinishedLate_eq (h : s.Yields row a) (hs : s.Constrained)
    (hcompleted : ∀ t, row.completedAt = some t → t.IsOrdinary) :
    (decide (row.status = Status.finished.name) && row.endsLate row.completedAt) =
      (a.isFinishedLate || a.isTakenForLate) := by
  have hreads := h.reads hs
  unfold Assignment.isFinishedLate Assignment.isTakenForLate Assignment.hasDistantDeadline
  rw [AssignmentRow.endsLate_eq hcompleted, hreads.deadline, hreads.completedAt]
  simp only [h.status_iff hs]
  cases row.deadline with
  | none => cases a.status <;> simp
  | some d => cases row.completedAt <;> cases a.status <;> simp

/-! ### The journal -/

variable {q : JournalQuery}

/-- The request for overdue work only picks the overdue rows out of all others it asks for. -/
theorem passesFilters_overdueOnly (s : Store) (q : JournalQuery) (today : Date)
    (row : AssignmentRow) :
    s.passesFilters { q with overdueOnly := true } today row =
      (s.passesFilters { q with overdueOnly := false } today row && row.isOverdue today) := by
  simp [passesFilters]

theorem journalRows_overdueOnly (hs : s.Constrained) (q : JournalQuery) (today : Date) :
    s.journalRows { q with overdueOnly := true } today =
      (s.journalRows { q with overdueOnly := false } today).filter fun row =>
        row.isOverdue today := by
  unfold journalRows
  rw [filter_sortByKeyDesc]
  · rw [List.filter_filter]
    refine congrArg _ (List.filter_congr fun row _ => ?_)
    rw [meets, meets, passesFilters_overdueOnly, Bool.and_right_comm, Bool.and_comm]
    rfl
  · intro a ha b hb
    exact hs.row_eq_of_journalKey_eq (List.mem_of_mem_filter ha) (List.mem_of_mem_filter hb)

theorem exists_matching_overdueOnly {rows : List AssignmentRow}
    (h : s.matchingAssignments { q with overdueOnly := false } today = .ok rows) :
    ∃ rows, s.matchingAssignments { q with overdueOnly := true } today = .ok rows := by
  refine ⟨_, matchingAssignments_eq_ok.2 ⟨fun pattern hp hrow => ?_, rfl⟩⟩
  obtain ⟨row, hmem, hpasses⟩ := hrow
  rw [passesFilters_overdueOnly, Bool.and_eq_true] at hpasses
  exact (matchingAssignments_eq_ok.1 h).1 pattern hp ⟨row, hmem, hpasses.1⟩

/-- What is answered has been matched. -/
theorem exists_matching_of_listAssignments {answer : Page Assignment}
    (h : s.listAssignments q today = .ok answer) :
    ∃ rows, s.matchingAssignments q today = .ok rows := by
  unfold listAssignments at h
  split at h
  · rename_i hempty
    refine ⟨_, matchingAssignments_eq_ok.2 ⟨fun pattern _ hrow => ?_, rfl⟩⟩
    obtain ⟨row, -, hpasses⟩ := hrow
    rw [passesFilters_of_isTriviallyEmpty hempty] at hpasses
    exact Bool.noConfusion hpasses
  · obtain ⟨rows, hrows, -⟩ := bind_eq_ok.1 h
    exact ⟨rows, hrows⟩

/-- **The journal of overdue work** is the journal without that restriction, with what is overdue
or taken for it picked out. -/
theorem Orderly.journal_overdueOnly (hs : s.Orderly) (htoday : today.HasFourDigitYear)
    (hcompleted : ∀ row ∈ s.assignments, ∀ t, row.completedAt = some t → t.IsOrdinary)
    {L : List Assignment}
    (hL : List.Forall₂ s.Yields (s.journalRows { q with overdueOnly := false } today) L) :
    List.Forall₂ s.Yields (s.journalRows { q with overdueOnly := true } today)
      (L.filter fun a => a.isOverdue today || a.isTakenForOverdue) := by
  rw [journalRows_overdueOnly hs.toConstrained]
  refine List.rel_filter (R := s.Yields) ?_ hL
  intro row a hrow
  have hsame := hrow.isOverdue_eq hs.toConstrained htoday (hcompleted row hrow.stored)
  show row.isOverdue today = true ↔ _
  rw [hsame]

/-! ### Counts -/

/-- Counting related members by tests that mean the same gives the same. -/
theorem countP_eq_of_forall₂ {α β : Type} {R : α → β → Prop} {l : List α} {l' : List β}
    {p : α → Bool} {p' : β → Bool} (h : List.Forall₂ R l l')
    (hp : ∀ a b, R a b → p a = p' b) : l.countP p = l'.countP p' := by
  induction h with
  | nil => rfl
  | cons hab _ ih => rw [List.countP_cons, List.countP_cons, ih, hp _ _ hab]

/-- The overdue count of a user, in terms of the assignments on file. -/
theorem Orderly.countOverdueInvolving_eq (hs : s.Orderly) (htoday : today.HasFourDigitYear)
    (hcompleted : ∀ row ∈ s.assignments, ∀ t, row.completedAt = some t → t.IsOrdinary)
    {as : List Assignment} (has : List.Forall₂ s.Yields s.assignments as) (user : Identifier) :
    s.countOverdueInvolving user today =
      as.countP fun a => a.involves user && (a.isOverdue today || a.isTakenForOverdue) := by
  refine countP_eq_of_forall₂ has fun row a hrow => ?_
  rw [hrow.involves_eq hs, hrow.isOverdue_eq hs.toConstrained htoday (hcompleted row hrow.stored)]

/-- The finished-late count of a user, in terms of the assignments on file. -/
theorem Orderly.finishedInvolving_snd_eq (hs : s.Orderly)
    (hcompleted : ∀ row ∈ s.assignments, ∀ t, row.completedAt = some t → t.IsOrdinary)
    {as : List Assignment} (has : List.Forall₂ s.Yields s.assignments as) (user : Identifier) :
    (s.finishedInvolving user).2 =
      as.countP fun a => a.involves user && (a.isFinishedLate || a.isTakenForLate) := by
  refine countP_eq_of_forall₂ has fun row a hrow => ?_
  rw [hrow.involves_eq hs,
    ← hrow.isFinishedLate_eq hs.toConstrained (hcompleted row hrow.stored), Bool.and_assoc]

/-! ### The rows of expiring work -/

/-- The rows of the list of expiring work, in its order. -/
def expiringRows (s : Store) (user : Option Identifier) (start finish : Date) :
    List AssignmentRow :=
  sortByKey expiringKey (s.assignments.filter fun row =>
    isExpiring start finish row && user.all fun u => s.involves u row)

theorem mem_expiringRows {user : Option Identifier} {start finish : Date} {row : AssignmentRow} :
    row ∈ s.expiringRows user start finish ↔ row ∈ s.assignments ∧
      (isExpiring start finish row && user.all fun u => s.involves u row) = true := by
  rw [expiringRows, mem_sortByKey, List.mem_filter]

theorem Constrained.nodup_expiringRows (hs : s.Constrained) (user : Option Identifier)
    (start finish : Date) : (s.expiringRows user start finish).Nodup :=
  (sortByKey_perm _ _).nodup_iff.2 ((List.Nodup.of_map _ hs.assignmentIds).filter _)

theorem pairwise_expiringRows (s : Store) (user : Option Identifier) (start finish : Date) :
    (s.expiringRows user start finish).Pairwise fun row row' =>
      ¬ expiringKey row' < expiringKey row := pairwise_sortByKey expiringKey _

/-- The list of expiring work can always be read. -/
theorem Orderly.exists_expiring (hs : s.Orderly) (user : Option Identifier)
    (start finish : Date) : ∃ as, s.expiring user start finish = .ok as ∧
      List.Forall₂ s.Yields (s.expiringRows user start finish) as :=
  hs.exists_loadAssignments (fun _ hrow => (mem_expiringRows.1 hrow).1)
    (hs.nodup_expiringRows user start finish)

end Store

/-! ### What the office answers -/

theorem Intake.query_overdueOnly {settings : WorkflowSettings} {r : Request.ListAssignments}
    {q : JournalQuery} (h : query settings r = .ok q) (overdueOnly : Bool) :
    query settings { r with overdueOnly } = .ok { q with overdueOnly } := by
  obtain ⟨d, hd, e, he, st, hst, start, hstart, finish, hfinish, rfl⟩ := query_eq_ok.1 h
  exact query_eq_ok.2 ⟨d, hd, e, he, st, hst, start, hstart, finish, hfinish, rfl⟩

namespace Office

variable {office : Office} {o : Occasion} {actor : Option Actor} {r : Request.ListAssignments}
  {q : JournalQuery}

/-- Whoever could turn over all pages had a request that reads and a query that was matched. -/
theorem of_allPages {L : List Assignment} (hL : office.allPages o actor r = .ok L) :
    actor.isSome = true ∧ ∃ q, Intake.query o.settings r = .ok q ∧
      ∃ rows, office.store.matchingAssignments q o.today = .ok rows := by
  obtain ⟨first, hfirst, -⟩ := bind_eq_ok.1 hL
  obtain ⟨hactor, q, hq, hanswer⟩ := listAssignments_eq_ok.1 hfirst
  obtain ⟨rows, hrows⟩ := Store.exists_matching_of_listAssignments hanswer
  refine ⟨hactor, _, Intake.query_paging hq r.page r.pageSize, rows, ?_⟩
  rwa [Store.matchingAssignments_paging]

/-- **All pages of overdue work** are all pages of the same request without that restriction, with
what is overdue or taken for it picked out. -/
theorem allPages_overdueOnly (h : office.store.Orderly) (htoday : o.today.HasFourDigitYear)
    (hcompleted : ∀ row ∈ office.store.assignments, ∀ t, row.completedAt = some t → t.IsOrdinary)
    (hwords : ∀ q, Intake.query o.settings r = .ok q →
      isWord (office.store.assignments.length + q.pageSize - 1))
    {L : List Assignment}
    (hL : office.allPages o actor { r with overdueOnly := false } = .ok L) :
    (∀ a ∈ L, ∃ row, office.store.Yields row a) ∧
      office.allPages o actor { r with overdueOnly := true } =
        .ok (L.filter fun a => a.isOverdue o.today || a.isTakenForOverdue) := by
  obtain ⟨hactor, q, hq, rows, hrows⟩ := of_allPages hL
  have hword := hwords _ (Intake.query_overdueOnly hq r.overdueOnly)
  have hq' := Intake.query_overdueOnly hq true
  have hplain : q = { q with overdueOnly := false } := by
    obtain ⟨_, -, _, -, _, -, _, -, _, -, rfl⟩ := Intake.query_eq_ok.1 hq
    rfl
  rw [hplain] at hq hrows
  obtain ⟨rows', hrows'⟩ := Store.exists_matching_overdueOnly hrows
  rcases Int.lt_or_le 0 q.pageSize with hsize | hsize
  · obtain ⟨J, hJ⟩ := h.exists_journal { q with overdueOnly := false } o.today
    have hlength := Store.length_journal_le hJ
    have hpicked := List.length_filter_le
      (fun a => a.isOverdue o.today || a.isTakenForOverdue) J
    rw [isWord_iff] at hword
    simp only at hword
    have hall := allPages_eq h hactor hq hrows hJ hsize (isWord_iff.2 (by simp only; omega))
    rw [hL, Except.ok.injEq] at hall
    subst hall
    refine ⟨fun a ha => ?_, ?_⟩
    · obtain ⟨row, -, hrow⟩ := exists_left_of_mem hJ ha
      exact ⟨row, hrow⟩
    · exact allPages_eq h hactor hq' hrows' (h.journal_overdueOnly htoday hcompleted hJ) hsize
        (isWord_iff.2 (by simp only; omega))
  · have hnone := allPages_of_pageSize_nonpos h hactor hq hrows hsize
    rw [hL, Except.ok.injEq] at hnone
    subst hnone
    exact ⟨by simp, allPages_of_pageSize_nonpos h hactor hq' hrows' hsize⟩

/-- An executor is answered with the counts of the store. -/
theorem summary_of_executor (h : office.store.Orderly) {user : Actor} {rs : Request.Summary}
    {w : Window} (hw : Intake.window rs o.today = .ok w)
    (hrole : Policy.dashboardRole user ((Text.nonBlank? rs.role).bind Role.ofName?) = .executor) :
    ∃ stats, office.summary o (some user) rs = .ok stats ∧
      stats.myAssignmentsNew = some ↑(office.store.countInvolving user.id .new) ∧
      stats.myAssignmentsInProgress = some ↑(office.store.countInvolving user.id .inProgress) ∧
      stats.myAssignmentsOverdue = some ↑(office.store.countOverdueInvolving user.id o.today) ∧
      stats.myAssignmentsFinished = some ↑(office.store.finishedInvolving user.id).1 ∧
      stats.myAssignmentsFinishedLate = some ↑(office.store.finishedInvolving user.id).2 := by
  have hmay : Policy.authorize (some user) .viewDashboard = .ok user :=
    Policy.authorize_eq_ok.2 ⟨rfl, rfl⟩
  obtain ⟨expiring, hexpiring, -⟩ := h.exists_expiring (some user.id) o.today
    (o.today.addDays o.settings.executorExpiringDays)
  simp only [summary, hmay, hw, hrole, summaryFor, executorSummary, hexpiring, bind, Except.bind,
    pure, Except.pure, Store.during, Except.mapError]
  exact ⟨_, rfl, rfl, rfl, rfl, rfl, rfl⟩

/-! ### Where queries and domain agree -/

section Agreement

variable {α : Type} {l : List α} {p m : α → Bool}

/-- Picking more than is meant shows as soon as there is something more. -/
theorem filter_or_eq_iff (h : ∀ a ∈ l, m a = true → p a = false) :
    l.filter (fun a => p a || m a) = l.filter p ↔ ∀ a ∈ l, m a = false := by
  constructor
  · intro heq a ha
    by_contra hm
    rw [Bool.not_eq_false] at hm
    have hpicked : a ∈ l.filter p := by
      rw [← heq]
      exact List.mem_filter.2 ⟨ha, by simp [hm]⟩
    have hp := (List.mem_filter.1 hpicked).2
    rw [h a ha hm] at hp
    exact Bool.noConfusion hp
  · intro hnone
    refine List.filter_congr fun a ha => ?_
    rw [hnone a ha, Bool.or_false]

/-- Counting more than is meant shows as soon as there is something more. -/
theorem countP_or_eq_iff (h : ∀ a ∈ l, m a = true → p a = false) :
    l.countP (fun a => p a || m a) = l.countP p ↔ ∀ a ∈ l, m a = false := by
  rw [← filter_or_eq_iff h, List.countP_eq_length_filter, List.countP_eq_length_filter]
  have hsub : (l.filter p).Sublist (l.filter fun a => p a || m a) :=
    List.monotone_filter_right l fun a ha => by simp [ha]
  constructor
  · exact fun heq => (hsub.eq_of_length heq.symm).symm
  · exact fun heq => by rw [heq]

end Agreement

/-- Whether a list holds the assignments on file, each once. -/
structure IsFile (office : Office) (as : List Assignment) : Prop where
  once : (as.map Assignment.id).Nodup
  mem_iff : ∀ a, a ∈ as ↔ office.store.assignment? a.id = .ok (some a)

theorem isFile_of_yields (h : office.store.Orderly) {as : List Assignment}
    (has : List.Forall₂ office.store.Yields office.store.assignments as) : office.IsFile as where
  once := by
    have hids : as.map (fun a => a.id.text) = office.store.assignments.map AssignmentRow.id := by
      rw [← List.forall₂_eq_eq_eq, List.forall₂_map_left_iff, List.forall₂_map_right_iff]
      exact has.flip.imp fun _ _ hrow => hrow.id.symm
    have hnodup : (as.map (Identifier.text ∘ Assignment.id)).Nodup := hids ▸ h.assignmentIds
    rw [← List.map_map] at hnodup
    exact List.Nodup.of_map _ hnodup
  mem_iff a := by
    constructor
    · intro ha
      obtain ⟨row, -, hrow⟩ := exists_left_of_mem has ha
      exact hrow.found
    · intro ha
      obtain ⟨row, hrow⟩ := Store.exists_row_yields ha
      obtain ⟨b, hb, hrow'⟩ := exists_right_of_mem has hrow.stored
      rwa [hrow.unique hrow']

/-- **Where the queries for lateness agree with the domain.** A request for overdue work returns,
over all its pages, what the same request without that restriction returns and what is overdue or
taken for it; an executor's dashboard counts the same way. So they agree exactly where nothing that
they look at is taken for late. -/
theorem lateness_of_queries {run : List (Occasion × Call)}
    (hclock : ∀ call ∈ run, call.1.clock.IsOrdinary) (htoday : o.today.HasFourDigitYear) :
    (∀ actor r L, (∀ q, Intake.query o.settings r = .ok q →
        isWord ((opened.after run).store.assignments.length + q.pageSize - 1)) →
      (opened.after run).allPages o actor { r with overdueOnly := false } = .ok L →
      (opened.after run).allPages o actor { r with overdueOnly := true } =
          .ok (L.filter fun a => a.isOverdue o.today || a.isTakenForOverdue) ∧
        ((opened.after run).allPages o actor { r with overdueOnly := true } =
            .ok (L.filter fun a => a.isOverdue o.today) ↔
          ∀ a ∈ L, a.isTakenForOverdue = false)) ∧
    ∃ as, (opened.after run).IsFile as ∧ ∀ (user : Actor) (rs : Request.Summary) (w : Window),
      Intake.window rs o.today = .ok w →
      Policy.dashboardRole user ((Text.nonBlank? rs.role).bind Role.ofName?) = .executor →
      ∃ stats, (opened.after run).summary o (some user) rs = .ok stats ∧
        stats.myAssignmentsOverdue = some ↑(as.countP fun a =>
          a.involves user.id && (a.isOverdue o.today || a.isTakenForOverdue)) ∧
        stats.myAssignmentsFinishedLate = some ↑(as.countP fun a =>
          a.involves user.id && (a.isFinishedLate || a.isTakenForLate)) ∧
        (stats.myAssignmentsOverdue = some ↑(as.countP fun a =>
            a.involves user.id && a.isOverdue o.today) ↔
          ∀ a ∈ as, (a.involves user.id && a.isTakenForOverdue) = false) ∧
        (stats.myAssignmentsFinishedLate = some ↑(as.countP fun a =>
            a.involves user.id && a.isFinishedLate) ↔
          ∀ a ∈ as, (a.involves user.id && a.isTakenForLate) = false) := by
  have horderly := orderly_after run
  have htimes := fun row => @times_of_mem run run.length row
  rw [stage_length] at htimes
  generalize opened.after run = office at *
  have hrows : ∀ row ∈ office.store.assignments, ∀ t, row.completedAt = some t →
      t.IsOrdinary := by
    intro row hrow t ht
    obtain ⟨call, hcall, rfl⟩ := (htimes row hrow).2 t ht
    exact (hclock call hcall).truncated
  have hcompleted : ∀ row a, office.store.Yields row a →
      ∀ t, a.completedAt = some t → t.date.HasFourDigitYear := by
    intro row a hrow t ht
    rw [(hrow.reads horderly.toConstrained).completedAt] at ht
    exact (hrows row hrow.stored t ht).1
  refine ⟨fun actor r L hwords hL => ?_, ?_⟩
  · obtain ⟨hyields, hall⟩ := allPages_overdueOnly horderly htoday hrows hwords hL
    refine ⟨hall, ?_⟩
    rw [hall, Except.ok.injEq]
    apply filter_or_eq_iff
    intro a ha htaken
    obtain ⟨row, hrow⟩ := hyields a ha
    exact Assignment.isOverdue_of_isTakenForOverdue htoday (hcompleted row a hrow) htaken
  · obtain ⟨as, -, has⟩ := horderly.exists_loadAssignments (fun row hrow => hrow)
      (List.Nodup.of_map _ horderly.assignmentIds)
    refine ⟨as, isFile_of_yields horderly has, fun user rs w hw hrole => ?_⟩
    obtain ⟨stats, hstats, -, -, hoverdue, -, hlate⟩ := summary_of_executor horderly hw hrole
    rw [horderly.countOverdueInvolving_eq htoday hrows has] at hoverdue
    rw [horderly.finishedInvolving_snd_eq hrows has] at hlate
    refine ⟨stats, hstats, hoverdue, hlate, ?_, ?_⟩
    · rw [hoverdue, Option.some.injEq, Int.natCast_inj]
      simp only [Bool.and_or_distrib_left]
      apply countP_or_eq_iff
      intro a ha htaken
      obtain ⟨row, -, hrow⟩ := exists_left_of_mem has ha
      rw [Bool.and_eq_true] at htaken
      rw [Assignment.isOverdue_of_isTakenForOverdue htoday (hcompleted row a hrow) htaken.2,
        Bool.and_false]
    · rw [hlate, Option.some.injEq, Int.natCast_inj]
      simp only [Bool.and_or_distrib_left]
      apply countP_or_eq_iff
      intro a ha htaken
      obtain ⟨row, -, hrow⟩ := exists_left_of_mem has ha
      rw [Bool.and_eq_true] at htaken
      rw [Assignment.isFinishedLate_of_isTakenForLate (hcompleted row a hrow) htaken.2,
        Bool.and_false]

/-! ### A distant deadline -/

/-- Work that is due in ten thousand years. -/
def dueRun : List (Occasion × Call) :=
  finishingRun.take 3 ++
    [(minute 3, .createAssignment (some anna)
       ⟨"00000000000000000000000000000002", "incoming", "00000000000000000000000000000001",
        "Look at it again", some "+12026-01-15", []⟩)]

/-- The request for an executor's own dashboard. -/
def ownSummary : Request.Summary := ⟨none, none, none, none⟩

/-- The assignment with the distant deadline is listed and counted as overdue, which it is not. -/
theorem lateness_of_distant_deadline :
    ((opened.after dueRun).allPages (minute 9) (some anna)
        { plainListing with overdueOnly := true }).toOption.map (List.map Assignment.id) =
      some [.ofNat 3] ∧
    ((opened.after dueRun).allPages (minute 9) (some anna)
        { plainListing with overdueOnly := false }).toOption.map (fun as =>
          (as.filter fun a => a.isOverdue (minute 9).today).map Assignment.id) =
      some [] ∧
    ((opened.after dueRun).summary (minute 9) (some boris) ownSummary).toOption.bind
        DashboardStats.myAssignmentsOverdue = some 1 := by
  decide +kernel

theorem lateness_of_queries_of_dueRun :
    ((∀ call ∈ dueRun, call.1.clock.IsOrdinary) ∧ (minute 9).today.HasFourDigitYear) ∧
    ∃ L, (opened.after dueRun).allPages (minute 9) (some anna)
        { plainListing with overdueOnly := false } = .ok L ∧
      (opened.after dueRun).allPages (minute 9) (some anna)
          { plainListing with overdueOnly := true } =
        .ok (L.filter fun a => a.isOverdue (minute 9).today || a.isTakenForOverdue) := by
  have hclock : ∀ call ∈ dueRun, call.1.clock.IsOrdinary := by decide +kernel
  have htoday : (minute 9).today.HasFourDigitYear := by decide +kernel
  have hwords : ∀ q, Intake.query (minute 9).settings plainListing = .ok q →
      isWord ((opened.after dueRun).store.assignments.length + q.pageSize - 1) := by
    intro q hq
    have hplain : Intake.query (minute 9).settings plainListing =
        .ok ⟨none, none, none, none, none, none, false, false, 1, 20⟩ := rfl
    rw [hplain, Except.ok.injEq] at hq
    subst hq
    decide +kernel
  have hanswered : ((opened.after dueRun).allPages (minute 9) (some anna)
      { plainListing with overdueOnly := false }).toOption.isSome = true := by decide +kernel
  cases hL : (opened.after dueRun).allPages (minute 9) (some anna)
      { plainListing with overdueOnly := false } with
  | error e => rw [hL] at hanswered; exact Bool.noConfusion hanswered
  | ok L =>
    obtain ⟨hjournal, -⟩ := lateness_of_queries hclock htoday
    exact ⟨⟨hclock, htoday⟩, L, rfl, (hjournal _ _ L hwords hL).1⟩

end Office

end Chancery
