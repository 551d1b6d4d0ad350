import Chancery.Proofs.Calendar.Order
import Chancery.Proofs.Journal.Lateness
import Chancery.Proofs.Store.Directory

/-!
# The clerk's window

The clerk's numbers are counted between two instants, the midnight that a window begins with and
the last microsecond of its last day, and instants are compared as texts. This module says that it
comes to counting days. As long as the stored moments have years of four digits and are whole
microseconds, each of the five numbers is the number of records whose own day is one of the window's
(`WindowCounts.ofRecords`), where the day of finished work is that of its effective completion.

Days can be told apart at a cut, which instants between two bounds need not: what happens on the
last day of one window or the first of the next is counted in one of the two
(`Window.contains_split`). So the numbers of adjacent windows add up.

## Main definitions

* `Window.contains`, `Window.count` — counting records by their days
* `WindowCounts` — the numbers of a window
* `Store.HasOrdinaryTimes`

## Main results

* `Instant.IsWhole.within_window` — instants between the bounds of a window
* `Window.count_split` — windows tile
* `Office.window_counts_days`
-/

namespace Chancery

/-! ### Days -/

namespace Window

variable {α : Type} {s m e : Date}

/-- Whether a day is one of the window's. -/
def contains (w : Window) (d : Date) : Bool := w.startDate ≤ d && d ≤ w.endDate

/-- Whether the bounds of a window have years of four digits. -/
def HasFourDigitYears (w : Window) : Prop :=
  w.startDate.HasFourDigitYear ∧ w.endDate.HasFourDigitYear

instance (w : Window) : Decidable w.HasFourDigitYears := by
  unfold HasFourDigitYears
  infer_instance

/-- How many records of a list qualify and have their day in a window. -/
def count (w : Window) (day : α → Option Date) (p : α → Bool) (l : List α) : Nat :=
  l.countP fun a => p a && (day a).any w.contains

theorem contains_iff {w : Window} {d : Date} :
    w.contains d = true ↔ w.startDate ≤ d ∧ d ≤ w.endDate := by
  simp [contains]

/-- **A cut divides the days of a window.** -/
theorem contains_split (hsm : s ≤ m) (hme : m < e) (d : Date) :
    (⟨s, e⟩ : Window).contains d =
        ((⟨s, m⟩ : Window).contains d || (⟨m.next, e⟩ : Window).contains d) ∧
      ((⟨s, m⟩ : Window).contains d && (⟨m.next, e⟩ : Window).contains d) = false := by
  rw [Bool.eq_iff_iff, Bool.eq_false_iff, Bool.or_eq_true, Ne, Bool.and_eq_true, contains_iff,
    contains_iff, contains_iff]
  simp only [Date.next_le_iff]
  simp only [Date.le_def, Date.lt_def] at *
  omega

theorem countP_or_of_disjoint {p q : α → Bool} {l : List α}
    (h : ∀ a ∈ l, (p a && q a) = false) :
    (l.countP fun a => p a || q a) = l.countP p + l.countP q := by
  induction l with
  | nil => rfl
  | cons a l ih =>
    obtain ⟨ha, hl⟩ := List.forall_mem_cons.1 h
    rw [List.countP_cons, List.countP_cons, List.countP_cons, ih hl]
    cases hp : p a <;> cases hq : q a <;> simp [hp, hq] at ha ⊢ <;> omega

/-- **Adjacent windows tile**: what is counted in both together is counted in one of them. -/
theorem count_split (hsm : s ≤ m) (hme : m < e) (day : α → Option Date) (p : α → Bool)
    (l : List α) :
    (⟨s, e⟩ : Window).count day p l =
      (⟨s, m⟩ : Window).count day p l + (⟨m.next, e⟩ : Window).count day p l := by
  have hcut := contains_split hsm hme
  have hany : ∀ d? : Option Date, d?.any (⟨s, e⟩ : Window).contains =
      (d?.any (⟨s, m⟩ : Window).contains || d?.any (⟨m.next, e⟩ : Window).contains) := by
    intro d?
    cases d? with
    | none => rfl
    | some d => exact (hcut d).1
  simp only [count, hany, Bool.and_or_distrib_left]
  refine countP_or_of_disjoint fun a _ => ?_
  cases day a with
  | none => simp
  | some d =>
    have hone := (hcut d).2
    cases p a <;> simp [hone]

end Window

/-! ### Instants and deadlines between the bounds of a window -/

/-- Whether an instant is an ordinary one in whole microseconds. -/
def Instant.IsWhole (t : Instant) : Prop := t.IsOrdinary ∧ t.nano % 1000 = 0

instance (t : Instant) : Decidable t.IsWhole := by
  unfold Instant.IsWhole
  infer_instance

/-- **An instant lies between the bounds of a window if its day is one of the window's.** -/
theorem Instant.IsWhole.within_window {t : Instant} {w : Window} (ht : t.IsWhole)
    (hw : w.HasFourDigitYears) : t.within w.start w.finish = w.contains t.date := by
  obtain ⟨⟨hyear, hnano⟩, hwhole⟩ := ht
  have hfirst : ¬ t < w.start ↔ w.startDate ≤ t.date := midnight_le_iff
  have hlast : ¬ w.finish < t ↔ t.date ≤ w.endDate := le_endOfDay_iff hnano hwhole
  rw [Bool.eq_iff_iff, Window.contains_iff, ← hfirst, ← hlast, within, Bool.and_eq_true,
    decide_eq_true_eq, decide_eq_true_eq, ← String.not_lt, ← String.not_lt,
    text_lt_text_iff hyear hw.1, text_lt_text_iff hw.2 hyear]

theorem AssignmentRow.deadlineWithin_eq {row : AssignmentRow} {w : Window}
    (hw : w.HasFourDigitYears) :
    row.deadlineWithin w.startDate w.endDate = row.deadline.any w.contains := by
  unfold deadlineWithin
  cases row.deadline with
  | none => rfl
  | some d =>
    rw [Option.any_some, Option.any_some, Bool.eq_iff_iff, Window.contains_iff, Bool.and_eq_true,
      decide_eq_true_eq, decide_eq_true_eq, Date.text_between_iff hw.1 hw.2]

/-! ### The numbers -/

/-- The numbers of a clerk's window. -/
@[ext] structure WindowCounts where
  incoming : Nat
  outgoing : Nat
  overdue : Nat
  finished : Nat
  finishedLate : Nat
  deriving DecidableEq

instance : Add WindowCounts where
  add c c' := ⟨c.incoming + c'.incoming, c.outgoing + c'.outgoing, c.overdue + c'.overdue,
    c.finished + c'.finished, c.finishedLate + c'.finishedLate⟩

/-- The numbers of a window, counted by days: documents by that of their registration, overdue work
by its deadline, finished work by the day of its effective completion. -/
def WindowCounts.ofRecords (as : List Assignment) (ds : List Document) (today : Date) (w : Window) :
    WindowCounts where
  incoming := w.count (fun d : Document => some d.createdAt.date) (fun d => d.kind = .incoming) ds
  outgoing := w.count (fun d : Document => some d.createdAt.date) (fun d => d.kind = .outgoing) ds
  overdue := w.count Assignment.deadline (fun a => a.isOverdue today) as
  finished := w.count (fun a : Assignment => some a.effectiveCompletion.date)
    (fun a => a.status = .finished) as
  finishedLate := w.count (fun a : Assignment => some a.effectiveCompletion.date)
    (fun a => a.status = .finished &&
      a.deadline.any fun d => d < a.effectiveCompletion.date) as

theorem WindowCounts.ofRecords_split {s m e : Date} (hsm : s ≤ m) (hme : m < e)
    (as : List Assignment) (ds : List Document) (today : Date) :
    ofRecords as ds today ⟨s, e⟩ =
      ofRecords as ds today ⟨s, m⟩ + ofRecords as ds today ⟨m.next, e⟩ := by
  have split := fun {α : Type} => @Window.count_split α s m e hsm hme
  exact WindowCounts.ext (split ..) (split ..) (split ..) (split ..) (split ..)

namespace Store

variable {s : Store} {today : Date} {w : Window}

/-- The numbers of a window, as the store counts them on a day. -/
def windowCounts (s : Store) (today : Date) (w : Window) : WindowCounts where
  incoming := (s.documentsWithin w.start w.finish).1
  outgoing := (s.documentsWithin w.start w.finish).2
  overdue := s.countOverdueWithin w.startDate w.endDate today
  finished := (s.finishedCountsWithin w.start w.finish).1
  finishedLate := (s.finishedCountsWithin w.start w.finish).2

/-- Whether the stored dates and moments have years of four digits, the moments in whole
microseconds. -/
structure HasOrdinaryTimes (s : Store) : Prop where
  deadline : ∀ row ∈ s.assignments, ∀ d, row.deadline = some d → d.HasFourDigitYear
  completedAt : ∀ row ∈ s.assignments, ∀ t, row.completedAt = some t → t.IsWhole
  updatedAt : ∀ row ∈ s.assignments, row.updatedAt.IsWhole
  registered : ∀ kind, ∀ row ∈ s.register kind, row.createdAt.IsWhole

theorem hasOrdinaryTimes_iff : s.HasOrdinaryTimes ↔
    (∀ row ∈ s.assignments, (∀ d, row.deadline = some d → d.HasFourDigitYear) ∧
      (∀ t, row.completedAt = some t → t.IsWhole) ∧ row.updatedAt.IsWhole) ∧
    (∀ row ∈ s.incoming, row.createdAt.IsWhole) ∧ ∀ row ∈ s.outgoing, row.createdAt.IsWhole := by
  constructor
  · intro h
    exact ⟨fun row hrow => ⟨h.deadline row hrow, h.completedAt row hrow, h.updatedAt row hrow⟩,
      h.registered .incoming, h.registered .outgoing⟩
  · rintro ⟨hrows, hin, hout⟩
    refine ⟨fun row hrow => (hrows row hrow).1, fun row hrow => (hrows row hrow).2.1,
      fun row hrow => (hrows row hrow).2.2, fun kind => ?_⟩
    cases kind with
    | incoming => exact hin
    | outgoing => exact hout

instance (s : Store) : Decidable s.HasOrdinaryTimes := decidable_of_iff _ hasOrdinaryTimes_iff.symm

namespace HasOrdinaryTimes

variable {row : AssignmentRow} {a : Assignment}

theorem effectiveCompletion (h : s.HasOrdinaryTimes) (hs : s.Constrained) (hrow : s.Yields row a) :
    row.completedAt.getD row.updatedAt = a.effectiveCompletion ∧ a.effectiveCompletion.IsWhole := by
  have hreads := hrow.reads hs
  rw [Assignment.effectiveCompletion, hreads.completedAt, hreads.updatedAt]
  refine ⟨rfl, ?_⟩
  cases ht : row.completedAt with
  | none => exact h.updatedAt row hrow.stored
  | some t => exact h.completedAt row hrow.stored t ht

theorem isTakenForOverdue (h : s.HasOrdinaryTimes) (hs : s.Constrained) (hrow : s.Yields row a) :
    a.isTakenForOverdue = false := by
  have hnear : a.hasDistantDeadline = false := by
    rw [Assignment.hasDistantDeadline, (hrow.reads hs).deadline]
    cases hd : row.deadline with
    | none => rfl
    | some d => exact decide_eq_false (Int.not_lt.2 (h.deadline row hrow.stored d hd).2)
  rw [Assignment.isTakenForOverdue, hnear, Bool.false_and]

/-- Finished work that the store counts in a window. -/
theorem finishedWithin_eq (h : s.HasOrdinaryTimes) (hs : s.Constrained) (hrow : s.Yields row a)
    (hw : w.HasFourDigitYears) : finishedWithin w.start w.finish row =
      (decide (a.status = .finished) && w.contains a.effectiveCompletion.date) := by
  obtain ⟨heq, hwhole⟩ := h.effectiveCompletion hs hrow
  rw [finishedWithin, heq, hwhole.within_window hw]
  simp only [hrow.status_iff hs]

/-- Finished work that the store takes for late. -/
theorem endsLate_eq (h : s.HasOrdinaryTimes) (hs : s.Constrained) (hrow : s.Yields row a) :
    row.endsLate (some (row.completedAt.getD row.updatedAt)) =
      a.deadline.any fun d => d < a.effectiveCompletion.date := by
  obtain ⟨heq, ⟨hyear, hnano⟩, -⟩ := h.effectiveCompletion hs hrow
  rw [heq, (hrow.reads hs).deadline, AssignmentRow.endsLate, Option.bind_some,
    Instant.calendarText?_eq hyear hnano]
  cases hd : row.deadline with
  | none => rfl
  | some d =>
    have hnear := (h.deadline row hrow.stored d hd).2
    rw [Option.any_some, Bool.eq_iff_iff, decide_eq_true_eq, decide_eq_true_eq,
      Date.text_lt_text_iff hyear, or_iff_left (Int.not_lt.2 hnear)]

end HasOrdinaryTimes

/-- Documents of one register that the store counts in a window. -/
theorem countP_register {kind : DocumentKind} {rows : List DocumentRow} {ds : List Document}
    (hread : List.Forall₂ (fun row d => row.toDocument kind = .ok d) rows ds)
    (hrows : ∀ row ∈ rows, row.createdAt.IsWhole) (hw : w.HasFourDigitYears)
    (kind' : DocumentKind) :
    w.count (fun d : Document => some d.createdAt.date) (fun d => d.kind = kind') ds =
      if kind = kind' then rows.countP fun d => d.createdAt.within w.start w.finish else 0 := by
  induction hread with
  | nil => simp [Window.count]
  | @cons row d rows ds hd _ ih =>
    obtain ⟨hrow, hrows⟩ := List.forall_mem_cons.1 hrows
    obtain ⟨_, -, rfl⟩ := DocumentRow.toDocument_eq_ok.1 hd
    have ih := ih hrows
    rw [Window.count] at ih ⊢
    rw [List.countP_cons, List.countP_cons, ih, hrow.within_window hw]
    by_cases hkind : kind = kind' <;> simp [hkind]

/-- **The store counts days.** -/
theorem Orderly.windowCounts_eq (hs : s.Orderly) (h : s.HasOrdinaryTimes)
    (htoday : today.HasFourDigitYear) (hw : w.HasFourDigitYears) {as : List Assignment}
    (has : List.Forall₂ s.Yields s.assignments as) {ins outs : List Document}
    (hins : List.Forall₂ (fun row d => row.toDocument .incoming = .ok d) s.incoming ins)
    (houts : List.Forall₂ (fun row d => row.toDocument .outgoing = .ok d) s.outgoing outs) :
    s.windowCounts today w = .ofRecords as (ins ++ outs) today w := by
  have registered : ∀ kind, w.count (fun d : Document => some d.createdAt.date)
      (fun d => d.kind = kind) (ins ++ outs) =
        (s.register kind).countP fun d => d.createdAt.within w.start w.finish := by
    intro kind
    have hin := countP_register hins (h.registered .incoming) hw kind
    have hout := countP_register houts (h.registered .outgoing) hw kind
    rw [Window.count] at hin hout ⊢
    rw [List.countP_append, hin, hout]
    cases kind <;> simp [register]
  refine WindowCounts.ext (registered .incoming).symm (registered .outgoing).symm ?_ ?_ ?_
  · refine countP_eq_of_forall₂ has fun row a hrow => ?_
    have hcompleted : ∀ t, row.completedAt = some t → t.IsOrdinary := fun t ht =>
      (h.completedAt row hrow.stored t ht).1
    rw [AssignmentRow.deadlineWithin_eq hw, hrow.isOverdue_eq hs.toConstrained htoday hcompleted,
      h.isTakenForOverdue hs.toConstrained hrow, (hrow.reads hs.toConstrained).deadline,
      Bool.or_false, Bool.and_comm]
  · refine countP_eq_of_forall₂ has fun row a hrow => ?_
    rw [h.finishedWithin_eq hs.toConstrained hrow hw, Option.any_some]
  · refine countP_eq_of_forall₂ has fun row a hrow => ?_
    rw [h.finishedWithin_eq hs.toConstrained hrow hw, h.endsLate_eq hs.toConstrained hrow,
      Option.any_some, Bool.and_right_comm]

end Store

/-! ### What the office answers -/

/-- Whether a summary shows the numbers of a window. -/
structure DashboardStats.Shows (stats : DashboardStats) (c : WindowCounts) : Prop where
  incoming : stats.incomingCount = some ↑c.incoming
  outgoing : stats.outgoingCount = some ↑c.outgoing
  overdue : stats.allAssignmentsOverdue = some ↑c.overdue
  finished : stats.allAssignmentsFinished = some ↑c.finished
  finishedLate : stats.allAssignmentsFinishedLate = some ↑c.finishedLate

namespace Office

variable {office : Office} {today : Date} {w : Window}

/-- Whether a window has certain numbers on a day: in the tables, and for every clerk who asks for
it. -/
structure CountsDays (office : Office) (today : Date) (w : Window) (c : WindowCounts) : Prop where
  stored : office.store.windowCounts today w = c
  shown : ∀ (o : Occasion) (viewer : Actor) (rs : Request.Summary), o.today = today →
    Intake.window rs today = .ok w →
    Policy.dashboardRole viewer ((Text.nonBlank? rs.role).bind Role.ofName?) = .clerk →
    ∃ stats, office.summary o (some viewer) rs = .ok stats ∧ stats.Shows c

/-- A clerk is answered with the numbers of the tables. -/
theorem countsDays_of_windowCounts (hs : office.store.Orderly) {c : WindowCounts}
    (hc : office.store.windowCounts today w = c) : office.CountsDays today w c where
  stored := hc
  shown o viewer rs hday hw hrole := by
    subst hc hday
    have hmay : Policy.authorize (some viewer) .viewDashboard = .ok viewer :=
      Policy.authorize_eq_ok.2 ⟨rfl, rfl⟩
    obtain ⟨expiring, hexpiring, -⟩ := hs.exists_expiring none o.today
      (o.today.addDays o.settings.clerkExpiringDays)
    simp only [summary, hmay, hw, hrole, summaryFor, clerkSummary, hexpiring, bind, Except.bind,
      pure, Except.pure, Store.during, Except.mapError]
    exact ⟨_, rfl, ⟨rfl, rfl, rfl, rfl, rfl⟩⟩

/-- **The clerk's window counts whole days, and windows tile.** In every state that comes about by
calls and whose times are ordinary, the numbers of a window are those of the documents and the
assignments on file whose own day is one of the window's. Two adjacent windows together have the
numbers of the window that they make up. -/
theorem window_counts_days (run : List (Occasion × Call))
    (htimes : (opened.after run).store.HasOrdinaryTimes) (today : Date)
    (htoday : today.HasFourDigitYear) :
    ∃ (as : List Assignment) (ds : List Document), (opened.after run).IsFile as ∧
      Store.Holds (opened.after run).store.document? Document.ref ds ∧
      (∀ w : Window, w.HasFourDigitYears →
        (opened.after run).CountsDays today w (.ofRecords as ds today w)) ∧
      ∀ (s m e : Date) (c c' : WindowCounts), s.HasFourDigitYear → e.HasFourDigitYear →
        s ≤ m → m < e → (opened.after run).CountsDays today ⟨s, m⟩ c →
        (opened.after run).CountsDays today ⟨m.next, e⟩ c' →
        (opened.after run).CountsDays today ⟨s, e⟩ (c + c') := by
  have hs := orderly_after run
  generalize opened.after run = office at *
  obtain ⟨as, -, has⟩ := hs.exists_loadAssignments (fun row hrow => hrow)
    (List.Nodup.of_map _ hs.assignmentIds)
  obtain ⟨ins, outs, hins, houts, hholds⟩ := hs.exists_registers
  have hdays : ∀ w : Window, w.HasFourDigitYears →
      office.store.windowCounts today w = .ofRecords as (ins ++ outs) today w := fun w hw =>
    hs.windowCounts_eq htimes htoday hw has hins houts
  refine ⟨as, ins ++ outs, isFile_of_yields hs has, hholds,
    fun w hw => countsDays_of_windowCounts hs (hdays w hw), ?_⟩
  intro s m e c c' hs4 he4 hsm hme hc hc'
  have hsn : s ≤ m.next := Date.le_trans hsm (Date.le_of_lt m.lt_next)
  have hm4 := hs4.of_between he4 hsm (Date.le_of_lt hme)
  have hn4 := hs4.of_between he4 hsn (Date.next_le_iff.2 hme)
  refine countsDays_of_windowCounts hs ?_
  rw [← hc.stored, ← hc'.stored, hdays _ ⟨hs4, he4⟩, hdays _ ⟨hs4, hm4⟩, hdays _ ⟨hn4, he4⟩,
    WindowCounts.ofRecords_split hsm hme]

/-- Two days of work. What is finished on the first day has no deadline; of two assignments that
were due on it, one is completed and finished on the second day and the other is left lying. -/
def twoDayRun : List (Occasion × Call) :=
  finishingRun.take 6 ++
  [(minute 7, .createAssignment (some anna)
     ⟨"00000000000000000000000000000002", "incoming", "00000000000000000000000000000001",
      "Have it cleaned", some "1970-01-01", []⟩),
   (minute 8, .createAssignment (some anna)
     ⟨"00000000000000000000000000000002", "incoming", "00000000000000000000000000000001",
      "Have it painted", some "1970-01-01", []⟩),
   (minute 1500, .addDocument ⟨.outgoing, "4/c", "The bill", none⟩),
   (minute 1501, .moveAssignment (some boris)
     ⟨"00000000000000000000000000000005", "completed", none⟩),
   (minute 1502, .moveAssignment (some anna)
     ⟨"00000000000000000000000000000005", "finished", none⟩)]

/-- Seen from the third day, work is overdue on the first day of `twoDayRun` and late in what
follows, and both windows together have the sums. -/
theorem window_counts_days_of_twoDayRun :
    ((opened.after twoDayRun).store.HasOrdinaryTimes ∧ (minute 3000).today.HasFourDigitYear) ∧
    (opened.after twoDayRun).CountsDays (minute 3000).today
        ⟨(minute 0).today, (minute 0).today⟩ ⟨1, 0, 1, 1, 0⟩ ∧
      (opened.after twoDayRun).CountsDays (minute 3000).today
        ⟨(minute 0).today.next, (minute 0).today.addDays 30⟩ ⟨0, 1, 0, 1, 1⟩ ∧
      (opened.after twoDayRun).CountsDays (minute 3000).today
        ⟨(minute 0).today, (minute 0).today.addDays 30⟩ ⟨1, 1, 1, 2, 1⟩ := by
  have hnumbers : (opened.after twoDayRun).store.HasOrdinaryTimes ∧
      (opened.after twoDayRun).store.windowCounts (minute 3000).today
        ⟨(minute 0).today, (minute 0).today⟩ = ⟨1, 0, 1, 1, 0⟩ ∧
      (opened.after twoDayRun).store.windowCounts (minute 3000).today
        ⟨(minute 0).today.next, (minute 0).today.addDays 30⟩ = ⟨0, 1, 0, 1, 1⟩ := by
    decide +kernel
  obtain ⟨htimes, hfirst, hrest⟩ := hnumbers
  have htoday : (minute 3000).today.HasFourDigitYear := by decide +kernel
  obtain ⟨as, ds, -, -, hdays, htile⟩ :=
    window_counts_days twoDayRun htimes (minute 3000).today htoday
  have hday := hdays ⟨(minute 0).today, (minute 0).today⟩ (by decide +kernel)
  rw [← hday.stored, hfirst] at hday
  have hmonth := hdays ⟨(minute 0).today.next, (minute 0).today.addDays 30⟩ (by decide +kernel)
  rw [← hmonth.stored, hrest] at hmonth
  exact ⟨⟨htimes, htoday⟩, hday, hmonth, htile _ _ _ _ _ (by decide +kernel) (by decide +kernel)
    (by decide +kernel) (by decide +kernel) hday hmonth⟩

end Office

end Chancery
