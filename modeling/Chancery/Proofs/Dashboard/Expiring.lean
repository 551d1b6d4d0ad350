import Chancery.Proofs.Assignments.RoundTrip
import Chancery.Proofs.Dashboard.Window

/-!
# The expiring list

The list of expiring work is cut out of the table by texts: a deadline that compares as between two
dates, a status that is one of two names. This module says which assignments are on it and in what
order, and how it fits the rule of lateness. Deadlines of any year are allowed. One after the year
9999 is misplaced by every comparison of texts, but it does not lie between two dates of four
digits, and so it is not on the list, where it does not belong either.

Of the work still owed, what is due by the end of the list is on the list or overdue, and never
both: the list begins today, and what is due before today is overdue.

## Main definitions

* `Assignment.IsExpiring`, `Assignment.IsDueNoLater` — what is on the list, and its order
* `Office.IsExpiringList`

## Main results

* `Office.expiring_complements_overdue`
-/

namespace Chancery

namespace Assignment

variable {a : Assignment} {today : Date}

/-- Whether an assignment may stand before another on the list of expiring work: it is due earlier,
or on the same day and was not created later. -/
def IsDueNoLater (a b : Assignment) : Prop :=
  ∀ d d', a.deadline = some d → b.deadline = some d' →
    d < d' ∨ d = d' ∧ a.createdAt ≤ b.createdAt

/-- Whether an assignment is work still owed that is due from one day to another, and involves a
user if one is given. -/
structure IsExpiring (a : Assignment) (user : Option Identifier) (start finish : Date) : Prop where
  owed : a.status.isActive = true
  involves : ∀ u, user = some u → a.involves u = true
  due : ∃ d, a.deadline = some d ∧ start ≤ d ∧ d ≤ finish

/-- While work is owed, it is overdue from the day after its deadline. -/
theorem isOverdue_of_isActive (h : a.status.isActive = true) (today : Date) :
    a.isOverdue today = a.deadline.any fun d => d < today := by
  unfold isOverdue
  cases a.deadline with
  | none => rfl
  | some d =>
    cases hs : a.status <;> rw [hs] at h <;> first | rfl | exact Bool.noConfusion h

end Assignment

namespace Store

variable {s : Store} {user : Option Identifier} {start finish : Date} {row row' : AssignmentRow}
  {a b : Assignment}

/-- What the store takes for expiring. -/
theorem Yields.isExpiring_iff (h : s.Yields row a) (hs : s.Orderly)
    (hstart : start.HasFourDigitYear) (hfinish : finish.HasFourDigitYear) :
    (isExpiring start finish row && user.all fun u => s.involves u row) = true ↔
      a.IsExpiring user start finish := by
  have hw : (⟨start, finish⟩ : Window).HasFourDigitYears := ⟨hstart, hfinish⟩
  have hactive : a.status.isActive = true ↔ a.status = .new ∨ a.status = .inProgress := by
    cases a.status <;> simp [Status.isActive]
  have hdue : row.deadlineWithin start finish = true ↔
      ∃ d, a.deadline = some d ∧ start ≤ d ∧ d ≤ finish := by
    rw [AssignmentRow.deadlineWithin_eq hw, ← (h.reads hs.toConstrained).deadline,
      Option.any_eq_true]
    simp only [Window.contains_iff]
  rw [Bool.and_eq_true, isExpiring, Bool.and_eq_true, Bool.or_eq_true, decide_eq_true_eq,
    decide_eq_true_eq, h.status_iff hs.toConstrained, h.status_iff hs.toConstrained, ← hactive,
    hdue, Option.all_eq_true]
  simp only [← h.involves_eq hs]
  constructor
  · rintro ⟨⟨howed, hdue⟩, hinvolves⟩
    exact ⟨howed, hinvolves, hdue⟩
  · rintro ⟨howed, hinvolves, hdue⟩
    exact ⟨⟨howed, hdue⟩, hinvolves⟩

/-- The order of the sort keys is that of deadlines and creations, where the years have four
digits. -/
theorem isDueNoLater_of_expiringKey (hs : s.Constrained) (ha : s.Yields row a)
    (hb : s.Yields row' b) (hkey : ¬ expiringKey row' < expiringKey row)
    (hdeadline : ∀ d, a.deadline = some d → d.HasFourDigitYear)
    (hdeadline' : ∀ d, b.deadline = some d → d.HasFourDigitYear)
    (hcreated : row.createdAt.date.HasFourDigitYear)
    (hcreated' : row'.createdAt.date.HasFourDigitYear) : a.IsDueNoLater b := by
  intro d d' hd hd'
  rw [(ha.reads hs).createdAt, (hb.reads hs).createdAt]
  simp only [expiringKey, ← (ha.reads hs).deadline, ← (hb.reads hs).deadline, hd, hd',
    Option.map_some, Option.getD_some] at hkey
  rw [dueTexts_lt_dueTexts_iff (hdeadline' d' hd') (hdeadline d hd) hcreated' hcreated] at hkey
  obtain ⟨hnot, hsame⟩ := not_or.1 hkey
  by_cases heq : d' = d
  · exact .inr ⟨heq.symm, fun hlt => hsame ⟨heq, hlt⟩⟩
  · left
    rw [Date.lt_def] at hnot ⊢
    rw [Date.ext_iff] at heq
    omega

/-- **The list is in the order of deadlines.** What is on it is due between two dates of four
digits, so no deadline on it is misplaced. -/
theorem Orderly.pairwise_isDueNoLater (hs : s.Orderly)
    (hcreated : ∀ row ∈ s.assignments, row.createdAt.date.HasFourDigitYear)
    (hstart : start.HasFourDigitYear) (hfinish : finish.HasFourDigitYear) {L : List Assignment}
    (hL : List.Forall₂ s.Yields (s.expiringRows user start finish) L) :
    L.Pairwise Assignment.IsDueNoLater := by
  have hnear : ∀ row a, row ∈ s.expiringRows user start finish → s.Yields row a →
      ∀ d, a.deadline = some d → d.HasFourDigitYear := by
    intro row a hlisted hrow d hd
    obtain ⟨-, -, d', hd', hle, hle'⟩ :=
      (hrow.isExpiring_iff hs hstart hfinish).1 (mem_expiringRows.1 hlisted).2
    obtain rfl := Option.some.inj (hd.symm.trans hd')
    exact hstart.of_between hfinish hle hle'
  refine pairwise_of_forall₂ hL ((s.pairwise_expiringRows user start finish).imp_of_mem
    fun hmem hmem' hkey => And.intro hkey (And.intro hmem hmem')) ?_
  rintro row row' a b hrow hrow' ⟨hkey, hmem, hmem'⟩
  exact isDueNoLater_of_expiringKey hs.toConstrained hrow hrow' hkey (hnear row a hmem hrow)
    (hnear row' b hmem' hrow') (hcreated row hrow.stored) (hcreated row' hrow'.stored)

end Store

namespace Office

variable {office : Office} {user : Option Identifier} {today finish : Date} {L : List Assignment}

/-- Whether a list of assignments is that of the work still owed which is due from one day to
another, of one user if one is given. -/
structure IsExpiringList (office : Office) (user : Option Identifier) (today finish : Date)
    (L : List Assignment) : Prop where
  once : L.Nodup
  sorted : L.Pairwise Assignment.IsDueNoLater
  mem_iff : ∀ a, a ∈ L ↔
    office.store.assignment? a.id = .ok (some a) ∧ a.IsExpiring user today finish

theorem exists_expiringList (hs : office.store.Orderly)
    (hcreated : ∀ row ∈ office.store.assignments, row.createdAt.date.HasFourDigitYear)
    (htoday : today.HasFourDigitYear) (hfinish : finish.HasFourDigitYear)
    (user : Option Identifier) :
    ∃ L, office.store.expiring user today finish = .ok L ∧
      office.IsExpiringList user today finish L := by
  obtain ⟨L, hload, hL⟩ := hs.exists_expiring user today finish
  refine ⟨L, hload, hs.nodup_of_yields (hs.nodup_expiringRows ..) hL,
    hs.pairwise_isDueNoLater hcreated htoday hfinish hL, fun a => ?_⟩
  rw [Store.mem_read_iff (fun _ => Store.mem_expiringRows) hL]
  constructor
  · rintro ⟨row, hrow, hpass⟩
    exact ⟨hrow.found, (hrow.isExpiring_iff hs htoday hfinish).1 hpass⟩
  · rintro ⟨hfound, hexpiring⟩
    obtain ⟨row, hrow⟩ := Store.exists_row_yields hfound
    exact ⟨row, hrow, (hrow.isExpiring_iff hs htoday hfinish).2 hexpiring⟩

/-- The list begins on the day whose lateness is asked for, so work that is due by its end is on it
if it is not overdue. -/
theorem IsExpiringList.mem_iff_of_due {a : Assignment} {d : Date}
    (h : office.IsExpiringList user today finish L)
    (hfound : office.store.assignment? a.id = .ok (some a)) (hactive : a.status.isActive = true)
    (hinvolves : ∀ u, user = some u → a.involves u = true) (hd : a.deadline = some d)
    (hdue : d ≤ finish) : a ∈ L ↔ a.isOverdue today = false := by
  have hlate : a.isOverdue today = false ↔ today ≤ d := by
    rw [Assignment.isOverdue_of_isActive hactive, hd, Option.any_some, decide_eq_false_iff_not]
    rfl
  rw [h.mem_iff, hlate]
  constructor
  · rintro ⟨-, -, -, d', hd', hle, -⟩
    rw [hd, Option.some.injEq] at hd'
    rwa [hd']
  · exact fun hle => ⟨hfound, hactive, hinvolves, d, hd, hle, hdue⟩

theorem IsExpiringList.isOverdue_eq_false {a : Assignment}
    (h : office.IsExpiringList user today finish L) (ha : a ∈ L) : a.isOverdue today = false := by
  obtain ⟨hfound, hactive, hinvolves, d, hd, -, hdue⟩ := (h.mem_iff a).1 ha
  exact (h.mem_iff_of_due hfound hactive hinvolves hd hdue).1 ha

/-- **The expiring list is exact and complements overdue work.** In every state that comes about by
calls at readings of the clock with years of four digits, the list from one day to another holds
each assignment still owed whose deadline is between the two, once and in the order of deadlines,
and nothing else. None of them is overdue, and of the work that is due by the end of the list the
rest is. -/
theorem expiring_complements_overdue (run : List (Occasion × Call))
    (hclock : ∀ call ∈ run, call.1.today.HasFourDigitYear) (user : Option Identifier)
    (today : Date) (n : Nat) (htoday : today.HasFourDigitYear)
    (hfinish : (today.addDays n).HasFourDigitYear) :
    ∃ L, (opened.after run).store.expiring user today (today.addDays n) = .ok L ∧
      (opened.after run).IsExpiringList user today (today.addDays n) L ∧
      (∀ a ∈ L, a.isOverdue today = false) ∧
      ∀ a d, (opened.after run).store.assignment? a.id = .ok (some a) →
        a.status.isActive = true → (∀ u, user = some u → a.involves u = true) →
        a.deadline = some d → d ≤ today.addDays n → (a ∈ L ↔ a.isOverdue today = false) := by
  have hs := orderly_after run
  have hcreated := fun row => @hasFourDigitYear_createdAt run hclock row
  generalize opened.after run = office at *
  obtain ⟨L, hload, hL⟩ := exists_expiringList hs hcreated htoday hfinish user
  exact ⟨L, hload, hL, fun a ha => hL.isOverdue_eq_false ha,
    fun a d hfound hactive hinvolves hd hdue =>
      hL.mem_iff_of_due hfound hactive hinvolves hd hdue⟩

/-- The deadline of the shared work of `sharingRun`. -/
def sharedDeadline : Date := (minute 0).today.addDays 31

/-- The shared work of `sharingRun` is on the list up to its deadline, and overdue from then on. -/
theorem expiring_complements_overdue_of_sharingRun :
    ((∀ call ∈ sharingRun.take 4, call.1.today.HasFourDigitYear) ∧
      sharedDeadline.HasFourDigitYear ∧ sharedDeadline.next.HasFourDigitYear ∧
      (sharedDeadline.addDays (7 : Nat)).HasFourDigitYear ∧
      (sharedDeadline.next.addDays (0 : Nat)).HasFourDigitYear) ∧
    (∃ L, (opened.after (sharingRun.take 4)).store.expiring (some (.ofNat 1)) sharedDeadline
        (sharedDeadline.addDays (7 : Nat)) = .ok L ∧ sharedAssignment ∈ L) ∧
      ∃ L, (opened.after (sharingRun.take 4)).store.expiring none sharedDeadline.next
        (sharedDeadline.next.addDays (0 : Nat)) = .ok L ∧ sharedAssignment ∉ L := by
  have hclock : ∀ call ∈ sharingRun.take 4, call.1.today.HasFourDigitYear := by decide +kernel
  have hyears : sharedDeadline.HasFourDigitYear ∧ sharedDeadline.next.HasFourDigitYear ∧
      (sharedDeadline.addDays (7 : Nat)).HasFourDigitYear ∧
      (sharedDeadline.next.addDays (0 : Nat)).HasFourDigitYear := by decide +kernel
  have hfound : (opened.after (sharingRun.take 4)).store.assignment? sharedAssignment.id =
      .ok (some sharedAssignment) := by decide +kernel
  have hdeadline : sharedAssignment.deadline = some sharedDeadline := by decide +kernel
  refine ⟨⟨hclock, hyears⟩, ?_, ?_⟩
  · obtain ⟨L, hload, -, -, hlist⟩ := expiring_complements_overdue (sharingRun.take 4) hclock
      (some (.ofNat 1)) sharedDeadline 7 hyears.1 hyears.2.2.1
    refine ⟨L, hload, (hlist sharedAssignment sharedDeadline hfound rfl ?_ hdeadline
      (by decide +kernel)).2 (by decide +kernel)⟩
    intro u hu
    cases hu
    decide +kernel
  · obtain ⟨L, hload, -, hlate, -⟩ := expiring_complements_overdue (sharingRun.take 4) hclock
      none sharedDeadline.next 0 hyears.2.1 hyears.2.2.2
    refine ⟨L, hload, fun hlisted => ?_⟩
    have hoverdue : sharedAssignment.isOverdue sharedDeadline.next = true := by decide +kernel
    rw [hlate _ hlisted] at hoverdue
    cases hoverdue

end Office

end Chancery
