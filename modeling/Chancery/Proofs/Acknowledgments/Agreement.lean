import Chancery.Proofs.Acknowledgments.Convergence
import Chancery.Proofs.Acknowledgments.Loading
import Chancery.Proofs.Calendar.TextOrder
import Chancery.Proofs.Office.Checks

/-!
# The queues of acknowledgments and their agreement

Three lists are drawn from the table of tasks: what one user has still to confirm, what is still
active, and what was raised on one document. Each is the table filtered, sorted and read, so that
a list holds exactly the tasks whose rows satisfy its condition, newest first, and every task in it
is the one that is found under its identifier (`IsQueueOf`).

The conditions look in different places. Whether a task is *pending* for a user is asked of the
entries, and whether it is *active* of the stamp on its own row. That the two agree is not a matter
of reading: it holds because the stamp and the entries have converged at every stage of a run.

The order is that of texts, so it is the order of time only as long as years have four digits. The
times in question are those at which the tasks were entered, which are readings of the clock.

## Main definitions

* `AcknowledgmentTask.IsNewer` — the order of the lists
* `Store.IsPendingFor`, `Store.IsWaiting` — the conditions, as the entries have them
* `Office.IsQueueOf`, `Office.KeepsQueues`

## Main results

* `Store.Orderly.exists_isQueueOf` — every list drawn from the table
* `Office.converging_of_mem`, `Office.createdAt_of_mem` — what holds of the tasks of all stages
* `Office.queues_agree`
-/

namespace Chancery

/-! ### The order of the lists -/

/-- Whether a task comes before another in a list: it was entered later, or at the same moment
under a larger identifier. -/
def AcknowledgmentTask.IsNewer (t t' : AcknowledgmentTask) : Prop :=
  t'.createdAt < t.createdAt ∨ t'.createdAt = t.createdAt ∧ t'.id.number < t.id.number

namespace Store

variable {s : Store} {row row' : AcknowledgmentRow} {t t' : AcknowledgmentTask}

/-- The sort key of the lists tells tasks apart. -/
theorem Constrained.task_eq_of_taskKey_eq (h : s.Constrained) (hrow : row ∈ s.acknowledgments)
    (hrow' : row' ∈ s.acknowledgments) (hkey : taskKey row = taskKey row') : row = row' := by
  simp only [taskKey, List.cons.injEq] at hkey
  exact h.task_eq hrow hrow' hkey.2.1

/-- **Tasks read from sorted rows come newest first**, no two of them at one place. -/
theorem Constrained.pairwise_tasks_isNewer (h : s.Constrained)
    (hyears : ∀ row ∈ s.acknowledgments, row.createdAt.date.HasFourDigitYear)
    {rows : List AcknowledgmentRow} {ts : List AcknowledgmentTask}
    (hsorted : rows.Pairwise fun row row' => ¬ taskKey row < taskKey row' ∧ row ≠ row')
    (hts : List.Forall₂ s.YieldsTask rows ts) : ts.Pairwise AcknowledgmentTask.IsNewer := by
  refine pairwise_of_forall₂ hts hsorted ?_
  rintro row row' t t' ht ht' ⟨hkey, hne⟩
  have hlt : taskKey row' < taskKey row := by
    by_contra hle
    refine hne (h.task_eq_of_taskKey_eq ht.stored ht'.stored ?_)
    exact List.le_antisymm (List.not_lt.1 hle) (List.not_lt.1 hkey)
  rw [taskKey, taskKey, ht.id, ht'.id,
    texts_lt_texts_iff (hyears row' ht'.stored) (hyears row ht.stored)] at hlt
  rw [AcknowledgmentTask.IsNewer, (ht.reads h).createdAt, (ht'.reads h).createdAt]
  exact hlt

/-! ### The conditions -/

/-- Whether a user has an entry on a task and has not confirmed. -/
def IsPendingFor (s : Store) (user : Identifier) (row : AcknowledgmentRow) : Prop :=
  ∃ r ∈ s.recipients,
    r.acknowledgmentId = row.id ∧ r.userId = user.text ∧ r.confirmedAt = none

/-- Whether anybody with an entry on a task has not confirmed. -/
def IsWaiting (s : Store) (row : AcknowledgmentRow) : Prop :=
  ∃ r ∈ s.recipients, r.acknowledgmentId = row.id ∧ r.confirmedAt = none

theorem isPendingFor_iff {user : Identifier} :
    (s.recipients.any fun r =>
      r.acknowledgmentId = row.id && r.userId = user.text && r.confirmedAt.isNone) = true ↔
        s.IsPendingFor user row := by
  simp only [IsPendingFor, List.any_eq_true, Bool.and_eq_true, decide_eq_true_eq,
    Option.isNone_iff_eq_none, and_assoc]

/-- A task waits for somebody exactly if it is pending for some user. -/
theorem Orderly.isWaiting_iff (h : s.Orderly) :
    s.IsWaiting row ↔ ∃ user, s.IsPendingFor user row := by
  constructor
  · rintro ⟨r, hr, hown, hnone⟩
    obtain ⟨user, huser⟩ := h.isCanonical_of_hasUser (h.recipients r hr).2
    exact ⟨user, r, hr, hown, huser.symm, hnone⟩
  · rintro ⟨_, r, hr, hown, -, hnone⟩
    exact ⟨r, hr, hown, hnone⟩

end Store

/-! ### What holds of the tasks of all stages -/

namespace Office

variable {run : List (Occasion × Call)} {n : Nat} {id : Identifier} {row : AcknowledgmentRow}

/-- **A task and its entries belong together at every stage**, and the task was entered at a moment
of the run. -/
theorem converging_of_taskUnder? (h : (stage run n).store.taskUnder? id = some row) :
    Converging row ((stage run n).store.entriesUnder id) ∧
      ∃ call ∈ run, row.createdAt = call.1.now := by
  induction n generalizing row with
  | zero => cases h
  | succ n ih =>
    rcases stage_taskFate run n id with ⟨o, c, answer, hc, -, fate⟩ | ⟨-, hsame⟩
    · cases hbefore : (stage run n).store.taskUnder? id with
      | some before =>
        obtain ⟨hconverging, hcreated⟩ := ih hbefore
        rw [hbefore, h] at fate
        refine ⟨fate.converging hconverging, ?_⟩
        rw [fate.keeps_row.same]
        exact hcreated
      | none =>
        rw [hbefore, h] at fate
        generalize (stage run n).store.entriesUnder id = entries at fate
        generalize (stage run (n + 1)).store.entriesUnder id = entries' at fate ⊢
        cases fate with
        | entered _ nonempty drawn _ =>
          exact ⟨converging_of_entered nonempty drawn, _, List.mem_of_getElem? hc, rfl⟩
    · rw [hsame] at h ⊢
      exact ih h

theorem converging_of_mem (h : row ∈ (stage run n).store.acknowledgments)
    (hid : row.id = id.text) : Converging row ((stage run n).store.entriesUnder id) :=
  (converging_of_taskUnder? ((orderly_stage run n).taskUnder?_of_mem h hid)).1

theorem createdAt_of_mem (h : row ∈ (stage run n).store.acknowledgments) :
    ∃ call ∈ run, row.createdAt = call.1.now := by
  obtain ⟨id, hid⟩ := (orderly_stage run n).taskTexts row h
  exact (converging_of_taskUnder? ((orderly_stage run n).taskUnder?_of_mem h hid.symm)).2

/-- **A task has no stamp exactly as long as it waits for somebody.** -/
theorem completedAt_eq_none_iff (h : row ∈ (stage run n).store.acknowledgments) :
    row.completedAt = none ↔ (stage run n).store.IsWaiting row := by
  obtain ⟨id, hid⟩ := (orderly_stage run n).taskTexts row h
  rw [← Option.not_isSome_iff_eq_none, (converging_of_mem h hid.symm).completed]
  simp only [Store.entriesUnder, Store.IsWaiting, List.mem_filter, decide_eq_true_eq, hid]
  push Not
  simp [and_assoc]

/-! ### The lists -/

/-- Whether a list holds exactly the tasks whose rows satisfy a condition, each of them once,
newest first, complete, and as anybody is shown it who asks for it alone. -/
structure IsQueueOf (office : Office) (p : AcknowledgmentRow → Prop)
    (ts : List AcknowledgmentTask) : Prop where
  satisfies : ∀ t ∈ ts, ∃ row, office.store.YieldsTask row t ∧ p row
  covers : ∀ row ∈ office.store.acknowledgments, p row →
    ∃ t ∈ ts, office.store.YieldsTask row t
  newestFirst : ts.Pairwise AcknowledgmentTask.IsNewer
  shownAlone : ∀ t ∈ ts, ∀ viewer text, Identifier.parse? text = some t.id →
    office.getAcknowledgment (some viewer) text = .ok (some t)
  showsAll : ∀ t ∈ ts, office.store.ShowsAll t

variable {office : Office} {p q : AcknowledgmentRow → Prop} {ts : List AcknowledgmentTask}
  {t : AcknowledgmentTask}

theorem IsQueueOf.mem_iff (h : IsQueueOf office p ts) :
    t ∈ ts ↔ ∃ row, office.store.YieldsTask row t ∧ p row := by
  refine ⟨h.satisfies t, ?_⟩
  rintro ⟨row, hrow, hp⟩
  obtain ⟨t', ht', hrow'⟩ := h.covers row hrow.stored hp
  rwa [hrow.unique hrow']

/-- A condition may be exchanged for one that says the same of all rows on file. -/
theorem IsQueueOf.congr (h : IsQueueOf office p ts)
    (hpq : ∀ row ∈ office.store.acknowledgments, p row ↔ q row) : IsQueueOf office q ts :=
  { h with
    satisfies := fun t ht => by
      obtain ⟨row, hrow, hp⟩ := h.satisfies t ht
      exact ⟨row, hrow, (hpq row hrow.stored).1 hp⟩
    covers := fun row hrow hq => h.covers row hrow ((hpq row hrow).2 hq) }

/-- **Every list drawn from the table** holds exactly the tasks whose rows pass. -/
theorem exists_isQueueOf (hs : office.store.Orderly)
    (hyears : ∀ row ∈ office.store.acknowledgments, row.createdAt.date.HasFourDigitYear)
    (passes : AcknowledgmentRow → Bool) :
    ∃ ts, office.store.tasksWhere passes = .ok ts ∧
      IsQueueOf office (fun row => passes row = true) ts := by
  have mem (row : AcknowledgmentRow) := @Store.mem_sortedTasks office.store passes row
  have once := hs.nodup_sortedTasks passes
  obtain ⟨ts, hts, hyields⟩ := hs.exists_yieldsTask (fun row hrow => ((mem row).1 hrow).1) once
  have satisfies : ∀ t ∈ ts, ∃ row, office.store.YieldsTask row t ∧ passes row = true := by
    intro t ht
    obtain ⟨row, hrow, hread⟩ := exists_left_of_mem hyields ht
    exact ⟨row, hread, ((mem row).1 hrow).2⟩
  refine ⟨ts, hts, satisfies, fun row hrow hpasses => ?_, ?_, fun t ht viewer text htext => ?_,
    fun t ht => ?_⟩
  · exact exists_right_of_mem hyields ((mem row).2 ⟨hrow, hpasses⟩)
  · exact hs.pairwise_tasks_isNewer hyears ((pairwise_sortByKeyDesc _ _).and once) hyields
  · obtain ⟨row, hread, -⟩ := satisfies t ht
    exact getAcknowledgment_eq_ok.2 ⟨⟨viewer, rfl⟩, t.id, htext, hread.found⟩
  · obtain ⟨row, hread, -⟩ := satisfies t ht
    exact hread.showsAll hs

/-! ### The lists that are shown -/

/-- Who may see what is active may see the queues of others. -/
theorem permits_viewOthers {viewer : Actor}
    (h : Policy.permits viewer .listActiveAcknowledgments = true) :
    Policy.permits viewer .viewOthersAcknowledgments = true := h

section Shown

variable (hs : office.store.Orderly)
  (hyears : ∀ row ∈ office.store.acknowledgments, row.createdAt.date.HasFourDigitYear)
include hs hyears

theorem exists_pendingQueue {viewer : Actor} {user : Option String} {queue : Identifier}
    (hnamed : ∀ text, user = some text → Identifier.parse? text = some queue)
    (hown : user = none → queue = viewer.id)
    (hothers : queue ≠ viewer.id → Policy.permits viewer .viewOthersAcknowledgments = true) :
    ∃ ts, office.pendingAcknowledgments (some viewer) user = .ok ts ∧
      IsQueueOf office (office.store.IsPendingFor queue) ts := by
  obtain ⟨ts, hts, hqueue⟩ := exists_isQueueOf hs hyears fun row =>
    office.store.recipients.any fun r =>
      r.acknowledgmentId = row.id && r.userId = queue.text && r.confirmedAt.isNone
  exact ⟨ts, pendingAcknowledgments_eq_ok.2 ⟨viewer, queue, rfl, hnamed, hown, hothers, hts⟩,
    hqueue.congr fun _ _ => Store.isPendingFor_iff⟩

/-- What is listed as active are the tasks without a stamp. -/
theorem exists_activeList {viewer : Actor}
    (hpermits : Policy.permits viewer .listActiveAcknowledgments = true) :
    ∃ ts, office.activeAcknowledgments (some viewer) = .ok ts ∧
      IsQueueOf office (fun row => row.completedAt.isNone = true) ts := by
  obtain ⟨ts, hts, hqueue⟩ := exists_isQueueOf hs hyears fun row => row.completedAt.isNone
  exact ⟨ts, activeAcknowledgments_eq_ok.2 ⟨⟨viewer, rfl, hpermits⟩, hts⟩, hqueue⟩

theorem exists_documentList {text : String} {document : Identifier}
    (htext : Identifier.parse? text = some document) (viewer : Actor) :
    ∃ ts, office.acknowledgmentsOfDocument (some viewer) text = .ok ts ∧
      IsQueueOf office (fun row => row.documentId = document.text) ts := by
  obtain ⟨ts, hts, hqueue⟩ := exists_isQueueOf hs hyears fun row => row.documentId = document.text
  exact ⟨ts, acknowledgmentsOfDocument_eq_ok.2 ⟨⟨viewer, rfl⟩, document, htext, hts⟩,
    hqueue.congr fun _ _ => decide_eq_true_iff⟩

/-- If a list holds what waits for somebody, it holds what is in one queue or another. -/
theorem mem_iff_exists_queue {viewer : Actor} {active : List AcknowledgmentTask}
    (hactive : IsQueueOf office office.store.IsWaiting active)
    (hpermits : Policy.permits viewer .viewOthersAcknowledgments = true) :
    t ∈ active ↔ ∃ user : Identifier, ∃ queue,
      office.pendingAcknowledgments (some viewer) (some user.text) = .ok queue ∧ t ∈ queue := by
  have queueOf : ∀ user : Identifier, ∃ queue,
      office.pendingAcknowledgments (some viewer) (some user.text) = .ok queue ∧
        IsQueueOf office (office.store.IsPendingFor user) queue := by
    intro user
    refine exists_pendingQueue hs hyears (fun text htext => ?_) nofun fun _ => hpermits
    rw [← Option.some.inj htext, Identifier.parse?_text]
  rw [hactive.mem_iff]
  constructor
  · rintro ⟨row, hrow, hwaits⟩
    obtain ⟨user, hpending⟩ := hs.isWaiting_iff.1 hwaits
    obtain ⟨queue, hqueue, hqueueOf⟩ := queueOf user
    exact ⟨user, queue, hqueue, hqueueOf.mem_iff.2 ⟨row, hrow, hpending⟩⟩
  · rintro ⟨user, queue, hqueue, ht⟩
    obtain ⟨queue', hqueue', hqueueOf⟩ := queueOf user
    obtain rfl := Except.ok.inj (hqueue.symm.trans hqueue')
    obtain ⟨row, hrow, hpending⟩ := hqueueOf.mem_iff.1 ht
    exact ⟨row, hrow, hs.isWaiting_iff.2 ⟨user, hpending⟩⟩

end Shown

/-- The lists of acknowledgments that an office shows, and how they agree. -/
structure KeepsQueues (office : Office) : Prop where
  /-- Whoever asks for its own queue, or may see those of others, is shown the tasks on which the
  user of the queue has an entry without confirmation. -/
  pending : ∀ viewer user queue, (∀ text, user = some text → Identifier.parse? text = some queue) →
    (user = none → queue = viewer.id) →
    (queue ≠ viewer.id → Policy.permits viewer .viewOthersAcknowledgments = true) →
    ∃ ts, office.pendingAcknowledgments (some viewer) user = .ok ts ∧
      IsQueueOf office (office.store.IsPendingFor queue) ts
  /-- Whoever may see it is shown, as active, the tasks that wait for somebody. -/
  active : ∀ viewer, Policy.permits viewer .listActiveAcknowledgments = true →
    ∃ ts, office.activeAcknowledgments (some viewer) = .ok ts ∧
      IsQueueOf office office.store.IsWaiting ts
  /-- Every actor is shown the tasks raised on a document. -/
  ofDocument : ∀ viewer text document, Identifier.parse? text = some document →
    ∃ ts, office.acknowledgmentsOfDocument (some viewer) text = .ok ts ∧
      IsQueueOf office (fun row => row.documentId = document.text) ts
  /-- What is shown as active is what is shown in one queue or another. -/
  agree : ∀ viewer active, office.activeAcknowledgments (some viewer) = .ok active → ∀ t,
    t ∈ active ↔ ∃ user : Identifier, ∃ queue,
      office.pendingAcknowledgments (some viewer) (some user.text) = .ok queue ∧ t ∈ queue

/-- **The queues of acknowledgments are exact and agree**, whatever calls were made at clock
readings with years of four digits. -/
theorem queues_agree (run : List (Occasion × Call))
    (hyears : ∀ call ∈ run, call.1.today.HasFourDigitYear) :
    (opened.after run).KeepsQueues := by
  rw [← stage_length]
  have hs := orderly_stage run run.length
  have created : ∀ row ∈ (stage run run.length).store.acknowledgments,
      row.createdAt.date.HasFourDigitYear := by
    intro row hrow
    obtain ⟨call, hcall, hnow⟩ := createdAt_of_mem hrow
    rw [hnow]
    exact hyears call hcall
  have active : ∀ viewer, Policy.permits viewer .listActiveAcknowledgments = true →
      ∃ ts, (stage run run.length).activeAcknowledgments (some viewer) = .ok ts ∧
        IsQueueOf (stage run run.length) (stage run run.length).store.IsWaiting ts := by
    intro viewer hpermits
    obtain ⟨ts, hts, hlist⟩ := exists_activeList hs created hpermits
    refine ⟨ts, hts, hlist.congr fun row hrow => ?_⟩
    rw [Option.isNone_iff_eq_none]
    exact completedAt_eq_none_iff hrow
  refine ⟨fun _ _ _ => exists_pendingQueue hs created, active,
    fun viewer _ _ htext => exists_documentList hs created htext viewer,
    fun viewer listed hlisted t => ?_⟩
  obtain ⟨⟨viewer', hviewer, hpermits⟩, -⟩ := activeAcknowledgments_eq_ok.1 hlisted
  obtain rfl := Option.some.inj hviewer
  obtain ⟨ts, hts, hactive⟩ := active viewer hpermits
  obtain rfl := Except.ok.inj (hlisted.symm.trans hts)
  exact mem_iff_exists_queue hs created hactive (permits_viewOthers hpermits)

/-- Both tasks of `circulatingRun` are active when one recipient of the second has confirmed; each
recipient has one of them left. -/
theorem queues_agree_of_circulatingRun :
    let office := opened.after (circulatingRun.take 9)
    (∀ call ∈ circulatingRun.take 9, call.1.today.HasFourDigitYear) ∧
      (office.activeAcknowledgments (some anna)).map (List.map AcknowledgmentTask.id) =
        .ok [.ofNat 6, .ofNat 4] ∧
      (office.pendingAcknowledgments (some boris) none).map (List.map AcknowledgmentTask.id) =
        .ok [.ofNat 4] ∧
      (office.pendingAcknowledgments (some vera) none).map (List.map AcknowledgmentTask.id) =
        .ok [.ofNat 6] ∧
      office.KeepsQueues := by
  have shown : (∀ call ∈ circulatingRun.take 9, call.1.today.HasFourDigitYear) ∧
      ((opened.after (circulatingRun.take 9)).activeAcknowledgments (some anna)).map
          (List.map AcknowledgmentTask.id) = .ok [.ofNat 6, .ofNat 4] ∧
      ((opened.after (circulatingRun.take 9)).pendingAcknowledgments (some boris) none).map
          (List.map AcknowledgmentTask.id) = .ok [.ofNat 4] ∧
      ((opened.after (circulatingRun.take 9)).pendingAcknowledgments (some vera) none).map
          (List.map AcknowledgmentTask.id) = .ok [.ofNat 6] := by
    decide +kernel
  obtain ⟨years, active, ofBoris, ofVera⟩ := shown
  exact ⟨years, active, ofBoris, ofVera, queues_agree (circulatingRun.take 9) years⟩

end Office

end Chancery
