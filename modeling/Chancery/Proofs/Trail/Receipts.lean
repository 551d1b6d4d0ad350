import Chancery.Proofs.Acknowledgments.Convergence
import Chancery.Proofs.Trail.Growth

/-!
# What the trail tells of a task

Three kinds of events are receipts: that a user has viewed a task, that a user has confirmed it,
that it is complete. Each corresponds to a time in the tables, its *mark*. A receipt is told when
its mark is set, and a mark is never removed while the task exists, so no receipt is told twice
(`Receipted.append`). The converse, that what is marked has been told, holds of confirmations and
of the completion. It does not hold of views, because a confirmation implies a view and fills in
its time without an event.

What a call tells of a task is listed in `TaskTelling`, as what it does to the task is listed in
`TaskFate`.

## Main definitions

* `Receipt`, `Receipt.event`, `Receipt.IsMarked`
* `Receipted` — the receipts of the trail and the marks in the tables agree
* `TaskTelling`

## Main results

* `Call.Outcome.tellsOfTask`, `TaskTelling.receipted` — one call
* `Office.receipted_stage` — every stage of a run
-/

namespace Chancery

open Store

/-- What can be told of a task once. -/
inductive Receipt where
  | viewed (user : Identifier)
  | confirmed (user : Identifier)
  | completed
  deriving DecidableEq

namespace Receipt

/-- The event of a receipt. -/
def event (id : Identifier) : Receipt → AuditEvent
  | viewed user => .acknowledgmentViewed user id
  | confirmed user => .acknowledgmentConfirmed user id
  | completed => .acknowledgmentCompleted id

/-- Whether the time that belongs to a receipt is set, in the row or in the entries of the task. -/
def IsMarked (row : AcknowledgmentRow) (entries : List RecipientRow) : Receipt → Prop
  | viewed user => ∃ r ∈ entries, r.userId = user.text ∧ r.viewedAt.isSome = true
  | confirmed user => ∃ r ∈ entries, r.userId = user.text ∧ r.confirmedAt.isSome = true
  | completed => row.completedAt.isSome = true

/-- Whether the mark of a receipt is set without an event too. -/
def isImplied : Receipt → Bool
  | viewed _ => true
  | _ => false

theorem task?_event (id : Identifier) (receipt : Receipt) : (receipt.event id).task? = some id := by
  cases receipt <;> rfl

end Receipt

/-- Whether the receipts in a trail and the marks in the tables agree. -/
structure Receipted (id : Identifier) (trail : List AuditEvent) (row? : Option AcknowledgmentRow)
    (entries : List RecipientRow) : Prop where
  once : ∀ receipt : Receipt, trail.count (receipt.event id) ≤ 1
  marked : ∀ row, row? = some row → ∀ receipt : Receipt, receipt.event id ∈ trail →
    receipt.IsMarked row entries
  told : ∀ row, row? = some row → ∀ receipt : Receipt, receipt.isImplied = false →
    receipt.IsMarked row entries → receipt.event id ∈ trail

namespace Receipted

variable {id : Identifier} {trail events : List AuditEvent} {row row' : AcknowledgmentRow}
  {row? : Option AcknowledgmentRow} {entries entries' : List RecipientRow}

/-- **Receipts are told once.** What is told is told when its mark is set, and what is marked stays
marked. -/
theorem append (h : Receipted id trail (some row) entries) (nodup : events.Nodup)
    (keeps : ∀ receipt : Receipt, receipt.IsMarked row entries → receipt.IsMarked row' entries')
    (news : ∀ receipt : Receipt, receipt.event id ∈ events →
      ¬ receipt.IsMarked row entries ∧ receipt.IsMarked row' entries')
    (told : ∀ receipt : Receipt, receipt.isImplied = false → receipt.IsMarked row' entries' →
      receipt.IsMarked row entries ∨ receipt.event id ∈ events) :
    Receipted id (trail ++ events) (some row') entries' where
  once receipt := by
    rw [List.count_append]
    by_cases hnew : receipt.event id ∈ events
    · have before : receipt.event id ∉ trail := fun hold =>
        (news receipt hnew).1 (h.marked row rfl receipt hold)
      rw [List.count_eq_zero_of_not_mem before, Nat.zero_add]
      exact List.nodup_iff_count_le_one.1 nodup _
    · rw [List.count_eq_zero_of_not_mem hnew, Nat.add_zero]
      exact h.once receipt
  marked _ hrow receipt hmem := by
    obtain rfl := Option.some.inj hrow
    rcases List.mem_append.1 hmem with hold | hnew
    · exact keeps receipt (h.marked row rfl receipt hold)
    · exact (news receipt hnew).2
  told _ hrow receipt himplied hmarked := by
    obtain rfl := Option.some.inj hrow
    refine List.mem_append.2 ?_
    rcases told receipt himplied hmarked with hold | hnew
    · exact .inl (h.told row rfl receipt himplied hold)
    · exact .inr hnew

/-- Where marks are set by events only, what is told is what is marked. -/
theorem event_mem_iff (h : Receipted id trail row? entries) (hrow : row? = some row)
    (receipt : Receipt) (himplied : receipt.isImplied = false) :
    receipt.event id ∈ trail ↔ receipt.IsMarked row entries :=
  ⟨h.marked row hrow receipt, h.told row hrow receipt himplied⟩

/-- Events that are no receipts of the task say nothing. -/
theorem append_other (h : Receipted id trail row? entries)
    (others : ∀ receipt : Receipt, receipt.event id ∉ events) :
    Receipted id (trail ++ events) row? entries where
  once receipt := by
    rw [List.count_append, List.count_eq_zero_of_not_mem (others receipt)]
    exact h.once receipt
  marked row hrow receipt hmem := by
    refine h.marked row hrow receipt ?_
    exact (List.mem_append.1 hmem).resolve_right (others receipt)
  told row hrow receipt himplied hmarked :=
    List.mem_append_left _ (h.told row hrow receipt himplied hmarked)

/-- A task that is not there has no marks. -/
theorem of_none (h : Receipted id trail row? entries) : Receipted id trail none entries' where
  once := h.once
  marked := nofun
  told := nofun

/-- A new task has no marks. -/
theorem of_unnamed (unnamed : ∀ e ∈ trail, e.task? ≠ some id)
    (unmarked : ∀ receipt : Receipt, ¬ receipt.IsMarked row entries) :
    Receipted id trail (some row) entries where
  once receipt := by
    have fresh : receipt.event id ∉ trail := fun h => unnamed _ h (receipt.task?_event id)
    rw [List.count_eq_zero_of_not_mem fresh]
    exact Nat.zero_le 1
  marked _ _ receipt hmem := absurd (receipt.task?_event id) (unnamed _ hmem)
  told _ hrow receipt _ hmarked := by
    obtain rfl := Option.some.inj hrow
    exact absurd hmarked (unmarked receipt)

end Receipted

/-! ### Marks -/

/-- Whoever has an entry without a time has none with one, since nobody has two entries. -/
theorem not_exists_isSome {entries : List RecipientRow} {time : RecipientRow → Option Instant}
    {user : Identifier} (nodup : (entries.map RecipientRow.userId).Nodup)
    (unset : (entries.any fun r => r.userId = user.text && (time r).isNone) = true) :
    ¬ ∃ r ∈ entries, r.userId = user.text ∧ (time r).isSome = true := by
  rintro ⟨r', hr', huser', hsome⟩
  obtain ⟨r, hr, hboth⟩ := List.any_eq_true.1 unset
  obtain ⟨huser, hnone⟩ := Bool.and_eq_true_iff.1 hboth
  obtain rfl := List.inj_on_of_nodup_map nodup hr hr' ((of_decide_eq_true huser).trans huser'.symm)
  rw [Option.isNone_iff_eq_none.1 hnone] at hsome
  cases hsome

/-- If there is an entry without a time, then filling it in leaves an entry with one. -/
theorem exists_isSome_map {entries : List RecipientRow} {time : RecipientRow → Option Instant}
    {fill : RecipientRow → RecipientRow} {user : Identifier}
    (keepsUser : ∀ r, (fill r).userId = r.userId) (fills : ∀ r, (time (fill r)).isSome = true)
    (unset : (entries.any fun r => r.userId = user.text && (time r).isNone) = true) :
    ∃ r ∈ entries.map fun r => if r.userId = user.text && (time r).isNone then fill r else r,
      r.userId = user.text ∧ (time r).isSome = true := by
  obtain ⟨r, hr, hboth⟩ := List.any_eq_true.1 unset
  refine ⟨fill r, List.mem_map.2 ⟨r, hr, if_pos hboth⟩, ?_, fills r⟩
  rw [keepsUser]
  exact of_decide_eq_true (Bool.and_eq_true_iff.1 hboth).1

theorem Receipt.IsMarked.of_keeps {row row' : AcknowledgmentRow}
    {entries entries' : List RecipientRow} {receipt : Receipt}
    (h : receipt.IsMarked row entries) (hrow : AcknowledgmentRow.Keeps row row')
    (hentries : List.Forall₂ RecipientRow.Keeps entries entries') :
    receipt.IsMarked row' entries' := by
  cases receipt with
  | viewed user =>
    obtain ⟨r, hr, huser, hsome⟩ := h
    obtain ⟨r', hr', keeps⟩ := exists_mem_of_forall₂ hentries hr
    obtain ⟨t, ht⟩ := Option.isSome_iff_exists.1 hsome
    exact ⟨r', hr', keeps.userId_eq.trans huser,
      Option.isSome_iff_exists.2 ⟨t, keeps.viewedAt t ht⟩⟩
  | confirmed user =>
    obtain ⟨r, hr, huser, hsome⟩ := h
    obtain ⟨r', hr', keeps⟩ := exists_mem_of_forall₂ hentries hr
    obtain ⟨t, ht⟩ := Option.isSome_iff_exists.1 hsome
    exact ⟨r', hr', keeps.userId_eq.trans huser,
      Option.isSome_iff_exists.2 ⟨t, keeps.confirmedAt t ht⟩⟩
  | completed =>
    obtain ⟨t, ht⟩ := Option.isSome_iff_exists.1 h
    exact Option.isSome_iff_exists.2 ⟨t, hrow.completedAt t ht⟩

/-! ### One call -/

/-- What is told of the task under an identifier in one call, which draws some identifiers: the row
and the entries before, what is told, and the row and the entries after. -/
inductive TaskTelling (o : Occasion) (id : Identifier) (drawn : List Identifier) :
    Option AcknowledgmentRow → List RecipientRow → List AuditEvent →
      Option AcknowledgmentRow → List RecipientRow → Prop
  | other {row? entries events} (unnamed : ∀ e ∈ events, AuditEvent.task? e ≠ some id) :
      TaskTelling o id drawn row? entries events row? entries
  | created {creator new recipients n} (isDrawn : id ∈ drawn) :
      TaskTelling o id drawn none [] [.acknowledgmentCreated creator id n]
        (some (acknowledgmentRow id o.now new)) (recipientRows id o.now recipients)
  | viewed {viewer row entries}
      (unseen : List.any entries
        (fun r => r.userId = Identifier.text viewer && r.viewedAt.isNone) = true) :
      TaskTelling o id drawn (some row) entries [.acknowledgmentViewed viewer id] (some row)
        (entries.map fun r =>
          if r.userId = viewer.text && r.viewedAt.isNone then RecipientRow.view o.now r else r)
  | confirmed {confirmer row entries} (stamped : Bool)
      (waiting : List.any entries
        (fun r => r.userId = Identifier.text confirmer && r.confirmedAt.isNone) = true)
      (unstamped : stamped = true → row.completedAt = none) :
      TaskTelling o id drawn (some row) entries
        (Office.confirmationEvents confirmer id ⟨.recorded, stamped⟩)
        (some (if stamped then AcknowledgmentRow.complete o.now row else row))
        (entries.map fun r =>
          if r.userId = confirmer.text && r.confirmedAt.isNone then RecipientRow.confirm o.now r
          else r)
  | deleted {deleter row entries} :
      TaskTelling o id drawn (some row) entries [.acknowledgmentDeleted deleter id] none []

theorem mem_confirmationEvents_recorded {confirmer id : Identifier} {stamped : Bool}
    {e : AuditEvent} :
    e ∈ Office.confirmationEvents confirmer id ⟨.recorded, stamped⟩ ↔
      e = .acknowledgmentConfirmed confirmer id ∨
        stamped = true ∧ e = .acknowledgmentCompleted id := by
  simp [Office.confirmationEvents, List.mem_ite_nil_right]

theorem nodup_confirmationEvents (confirmer id : Identifier) (outcome : ConfirmOutcome) :
    (Office.confirmationEvents confirmer id outcome).Nodup := by
  unfold Office.confirmationEvents
  split <;> split <;> simp

/-- Whether a task is there or has been told of. -/
def TaskKnown (id : Identifier) (trail : List AuditEvent) (row? : Option AcknowledgmentRow) :
    Prop :=
  row? ≠ none ∨ ∃ e ∈ trail, AuditEvent.task? e = some id

namespace TaskTelling

variable {o : Occasion} {id : Identifier} {drawn : List Identifier}
  {row? row?' : Option AcknowledgmentRow} {entries entries' : List RecipientRow}
  {trail events : List AuditEvent}

/-- A task becomes known when its identifier is drawn. -/
theorem known (h : TaskTelling o id drawn row? entries events row?' entries')
    (hknown : TaskKnown id (trail ++ events) row?') : TaskKnown id trail row? ∨ id ∈ drawn := by
  cases h with
  | other unnamed =>
    refine .inl (hknown.imp_right ?_)
    rintro ⟨e, he, hid⟩
    exact ⟨e, (List.mem_append.1 he).resolve_right fun hnew => unnamed e hnew hid, hid⟩
  | created isDrawn => exact .inr isDrawn
  | viewed _ => exact .inl (.inl (Option.some_ne_none _))
  | confirmed _ _ _ => exact .inl (.inl (Option.some_ne_none _))
  | deleted => exact .inl (.inl (Option.some_ne_none _))

/-- **Receipts and marks go on agreeing.** -/
theorem receipted (h : TaskTelling o id drawn row? entries events row?' entries')
    (nodup : (entries.map RecipientRow.userId).Nodup)
    (apart : TaskKnown id trail row? → id ∉ drawn) (hreceipted : Receipted id trail row? entries) :
    Receipted id (trail ++ events) row?' entries' := by
  cases h with
  | other unnamed =>
    exact hreceipted.append_other fun receipt h => unnamed _ h (receipt.task?_event id)
  | created isDrawn =>
    refine .append_other (.of_unnamed (fun e he hid => apart (.inr ⟨e, he, hid⟩) isDrawn) ?_) ?_
    · rintro (user | user | _) hmarked
      · obtain ⟨r, hr, -, hsome⟩ := hmarked
        obtain ⟨_, -, rfl⟩ := List.mem_map.1 hr
        cases hsome
      · obtain ⟨r, hr, -, hsome⟩ := hmarked
        obtain ⟨_, -, rfl⟩ := List.mem_map.1 hr
        cases hsome
      · cases hmarked
    · rintro (user | user | _) h <;> cases List.mem_singleton.1 h
  | @viewed viewer row entries unseen =>
    have keeps := forall₂_keeps
      (p := fun r => r.userId = viewer.text && r.viewedAt.isNone)
      (fun r hr => RecipientRow.keeps_view o.now
        (Option.isNone_iff_eq_none.1 (Bool.and_eq_true_iff.1 hr).2)) entries
    refine hreceipted.append (List.nodup_singleton _)
      (fun receipt hmarked => hmarked.of_keeps (.refl row) keeps) ?_ ?_
    · rintro (user | user | _) hnew <;> cases List.mem_singleton.1 hnew
      exact ⟨not_exists_isSome nodup unseen,
        exists_isSome_map (fun _ => rfl) (fun _ => rfl) unseen⟩
    · rintro (user | user | _) himplied hmarked
      · cases himplied
      · obtain ⟨r', hr', huser, hsome⟩ := hmarked
        obtain ⟨r, hr, rfl⟩ := List.mem_map.1 hr'
        refine .inl ⟨r, hr, ?_, ?_⟩
        · split at huser <;> exact huser
        · split at hsome <;> exact hsome
      · exact .inl hmarked
  | @confirmed confirmer row entries stamped waiting unstamped =>
    have keeps := forall₂_keeps
      (p := fun r => r.userId = confirmer.text && r.confirmedAt.isNone)
      (fun r hr => RecipientRow.keeps_confirm o.now
        (Option.isNone_iff_eq_none.1 (Bool.and_eq_true_iff.1 hr).2)) entries
    have keepsRow : AcknowledgmentRow.Keeps row
        (if stamped then AcknowledgmentRow.complete o.now row else row) := by
      cases stamped with
      | false => exact .refl row
      | true => exact AcknowledgmentRow.keeps_complete o.now (unstamped rfl)
    refine hreceipted.append (nodup_confirmationEvents _ _ _)
      (fun receipt hmarked => hmarked.of_keeps keepsRow keeps) ?_ ?_
    · rintro (user | user | _) hnew <;>
        rcases mem_confirmationEvents_recorded.1 hnew with hnew | ⟨hstamped, hnew⟩ <;> cases hnew
      · exact ⟨not_exists_isSome nodup waiting,
          exists_isSome_map (fun _ => rfl) (fun _ => rfl) waiting⟩
      · subst hstamped
        refine ⟨fun hmarked => ?_, rfl⟩
        rw [Receipt.IsMarked, unstamped rfl] at hmarked
        cases hmarked
    · rintro (user | user | _) himplied hmarked
      · cases himplied
      · obtain ⟨r', hr', huser, hsome⟩ := hmarked
        obtain ⟨r, hr, rfl⟩ := List.mem_map.1 hr'
        split at huser
        · rename_i hboth
          have hconfirmer := of_decide_eq_true (Bool.and_eq_true_iff.1 hboth).1
          obtain rfl := Identifier.text_inj.1 (huser.symm.trans hconfirmer)
          exact .inr (mem_confirmationEvents_recorded.2 (.inl rfl))
        · rename_i hboth
          rw [if_neg hboth] at hsome
          exact .inl ⟨r, hr, huser, hsome⟩
      · cases stamped with
        | false => exact .inl hmarked
        | true => exact .inr (mem_confirmationEvents_recorded.2 (.inr ⟨rfl, rfl⟩))
  | deleted =>
    refine (hreceipted.append_other ?_).of_none
    rintro (user | user | _) h <;> cases List.mem_singleton.1 h

end TaskTelling

namespace Call

variable {o : Occasion} {office office' : Office} {c : Call} {answer : Except Refusal Answer}
  {id : Identifier} {events : List AuditEvent}

/-- Whether a call is meant to write to a task. -/
def isOnTask : Call → Bool
  | createAcknowledgment .. | viewAcknowledgment .. | confirmAcknowledgment ..
  | deleteAcknowledgment .. => true
  | _ => false

/-- What is told of the task under an identifier between one office and a later one. -/
def TellsOfTask (o : Occasion) (id : Identifier) (office office' : Office) : Prop :=
  ∃ events, office'.trail = office.trail ++ events ∧
    TaskTelling o id (office.drawnBetween o office') (office.store.taskUnder? id)
      (office.store.entriesUnder id) events (office'.store.taskUnder? id)
      (office'.store.entriesUnder id)

/-- Events about other records say nothing. -/
theorem tellsOfTask_of_unnamed (htrail : office'.trail = office.trail ++ events)
    (hrow : office'.store.taskUnder? id = office.store.taskUnder? id)
    (hentries : office'.store.entriesUnder id = office.store.entriesUnder id)
    (unnamed : ∀ e ∈ events, e.task? ≠ some id) : TellsOfTask o id office office' := by
  refine ⟨events, htrail, ?_⟩
  rw [hrow, hentries]
  exact .other unnamed

theorem tellsOfTask_of_quiet (htrail : office'.trail = office.trail)
    (hrow : office'.store.taskUnder? id = office.store.taskUnder? id)
    (hentries : office'.store.entriesUnder id = office.store.entriesUnder id) :
    TellsOfTask o id office office' :=
  tellsOfTask_of_unnamed (htrail.trans (List.append_nil _).symm) hrow hentries
    fun e he => by cases he

theorem tellsOfTask_of_other {e : AuditEvent} (htrail : office'.trail = office.trail ++ [e])
    (hrow : office'.store.taskUnder? id = office.store.taskUnder? id)
    (hentries : office'.store.entriesUnder id = office.store.entriesUnder id)
    (unnamed : e.task? ≠ some id) : TellsOfTask o id office office' :=
  tellsOfTask_of_unnamed htrail hrow hentries (List.forall_mem_singleton.2 unnamed)

end Call

theorem TaskFate.same {o : Occasion} {id : Identifier} {c : Call} {answer : Except Refusal Answer}
    {row? row?' : Option AcknowledgmentRow} {entries entries' : List RecipientRow}
    (h : TaskFate o id c answer row? entries row?' entries') (hc : c.isOnTask = false) :
    row?' = row? ∧ entries' = entries := by
  cases h with
  | kept _ => exact ⟨rfl, rfl⟩
  | entered _ _ _ _ | viewed | confirmed _ _ _ | completed _ _ _ _ | deleted => cases hc

namespace Call

variable {o : Occasion} {office office' : Office} {c : Call} {answer : Except Refusal Answer}
  {id : Identifier}

/-- **What a call tells of a task.** -/
theorem Outcome.tellsOfTask (hout : Outcome o office c answer office') (h : office.store.Orderly)
    (id : Identifier) : TellsOfTask o id office office' := by
  have same := (hout.taskFate h id).same
  cases hout with
  | refused _ => exact tellsOfTask_of_quiet rfl rfl rfl
  | looked _ => exact tellsOfTask_of_quiet rfl rfl rfl
  | userEntered _ => exact tellsOfTask_of_quiet rfl (same rfl).1 (same rfl).2
  | documentEntered _ => exact tellsOfTask_of_quiet rfl (same rfl).1 (same rfl).2
  | assignmentCreated _ _ _ => exact tellsOfTask_of_other rfl (same rfl).1 (same rfl).2 nofun
  | assignmentUnread _ _ _ => exact tellsOfTask_of_quiet rfl (same rfl).1 (same rfl).2
  | assignmentUpdated _ _ => exact tellsOfTask_of_other rfl (same rfl).1 (same rfl).2 nofun
  | moveDenied _ _ => exact tellsOfTask_of_other rfl rfl rfl nofun
  | assignmentMoved _ _ _ => exact tellsOfTask_of_other rfl (same rfl).1 (same rfl).2 nofun
  | assignmentDeleted _ => exact tellsOfTask_of_other rfl (same rfl).1 (same rfl).2 nofun
  | assignmentAbsent _ => exact tellsOfTask_of_quiet rfl rfl rfl
  | @taskCreated actor r new store task checked added read =>
    have row := Store.taskUnder?_addAcknowledgment added id
    have entries := Store.entriesUnder_addAcknowledgment added id
    have named := Store.id_of_task? read
    by_cases hid : office.nextId o = id
    · subst hid
      have absent := (Store.addAcknowledgment_eq added).1
      rw [if_pos rfl] at row entries
      refine ⟨_, rfl, ?_⟩
      rw [Office.store_record, Office.store_withStore, row, entries,
        Store.taskUnder?_eq_none_iff.2 absent, h.entriesUnder_eq_nil absent, List.nil_append, named]
      exact .created (Office.nextId_mem_drawnBetween (Nat.lt_add_of_pos_right (Nat.succ_pos _)))
    · rw [if_neg hid] at row entries
      exact tellsOfTask_of_other rfl row (entries.trans (List.append_nil _)) fun hsome =>
        hid (named.symm.trans (Option.some.inj hsome))
  | taskUnread _ added unread =>
    obtain ⟨t, ht⟩ := h.toConstrained.task?_addAcknowledgment added
    rw [written_eq_ok.2 ht] at unread
    cases unread
  | @taskDeleted actor text deleter task read present =>
    have row := office.store.taskUnder?_deleteAcknowledgment task id
    have entries := office.store.entriesUnder_deleteAcknowledgment task id
    by_cases hid : id = task
    · subst hid
      obtain ⟨before, hbefore⟩ := Store.exists_taskUnder? present
      rw [if_pos rfl] at row entries
      refine ⟨_, rfl, ?_⟩
      rw [Office.store_record, Office.store_withStore, row, entries, hbefore]
      exact .deleted
    · rw [if_neg hid] at row entries
      exact tellsOfTask_of_other rfl row entries fun hsome => hid (Option.some.inj hsome).symm
  | @taskAbsent actor text deleter task read absent =>
    have row := office.store.taskUnder?_deleteAcknowledgment task id
    have entries := office.store.entriesUnder_deleteAcknowledgment task id
    by_cases hid : id = task
    · subst hid
      rw [if_pos rfl] at row entries
      exact tellsOfTask_of_quiet rfl (row.trans (Store.taskUnder?_eq_none_iff.2 absent).symm)
        (entries.trans (h.entriesUnder_eq_nil absent).symm)
    · rw [if_neg hid] at row entries
      exact tellsOfTask_of_quiet rfl row entries
  | @taskViewed actor text viewer task read unseen =>
    by_cases hid : id = task
    · subst hid
      rw [Store.any_isUnseen] at unseen
      obtain ⟨row, hrow⟩ := h.exists_taskUnder?_of_any unseen
      refine ⟨_, rfl, ?_⟩
      rw [Office.store_record, Office.store_withStore, Store.entriesUnder_viewEntry,
        show (office.store.viewEntry id viewer.id o.now).taskUnder? id =
          office.store.taskUnder? id from rfl, hrow]
      exact .viewed unseen
    · exact tellsOfTask_of_other rfl rfl (Store.entriesUnder_viewEntry_of_ne hid) fun hsome =>
        hid (Option.some.inj hsome).symm
  | viewedBefore _ _ _ => exact tellsOfTask_of_quiet rfl rfl rfl
  | @taskConfirmed actor text confirmer task outcome store read waiting confirmed =>
    have htrail := (office.withStore store).trail_foldl_record
      (Office.confirmationEvents confirmer.id task outcome)
    by_cases hid : id = task
    · subst hid
      have waitingHere := waiting
      rw [Store.any_isWaiting] at waitingHere
      obtain ⟨row, hrow⟩ := h.exists_taskUnder?_of_any waitingHere
      refine ⟨_, htrail, ?_⟩
      rw [Office.store_foldl_record, Office.store_withStore]
      obtain ⟨entries, ⟨-, rfl, hrow'⟩ | ⟨-, rfl, hrow'⟩⟩ :=
        h.markConfirmed_here hrow waiting confirmed
      · rw [hrow, hrow', entries]
        exact .confirmed false waitingHere nofun
      · rw [hrow, hrow', entries]
        exact .confirmed row.completedAt.isNone waitingHere Option.isNone_iff_eq_none.1
    · obtain ⟨row, entries⟩ := Store.markConfirmed_of_ne hid waiting confirmed
      refine tellsOfTask_of_unnamed htrail ?_ ?_ fun e he hsome =>
        hid (Option.some.inj (hsome.symm.trans (Office.of_mem_confirmationEvents he).2))
      · rw [Office.store_foldl_record, Office.store_withStore, row]
      · rw [Office.store_foldl_record, Office.store_withStore, entries]
  | confirmedBefore _ _ _ => exact tellsOfTask_of_quiet rfl rfl rfl

end Call

/-! ### Runs -/

namespace Office

variable {run : List (Occasion × Call)}

/-- **At every stage the receipts told of a task and its marks agree.** A task is known only if its
identifier has been drawn. -/
theorem receipted_stage (apart : DrawsApart run) (n : Nat) (id : Identifier) :
    Receipted id (stage run n).trail ((stage run n).store.taskUnder? id)
      ((stage run n).store.entriesUnder id) ∧
      (TaskKnown id (stage run n).trail ((stage run n).store.taskUnder? id) →
        WasDrawn run n id) := by
  induction n with
  | zero =>
    refine ⟨⟨fun _ => Nat.zero_le 1, nofun, nofun⟩, ?_⟩
    rintro (h | ⟨e, he, -⟩)
    · exact absurd rfl h
    · cases he
  | succ n ih =>
    obtain ⟨receipted, known⟩ := ih
    rcases stage_step run n with ⟨o, c, answer, hc, -, hout⟩ | ⟨-, same⟩
    · have fresh := fun h => drawnAt_eq hc ▸ apart.not_mem_drawnAt (known h)
      have orderly := orderly_stage run n
      obtain ⟨events, htrail, telling⟩ := hout.tellsOfTask orderly id
      rw [htrail]
      refine ⟨telling.receipted orderly.nodup_entriesUnder fresh receipted, fun h => ?_⟩
      rcases telling.known h with h | h
      · exact (known h).succ
      · exact wasDrawn_of_mem hc h
    · rw [same]
      exact ⟨receipted, fun h => (known h).succ⟩

end Office

end Chancery
