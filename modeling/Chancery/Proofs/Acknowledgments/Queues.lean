import Chancery.Proofs.Store.Hydration

/-!
# Lists of tasks read back

The tasks of a list of rows are read together with one list of recipient rows for all of them, and
each task takes its own out of it. What a task holds after such a reading is what its row and its
recipient rows say, whatever other tasks are read with it.

## Main definitions

* `RecipientRow.Reads` — an entry of a task is what a recipient row says

## Main results

* `Store.Constrained.exists_row_of_tasksWhere`
* `Store.Orderly.exists_loadTasks` — every list of stored rows reads
-/

namespace Chancery

/-- An entry of a task is what a recipient row says. -/
structure RecipientRow.Reads (r : RecipientRow) (entry : Recipient) : Prop where
  id : Identifier.parse? r.id = some entry.id
  acknowledgmentId : Identifier.parse? r.acknowledgmentId = some entry.acknowledgmentId
  userId : Identifier.parse? r.userId = some entry.userId
  viewedAt : entry.viewedAt = r.viewedAt
  confirmedAt : entry.confirmedAt = r.confirmedAt
  createdAt : entry.createdAt = r.createdAt

theorem RecipientJoin.reads_of_toRecipient {j : RecipientJoin} {entry : Recipient}
    (h : j.toRecipient = .ok entry) : j.row.Reads entry ∧ entry.userName = j.userName := by
  obtain ⟨id, hid, task, htask, user, huser, rfl⟩ := RecipientJoin.toRecipient_eq_ok.1 h
  exact ⟨⟨hid, htask, huser, rfl, rfl, rfl⟩, rfl⟩

namespace Store

variable {s : Store}

/-- What is read for a recipient row: the row's own texts, and the name of its user. -/
def readRecipient (s : Store) (r : RecipientRow) : Except StoreFault Recipient :=
  (RecipientJoin.mk r (s.userName? r.userId)).toRecipient

theorem reads_of_readRecipient {r : RecipientRow} {entry : Recipient}
    (h : s.readRecipient r = .ok entry) : r.Reads entry :=
  (RecipientJoin.reads_of_toRecipient h).1

/-- Sorted rows that pass a condition are rows of the table. -/
theorem mem_sortedTasks {p : AcknowledgmentRow → Bool} {row : AcknowledgmentRow} :
    row ∈ sortByKeyDesc taskKey (s.acknowledgments.filter p) ↔
      row ∈ s.acknowledgments ∧ p row = true := by
  rw [mem_sortByKeyDesc, List.mem_filter]

/-- Sorted rows that pass a condition come once each. -/
theorem Constrained.nodup_sortedTasks (h : s.Constrained) (p : AcknowledgmentRow → Bool) :
    (sortByKeyDesc taskKey (s.acknowledgments.filter p)).Nodup :=
  (sortByKeyDesc_perm _ _).nodup_iff.2 ((List.Nodup.of_map _ h.taskIds).filter _)

/-- **A task of a list is what a row says that passes the condition of the list**, and its
recipients are what is read for the recipient rows that belong to this row. -/
theorem Constrained.exists_row_of_tasksWhere (hs : s.Constrained) {p : AcknowledgmentRow → Bool}
    {ts : List AcknowledgmentTask} {t : AcknowledgmentTask} (h : s.tasksWhere p = .ok ts)
    (ht : t ∈ ts) :
    ∃ row ∈ s.acknowledgments, p row = true ∧ row.Reads t ∧
      (∀ entry ∈ t.recipients, ∃ r ∈ s.recipients,
        r.acknowledgmentId = row.id ∧ s.readRecipient r = .ok entry) ∧
      ∀ r ∈ s.recipients, r.acknowledgmentId = row.id →
        ∃ entry ∈ t.recipients, s.readRecipient r = .ok entry := by
  have hids := hs.nodup_taskIds (fun _ hrow => (mem_sortedTasks.1 hrow).1) (hs.nodup_sortedTasks p)
  obtain ⟨rs, hrs, hrows⟩ := (loadTasks_eq_ok hids).1 h
  obtain ⟨row, hrow, hread⟩ := exists_left_of_mem hrows ht
  obtain ⟨hreads, hrecipients⟩ := AcknowledgmentJoin.reads_of_toTask hread
  obtain ⟨hstored, hp⟩ := mem_sortedTasks.1 hrow
  refine ⟨row, hstored, hp, hreads, fun entry hentry => ?_, fun r hr howner => ?_⟩
  · rw [hrecipients, mem_belongingTo] at hentry
    obtain ⟨k, hk, hpair⟩ := exists_of_mem_mapM hrs hentry
    obtain ⟨r, hr, -, rfl⟩ := mem_recipientsOf.1 hk
    obtain ⟨entry', hentry', hpair⟩ := bind_eq_ok.1 hpair
    obtain ⟨howner, rfl⟩ := Prod.mk.inj (Except.ok.inj hpair)
    exact ⟨r, hr, howner, hentry'⟩
  · have hk : ⟨r, s.userName? r.userId⟩ ∈ s.recipientsOf
        ((sortByKeyDesc taskKey (s.acknowledgments.filter p)).map AcknowledgmentRow.id) :=
      mem_recipientsOf.2 ⟨r, hr, howner ▸ List.mem_map_of_mem hrow, rfl⟩
    obtain ⟨pair, hpair, hread⟩ := exists_mem_of_mapM hrs hk
    obtain ⟨entry, hentry, heq⟩ := bind_eq_ok.1 hread
    rw [← Except.ok.inj heq, howner] at hpair
    rw [hrecipients]
    exact ⟨entry, mem_belongingTo.2 hpair, hentry⟩

/-- **Every list of stored rows reads** in an orderly store. -/
theorem Orderly.exists_loadTasks (h : s.Orderly) {rows : List AcknowledgmentRow}
    (hrows : ∀ row ∈ rows, row ∈ s.acknowledgments) (once : rows.Nodup) :
    ∃ ts, s.loadTasks rows = .ok ts := by
  obtain ⟨rs, hrs⟩ : ∃ rs,
      readRecipients (s.recipientsOf (rows.map AcknowledgmentRow.id)) = .ok rs := by
    refine exists_readRecipients fun r hr _ => ?_
    obtain ⟨htask, huser⟩ := h.recipients r hr
    obtain ⟨row, hrow, hid⟩ := hasAcknowledgment_iff.1 htask
    exact ⟨(h.recipientTexts r hr).isReadable, hid ▸ (h.taskTexts row hrow).isReadable,
      (h.isCanonical_of_hasUser huser).isReadable⟩
  obtain ⟨ts, hts⟩ : ∃ ts,
      rows.mapM (fun row => (s.joinAcknowledgment row).toTask (belongingTo row.id rs)) =
        .ok ts := by
    refine exists_mapM_eq_ok fun row hrow => ?_
    have hstored := hrows row hrow
    exact AcknowledgmentJoin.exists_toTask _ (h.taskTexts row hstored).isReadable
      (h.isCanonical_of_isRegistered (h.taskDocuments row hstored)).isReadable
      (h.isCanonical_of_hasUser (h.creators row hstored)).isReadable (h.taskKinds row hstored)
  exact ⟨ts, (loadTasks_eq_ok (h.nodup_taskIds hrows once)).2 ⟨rs, hrs, mapM_eq_ok.1 hts⟩⟩

theorem Orderly.exists_tasksWhere (h : s.Orderly) (p : AcknowledgmentRow → Bool) :
    ∃ ts, s.tasksWhere p = .ok ts :=
  h.exists_loadTasks (fun _ hrow => (mem_sortedTasks.1 hrow).1) (h.nodup_sortedTasks p)

theorem Orderly.exists_task? (h : s.Orderly) (id : Identifier) :
    ∃ found, s.task? id = .ok found := by
  obtain ⟨ts, hts⟩ := h.exists_tasksWhere fun t => t.id = id.text
  exact ⟨ts.head?, by rw [task?, hts]; rfl⟩

end Store

end Chancery
