import Chancery.Proofs.Acknowledgments.Entries
import Chancery.Proofs.Acknowledgments.Queues
import Chancery.Proofs.Store.Loading
import Chancery.Proofs.Store.Names

/-!
# Tasks read together and by themselves

A queue reads the recipients of all its tasks in one go and deals them out by the text of the task
they belong to. A task therefore gets the same recipients as when it is looked up alone, in the
same order: the sort key of a recipient names a task and a user, and no two rows of the table agree
in both.

What such a task shows is complete. Everybody who has an entry is listed, under the name that the
directory has, and the number of the document is the one in the register of its own kind.

## Main definitions

* `Store.YieldsTask` — a row and the task that is found under its identifier
* `Store.ShowsAll` — all recipients and all names are there

## Main results

* `Store.Orderly.exists_yieldsTask` — every list of stored rows reads, row by row
* `Store.YieldsTask.showsAll`
-/

namespace Chancery

theorem AcknowledgmentJoin.names_of_toTask {j : AcknowledgmentJoin} {recipients : List Recipient}
    {t : AcknowledgmentTask} (h : j.toTask recipients = .ok t) :
    t.creatorName = j.creatorName ∧
      t.documentNumber = ofRegister t.document.kind j.incomingNumber j.outgoingNumber := by
  simp only [AcknowledgmentJoin.toTask, bind_eq_ok, pure, Except.pure, Except.ok.injEq] at h
  obtain ⟨_, -, _, -, _, -, _, -, rfl⟩ := h
  exact ⟨rfl, rfl⟩

namespace Store

variable {s : Store} {row : AcknowledgmentRow} {t : AcknowledgmentTask}

/-! ### Recipients of one task among those of many -/

/-- A user has one entry on a task. -/
theorem Constrained.recipient_eq (h : s.Constrained) {r r' : RecipientRow}
    (hr : r ∈ s.recipients) (hr' : r' ∈ s.recipients)
    (htask : r.acknowledgmentId = r'.acknowledgmentId) (huser : r.userId = r'.userId) :
    r = r' := by
  have once : (s.recipients.map fun r => (r.acknowledgmentId, r.userId)).Nodup := by
    refine List.pairwise_map.2 (h.recipients_pairwise.imp fun {a b} hab hsame => ?_)
    obtain ⟨hat, hau⟩ := Prod.mk.inj hsame
    simp [RecipientRow.clashes, hat, hau] at hab
  exact List.inj_on_of_nodup_map once hr hr' (Prod.ext htask huser)

theorem owner_eq_of_recipientKey_eq {j k : RecipientJoin} (h : j.key = k.key) :
    j.row.acknowledgmentId = k.row.acknowledgmentId ∧ j.row.userId = k.row.userId := by
  unfold RecipientJoin.key at h
  obtain ⟨hfront, hlast⟩ := List.append_inj' h rfl
  exact ⟨(List.cons.inj hfront).1, (List.cons.inj hlast).1⟩

/-- Picking one task's recipients out of those of many leaves what it has alone. -/
theorem Constrained.filter_recipientsOf (h : s.Constrained) {ids : List String} {owner : String}
    (howner : owner ∈ ids) :
    (s.recipientsOf ids).filter (fun j => j.row.acknowledgmentId = owner) =
      s.recipientsOf [owner] := by
  unfold recipientsOf
  rw [filter_sortByKey]
  · rw [List.filter_map, List.filter_filter]
    refine congrArg _ (congrArg _ (List.filter_congr fun r _ => ?_))
    by_cases hr : r.acknowledgmentId = owner
    · simp [hr, howner]
    · simp [hr]
  · intro j hj k hk hkey
    obtain ⟨r, hr, rfl⟩ := List.mem_map.1 hj
    obtain ⟨r', hr', rfl⟩ := List.mem_map.1 hk
    obtain ⟨htask, huser⟩ := owner_eq_of_recipientKey_eq hkey
    have hrow : r = r' := h.recipient_eq (List.mem_of_mem_filter hr) (List.mem_of_mem_filter hr')
      htask huser
    rw [hrow]

/-- One task takes the same recipients out of a long list as it has alone. -/
theorem Constrained.belongingTo_recipients_eq (h : s.Constrained) {ids : List String}
    {rs : List (String × Recipient)} {owner : String}
    (hrs : readRecipients (s.recipientsOf ids) = .ok rs) (howner : owner ∈ ids) :
    ∃ own, readRecipients (s.recipientsOf [owner]) = .ok own ∧
      belongingTo owner own = belongingTo owner rs := by
  refine ⟨rs.filter fun p => p.1 = owner, ?_, ?_⟩
  · rw [← h.filter_recipientsOf howner]
    refine mapM_filter hrs fun j p hp => ?_
    obtain ⟨entry, -, hpair⟩ := bind_eq_ok.1 hp
    rw [← Except.ok.inj hpair]
  · simp [belongingTo, List.filter_filter]

/-! ### Rows and tasks -/

theorem loadTasks_singleton_eq_ok {ts : List AcknowledgmentTask} :
    s.loadTasks [row] = .ok ts ↔
      ∃ rs, readRecipients (s.recipientsOf [row.id]) = .ok rs ∧
        ∃ t, (s.joinAcknowledgment row).toTask (belongingTo row.id rs) = .ok t ∧ ts = [t] := by
  rw [loadTasks_eq_ok (by simp)]
  simp only [List.map_singleton, List.forall₂_cons_left_iff, List.forall₂_nil_left_iff]
  constructor
  · rintro ⟨rs, hrs, t, _, ht, rfl, rfl⟩
    exact ⟨rs, hrs, t, ht, rfl⟩
  · rintro ⟨rs, hrs, t, ht, rfl⟩
    exact ⟨rs, hrs, t, [], ht, rfl, rfl⟩

/-- Under the identifier of a row, that row is read. -/
theorem Constrained.task?_eq (h : s.Constrained) {id : Identifier}
    (hrow : row ∈ s.acknowledgments) (hid : row.id = id.text) :
    s.task? id = (s.loadTasks [row]).map List.head? := by
  have alone : sortByKeyDesc taskKey (s.acknowledgments.filter fun t => t.id = id.text) =
      [row] := by
    rw [← hid, filter_key_eq h.taskIds hrow]
    rfl
  rw [task?, tasksWhere, alone]

/-- A row of the table and the task that is found under its identifier. -/
structure YieldsTask (s : Store) (row : AcknowledgmentRow) (t : AcknowledgmentTask) : Prop where
  stored : row ∈ s.acknowledgments
  id : row.id = t.id.text
  found : s.task? t.id = .ok (some t)

namespace YieldsTask

/-- A row yields one task. -/
theorem unique {t' : AcknowledgmentTask} (h : s.YieldsTask row t) (h' : s.YieldsTask row t') :
    t = t' := by
  have hid : t.id = t'.id := Identifier.text_inj.1 (h.id.symm.trans h'.id)
  have hfound := h.found
  rw [hid, h'.found] at hfound
  exact (Option.some.inj (Except.ok.inj hfound)).symm

/-- The reading behind a found task. -/
theorem exists_toTask (h : s.YieldsTask row t) (hs : s.Constrained) :
    ∃ rs, readRecipients (s.recipientsOf [row.id]) = .ok rs ∧
      (s.joinAcknowledgment row).toTask (belongingTo row.id rs) = .ok t := by
  have hfound := h.found
  rw [hs.task?_eq h.stored h.id] at hfound
  cases hload : s.loadTasks [row] with
  | error e => rw [hload] at hfound; cases hfound
  | ok ts =>
    obtain ⟨rs, hrs, t', ht', rfl⟩ := loadTasks_singleton_eq_ok.1 hload
    rw [hload] at hfound
    obtain rfl : t' = t := Option.some.inj (Except.ok.inj hfound)
    exact ⟨rs, hrs, ht'⟩

theorem reads (h : s.YieldsTask row t) (hs : s.Constrained) : row.Reads t := by
  obtain ⟨rs, -, ht⟩ := h.exists_toTask hs
  exact (AcknowledgmentJoin.reads_of_toTask ht).1

end YieldsTask

/-- **Reading many tasks is looking each of them up.** -/
theorem Orderly.exists_yieldsTask (h : s.Orderly) {rows : List AcknowledgmentRow}
    (hrows : ∀ row ∈ rows, row ∈ s.acknowledgments) (once : rows.Nodup) :
    ∃ ts, s.loadTasks rows = .ok ts ∧ List.Forall₂ s.YieldsTask rows ts := by
  obtain ⟨ts, hts⟩ := h.exists_loadTasks hrows once
  refine ⟨ts, hts, ?_⟩
  obtain ⟨rs, hrs, hread⟩ := (loadTasks_eq_ok (h.nodup_taskIds hrows once)).1 hts
  have listed := (List.forall₂_and_left (p := (· ∈ rows)) rows ts).2 ⟨fun _ h => h, hread⟩
  refine listed.imp ?_
  rintro row t ⟨hrow, ht⟩
  have hstored := hrows row hrow
  obtain ⟨own, hown, heq⟩ := h.belongingTo_recipients_eq hrs (List.mem_map_of_mem hrow)
  have hload : s.loadTasks [row] = .ok [t] :=
    loadTasks_singleton_eq_ok.2 ⟨own, hown, t, heq ▸ ht, rfl⟩
  have hid : row.id = t.id.text :=
    (h.taskTexts row hstored).eq_text (AcknowledgmentJoin.reads_of_toTask ht).1.id
  exact ⟨hstored, hid, by rw [h.task?_eq hstored hid, hload]; rfl⟩

/-! ### What a task shows -/

/-- Whether a task shows all its recipients and all names, as the tables have them. -/
structure ShowsAll (s : Store) (t : AcknowledgmentTask) : Prop where
  /-- The recipients are the entries of the task, each of them once. -/
  recipients : ∃ entries, entries.Perm (s.entriesUnder t.id) ∧
    List.Forall₂ RecipientRow.Reads entries t.recipients
  userNames : ∀ r ∈ t.recipients,
    ∃ u, s.user? r.userId = .ok (some u) ∧ r.userName = some u.fullName
  /-- The recipients stand in the order of the bytes of their names. -/
  sorted : t.recipients.Pairwise fun r r' => ∀ name name', r.userName = some name →
    r'.userName = some name' → ¬ Text.bytes name' < Text.bytes name
  creator : ∃ u, s.user? t.creatorId = .ok (some u) ∧ t.creatorName = some u.fullName
  document : ∃ d, s.document? t.document = .ok (some d) ∧ t.documentNumber = some d.number

namespace YieldsTask

/-- The recipients of a task are read from its entries, in their order. -/
theorem forall₂_recipients (h : s.YieldsTask row t) (hs : s.Constrained) :
    List.Forall₂ (fun j r => j ∈ s.recipientsOf [row.id] ∧ j.toRecipient = .ok r)
      (s.recipientsOf [row.id]) t.recipients := by
  obtain ⟨rs, hrs, ht⟩ := h.exists_toTask hs
  have hown := forall₂_belongingTo row.id hrs
  rw [hs.filter_recipientsOf (List.mem_singleton.2 rfl)] at hown
  rw [(AcknowledgmentJoin.reads_of_toTask ht).2]
  exact (List.forall₂_and_left _ _).2 ⟨fun _ hj => hj, hown⟩

/-- The rows behind the recipients are the entries of the task. -/
theorem map_row_perm (h : s.YieldsTask row t) :
    ((s.recipientsOf [row.id]).map RecipientJoin.row).Perm (s.entriesUnder t.id) := by
  have unsorted := (sortByKey_perm RecipientJoin.key ((s.recipients.filter fun r =>
    [row.id].contains r.acknowledgmentId).map fun r => ⟨r, s.userName? r.userId⟩)).map
      RecipientJoin.row
  rw [List.map_map] at unsorted
  have entries : (s.recipients.filter fun r => [row.id].contains r.acknowledgmentId) =
      s.entriesUnder t.id := by
    rw [entriesUnder, h.id]
    refine List.filter_congr fun r _ => ?_
    simp
  rw [entries] at unsorted
  simpa only [recipientsOf, entries, Function.comp_def, List.map_id'] using unsorted

/-- **A task on file shows all its recipients and all names.** -/
theorem showsAll (h : s.YieldsTask row t) (hs : s.Orderly) : s.ShowsAll t := by
  obtain ⟨rs, -, ht⟩ := h.exists_toTask hs.toConstrained
  obtain ⟨hcreator, hnumber⟩ := AcknowledgmentJoin.names_of_toTask ht
  have hreads := h.reads hs.toConstrained
  have hrecipients := h.forall₂_recipients hs.toConstrained
  refine ⟨⟨_, h.map_row_perm, ?_⟩, fun entry hentry => ?_, ?_, ?_, ?_⟩
  · rw [List.forall₂_map_left_iff]
    exact hrecipients.imp fun j r hr => (RecipientJoin.reads_of_toRecipient hr.2).1
  · obtain ⟨j, -, hj, hread⟩ := exists_left_of_mem hrecipients hentry
    obtain ⟨r, hr, -, rfl⟩ := mem_recipientsOf.1 hj
    obtain ⟨hread, hname⟩ := RecipientJoin.reads_of_toRecipient hread
    have huser := (hs.recipients r hr).2
    have htext : r.userId = entry.userId.text :=
      (hs.isCanonical_of_hasUser huser).eq_text hread.userId
    obtain ⟨u, hu, hname'⟩ := hs.exists_user?_of_hasUser (htext ▸ huser)
    exact ⟨u, hu, by rw [hname, ← hname', ← htext]⟩
  · refine pairwise_of_forall₂ hrecipients (pairwise_sortByKey RecipientJoin.key _) ?_
    rintro j k r r' ⟨hj, hr⟩ ⟨hk, hr'⟩ hkey name name' hname hname'
    obtain ⟨x, -, hown, rfl⟩ := mem_recipientsOf.1 hj
    obtain ⟨x', -, hown', rfl⟩ := mem_recipientsOf.1 hk
    have hname : s.userName? x.userId = some name :=
      (RecipientJoin.reads_of_toRecipient hr).2.symm.trans hname
    have hname' : s.userName? x'.userId = some name' :=
      (RecipientJoin.reads_of_toRecipient hr').2.symm.trans hname'
    simp only [RecipientJoin.key, hname, hname', nameKey, List.mem_singleton.1 hown,
      List.mem_singleton.1 hown', List.cons_append, List.nil_append] at hkey
    rw [Text.bytes_lt_bytes_iff]
    refine fun hlt => hkey ?_
    simp only [List.cons_lt_cons_iff, true_and]
    exact .inr (.inr (.inl hlt))
  · have huser := hs.creators row h.stored
    have htext := (hs.isCanonical_of_hasUser huser).eq_text hreads.creatorId
    obtain ⟨u, hu, hname⟩ := hs.exists_user?_of_hasUser (htext ▸ huser)
    exact ⟨u, hu, by rw [hcreator, ← hname, ← htext]; rfl⟩
  · have hregistered := hs.taskDocuments row h.stored
    have htext := (hs.isCanonical_of_isRegistered hregistered).eq_text hreads.documentId
    rw [hreads.documentKind, htext] at hregistered
    obtain ⟨d, drow, hd, hfound, hdnumber, -⟩ := hs.exists_document?_of_isRegistered hregistered
    rw [← hreads.documentKind, ← htext] at hfound
    have shown := ofRegister_apply (fun kind =>
      (s.registered? kind row.documentKind row.documentId).map DocumentRow.number) t.document.kind
    exact ⟨d, hd, hnumber.trans (shown.trans (by rw [hfound, ← hdnumber]; rfl))⟩

end YieldsTask

end Store

end Chancery
