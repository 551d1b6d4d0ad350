import Chancery.Proofs.Identifier
import Chancery.Proofs.Store.Constraints

/-!
# The entries of one task

Viewing, confirming and stamping are conditional updates over whole tables. Here they are seen from
one task: what they do to its row (`taskUnder?`) and to its entries (`entriesUnder`). An update for
another task does nothing to either.

Whether the update for one user finds a row to change is a question about the entries alone, and so
is whether the task still waits for somebody. The lemmas `any_isUnseen`, `any_isWaiting`,
`hasEntry_eq` and `isOutstanding_eq` say so.

## Main definitions

* `Store.taskUnder?`, `Store.entriesUnder`

## Main results

* `Store.entriesUnder_viewEntry`, `Store.entriesUnder_confirmEntry`
* `Store.taskUnder?_stampComplete`
* `Store.entriesUnder_addAcknowledgment`, `Store.entriesUnder_deleteAcknowledgment`
-/

namespace Chancery.Store

variable {s s' : Store} {id id' user : Identifier} {now : Instant}

/-- The row of the task with an identifier. -/
def taskUnder? (s : Store) (id : Identifier) : Option AcknowledgmentRow :=
  s.acknowledgments.find? fun t => t.id = id.text

/-- The recipient rows of the task with an identifier. -/
def entriesUnder (s : Store) (id : Identifier) : List RecipientRow :=
  s.recipients.filter fun r => r.acknowledgmentId = id.text

theorem of_taskUnder? {row : AcknowledgmentRow} (h : s.taskUnder? id = some row) :
    row ∈ s.acknowledgments ∧ row.id = id.text := of_find?_key h

theorem taskUnder?_eq_none_iff :
    s.taskUnder? id = none ↔ s.hasAcknowledgment id.text = false := by
  rw [Bool.eq_false_iff, Ne, hasAcknowledgment_iff, taskUnder?, List.find?_eq_none]
  simp

theorem exists_taskUnder? (h : s.hasAcknowledgment id.text = true) :
    ∃ row, s.taskUnder? id = some row := by
  cases hrow : s.taskUnder? id with
  | none =>
    rw [taskUnder?_eq_none_iff.1 hrow] at h
    exact Bool.noConfusion h
  | some row => exact ⟨row, rfl⟩

theorem Constrained.taskUnder?_of_mem (h : s.Constrained) {row : AcknowledgmentRow}
    (hrow : row ∈ s.acknowledgments) (hid : row.id = id.text) : s.taskUnder? id = some row := by
  rw [taskUnder?, ← hid]
  exact find?_key_eq h.taskIds hrow

/-- Entries belong to a task that is there. -/
theorem Constrained.entriesUnder_eq_nil (h : s.Constrained)
    (absent : s.hasAcknowledgment id.text = false) : s.entriesUnder id = [] := by
  refine List.filter_eq_nil_iff.2 fun r hr hown => ?_
  have present := (h.recipients r hr).1
  rw [of_decide_eq_true hown, absent] at present
  exact Bool.noConfusion present

/-- Nobody has two entries on one task. -/
theorem Constrained.nodup_entriesUnder (h : s.Constrained) :
    ((s.entriesUnder id).map RecipientRow.userId).Nodup := by
  refine List.pairwise_map.2 (List.Pairwise.imp_of_mem ?_ (h.recipients_pairwise.filter _))
  intro a b ha hb hab
  have hown : a.acknowledgmentId = b.acknowledgmentId :=
    (of_decide_eq_true (List.mem_filter.1 ha).2).trans
      (of_decide_eq_true (List.mem_filter.1 hb).2).symm
  intro huser
  simp [RecipientRow.clashes, hown, huser] at hab

/-! ### Questions about a task are questions about its entries -/

theorem any_recipients {p : RecipientRow → Bool} (id : Identifier) :
    (s.recipients.any fun r => r.acknowledgmentId = id.text && p r) =
      (s.entriesUnder id).any p := by
  rw [entriesUnder, List.any_filter]

theorem hasEntry_eq :
    s.hasEntry id user = (s.entriesUnder id).any fun r => r.userId = user.text :=
  any_recipients id

theorem any_isUnseen :
    s.recipients.any (RecipientRow.isUnseen id user) =
      (s.entriesUnder id).any fun r => r.userId = user.text && r.viewedAt.isNone := by
  rw [← any_recipients]
  exact congrArg s.recipients.any (funext fun r => Bool.and_assoc _ _ _)

theorem any_isWaiting :
    s.recipients.any (RecipientRow.isWaiting id user) =
      (s.entriesUnder id).any fun r => r.userId = user.text && r.confirmedAt.isNone := by
  rw [← any_recipients]
  exact congrArg s.recipients.any (funext fun r => Bool.and_assoc _ _ _)

theorem isOutstanding_eq :
    s.isOutstanding id = (s.entriesUnder id).any fun r => r.confirmedAt.isNone :=
  any_recipients id

/-- Whoever has an entry has it on a task that is there. -/
theorem Constrained.exists_taskUnder?_of_any (h : s.Constrained) {p : RecipientRow → Bool}
    (hp : (s.entriesUnder id).any p = true) : ∃ row, s.taskUnder? id = some row := by
  obtain ⟨r, hr, -⟩ := List.any_eq_true.1 hp
  obtain ⟨hmem, hown⟩ := List.mem_filter.1 hr
  refine exists_taskUnder? ?_
  rw [← of_decide_eq_true hown]
  exact (h.recipients r hmem).1

/-- Whether a task can be stamped is a question about its row. -/
theorem Constrained.any_isOpen (h : s.Constrained) {row : AcknowledgmentRow}
    (hrow : s.taskUnder? id = some row) :
    s.acknowledgments.any (AcknowledgmentRow.isOpen id) = row.completedAt.isNone := by
  obtain ⟨hmem, hid⟩ := of_taskUnder? hrow
  rw [Bool.eq_iff_iff, List.any_eq_true]
  constructor
  · rintro ⟨t, ht, hopen⟩
    obtain ⟨htid, hnone⟩ := Bool.and_eq_true_iff.1 hopen
    rwa [← h.task_eq ht hmem ((of_decide_eq_true htid).trans hid.symm)]
  · intro hnone
    exact ⟨row, hmem, Bool.and_eq_true_iff.2 ⟨decide_eq_true hid, hnone⟩⟩

/-! ### Updates seen from one task -/

theorem entriesUnder_mapRecipients {p : RecipientRow → Bool} {f : RecipientRow → RecipientRow}
    (hf : ∀ r, (f r).acknowledgmentId = r.acknowledgmentId) (id : Identifier) :
    (s.mapRecipients p f).entriesUnder id =
      (s.entriesUnder id).map fun r => if p r then f r else r := by
  rw [entriesUnder, entriesUnder, mapRecipients, List.filter_map]
  congr 1
  refine List.filter_congr fun r _ => ?_
  simp only [Function.comp_apply]
  split
  · rw [hf]
  · rfl

/-- On the entries of a task the condition that they belong to it is void. -/
theorem entriesUnder_mapEntry {p q : RecipientRow → Bool} {f : RecipientRow → RecipientRow}
    (hf : ∀ r, (f r).acknowledgmentId = r.acknowledgmentId)
    (hpq : ∀ r, r.acknowledgmentId = id.text → p r = q r) :
    (s.mapRecipients p f).entriesUnder id =
      (s.entriesUnder id).map fun r => if q r then f r else r := by
  rw [entriesUnder_mapRecipients hf]
  refine List.map_congr_left fun r hr => ?_
  rw [hpq r (of_decide_eq_true (List.mem_filter.1 hr).2)]

theorem entriesUnder_viewEntry :
    (s.viewEntry id user now).entriesUnder id =
      (s.entriesUnder id).map fun r =>
        if r.userId = user.text && r.viewedAt.isNone then RecipientRow.view now r else r :=
  entriesUnder_mapEntry (f := RecipientRow.view now) (fun _ => rfl) fun r hr => by
    simp [RecipientRow.isUnseen, RecipientRow.isEntry, hr]

theorem entriesUnder_confirmEntry :
    (s.confirmEntry id user now).entriesUnder id =
      (s.entriesUnder id).map fun r =>
        if r.userId = user.text && r.confirmedAt.isNone then RecipientRow.confirm now r else r :=
  entriesUnder_mapEntry (f := RecipientRow.confirm now) (fun _ => rfl) fun r hr => by
    simp [RecipientRow.isWaiting, RecipientRow.isEntry, hr]

/-- An update for another task leaves the entries alone. -/
theorem entriesUnder_mapRecipients_of_ne {p : RecipientRow → Bool}
    {f : RecipientRow → RecipientRow} (hf : ∀ r, (f r).acknowledgmentId = r.acknowledgmentId)
    (hp : ∀ r, r.acknowledgmentId = id.text → p r = false) :
    (s.mapRecipients p f).entriesUnder id = s.entriesUnder id := by
  rw [entriesUnder_mapRecipients hf]
  refine (List.map_congr_left fun r hr => ?_).trans (List.map_id _)
  exact if_neg (Bool.eq_false_iff.1 (hp r (of_decide_eq_true (List.mem_filter.1 hr).2)))

theorem isEntry_of_ne {r : RecipientRow} (hne : id ≠ id') (hr : r.acknowledgmentId = id.text) :
    RecipientRow.isEntry id' user r = false := by
  simp [RecipientRow.isEntry, hr, hne]

theorem entriesUnder_viewEntry_of_ne (hne : id ≠ id') :
    (s.viewEntry id' user now).entriesUnder id = s.entriesUnder id :=
  entriesUnder_mapRecipients_of_ne (f := RecipientRow.view now) (fun _ => rfl) fun r hr => by
    rw [RecipientRow.isUnseen, isEntry_of_ne hne hr, Bool.false_and]

theorem entriesUnder_confirmEntry_of_ne (hne : id ≠ id') :
    (s.confirmEntry id' user now).entriesUnder id = s.entriesUnder id :=
  entriesUnder_mapRecipients_of_ne (f := RecipientRow.confirm now) (fun _ => rfl) fun r hr => by
    rw [RecipientRow.isWaiting, isEntry_of_ne hne hr, Bool.false_and]

/-- The stamp goes to the row of its own task, if that has none. -/
theorem taskUnder?_stampComplete (task : Identifier) :
    (s.stampComplete task now).2.taskUnder? id =
      (s.taskUnder? id).map fun t =>
        if AcknowledgmentRow.isOpen task t then AcknowledgmentRow.complete now t else t := by
  have hkey : ∀ t : AcknowledgmentRow,
      (if AcknowledgmentRow.isOpen task t then AcknowledgmentRow.complete now t else t).id =
        t.id := by
    intro t
    split <;> rfl
  rw [taskUnder?, taskUnder?, stampComplete, List.find?_map]
  refine congrArg (Option.map _) ?_
  refine congrArg (fun p => s.acknowledgments.find? p) (funext fun t => ?_)
  rw [Function.comp_apply, hkey]

theorem taskUnder?_stampComplete_of_ne (hne : id ≠ id') :
    (s.stampComplete id' now).2.taskUnder? id = s.taskUnder? id := by
  rw [taskUnder?_stampComplete]
  cases hrow : s.taskUnder? id with
  | none => rfl
  | some row =>
    have hclosed : AcknowledgmentRow.isOpen id' row = false := by
      simp [AcknowledgmentRow.isOpen, (of_taskUnder? hrow).2, hne]
    rw [Option.map_some, hclosed, if_neg Bool.false_ne_true]

/-- A confirmation that finds an entry to confirm leaves somebody unconfirmed, or it stamps the
task. -/
theorem markConfirmed_of_waiting {outcome : ConfirmOutcome} {task : Identifier}
    (waiting : s.recipients.any (RecipientRow.isWaiting task user) = true)
    (confirmed : s.markConfirmed task user now = (outcome, s')) :
    (s.confirmEntry task user now).isOutstanding task = true ∧ outcome = ⟨.recorded, false⟩ ∧
        s' = s.confirmEntry task user now ∨
      (s.confirmEntry task user now).isOutstanding task = false ∧
        outcome = ⟨.recorded, s.acknowledgments.any (AcknowledgmentRow.isOpen task)⟩ ∧
        s' = ((s.confirmEntry task user now).stampComplete task now).2 := by
  rcases s.markConfirmed_cases task user now with
    ⟨-, ho, he⟩ | ⟨-, ho, he⟩ | ⟨hw, -, -⟩ | ⟨hn, -⟩
  · obtain ⟨rfl, rfl⟩ := Prod.mk.inj (confirmed.symm.trans he)
    exact .inl ⟨ho, rfl, rfl⟩
  · obtain ⟨rfl, rfl⟩ := Prod.mk.inj (confirmed.symm.trans he)
    exact .inr ⟨ho, rfl, rfl⟩
  · rw [hw] at waiting
    exact Bool.noConfusion waiting
  · obtain ⟨r, hr, hw⟩ := List.any_eq_true.1 waiting
    have entry : s.hasEntry task user = true :=
      List.any_eq_true.2 ⟨r, hr, (Bool.and_eq_true_iff.1 hw).1⟩
    rw [hn] at entry
    exact Bool.noConfusion entry

/-- What such a confirmation does, seen from the task: the entry is confirmed, and if that leaves
nobody unconfirmed, the row is stamped unless it was before. -/
theorem Constrained.markConfirmed_here (h : s.Constrained) {row : AcknowledgmentRow}
    {outcome : ConfirmOutcome} (hrow : s.taskUnder? id = some row)
    (waiting : s.recipients.any (RecipientRow.isWaiting id user) = true)
    (confirmed : s.markConfirmed id user now = (outcome, s')) :
    (s'.entriesUnder id = (s.entriesUnder id).map fun r =>
        if r.userId = user.text && r.confirmedAt.isNone then RecipientRow.confirm now r else r) ∧
      ((s'.entriesUnder id).any (fun r => r.confirmedAt.isNone) = true ∧
          outcome = ⟨.recorded, false⟩ ∧ s'.taskUnder? id = some row ∨
        (s'.entriesUnder id).any (fun r => r.confirmedAt.isNone) = false ∧
          outcome = ⟨.recorded, row.completedAt.isNone⟩ ∧
          s'.taskUnder? id =
            some (if row.completedAt.isNone then AcknowledgmentRow.complete now row else row)) := by
  have rowConfirmed : (s.confirmEntry id user now).taskUnder? id = some row := hrow
  rcases markConfirmed_of_waiting waiting confirmed with ⟨ho, rfl, rfl⟩ | ⟨ho, rfl, rfl⟩
  · rw [isOutstanding_eq] at ho
    exact ⟨entriesUnder_confirmEntry, .inl ⟨ho, rfl, hrow⟩⟩
  · rw [isOutstanding_eq] at ho
    have isOpen : AcknowledgmentRow.isOpen id row = row.completedAt.isNone := by
      rw [AcknowledgmentRow.isOpen, (of_taskUnder? hrow).2]
      simp
    refine ⟨entriesUnder_confirmEntry, .inr ⟨ho, ?_, ?_⟩⟩
    · rw [h.any_isOpen hrow]
    · rw [taskUnder?_stampComplete, rowConfirmed, Option.map_some, isOpen]

/-- A confirmation of another task leaves the row and the entries alone. -/
theorem markConfirmed_of_ne {outcome : ConfirmOutcome} (hne : id ≠ id')
    (waiting : s.recipients.any (RecipientRow.isWaiting id' user) = true)
    (confirmed : s.markConfirmed id' user now = (outcome, s')) :
    s'.taskUnder? id = s.taskUnder? id ∧ s'.entriesUnder id = s.entriesUnder id := by
  have entries : (s.confirmEntry id' user now).entriesUnder id = s.entriesUnder id :=
    entriesUnder_confirmEntry_of_ne hne
  rcases markConfirmed_of_waiting waiting confirmed with ⟨-, -, rfl⟩ | ⟨-, -, rfl⟩
  · exact ⟨rfl, entries⟩
  · exact ⟨taskUnder?_stampComplete_of_ne hne, entries⟩

/-! ### New and deleted tasks -/

theorem filter_recipientRows (id' : Identifier) (es : List (Identifier × Identifier)) :
    (recipientRows id' now es).filter (fun r => r.acknowledgmentId = id.text) =
      if id' = id then recipientRows id' now es else [] := by
  split
  · rename_i h
    subst h
    refine List.filter_eq_self.2 fun r hr => ?_
    obtain ⟨e, -, rfl⟩ := List.mem_map.1 hr
    exact decide_eq_true rfl
  · rename_i h
    refine List.filter_eq_nil_iff.2 fun r hr hown => h ?_
    obtain ⟨e, -, rfl⟩ := List.mem_map.1 hr
    exact Identifier.text_inj.1 (of_decide_eq_true hown)

/-- The users of the entries of a new task, in the order in which they were named. -/
theorem map_userId_recipientRows (id : Identifier) (now : Instant)
    {entryIds users : List Identifier} (drawn : entryIds.length = users.length) :
    (recipientRows id now (entryIds.zip users)).map RecipientRow.userId =
      users.map Identifier.text := by
  rw [recipientRows, List.map_map]
  calc (entryIds.zip users).map (fun e => e.2.text)
      = ((entryIds.zip users).map Prod.snd).map Identifier.text := by rw [List.map_map]; rfl
    _ = users.map Identifier.text := by rw [List.map_snd_zip (Nat.le_of_eq drawn.symm)]

theorem entriesUnder_addAcknowledgment {entryIds : List Identifier} {new : NewAcknowledgment}
    (h : s.addAcknowledgment id' entryIds now new = .ok s') (id : Identifier) :
    s'.entriesUnder id = s.entriesUnder id ++
      if id' = id then recipientRows id' now (entryIds.zip new.recipientIds) else [] := by
  obtain ⟨-, rfl⟩ := addAcknowledgment_eq h
  rw [entriesUnder, List.filter_append, filter_recipientRows]
  rfl

theorem taskUnder?_addAcknowledgment {entryIds : List Identifier} {new : NewAcknowledgment}
    (h : s.addAcknowledgment id' entryIds now new = .ok s') (id : Identifier) :
    s'.taskUnder? id =
      if id' = id then some (acknowledgmentRow id' now new) else s.taskUnder? id := by
  obtain ⟨hnew, rfl⟩ := addAcknowledgment_eq h
  have fresh : ∀ t ∈ s.acknowledgments, t.id ≠ (acknowledgmentRow id' now new).id := by
    intro t ht hid
    have taken : s.hasAcknowledgment id'.text = true := hasAcknowledgment_iff.2 ⟨t, ht, hid⟩
    rw [hnew] at taken
    exact Bool.noConfusion taken
  have hfind := find?_key_concat AcknowledgmentRow.id fresh id.text
  simp only [show (acknowledgmentRow id' now new).id = id'.text from rfl,
    Identifier.text_inj] at hfind
  exact hfind

theorem taskUnder?_deleteAcknowledgment (s : Store) (id' id : Identifier) :
    (s.deleteAcknowledgment id').2.taskUnder? id =
      if id = id' then none else s.taskUnder? id := by
  have h := find?_key_filter_ne AcknowledgmentRow.id s.acknowledgments id'.text id.text
  simp only [Identifier.text_inj] at h
  exact h

theorem entriesUnder_deleteAcknowledgment (s : Store) (id' id : Identifier) :
    (s.deleteAcknowledgment id').2.entriesUnder id =
      if id = id' then [] else s.entriesUnder id := by
  simp only [entriesUnder, deleteAcknowledgment, List.filter_filter]
  split
  · rename_i h
    subst h
    exact List.filter_eq_nil_iff.2 fun r _ => by simp
  · rename_i h
    refine List.filter_congr fun r _ => ?_
    by_cases hr : r.acknowledgmentId = id.text <;> simp [hr, h]

end Chancery.Store
