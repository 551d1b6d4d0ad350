import Chancery.Proofs.Store.Keys
import Chancery.Proofs.Store.Writing

/-!
# The constraints of the tables

`Constrained` says what the tables promise whatever was written to them: keys are unique, columns
with a fixed vocabulary hold words of it, and a reference leads to a row. It speaks of texts only.
A store may satisfy it and still hold identifiers that do not read, so it is the right hypothesis
for results about stores of unknown origin.

An insertion checks what it could break, so each preservation lemma reads its premises off the
insertion itself. The two exceptions are the changes made in place: `mapAssignment` and
`mapRecipients` keep the constraints only for functions that keep the keys, and that is what their
lemmas ask for.

## Main definitions

* `Store.Constrained`

## Main results

* `Constrained.insertUser` and one lemma for every other write
-/

namespace Chancery.Store

/-- What the tables promise whatever was written to them. -/
structure Constrained (s : Store) : Prop where
  userIds : (s.users.map UserRow.id).Nodup
  logins : (s.users.map UserRow.login).Nodup
  documentIds : ∀ kind, ((s.register kind).map DocumentRow.id).Nodup
  assignmentIds : (s.assignments.map AssignmentRow.id).Nodup
  /-- The kind and the status of an assignment are known words. -/
  words : ∀ a ∈ s.assignments,
    (DocumentKind.ofName? a.documentKind).isSome ∧ (Status.ofName? a.status).isSome
  executors : ∀ a ∈ s.assignments, s.hasUser a.executorId
  /-- Nobody is a co-executor of one assignment twice. -/
  coExecutors_nodup : s.coExecutors.Nodup
  coExecutors : ∀ c ∈ s.coExecutors, s.hasAssignment c.assignmentId ∧ s.hasUser c.userId
  taskIds : (s.acknowledgments.map AcknowledgmentRow.id).Nodup
  taskKinds : ∀ t ∈ s.acknowledgments, (DocumentKind.ofName? t.documentKind).isSome
  creators : ∀ t ∈ s.acknowledgments, s.hasUser t.creatorId
  /-- Neither the identifier of a recipient row nor its pair of task and user comes twice. -/
  recipients_pairwise : s.recipients.Pairwise fun a b => a.clashes b = false
  recipients : ∀ r ∈ s.recipients, s.hasAcknowledgment r.acknowledgmentId ∧ s.hasUser r.userId
  /-- Whoever has confirmed has viewed. -/
  viewed : ∀ r ∈ s.recipients, r.confirmedAt.isSome → r.viewedAt.isSome

theorem constrained_empty : empty.Constrained where
  userIds := List.nodup_nil
  logins := List.nodup_nil
  documentIds kind := by cases kind <;> exact List.nodup_nil
  assignmentIds := List.nodup_nil
  words := by simp [empty]
  executors := by simp [empty]
  coExecutors_nodup := List.nodup_nil
  coExecutors := by simp [empty]
  taskIds := List.nodup_nil
  taskKinds := by simp [empty]
  creators := by simp [empty]
  recipients_pairwise := List.Pairwise.nil
  recipients := by simp [empty]
  viewed := by simp [empty]

variable {s s' : Store}

theorem clashes_comm (a b : RecipientRow) : a.clashes b = b.clashes a := by
  simp only [RecipientRow.clashes, eq_comm]

/-! ### Finding rows -/

theorem hasUser_iff {id : String} : s.hasUser id = true ↔ ∃ u ∈ s.users, u.id = id := by
  simp [hasUser]

theorem hasAssignment_iff {id : String} :
    s.hasAssignment id = true ↔ ∃ a ∈ s.assignments, a.id = id := by
  simp [hasAssignment]

theorem hasAcknowledgment_iff {id : String} :
    s.hasAcknowledgment id = true ↔ ∃ t ∈ s.acknowledgments, t.id = id := by
  simp [hasAcknowledgment]

theorem hasAssignment_iff_mem {id : String} :
    s.hasAssignment id = true ↔ id ∈ s.assignments.map AssignmentRow.id :=
  hasAssignment_iff.trans List.mem_map.symm

theorem hasAcknowledgment_iff_mem {id : String} :
    s.hasAcknowledgment id = true ↔ id ∈ s.acknowledgments.map AcknowledgmentRow.id :=
  hasAcknowledgment_iff.trans List.mem_map.symm

theorem hasAssignment_of_mem {a : AssignmentRow} (h : a ∈ s.assignments) :
    s.hasAssignment a.id = true := hasAssignment_iff.2 ⟨a, h, rfl⟩

theorem hasAcknowledgment_of_mem {t : AcknowledgmentRow} (h : t ∈ s.acknowledgments) :
    s.hasAcknowledgment t.id = true := hasAcknowledgment_iff.2 ⟨t, h, rfl⟩

theorem hasUser_append {id : String} (users : List UserRow) (h : s.hasUser id = true) :
    Store.hasUser { s with users := s.users ++ users } id = true := by
  simp only [hasUser, List.any_append, Bool.or_eq_true]
  exact .inl h

theorem hasAssignment_append {id : String} (rows : List AssignmentRow)
    (h : s.hasAssignment id = true) :
    Store.hasAssignment { s with assignments := s.assignments ++ rows } id = true := by
  simp only [hasAssignment, List.any_append, Bool.or_eq_true]
  exact .inl h

theorem hasAcknowledgment_append {id : String} (rows : List AcknowledgmentRow)
    (h : s.hasAcknowledgment id = true) :
    Store.hasAcknowledgment { s with acknowledgments := s.acknowledgments ++ rows } id = true := by
  simp only [hasAcknowledgment, List.any_append, Bool.or_eq_true]
  exact .inl h

/-! ### Keys after a change in place -/

theorem map_id_mapAssignment {id : String} {f : AssignmentRow → AssignmentRow}
    (hid : ∀ a, (f a).id = a.id) :
    (s.mapAssignment id f).assignments.map AssignmentRow.id =
      s.assignments.map AssignmentRow.id := by
  simp only [mapAssignment, List.map_map]
  refine List.map_congr_left fun a _ => ?_
  simp only [Function.comp_apply]
  split
  · exact hid a
  · rfl

theorem hasAssignment_mapAssignment {id : String} {f : AssignmentRow → AssignmentRow}
    (hid : ∀ a, (f a).id = a.id) (x : String) :
    (s.mapAssignment id f).hasAssignment x = s.hasAssignment x := by
  rw [Bool.eq_iff_iff, hasAssignment_iff_mem, hasAssignment_iff_mem, map_id_mapAssignment hid]

theorem map_id_stampComplete (task : Identifier) (now : Instant) :
    (s.stampComplete task now).2.acknowledgments.map AcknowledgmentRow.id =
      s.acknowledgments.map AcknowledgmentRow.id := by
  simp only [stampComplete, List.map_map]
  refine List.map_congr_left fun t _ => ?_
  simp only [Function.comp_apply]
  split <;> rfl

theorem hasAcknowledgment_stampComplete (task : Identifier) (now : Instant) (x : String) :
    (s.stampComplete task now).2.hasAcknowledgment x = s.hasAcknowledgment x := by
  rw [Bool.eq_iff_iff, hasAcknowledgment_iff_mem, hasAcknowledgment_iff_mem,
    map_id_stampComplete]

namespace Constrained

/-- Two tasks with one identifier are the same row. -/
theorem task_eq (h : s.Constrained) {t u : AcknowledgmentRow} (ht : t ∈ s.acknowledgments)
    (hu : u ∈ s.acknowledgments) (hid : t.id = u.id) : t = u :=
  List.inj_on_of_nodup_map h.taskIds ht hu hid

/-! ### Insertions -/

theorem insertUser (h : s.Constrained) {row : UserRow} (hi : s.insertUser row = .ok s') :
    s'.Constrained := by
  obtain ⟨hnew, rfl⟩ := insertUser_eq_ok.1 hi
  have grows : ∀ id, s.hasUser id = true →
      Store.hasUser { s with users := s.users ++ [row] } id = true :=
    fun _ => hasUser_append [row]
  exact { h with
    userIds := nodup_map_concat h.userIds fun u hu => (hnew u hu).1
    logins := nodup_map_concat h.logins fun u hu => (hnew u hu).2
    executors := fun a ha => grows _ (h.executors a ha)
    coExecutors := fun c hc => (h.coExecutors c hc).imp_right (grows _)
    creators := fun t ht => grows _ (h.creators t ht)
    recipients := fun r hr => (h.recipients r hr).imp_right (grows _) }

theorem insertDocument (h : s.Constrained) {kind : DocumentKind} {row : DocumentRow}
    (hi : s.insertDocument kind row = .ok s') : s'.Constrained := by
  obtain ⟨hnew, rfl⟩ := insertDocument_eq_ok.1 hi
  have grown := nodup_map_concat (h.documentIds kind) hnew
  cases kind with
  | incoming =>
    exact { h with documentIds := fun kind => kind.casesOn grown (h.documentIds .outgoing) }
  | outgoing =>
    exact { h with documentIds := fun kind => kind.casesOn (h.documentIds .incoming) grown }

theorem insertAssignment (h : s.Constrained) {row : AssignmentRow}
    (hi : s.insertAssignment row = .ok s') : s'.Constrained := by
  obtain ⟨hwords, hnew, huser, rfl⟩ := insertAssignment_eq_ok.1 hi
  have fresh : ∀ a ∈ s.assignments, a.id ≠ row.id := by
    intro a ha hid
    rw [← hid, hasAssignment_of_mem ha] at hnew
    exact Bool.noConfusion hnew
  exact { h with
    assignmentIds := nodup_map_concat h.assignmentIds fresh
    words := by
      simp only [List.forall_mem_append, List.forall_mem_singleton]
      exact ⟨h.words, hwords⟩
    executors := by
      simp only [List.forall_mem_append, List.forall_mem_singleton]
      exact ⟨h.executors, huser⟩
    coExecutors := fun c hc => (h.coExecutors c hc).imp_left (hasAssignment_append [row]) }

theorem insertCoExecutor (h : s.Constrained) {row : CoExecutorRow}
    (hi : s.insertCoExecutor row = .ok s') : s'.Constrained := by
  obtain ⟨hnew, hassignment, huser, rfl⟩ := insertCoExecutor_eq_ok.1 hi
  exact { h with
    coExecutors_nodup :=
      List.nodup_append_comm.1 (List.nodup_cons.2 ⟨hnew, h.coExecutors_nodup⟩)
    coExecutors := by
      simp only [List.forall_mem_append, List.forall_mem_singleton]
      exact ⟨h.coExecutors, hassignment, huser⟩ }

theorem insertCoExecutors (h : s.Constrained) {rows : List CoExecutorRow}
    (hi : s.insertCoExecutors rows = .ok s') : s'.Constrained := by
  induction rows generalizing s with
  | nil =>
    rw [insertCoExecutors_nil, Except.ok.injEq] at hi
    exact hi ▸ h
  | cons row rows ih =>
    obtain ⟨s₁, hrow, hrows⟩ := insertCoExecutors_cons_eq_ok.1 hi
    exact ih (h.insertCoExecutor hrow) hrows

theorem insertAcknowledgment (h : s.Constrained) {row : AcknowledgmentRow}
    (hi : s.insertAcknowledgment row = .ok s') : s'.Constrained := by
  obtain ⟨hkind, hnew, huser, rfl⟩ := insertAcknowledgment_eq_ok.1 hi
  have fresh : ∀ t ∈ s.acknowledgments, t.id ≠ row.id := by
    intro t ht hid
    rw [← hid, hasAcknowledgment_of_mem ht] at hnew
    exact Bool.noConfusion hnew
  exact { h with
    taskIds := nodup_map_concat h.taskIds fresh
    taskKinds := by
      simp only [List.forall_mem_append, List.forall_mem_singleton]
      exact ⟨h.taskKinds, hkind⟩
    creators := by
      simp only [List.forall_mem_append, List.forall_mem_singleton]
      exact ⟨h.creators, huser⟩
    recipients := fun r hr => (h.recipients r hr).imp_left (hasAcknowledgment_append [row]) }

theorem insertRecipient (h : s.Constrained) {row : RecipientRow}
    (hi : s.insertRecipient row = .ok s') : s'.Constrained := by
  obtain ⟨hviewed, hnew, htask, huser, rfl⟩ := insertRecipient_eq_ok.1 hi
  exact { h with
    recipients_pairwise := by
      refine List.pairwise_append.2 ⟨h.recipients_pairwise, List.pairwise_singleton _ _, ?_⟩
      intro r hr x hx
      rw [List.mem_singleton.1 hx, clashes_comm]
      exact hnew r hr
    recipients := by
      simp only [List.forall_mem_append, List.forall_mem_singleton]
      exact ⟨h.recipients, htask, huser⟩
    viewed := by
      simp only [List.forall_mem_append, List.forall_mem_singleton]
      exact ⟨h.viewed, hviewed⟩ }

theorem insertRecipients (h : s.Constrained) {rows : List RecipientRow}
    (hi : s.insertRecipients rows = .ok s') : s'.Constrained := by
  induction rows generalizing s with
  | nil =>
    rw [insertRecipients_nil, Except.ok.injEq] at hi
    exact hi ▸ h
  | cons row rows ih =>
    obtain ⟨s₁, hrow, hrows⟩ := insertRecipients_cons_eq_ok.1 hi
    exact ih (h.insertRecipient hrow) hrows

/-! ### Changes in place -/

theorem mapAssignment (h : s.Constrained) (id : String) {f : AssignmentRow → AssignmentRow}
    (hid : ∀ a, (f a).id = a.id)
    (hwords : ∀ a ∈ s.assignments,
      (DocumentKind.ofName? (f a).documentKind).isSome ∧ (Status.ofName? (f a).status).isSome)
    (husers : ∀ a ∈ s.assignments, s.hasUser (f a).executorId) :
    (s.mapAssignment id f).Constrained := by
  have same : ∀ x, (s.mapAssignment id f).hasAssignment x = s.hasAssignment x :=
    hasAssignment_mapAssignment hid
  exact { h with
    assignmentIds := by
      rw [map_id_mapAssignment hid]
      exact h.assignmentIds
    words := by
      intro a ha
      obtain ⟨b, hb, rfl⟩ := List.mem_map.1 ha
      split
      · exact hwords b hb
      · exact h.words b hb
    executors := by
      intro a ha
      obtain ⟨b, hb, rfl⟩ := List.mem_map.1 ha
      split
      · exact husers b hb
      · exact h.executors b hb
    coExecutors := fun c hc => ⟨(same _).trans (h.coExecutors c hc).1, (h.coExecutors c hc).2⟩ }

theorem dropCoExecutors (h : s.Constrained) (id : String) : (s.dropCoExecutors id).Constrained :=
  { h with
    coExecutors_nodup := h.coExecutors_nodup.filter _
    coExecutors := fun c hc => h.coExecutors c (List.mem_of_mem_filter hc) }

theorem mapRecipients (h : s.Constrained) (p : RecipientRow → Bool)
    {f : RecipientRow → RecipientRow}
    (hkeys : ∀ r, (f r).id = r.id ∧ (f r).acknowledgmentId = r.acknowledgmentId ∧
      (f r).userId = r.userId)
    (hviewed : ∀ r ∈ s.recipients, (f r).confirmedAt.isSome → (f r).viewedAt.isSome) :
    (s.mapRecipients p f).Constrained := by
  have keys : ∀ r, (if p r then f r else r).id = r.id ∧
      (if p r then f r else r).acknowledgmentId = r.acknowledgmentId ∧
      (if p r then f r else r).userId = r.userId := by
    intro r
    split
    · exact hkeys r
    · exact ⟨rfl, rfl, rfl⟩
  exact { h with
    recipients_pairwise := by
      refine List.pairwise_map.2 (h.recipients_pairwise.imp fun {a b} hab => ?_)
      simpa only [RecipientRow.clashes, keys a, keys b] using hab
    recipients := by
      intro r hr
      obtain ⟨x, hx, rfl⟩ := List.mem_map.1 hr
      rw [(keys x).2.1, (keys x).2.2]
      exact h.recipients x hx
    viewed := by
      intro r hr
      obtain ⟨x, hx, rfl⟩ := List.mem_map.1 hr
      split
      · exact hviewed x hx
      · exact h.viewed x hx }

theorem stampComplete (h : s.Constrained) (task : Identifier) (now : Instant) :
    (s.stampComplete task now).2.Constrained := by
  have keys : ∀ t : AcknowledgmentRow,
      (if AcknowledgmentRow.isOpen task t then AcknowledgmentRow.complete now t else t).id = t.id ∧
      (if AcknowledgmentRow.isOpen task t then AcknowledgmentRow.complete now t
        else t).documentKind = t.documentKind ∧
      (if AcknowledgmentRow.isOpen task t then AcknowledgmentRow.complete now t
        else t).creatorId = t.creatorId := by
    intro t
    split <;> exact ⟨rfl, rfl, rfl⟩
  exact { h with
    taskIds := by
      rw [map_id_stampComplete]
      exact h.taskIds
    taskKinds := by
      intro t ht
      obtain ⟨u, hu, rfl⟩ := List.mem_map.1 ht
      rw [(keys u).2.1]
      exact h.taskKinds u hu
    creators := by
      intro t ht
      obtain ⟨u, hu, rfl⟩ := List.mem_map.1 ht
      rw [(keys u).2.2]
      exact h.creators u hu
    recipients := fun r hr =>
      ⟨(hasAcknowledgment_stampComplete task now _).trans (h.recipients r hr).1,
        (h.recipients r hr).2⟩ }

/-! ### Deletions -/

theorem deleteAssignment (h : s.Constrained) (id : Identifier) :
    (s.deleteAssignment id).2.Constrained :=
  { h with
    assignmentIds := h.assignmentIds.sublist (List.filter_sublist.map _)
    words := fun a ha => h.words a (List.mem_of_mem_filter ha)
    executors := fun a ha => h.executors a (List.mem_of_mem_filter ha)
    coExecutors_nodup := h.coExecutors_nodup.filter _
    coExecutors := by
      intro c hc
      obtain ⟨hc, hne⟩ := List.mem_filter.1 hc
      obtain ⟨ha, hu⟩ := h.coExecutors c hc
      obtain ⟨a, ha, hid⟩ := hasAssignment_iff.1 ha
      refine ⟨hasAssignment_iff.2 ⟨a, List.mem_filter.2 ⟨ha, ?_⟩, hid⟩, hu⟩
      rw [hid]
      exact hne }

theorem deleteAcknowledgment (h : s.Constrained) (task : Identifier) :
    (s.deleteAcknowledgment task).2.Constrained :=
  { h with
    taskIds := h.taskIds.sublist (List.filter_sublist.map _)
    taskKinds := fun t ht => h.taskKinds t (List.mem_of_mem_filter ht)
    creators := fun t ht => h.creators t (List.mem_of_mem_filter ht)
    recipients_pairwise := h.recipients_pairwise.filter _
    viewed := fun r hr => h.viewed r (List.mem_of_mem_filter hr)
    recipients := by
      intro r hr
      obtain ⟨hr, hne⟩ := List.mem_filter.1 hr
      obtain ⟨ht, hu⟩ := h.recipients r hr
      obtain ⟨t, ht, hid⟩ := hasAcknowledgment_iff.1 ht
      refine ⟨hasAcknowledgment_iff.2 ⟨t, List.mem_filter.2 ⟨ht, ?_⟩, hid⟩, hu⟩
      rw [hid]
      exact hne }

/-! ### Whole operations -/

theorem addAssignment (h : s.Constrained) {id : Identifier} {now : Instant} {new : NewAssignment}
    (ha : s.addAssignment id now new = .ok s') : s'.Constrained := by
  obtain ⟨s₁, hrow, hrows⟩ := addAssignment_eq_ok.1 ha
  exact (h.insertAssignment hrow).insertCoExecutors hrows

theorem addAcknowledgment (h : s.Constrained) {id : Identifier} {entryIds : List Identifier}
    {now : Instant} {new : NewAcknowledgment}
    (ha : s.addAcknowledgment id entryIds now new = .ok s') : s'.Constrained := by
  obtain ⟨s₁, hrow, hrows⟩ := addAcknowledgment_eq_ok.1 ha
  exact (h.insertAcknowledgment hrow).insertRecipients hrows

theorem updateAssignment (h : s.Constrained) {id : Identifier} {now : Instant}
    {u : AssignmentUpdate} (hu : s.updateAssignment id now u = .ok (true, s')) :
    s'.Constrained := by
  obtain ⟨-, huser, hrows⟩ := updateAssignment_eq_ok.1 hu
  have changed : (s.mapAssignment id.text (AssignmentRow.withDetails now u)).Constrained :=
    h.mapAssignment _ (id_withDetails u) h.words fun _ _ => huser
  exact (changed.dropCoExecutors id.text).insertCoExecutors hrows

theorem setStatus (h : s.Constrained) (id : Identifier) (now : Instant) (status : Status)
    (report : Option String) (completedAt : Option Instant) :
    (s.setStatus id now status report completedAt).2.Constrained := by
  refine h.mapAssignment _ (id_moved status report completedAt)
    (fun a ha => ⟨(h.words a ha).1, ?_⟩) h.executors
  simp [AssignmentRow.moved]

/-- Setting the status of a row changes that row, and leaves the rest where it is. -/
theorem exists_split_setStatus (h : s.Constrained) {id : Identifier} {row : AssignmentRow}
    (hrow : row ∈ s.assignments) (hid : row.id = id.text) (now : Instant) (status : Status)
    (report : Option String) (completedAt : Option Instant) :
    ∃ before after, s.assignments = before ++ row :: after ∧
      (s.setStatus id now status report completedAt).2 =
        { s with assignments := before ++
            AssignmentRow.moved now status report completedAt row :: after } := by
  have hone : s.assignments.Pairwise fun a b => ¬ (a.id = id.text ∧ b.id = id.text) := by
    refine (List.pairwise_map.1 h.assignmentIds).imp fun {a b} hne hboth => hne ?_
    rw [hboth.1, hboth.2]
  obtain ⟨before, after, hstored, hmap⟩ :=
    exists_split_map (AssignmentRow.moved now status report completedAt) hone hrow hid
  exact ⟨before, after, hstored, congrArg (fun rows => { s with assignments := rows }) hmap⟩

theorem viewEntry (h : s.Constrained) (task user : Identifier) (now : Instant) :
    (s.viewEntry task user now).Constrained :=
  h.mapRecipients _ (fun _ => ⟨rfl, rfl, rfl⟩) fun _ _ _ => rfl

theorem confirmEntry (h : s.Constrained) (task user : Identifier) (now : Instant) :
    (s.confirmEntry task user now).Constrained := by
  refine h.mapRecipients _ (fun _ => ⟨rfl, rfl, rfl⟩) fun r _ _ => ?_
  cases hv : r.viewedAt <;> simp [RecipientRow.confirm, hv]

theorem markViewed (h : s.Constrained) (task user : Identifier) (now : Instant) :
    (s.markViewed task user now).2.Constrained := by
  rcases s.markViewed_cases task user now with ⟨-, he⟩ | ⟨-, -, he⟩ | ⟨-, he⟩ <;> rw [he]
  · exact h.viewEntry task user now
  · exact h
  · exact h

theorem markConfirmed (h : s.Constrained) (task user : Identifier) (now : Instant) :
    (s.markConfirmed task user now).2.Constrained := by
  have confirmed := h.confirmEntry task user now
  rcases s.markConfirmed_cases task user now with
    ⟨-, -, he⟩ | ⟨-, -, he⟩ | ⟨-, -, he⟩ | ⟨-, he⟩ <;> rw [he]
  · exact confirmed
  · exact confirmed.stampComplete task now
  · exact h
  · exact h

end Constrained

end Chancery.Store
