import Chancery.Proofs.Identifier
import Chancery.Proofs.Store.Constraints

/-!
# Rows that the tables accept

The converse of what a write leaves behind: when no row of a whole operation is refused. A block of
rows is accepted if its rows can stand side by side, next to those of the table, and lead to rows
that exist. For the subordinate rows of a new record half of that comes from the constraints of the
tables: nothing can belong to a record that does not exist yet.

Only the identifiers have to be supposed new. That they are is not a matter of the tables.

## Main results

* `Constrained.exists_addAssignment`, `exists_updateAssignment`
* `Constrained.exists_addAcknowledgment`, `addAcknowledgment_of_stranger`
-/

namespace Chancery.Store

variable {s : Store} {id : Identifier}

/-! ### Blocks of rows -/

theorem exists_insertCoExecutors {rows : List CoExecutorRow} (hnodup : rows.Nodup)
    (hnew : ∀ row ∈ rows, row ∉ s.coExecutors)
    (hrefs : ∀ row ∈ rows,
      s.hasAssignment row.assignmentId = true ∧ s.hasUser row.userId = true) :
    ∃ s', s.insertCoExecutors rows = .ok s' := by
  induction rows generalizing s with
  | nil => exact ⟨s, rfl⟩
  | cons row rows ih =>
    rw [List.nodup_cons] at hnodup
    rw [List.forall_mem_cons] at hnew hrefs
    obtain ⟨s', hrows⟩ := ih (s := { s with coExecutors := s.coExecutors ++ [row] }) hnodup.2
      (fun x hx hmem => by
        rcases List.mem_append.1 hmem with hmem | hmem
        · exact hnew.2 x hx hmem
        · exact hnodup.1 (List.mem_singleton.1 hmem ▸ hx))
      hrefs.2
    exact ⟨s', insertCoExecutors_cons_eq_ok.2
      ⟨_, insertCoExecutor_eq_ok.2 ⟨hnew.1, hrefs.1.1, hrefs.1.2, rfl⟩, hrows⟩⟩

theorem exists_insertRecipients {rows : List RecipientRow}
    (hpairwise : rows.Pairwise fun a b => a.clashes b = false)
    (hnew : ∀ row ∈ rows, ∀ r ∈ s.recipients, row.clashes r = false)
    (hviewed : ∀ row ∈ rows, row.confirmedAt.isSome → row.viewedAt.isSome)
    (hrefs : ∀ row ∈ rows,
      s.hasAcknowledgment row.acknowledgmentId = true ∧ s.hasUser row.userId = true) :
    ∃ s', s.insertRecipients rows = .ok s' := by
  induction rows generalizing s with
  | nil => exact ⟨s, rfl⟩
  | cons row rows ih =>
    rw [List.pairwise_cons] at hpairwise
    rw [List.forall_mem_cons] at hnew hviewed hrefs
    obtain ⟨s', hrows⟩ := ih (s := { s with recipients := s.recipients ++ [row] }) hpairwise.2
      (fun x hx r hr => by
        rcases List.mem_append.1 hr with hr | hr
        · exact hnew.2 x hx r hr
        · rw [List.mem_singleton.1 hr, clashes_comm]
          exact hpairwise.1 x hx)
      hviewed.2 hrefs.2
    exact ⟨s', insertRecipients_cons_eq_ok.2
      ⟨_, insertRecipient_eq_ok.2 ⟨hviewed.1, hnew.1, hrefs.1.1, hrefs.1.2, rfl⟩, hrows⟩⟩

theorem nodup_coExecutorRows {owner : String} {users : List Identifier} (h : users.Nodup) :
    (coExecutorRows owner users).Nodup :=
  h.map fun _ _ heq => Identifier.text_inj.1 (congrArg CoExecutorRow.userId heq)

/-- The entries of different users under different identifiers can stand side by side. -/
theorem pairwise_recipientRows {entryIds users : List Identifier}
    (hlength : entryIds.length = users.length) (hentries : entryIds.Nodup)
    (husers : users.Nodup) (now : Instant) :
    (recipientRows id now (entryIds.zip users)).Pairwise fun a b => a.clashes b = false := by
  rw [← List.map_fst_zip (Nat.le_of_eq hlength), List.Nodup, List.pairwise_map] at hentries
  rw [← List.map_snd_zip (Nat.le_of_eq hlength.symm), List.Nodup, List.pairwise_map] at husers
  refine List.pairwise_map.2 ((hentries.and husers).imp fun {a b} hab => ?_)
  simp [RecipientRow.clashes, Identifier.text_inj, hab.1, hab.2]

/-! ### Whole operations -/

/-- **New details are accepted** for an assignment that exists. The co-executors it had are gone
before the new ones are inserted. -/
theorem exists_updateAssignment {u : AssignmentUpdate}
    (hhas : s.hasAssignment id.text = true) (honce : u.coExecutorIds.Nodup)
    (husers : ∀ x ∈ u.executorId :: u.coExecutorIds, s.hasUser x.text = true) (now : Instant) :
    ∃ s', s.updateAssignment id now u = .ok (true, s') := by
  rw [List.forall_mem_cons] at husers
  obtain ⟨s', hrows⟩ : ∃ s',
      ((s.mapAssignment id.text (AssignmentRow.withDetails now u)).dropCoExecutors
        id.text).insertCoExecutors (coExecutorRows id.text u.coExecutorIds) = .ok s' := by
    refine exists_insertCoExecutors (nodup_coExecutorRows honce) ?_ ?_
    · intro c hc hmem
      obtain ⟨x, -, rfl⟩ := List.mem_map.1 hc
      exact of_decide_eq_true (List.mem_filter.1 hmem).2 rfl
    · intro c hc
      obtain ⟨x, hx, rfl⟩ := List.mem_map.1 hc
      exact ⟨(hasAssignment_mapAssignment (id_withDetails u) _).trans hhas, husers.2 x hx⟩
  exact ⟨s', updateAssignment_eq_ok.2 ⟨hhas, husers.1, hrows⟩⟩

namespace Constrained

/-- **A new assignment is accepted** under a new identifier, for users each of whom is named
once. -/
theorem exists_addAssignment (h : s.Constrained) {new : NewAssignment}
    (hnew : s.hasAssignment id.text = false) (honce : new.coExecutorIds.Nodup)
    (husers : ∀ u ∈ new.executorId :: new.coExecutorIds, s.hasUser u.text = true)
    (now : Instant) :
    ∃ s', s.addAssignment id now new = .ok s' := by
  rw [List.forall_mem_cons] at husers
  have hrow : s.insertAssignment (assignmentRow id now new) =
      .ok { s with assignments := s.assignments ++ [assignmentRow id now new] } :=
    insertAssignment_eq_ok.2 ⟨by simp [assignmentRow], hnew, husers.1, rfl⟩
  obtain ⟨s', hrows⟩ : ∃ s', Store.insertCoExecutors
      (coExecutorRows id.text new.coExecutorIds)
      { s with assignments := s.assignments ++ [assignmentRow id now new] } = .ok s' := by
    refine exists_insertCoExecutors (nodup_coExecutorRows honce) ?_ ?_
    · intro c hc hmem
      obtain ⟨u, -, rfl⟩ := List.mem_map.1 hc
      rw [(h.coExecutors _ hmem).1] at hnew
      cases hnew
    · intro c hc
      obtain ⟨u, hu, rfl⟩ := List.mem_map.1 hc
      exact ⟨hasAssignment_iff.2 ⟨_, List.mem_append_right _ List.mem_cons_self, rfl⟩,
        husers.2 u hu⟩
  exact ⟨s', addAssignment_eq_ok.2 ⟨_, hrow, hrows⟩⟩

/-- **A new task of a user is accepted** under new identifiers, for recipients each of whom is
named once. -/
theorem exists_addAcknowledgment (h : s.Constrained) {entryIds : List Identifier}
    {new : NewAcknowledgment} (hlength : entryIds.length = new.recipientIds.length)
    (hnew : s.hasAcknowledgment id.text = false) (hentries : entryIds.Nodup)
    (hentriesNew : ∀ e ∈ entryIds, ∀ r ∈ s.recipients, e.text ≠ r.id)
    (hcreator : s.hasUser new.creatorId.text = true) (honce : new.recipientIds.Nodup)
    (husers : ∀ u ∈ new.recipientIds, s.hasUser u.text = true) (now : Instant) :
    ∃ s', s.addAcknowledgment id entryIds now new = .ok s' := by
  have hrow : s.insertAcknowledgment (acknowledgmentRow id now new) =
      .ok { s with acknowledgments := s.acknowledgments ++ [acknowledgmentRow id now new] } :=
    insertAcknowledgment_eq_ok.2 ⟨by simp [acknowledgmentRow], hnew, hcreator, rfl⟩
  obtain ⟨s', hrows⟩ : ∃ s', Store.insertRecipients
      (recipientRows id now (entryIds.zip new.recipientIds))
      { s with acknowledgments := s.acknowledgments ++ [acknowledgmentRow id now new] } =
        .ok s' := by
    refine exists_insertRecipients (pairwise_recipientRows hlength hentries honce now) ?_ ?_ ?_
    · intro row hrow r hr
      obtain ⟨e, he, rfl⟩ := List.mem_map.1 hrow
      have hid := hentriesNew e.1 (List.of_mem_zip he).1 r hr
      have htask : id.text ≠ r.acknowledgmentId := by
        intro htask
        rw [htask, (h.recipients r hr).1] at hnew
        cases hnew
      simp [RecipientRow.clashes, hid, htask]
    · intro row hrow
      obtain ⟨e, -, rfl⟩ := List.mem_map.1 hrow
      exact fun hconfirmed => absurd hconfirmed Bool.false_ne_true
    · intro row hrow
      obtain ⟨e, he, rfl⟩ := List.mem_map.1 hrow
      exact ⟨hasAcknowledgment_iff.2 ⟨_, List.mem_append_right _ List.mem_cons_self, rfl⟩,
        husers e.2 (List.of_mem_zip he).2⟩
  exact ⟨s', addAcknowledgment_eq_ok.2 ⟨_, hrow, hrows⟩⟩

end Constrained

/-- A new task of somebody who is no user is refused, whatever else it says. -/
theorem addAcknowledgment_of_stranger {new : NewAcknowledgment}
    (hnew : s.hasAcknowledgment id.text = false)
    (hcreator : s.hasUser new.creatorId.text = false) (entryIds : List Identifier)
    (now : Instant) :
    s.addAcknowledgment id entryIds now new = .error (.database .foreignKeyViolation) := by
  have hrow : s.insertAcknowledgment (acknowledgmentRow id now new) =
      .error (.database .foreignKeyViolation) := by
    simp [insertAcknowledgment, acknowledgmentRow, hnew, hcreator]
  rw [addAcknowledgment, hrow]
  rfl

end Chancery.Store
