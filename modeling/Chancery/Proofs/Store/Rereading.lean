import Chancery.Proofs.Store.Loading

/-!
# Reading back what was written

A write is followed by a reading of the record that was written, and the reading comes too late to
undo the write. So it must not fail, and in a store of unknown origin that is not a matter of
course: texts in it need not read. What saves it is that a new record consists of new rows only,
whose texts are canonical, and that a record that is edited or moved has been read before. The
constraints of the tables do the rest: no row can belong to a record that does not exist yet.

## Main results

* `Store.Constrained.assignment?_addAssignment`, `Store.Constrained.task?_addAcknowledgment`
* `Store.Constrained.assignment?_updateAssignment`, `Store.Constrained.assignment?_setStatus`
-/

namespace Chancery.Store

variable {s s' : Store} {id : Identifier} {now : Instant}

/-! ### Assignments -/

theorem isReadable_of_mem_coExecutorRows {owner : String} {users : List Identifier}
    {c : CoExecutorRow} (hc : c ∈ coExecutorRows owner users) : IsReadable c.userId := by
  obtain ⟨user, -, rfl⟩ := List.mem_map.1 hc
  exact isReadable_text user

/-- What is known of the rows of an assignment that was found. -/
theorem Constrained.readable_of_assignment? (h : s.Constrained) {a : Assignment}
    (ha : s.assignment? id = .ok (some a)) :
    ∃ row ∈ s.assignments, row.id = id.text ∧ IsReadable row.documentId ∧
      IsReadable row.executorId ∧
      ∀ c ∈ s.coExecutors, c.assignmentId = id.text → IsReadable c.userId := by
  obtain ⟨row, hrow⟩ := exists_row_yields ha
  have hid : row.id = id.text := by rw [hrow.id, id_of_assignment? ha]
  obtain ⟨cos, hcos, -⟩ := hrow.exists_toAssignment h
  have hreads := hrow.reads h
  refine ⟨row, hrow.stored, hid, ⟨_, hreads.documentId⟩, ⟨_, hreads.executorId⟩, ?_⟩
  intro c hc hown
  exact exists_readCoExecutors_iff.1 ⟨cos, hcos⟩ c hc (by rw [hown, hid, List.mem_singleton])

/-- **A new assignment reads.** Its rows are new, since none can belong to an assignment that does
not exist. -/
theorem Constrained.assignment?_addAssignment (h : s.Constrained) {new : NewAssignment}
    (ha : s.addAssignment id now new = .ok s') : ∃ a, s'.assignment? id = .ok (some a) := by
  have hs' := h.addAssignment ha
  obtain ⟨hnew, rfl⟩ := addAssignment_eq ha
  have hcos : ∀ c ∈ s.coExecutors ++ coExecutorRows id.text new.coExecutorIds,
      c.assignmentId = id.text → IsReadable c.userId := by
    intro c hc hown
    rcases List.mem_append.1 hc with hc | hc
    · have howner := (h.coExecutors c hc).1
      rw [hown, hnew] at howner
      exact Bool.noConfusion howner
    · exact isReadable_of_mem_coExecutorRows hc
  have hmem : assignmentRow id now new ∈ s.assignments ++ [assignmentRow id now new] :=
    List.mem_append_right _ List.mem_cons_self
  obtain ⟨a, hread, -⟩ := hs'.assignment?_of_readable hmem rfl
    (isReadable_text new.document.id) (isReadable_text new.executorId) hcos
  exact ⟨a, hread⟩

/-- **An assignment that was read still reads when its details are replaced.** -/
theorem Constrained.assignment?_updateAssignment (h : s.Constrained) {a : Assignment}
    (ha : s.assignment? id = .ok (some a)) {u : AssignmentUpdate}
    (hu : s.updateAssignment id now u = .ok (true, s')) :
    ∃ a, s'.assignment? id = .ok (some a) := by
  have hs' := h.updateAssignment hu
  obtain ⟨row, hrow, hid, hdoc, -, -⟩ := h.readable_of_assignment? ha
  obtain ⟨-, -, hrows⟩ := updateAssignment_eq_ok.1 hu
  obtain rfl := insertCoExecutors_eq hrows
  have hmem : AssignmentRow.withDetails now u row ∈
      (s.mapAssignment id.text (AssignmentRow.withDetails now u)).assignments :=
    List.mem_map.2 ⟨row, hrow, if_pos hid⟩
  have hcos : ∀ c ∈ ((s.mapAssignment id.text (AssignmentRow.withDetails now u)).dropCoExecutors
      id.text).coExecutors ++ coExecutorRows id.text u.coExecutorIds,
        c.assignmentId = id.text → IsReadable c.userId := by
    intro c hc hown
    rcases List.mem_append.1 hc with hc | hc
    · -- The co-executors it had before are gone.
      exact absurd hown (of_decide_eq_true (List.mem_filter.1 hc).2)
    · exact isReadable_of_mem_coExecutorRows hc
  obtain ⟨b, hread, -⟩ := hs'.assignment?_of_readable hmem hid hdoc
    (isReadable_text u.executorId) hcos
  exact ⟨b, hread⟩

/-- **An assignment that was read still reads when it is moved.** -/
theorem Constrained.assignment?_setStatus (h : s.Constrained) {a : Assignment}
    (ha : s.assignment? id = .ok (some a)) (status : Status) (report : Option String)
    (completedAt : Option Instant) :
    ∃ a, (s.setStatus id now status report completedAt).2.assignment? id = .ok (some a) := by
  have hs' := h.setStatus id now status report completedAt
  obtain ⟨row, hrow, hid, hdoc, hexec, hcos⟩ := h.readable_of_assignment? ha
  have hmem : AssignmentRow.moved now status report completedAt row ∈
      (s.setStatus id now status report completedAt).2.assignments :=
    List.mem_map.2 ⟨row, hrow, if_pos hid⟩
  obtain ⟨b, hread, -⟩ := hs'.assignment?_of_readable hmem hid hdoc hexec hcos
  exact ⟨b, hread⟩

/-! ### Acknowledgment tasks -/

/-- **A new task reads.** -/
theorem Constrained.task?_addAcknowledgment (h : s.Constrained) {entryIds : List Identifier}
    {new : NewAcknowledgment} (ha : s.addAcknowledgment id entryIds now new = .ok s') :
    ∃ t, s'.task? id = .ok (some t) := by
  have hs' := h.addAcknowledgment ha
  obtain ⟨hnew, rfl⟩ := addAcknowledgment_eq ha
  have hrecipients : ∀ r ∈ s.recipients ++ recipientRows id now (entryIds.zip new.recipientIds),
      r.acknowledgmentId = id.text → IsReadable r.id ∧ IsReadable r.userId := by
    intro r hr hown
    rcases List.mem_append.1 hr with hr | hr
    · have howner := (h.recipients r hr).1
      rw [hown, hnew] at howner
      exact Bool.noConfusion howner
    · obtain ⟨entry, -, rfl⟩ := List.mem_map.1 hr
      exact ⟨isReadable_text entry.1, isReadable_text entry.2⟩
  have hmem : acknowledgmentRow id now new ∈ s.acknowledgments ++ [acknowledgmentRow id now new] :=
    List.mem_append_right _ List.mem_cons_self
  obtain ⟨t, hread, -⟩ := hs'.task?_of_readable hmem rfl (isReadable_text new.document.id)
    (isReadable_text new.creatorId) hrecipients
  exact ⟨t, hread⟩

end Chancery.Store
