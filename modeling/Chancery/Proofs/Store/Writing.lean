import Chancery.Store.Acknowledgments
import Chancery.Store.Assignments
import Chancery.Store.Directory

/-!
# What a write leaves behind

Every operation on the store either refuses or hands back the tables with a known difference. Here
that difference is written out once, as an equation between the two stores, so that no later proof
opens an insertion. The conditions under which a row is accepted are part of the statement: they
are what the constraints of the tables are shown from.

Rows inserted one after the other end up, if none is refused, as one block at the end of the
table; that each of them was accepted on its own is what `insertCoExecutors_eq` and
`insertRecipients_eq` forget and the invariants keep.

## Main results

* `Store.insertUser_eq_ok` and the other insertions, as equivalences
* `Store.addAssignment_eq`, `Store.addAcknowledgment_eq`, `Store.updateAssignment_eq`
-/

namespace Chancery

/-- A step followed by another succeeds when both do. -/
theorem bind_eq_ok {ε α β : Type} {x : Except ε α} {f : α → Except ε β} {b : β} :
    (x >>= f) = .ok b ↔ ∃ a, x = .ok a ∧ f a = .ok b := by
  cases x with
  | error e => simp [bind, Except.bind]
  | ok a => simp [bind, Except.bind]

theorem toOption_eq_some {ε α : Type} {x : Except ε α} {a : α} :
    x.toOption = some a ↔ x = .ok a := by
  cases x <;> simp [Except.toOption]

namespace Store

variable {s s' : Store}

/-! ### Single rows -/

theorem insertUser_eq_ok {row : UserRow} :
    s.insertUser row = .ok s' ↔
      (∀ u ∈ s.users, u.id ≠ row.id ∧ u.login ≠ row.login) ∧
        { s with users := s.users ++ [row] } = s' := by
  unfold insertUser
  split <;> rename_i h
  · simp only [List.any_eq_true, Bool.or_eq_true, decide_eq_true_eq] at h
    obtain ⟨u, hu, hc⟩ := h
    simp only [reduceCtorEq, false_iff]
    rintro ⟨hall, -⟩
    exact hc.elim (hall u hu).1 (hall u hu).2
  · simp only [List.any_eq_true, Bool.or_eq_true, decide_eq_true_eq, not_exists, not_and,
      not_or] at h
    simp only [Except.ok.injEq, iff_and_self]
    exact fun _ => h

theorem insertDocument_eq_ok {kind : DocumentKind} {row : DocumentRow} :
    s.insertDocument kind row = .ok s' ↔
      (∀ d ∈ s.register kind, d.id ≠ row.id) ∧ s.enroll kind row = s' := by
  unfold insertDocument
  split <;> rename_i h
  · simp only [List.any_eq_true, decide_eq_true_eq] at h
    obtain ⟨d, hd, hid⟩ := h
    simp only [reduceCtorEq, false_iff]
    exact fun hall => hall.1 d hd hid
  · simp only [List.any_eq_true, decide_eq_true_eq, not_exists, not_and] at h
    simp only [Except.ok.injEq, iff_and_self]
    exact fun _ => h

section Enroll

variable (kind : DocumentKind) (row : DocumentRow)

theorem register_enroll_self : (s.enroll kind row).register kind = s.register kind ++ [row] := by
  cases kind <;> rfl

theorem register_enroll_of_ne {kind kind' : DocumentKind} (h : kind ≠ kind') :
    (s.enroll kind row).register kind' = s.register kind' := by
  cases kind <;> cases kind' <;> first | rfl | exact absurd rfl h

@[simp] theorem users_enroll : (s.enroll kind row).users = s.users := by cases kind <;> rfl

@[simp] theorem assignments_enroll : (s.enroll kind row).assignments = s.assignments := by
  cases kind <;> rfl

@[simp] theorem coExecutors_enroll : (s.enroll kind row).coExecutors = s.coExecutors := by
  cases kind <;> rfl

@[simp] theorem acknowledgments_enroll :
    (s.enroll kind row).acknowledgments = s.acknowledgments := by cases kind <;> rfl

@[simp] theorem recipients_enroll : (s.enroll kind row).recipients = s.recipients := by
  cases kind <;> rfl

end Enroll

theorem insertAssignment_eq_ok {row : AssignmentRow} :
    s.insertAssignment row = .ok s' ↔
      ((DocumentKind.ofName? row.documentKind).isSome ∧ (Status.ofName? row.status).isSome) ∧
        s.hasAssignment row.id = false ∧ s.hasUser row.executorId = true ∧
        { s with assignments := s.assignments ++ [row] } = s' := by
  unfold insertAssignment
  cases DocumentKind.ofName? row.documentKind with
  | none => simp
  | some kind =>
    cases Status.ofName? row.status with
    | none => simp
    | some status => cases s.hasAssignment row.id <;> cases s.hasUser row.executorId <;> simp

theorem insertCoExecutor_eq_ok {row : CoExecutorRow} :
    s.insertCoExecutor row = .ok s' ↔
      row ∉ s.coExecutors ∧ s.hasAssignment row.assignmentId = true ∧
        s.hasUser row.userId = true ∧ { s with coExecutors := s.coExecutors ++ [row] } = s' := by
  unfold insertCoExecutor
  by_cases hc : row ∈ s.coExecutors
  · simp [hc]
  · cases s.hasAssignment row.assignmentId <;> cases s.hasUser row.userId <;> simp [hc]

theorem insertAcknowledgment_eq_ok {row : AcknowledgmentRow} :
    s.insertAcknowledgment row = .ok s' ↔
      (DocumentKind.ofName? row.documentKind).isSome ∧ s.hasAcknowledgment row.id = false ∧
        s.hasUser row.creatorId = true ∧
        { s with acknowledgments := s.acknowledgments ++ [row] } = s' := by
  unfold insertAcknowledgment
  cases DocumentKind.ofName? row.documentKind with
  | none => simp
  | some kind => cases s.hasAcknowledgment row.id <;> cases s.hasUser row.creatorId <;> simp

theorem insertRecipient_eq_ok {row : RecipientRow} :
    s.insertRecipient row = .ok s' ↔
      (row.confirmedAt.isSome → row.viewedAt.isSome) ∧
        (∀ r ∈ s.recipients, row.clashes r = false) ∧
        s.hasAcknowledgment row.acknowledgmentId = true ∧ s.hasUser row.userId = true ∧
        { s with recipients := s.recipients ++ [row] } = s' := by
  unfold insertRecipient
  by_cases hv : row.confirmedAt.isSome → row.viewedAt.isSome
  · have hcheck : (row.confirmedAt.isSome && row.viewedAt.isNone) = false := by
      cases hc : row.confirmedAt.isSome <;> simp_all
    rw [if_neg (by simp [hcheck])]
    by_cases hc : ∃ r ∈ s.recipients, row.clashes r
    · rw [if_pos (List.any_eq_true.2 hc)]
      obtain ⟨r, hr, hc⟩ := hc
      simp only [reduceCtorEq, false_iff]
      rintro ⟨-, hall, -⟩
      simp [hall r hr] at hc
    · rw [if_neg (fun h => hc (List.any_eq_true.1 h))]
      have hall : ∀ r ∈ s.recipients, row.clashes r = false :=
        fun r hr => Bool.eq_false_iff.2 fun h => hc ⟨r, hr, h⟩
      rw [and_iff_right hv, and_iff_right hall]
      cases s.hasAcknowledgment row.acknowledgmentId <;> cases s.hasUser row.userId <;> simp
  · have hcheck : (row.confirmedAt.isSome && row.viewedAt.isNone) = true := by simp_all
    rw [if_pos hcheck]
    simp [hv]

/-! ### Blocks of rows -/

@[simp] theorem insertCoExecutors_nil : s.insertCoExecutors [] = .ok s := rfl

theorem insertCoExecutors_cons_eq_ok {row : CoExecutorRow} {rows : List CoExecutorRow} :
    s.insertCoExecutors (row :: rows) = .ok s' ↔
      ∃ s₁, s.insertCoExecutor row = .ok s₁ ∧ s₁.insertCoExecutors rows = .ok s' := by
  simp only [insertCoExecutors, List.foldlM_cons, bind_eq_ok]

@[simp] theorem insertRecipients_nil : s.insertRecipients [] = .ok s := rfl

theorem insertRecipients_cons_eq_ok {row : RecipientRow} {rows : List RecipientRow} :
    s.insertRecipients (row :: rows) = .ok s' ↔
      ∃ s₁, s.insertRecipient row = .ok s₁ ∧ s₁.insertRecipients rows = .ok s' := by
  simp only [insertRecipients, List.foldlM_cons, bind_eq_ok]

theorem insertCoExecutors_eq {rows : List CoExecutorRow} (h : s.insertCoExecutors rows = .ok s') :
    s' = { s with coExecutors := s.coExecutors ++ rows } := by
  induction rows generalizing s with
  | nil => simpa using h.symm
  | cons row rows ih =>
    obtain ⟨s₁, hrow, hrows⟩ := insertCoExecutors_cons_eq_ok.1 h
    obtain ⟨-, -, -, rfl⟩ := insertCoExecutor_eq_ok.1 hrow
    rw [ih hrows]
    simp

theorem insertRecipients_eq {rows : List RecipientRow} (h : s.insertRecipients rows = .ok s') :
    s' = { s with recipients := s.recipients ++ rows } := by
  induction rows generalizing s with
  | nil => simpa using h.symm
  | cons row rows ih =>
    obtain ⟨s₁, hrow, hrows⟩ := insertRecipients_cons_eq_ok.1 h
    obtain ⟨-, -, -, -, rfl⟩ := insertRecipient_eq_ok.1 hrow
    rw [ih hrows]
    simp

/-! ### Whole operations -/

variable {id : Identifier} {now : Instant}

theorem addUser_eq_ok {new : NewUser} {user : User} :
    s.addUser id now new = .ok (user, s') ↔
      s.insertUser (userRow id now new) = .ok s' ∧ (userRow id now new).toUser = .ok user := by
  simp only [addUser, bind_eq_ok, pure, Except.pure, Except.ok.injEq, Prod.mk.injEq]
  constructor
  · rintro ⟨s₁, hs, u, hu, rfl, rfl⟩
    exact ⟨hs, hu⟩
  · rintro ⟨hs, hu⟩
    exact ⟨s', hs, user, hu, rfl, rfl⟩

theorem addDocument_eq_ok {new : NewDocument} {document : Document} :
    s.addDocument id now new = .ok (document, s') ↔
      s.insertDocument new.kind (documentRow id now new) = .ok s' ∧
        (documentRow id now new).toDocument new.kind = .ok document := by
  simp only [addDocument, bind_eq_ok, pure, Except.pure, Except.ok.injEq, Prod.mk.injEq]
  constructor
  · rintro ⟨s₁, hs, d, hd, rfl, rfl⟩
    exact ⟨hs, hd⟩
  · rintro ⟨hs, hd⟩
    exact ⟨s', hs, document, hd, rfl, rfl⟩

theorem addAssignment_eq_ok {new : NewAssignment} :
    s.addAssignment id now new = .ok s' ↔
      ∃ s₁, s.insertAssignment (assignmentRow id now new) = .ok s₁ ∧
        s₁.insertCoExecutors (coExecutorRows id.text new.coExecutorIds) = .ok s' :=
  bind_eq_ok

/-- A new assignment stands at the end of its table, and so do its co-executors. -/
theorem addAssignment_eq {new : NewAssignment} (h : s.addAssignment id now new = .ok s') :
    s.hasAssignment id.text = false ∧
      s' = { s with
        assignments := s.assignments ++ [assignmentRow id now new]
        coExecutors := s.coExecutors ++ coExecutorRows id.text new.coExecutorIds } := by
  obtain ⟨s₁, hrow, hrows⟩ := addAssignment_eq_ok.1 h
  obtain ⟨-, hnew, -, rfl⟩ := insertAssignment_eq_ok.1 hrow
  exact ⟨hnew, insertCoExecutors_eq hrows⟩

theorem addAcknowledgment_eq_ok {entryIds : List Identifier} {new : NewAcknowledgment} :
    s.addAcknowledgment id entryIds now new = .ok s' ↔
      ∃ s₁, s.insertAcknowledgment (acknowledgmentRow id now new) = .ok s₁ ∧
        s₁.insertRecipients (recipientRows id now (entryIds.zip new.recipientIds)) = .ok s' :=
  bind_eq_ok

/-- A new task stands at the end of its table, and so do its recipients. -/
theorem addAcknowledgment_eq {entryIds : List Identifier} {new : NewAcknowledgment}
    (h : s.addAcknowledgment id entryIds now new = .ok s') :
    s.hasAcknowledgment id.text = false ∧
      s' = { s with
        acknowledgments := s.acknowledgments ++ [acknowledgmentRow id now new]
        recipients :=
          s.recipients ++ recipientRows id now (entryIds.zip new.recipientIds) } := by
  obtain ⟨s₁, hrow, hrows⟩ := addAcknowledgment_eq_ok.1 h
  obtain ⟨-, hnew, -, rfl⟩ := insertAcknowledgment_eq_ok.1 hrow
  exact ⟨hnew, insertRecipients_eq hrows⟩

@[simp] theorem id_assignmentRow (new : NewAssignment) : (assignmentRow id now new).id = id.text :=
  rfl

@[simp] theorem id_acknowledgmentRow (new : NewAcknowledgment) :
    (acknowledgmentRow id now new).id = id.text := rfl

@[simp] theorem id_withDetails (u : AssignmentUpdate) (a : AssignmentRow) :
    (AssignmentRow.withDetails now u a).id = a.id := rfl

@[simp] theorem id_moved (status : Status) (report : Option String)
    (completedAt : Option Instant) (a : AssignmentRow) :
    (AssignmentRow.moved now status report completedAt a).id = a.id := rfl

theorem updateAssignment_eq_ok {u : AssignmentUpdate} :
    s.updateAssignment id now u = .ok (true, s') ↔
      s.hasAssignment id.text = true ∧ s.hasUser u.executorId.text = true ∧
        ((s.mapAssignment id.text (AssignmentRow.withDetails now u)).dropCoExecutors
          id.text).insertCoExecutors (coExecutorRows id.text u.coExecutorIds) = .ok s' := by
  unfold updateAssignment
  split
  · simp_all
  · split
    · simp_all
    · simp_all only [bind_eq_ok, pure, Except.pure, Except.ok.injEq, Prod.mk.injEq, true_and,
        exists_eq_right, Bool.not_eq_true', Bool.not_eq_false]

/-- Where there is nothing to update, nothing changes. -/
theorem eq_of_updateAssignment_false {u : AssignmentUpdate}
    (h : s.updateAssignment id now u = .ok (false, s')) : s' = s := by
  unfold updateAssignment at h
  split at h
  · exact (Prod.mk.inj (Except.ok.inj h)).2.symm
  · split at h
    · cases h
    · obtain ⟨s₁, -, h⟩ := bind_eq_ok.1 h
      cases h

/-! ### Viewing and confirming -/

/-- Viewing fills in the time of one entry, or finds it filled in, or finds no entry. -/
theorem markViewed_cases (s : Store) (task user : Identifier) (now : Instant) :
    s.recipients.any (RecipientRow.isUnseen task user) = true ∧
        s.markViewed task user now = (.recorded, s.viewEntry task user now) ∨
      s.recipients.any (RecipientRow.isUnseen task user) = false ∧
        s.hasEntry task user = true ∧ s.markViewed task user now = (.alreadyRecorded, s) ∨
      s.hasEntry task user = false ∧ s.markViewed task user now = (.notRecipient, s) := by
  unfold markViewed
  cases hu : s.recipients.any (RecipientRow.isUnseen task user) with
  | true => exact .inl ⟨rfl, if_pos rfl⟩
  | false =>
    cases he : s.hasEntry task user with
    | true => exact .inr (.inl ⟨rfl, rfl, by simp⟩)
    | false => exact .inr (.inr ⟨rfl, by simp⟩)

/-- Confirming fills in the time of one entry, and stamps the task if that was the last, or finds
the entry filled in, or finds no entry. -/
theorem markConfirmed_cases (s : Store) (task user : Identifier) (now : Instant) :
    s.recipients.any (RecipientRow.isWaiting task user) = true ∧
        (s.confirmEntry task user now).isOutstanding task = true ∧
        s.markConfirmed task user now = (⟨.recorded, false⟩, s.confirmEntry task user now) ∨
      s.recipients.any (RecipientRow.isWaiting task user) = true ∧
        (s.confirmEntry task user now).isOutstanding task = false ∧
        s.markConfirmed task user now =
          (⟨.recorded, s.acknowledgments.any (AcknowledgmentRow.isOpen task)⟩,
            ((s.confirmEntry task user now).stampComplete task now).2) ∨
      s.recipients.any (RecipientRow.isWaiting task user) = false ∧
        s.hasEntry task user = true ∧
        s.markConfirmed task user now = (⟨.alreadyRecorded, false⟩, s) ∨
      s.hasEntry task user = false ∧
        s.markConfirmed task user now = (⟨.notRecipient, false⟩, s) := by
  unfold markConfirmed
  cases hw : s.recipients.any (RecipientRow.isWaiting task user) with
  | true =>
    cases ho : (s.confirmEntry task user now).isOutstanding task with
    | true => exact .inl ⟨rfl, rfl, by simp [ho]⟩
    | false => exact .inr (.inl ⟨rfl, rfl, by simp only [ho]; rfl⟩)
  | false =>
    cases he : s.hasEntry task user with
    | true => exact .inr (.inr (.inl ⟨rfl, rfl, by simp⟩))
    | false => exact .inr (.inr (.inr ⟨rfl, by simp⟩))

end Store

end Chancery
