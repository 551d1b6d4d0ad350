import Chancery.Proofs.Identifier
import Chancery.Proofs.Store.Constraints

/-!
# Orderly stores

The constraints of the tables allow texts in the columns of identifiers that do not read, and say
nothing about the documents that assignments and tasks refer to, because a reference to one of two
registers is no foreign key. A store that only the office has written to is better than that: its
identifiers are canonical texts and its documents are registered. `Orderly` adds these two to the
constraints, and nothing else.

Only the key columns have to be mentioned. An executor or a co-executor is a user by constraint,
and so carries a canonical text because users do.

## Main definitions

* `IsCanonical`, `Store.IsRegistered`
* `Store.Orderly`

## Main results

* `Orderly.addUser` and one lemma for every other operation of the office
-/

namespace Chancery

/-- Whether a text is the canonical text of an identifier. -/
def IsCanonical (text : String) : Prop := ∃ id : Identifier, id.text = text

theorem isCanonical_text (id : Identifier) : IsCanonical id.text := ⟨id, rfl⟩

namespace Store

/-- Whether a document is in the register that a reference names. -/
def IsRegistered (s : Store) (kindName id : String) : Prop :=
  ∃ kind : DocumentKind, kind.name = kindName ∧ ∃ d ∈ s.register kind, d.id = id

/-- What holds of a store that only the office has written to. -/
structure Orderly (s : Store) : Prop extends Constrained s where
  userTexts : ∀ u ∈ s.users, IsCanonical u.id
  documentTexts : ∀ kind, ∀ d ∈ s.register kind, IsCanonical d.id
  assignmentTexts : ∀ a ∈ s.assignments, IsCanonical a.id
  assignmentDocuments : ∀ a ∈ s.assignments, s.IsRegistered a.documentKind a.documentId
  taskTexts : ∀ t ∈ s.acknowledgments, IsCanonical t.id
  taskDocuments : ∀ t ∈ s.acknowledgments, s.IsRegistered t.documentKind t.documentId
  recipientTexts : ∀ r ∈ s.recipients, IsCanonical r.id

theorem orderly_empty : empty.Orderly where
  toConstrained := constrained_empty
  userTexts := by simp [empty]
  documentTexts kind := by cases kind <;> simp [empty, register]
  assignmentTexts := by simp [empty]
  assignmentDocuments := by simp [empty]
  taskTexts := by simp [empty]
  taskDocuments := by simp [empty]
  recipientTexts := by simp [empty]

variable {s s' : Store} {id : Identifier} {now : Instant}

theorem mem_register_enroll {kind kind' : DocumentKind} {row d : DocumentRow} :
    d ∈ (s.enroll kind row).register kind' ↔ d ∈ s.register kind' ∨ kind = kind' ∧ d = row := by
  by_cases h : kind = kind'
  · subst h
    simp [register_enroll_self]
  · simp [register_enroll_of_ne row h, h]

theorem IsRegistered.enroll {kindName id : String} (h : s.IsRegistered kindName id)
    (kind : DocumentKind) (row : DocumentRow) :
    (s.enroll kind row).IsRegistered kindName id := by
  obtain ⟨k, hk, d, hd, hid⟩ := h
  exact ⟨k, hk, d, mem_register_enroll.2 (.inl hd), hid⟩

namespace Orderly

/-- Every user that a constraint speaks of has a canonical text. -/
theorem isCanonical_of_hasUser (h : s.Orderly) {id : String} (hid : s.hasUser id = true) :
    IsCanonical id := by
  obtain ⟨u, hu, rfl⟩ := hasUser_iff.1 hid
  exact h.userTexts u hu

theorem isCanonical_of_isRegistered (h : s.Orderly) {kindName id : String}
    (hid : s.IsRegistered kindName id) : IsCanonical id := by
  obtain ⟨kind, -, d, hd, rfl⟩ := hid
  exact h.documentTexts kind d hd

/-! ### Entries into the directory -/

theorem addUser (h : s.Orderly) {new : NewUser} {user : User}
    (ha : s.addUser id now new = .ok (user, s')) : s'.Orderly := by
  have hi := (addUser_eq_ok.1 ha).1
  have constrained := h.toConstrained.insertUser hi
  obtain ⟨-, rfl⟩ := insertUser_eq_ok.1 hi
  exact { h with
    toConstrained := constrained
    userTexts := by
      simp only [List.forall_mem_append, List.forall_mem_singleton]
      exact ⟨h.userTexts, isCanonical_text id⟩ }

theorem addDocument (h : s.Orderly) {new : NewDocument} {document : Document}
    (ha : s.addDocument id now new = .ok (document, s')) : s'.Orderly := by
  have hi := (addDocument_eq_ok.1 ha).1
  have constrained := h.toConstrained.insertDocument hi
  obtain ⟨-, rfl⟩ := insertDocument_eq_ok.1 hi
  exact {
    toConstrained := constrained
    userTexts := by simpa using h.userTexts
    documentTexts := by
      intro kind d hd
      rcases mem_register_enroll.1 hd with hd | ⟨-, rfl⟩
      · exact h.documentTexts kind d hd
      · exact isCanonical_text id
    assignmentTexts := by simpa using h.assignmentTexts
    assignmentDocuments := by
      simp only [assignments_enroll]
      exact fun a ha => (h.assignmentDocuments a ha).enroll _ _
    taskTexts := by simpa using h.taskTexts
    taskDocuments := by
      simp only [acknowledgments_enroll]
      exact fun t ht => (h.taskDocuments t ht).enroll _ _
    recipientTexts := by simpa using h.recipientTexts }

/-! ### Assignments -/

theorem addAssignment (h : s.Orderly) {new : NewAssignment}
    (hd : s.IsRegistered new.document.kind.name new.document.id.text)
    (ha : s.addAssignment id now new = .ok s') : s'.Orderly := by
  have constrained := h.toConstrained.addAssignment ha
  obtain ⟨-, rfl⟩ := addAssignment_eq ha
  exact { h with
    toConstrained := constrained
    assignmentTexts := by
      simp only [List.forall_mem_append, List.forall_mem_singleton]
      exact ⟨h.assignmentTexts, isCanonical_text id⟩
    assignmentDocuments := by
      simp only [List.forall_mem_append, List.forall_mem_singleton]
      exact ⟨h.assignmentDocuments, hd⟩ }

/-- A change in place that keeps the keys of the rows keeps a store orderly if it keeps the
constraints. -/
theorem mapAssignment (h : s.Orderly) {text : String} {f : AssignmentRow → AssignmentRow}
    (hid : ∀ a, (f a).id = a.id)
    (hdoc : ∀ a, (f a).documentKind = a.documentKind ∧ (f a).documentId = a.documentId)
    (hc : (s.mapAssignment text f).Constrained) : (s.mapAssignment text f).Orderly :=
  { h with
    toConstrained := hc
    assignmentTexts := by
      intro a ha
      obtain ⟨b, hb, rfl⟩ := List.mem_map.1 ha
      split
      · rw [hid]
        exact h.assignmentTexts b hb
      · exact h.assignmentTexts b hb
    assignmentDocuments := by
      intro a ha
      obtain ⟨b, hb, rfl⟩ := List.mem_map.1 ha
      split
      · rw [(hdoc b).1, (hdoc b).2]
        exact h.assignmentDocuments b hb
      · exact h.assignmentDocuments b hb }

theorem updateAssignment (h : s.Orderly) {u : AssignmentUpdate}
    (hu : s.updateAssignment id now u = .ok (true, s')) : s'.Orderly := by
  have constrained := h.toConstrained.updateAssignment hu
  obtain ⟨-, huser, hrows⟩ := updateAssignment_eq_ok.1 hu
  have changed : (s.mapAssignment id.text (AssignmentRow.withDetails now u)).Orderly :=
    h.mapAssignment (id_withDetails u) (fun _ => ⟨rfl, rfl⟩)
      (h.toConstrained.mapAssignment _ (id_withDetails u) h.words fun _ _ => huser)
  obtain rfl := insertCoExecutors_eq hrows
  exact { changed with toConstrained := constrained }

theorem setStatus (h : s.Orderly) (status : Status) (report : Option String)
    (completedAt : Option Instant) :
    (s.setStatus id now status report completedAt).2.Orderly :=
  h.mapAssignment (id_moved status report completedAt) (fun _ => ⟨rfl, rfl⟩)
    (h.toConstrained.setStatus id now status report completedAt)

theorem deleteAssignment (h : s.Orderly) (id : Identifier) : (s.deleteAssignment id).2.Orderly :=
  { h with
    toConstrained := h.toConstrained.deleteAssignment id
    assignmentTexts := fun a ha => h.assignmentTexts a (List.mem_of_mem_filter ha)
    assignmentDocuments := fun a ha => h.assignmentDocuments a (List.mem_of_mem_filter ha) }

/-! ### Acknowledgments -/

theorem addAcknowledgment (h : s.Orderly) {entryIds : List Identifier} {new : NewAcknowledgment}
    (hd : s.IsRegistered new.document.kind.name new.document.id.text)
    (ha : s.addAcknowledgment id entryIds now new = .ok s') : s'.Orderly := by
  have constrained := h.toConstrained.addAcknowledgment ha
  obtain ⟨-, rfl⟩ := addAcknowledgment_eq ha
  exact { h with
    toConstrained := constrained
    taskTexts := by
      simp only [List.forall_mem_append, List.forall_mem_singleton]
      exact ⟨h.taskTexts, isCanonical_text id⟩
    taskDocuments := by
      simp only [List.forall_mem_append, List.forall_mem_singleton]
      exact ⟨h.taskDocuments, hd⟩
    recipientTexts := by
      simp only [List.forall_mem_append]
      refine ⟨h.recipientTexts, fun r hr => ?_⟩
      obtain ⟨e, -, rfl⟩ := List.mem_map.1 hr
      exact isCanonical_text e.1 }

theorem mapRecipients (h : s.Orderly) {p : RecipientRow → Bool} {f : RecipientRow → RecipientRow}
    (hid : ∀ r, (f r).id = r.id) (hc : (s.mapRecipients p f).Constrained) :
    (s.mapRecipients p f).Orderly :=
  { h with
    toConstrained := hc
    recipientTexts := by
      intro r hr
      obtain ⟨x, hx, rfl⟩ := List.mem_map.1 hr
      split
      · rw [hid]
        exact h.recipientTexts x hx
      · exact h.recipientTexts x hx }

theorem stampComplete (h : s.Orderly) (task : Identifier) :
    (s.stampComplete task now).2.Orderly :=
  { h with
    toConstrained := h.toConstrained.stampComplete task now
    taskTexts := by
      intro t ht
      obtain ⟨u, hu, rfl⟩ := List.mem_map.1 ht
      split <;> exact h.taskTexts u hu
    taskDocuments := by
      intro t ht
      obtain ⟨u, hu, rfl⟩ := List.mem_map.1 ht
      split <;> exact h.taskDocuments u hu }

theorem viewEntry (h : s.Orderly) (task user : Identifier) :
    (s.viewEntry task user now).Orderly :=
  h.mapRecipients (fun _ => rfl) (h.toConstrained.viewEntry task user now)

theorem confirmEntry (h : s.Orderly) (task user : Identifier) :
    (s.confirmEntry task user now).Orderly :=
  h.mapRecipients (fun _ => rfl) (h.toConstrained.confirmEntry task user now)

theorem markConfirmed (h : s.Orderly) (task user : Identifier) :
    (s.markConfirmed task user now).2.Orderly := by
  have confirmed : (s.confirmEntry task user now).Orderly := h.confirmEntry task user
  rcases s.markConfirmed_cases task user now with
    ⟨-, -, he⟩ | ⟨-, -, he⟩ | ⟨-, -, he⟩ | ⟨-, he⟩ <;> rw [he]
  · exact confirmed
  · exact confirmed.stampComplete task
  · exact h
  · exact h

theorem deleteAcknowledgment (h : s.Orderly) (task : Identifier) :
    (s.deleteAcknowledgment task).2.Orderly :=
  { h with
    toConstrained := h.toConstrained.deleteAcknowledgment task
    taskTexts := fun t ht => h.taskTexts t (List.mem_of_mem_filter ht)
    taskDocuments := fun t ht => h.taskDocuments t (List.mem_of_mem_filter ht)
    recipientTexts := fun r hr => h.recipientTexts r (List.mem_of_mem_filter hr) }

end Orderly

end Store

end Chancery
