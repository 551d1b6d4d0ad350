import Chancery.Proofs.Store.Orderly
import Chancery.Proofs.Store.Portions
import Chancery.Proofs.Store.Sorting
import Mathlib.Data.List.Forall2

/-!
# Rows and the values they read back as

`Reads` says that a value is what a row says, field by field, and leaves out what is looked up in
other tables. A reading that succeeds hands back such a value, in every store; and in an orderly
store it succeeds, because there every text that is read strictly has a value.

The second half is about two stores. What is read for one assignment depends on its row, on its
co-executor rows and on the directory entries that these name, and on nothing else, so a store
that has grown elsewhere reads the same value (`assignment?_congr`).

## Main definitions

* `AssignmentRow.Reads`, `AcknowledgmentRow.Reads`
* `Store.GrowsTo` — nothing in the directory has gone or changed

## Main results

* `Store.exists_row_of_assignment?`, `Store.Orderly.assignment?_of_mem`
* `Store.assignment?_congr`
* `Store.exists_row_of_task?`, `Store.Constrained.task?_of_readable`
-/

namespace Chancery

/-! ### Lists of readings -/

section MapM

variable {ε α β : Type} {f : α → Except ε β}

/-- A list of readings succeeds when each does. -/
theorem mapM_eq_ok {l : List α} {bs : List β} :
    l.mapM f = .ok bs ↔ List.Forall₂ (fun a b => f a = .ok b) l bs := by
  induction l generalizing bs with
  | nil => simp [pure, Except.pure, eq_comm]
  | cons a l ih =>
    simp only [List.mapM_cons, bind_eq_ok, pure, Except.pure, Except.ok.injEq,
      List.forall₂_cons_left_iff]
    constructor
    · rintro ⟨b, hb, bs', hbs, rfl⟩
      exact ⟨b, bs', hb, ih.1 hbs, rfl⟩
    · rintro ⟨b, bs', hb, hbs, rfl⟩
      exact ⟨b, hb, bs', ih.2 hbs, rfl⟩

theorem exists_mapM_eq_ok {l : List α} (h : ∀ a ∈ l, ∃ b, f a = .ok b) :
    ∃ bs, l.mapM f = .ok bs := by
  induction l with
  | nil => exact ⟨[], rfl⟩
  | cons a l ih =>
    rw [List.forall_mem_cons] at h
    obtain ⟨b, hb⟩ := h.1
    obtain ⟨bs, hbs⟩ := ih h.2
    exact ⟨b :: bs, mapM_eq_ok.2 (.cons hb (mapM_eq_ok.1 hbs))⟩

/-- Every value comes from a member of the list. -/
theorem exists_of_mem_mapM {l : List α} {bs : List β} (h : l.mapM f = .ok bs) {b : β}
    (hb : b ∈ bs) : ∃ a ∈ l, f a = .ok b := by
  induction mapM_eq_ok.1 h with
  | nil => simp at hb
  | @cons a c l bs hac hrest ih =>
    rcases List.mem_cons.1 hb with rfl | hb
    · exact ⟨a, List.mem_cons_self, hac⟩
    · obtain ⟨x, hx, hf⟩ := ih (mapM_eq_ok.2 hrest) hb
      exact ⟨x, List.mem_cons_of_mem _ hx, hf⟩

/-- Every member of the list has its value. -/
theorem exists_mem_of_mapM {l : List α} {bs : List β} (h : l.mapM f = .ok bs) {a : α}
    (ha : a ∈ l) : ∃ b ∈ bs, f a = .ok b := by
  induction mapM_eq_ok.1 h with
  | nil => simp at ha
  | @cons c b l bs hcb hrest ih =>
    rcases List.mem_cons.1 ha with rfl | ha
    · exact ⟨b, List.mem_cons_self, hcb⟩
    · obtain ⟨y, hy, hf⟩ := ih (mapM_eq_ok.2 hrest) ha
      exact ⟨y, List.mem_cons_of_mem _ hy, hf⟩

end MapM

section Forall₂

variable {α β : Type} {R : α → β → Prop} {l : List α} {l' : List β}

theorem exists_left_of_mem (h : List.Forall₂ R l l') {b : β} (hb : b ∈ l') : ∃ a ∈ l, R a b := by
  induction h with
  | nil => simp at hb
  | cons hab _ ih =>
    rcases List.mem_cons.1 hb with rfl | hb
    · exact ⟨_, List.mem_cons_self, hab⟩
    · obtain ⟨x, hx, hxb⟩ := ih hb
      exact ⟨x, List.mem_cons_of_mem _ hx, hxb⟩

theorem exists_right_of_mem (h : List.Forall₂ R l l') {a : α} (ha : a ∈ l) : ∃ b ∈ l', R a b :=
  exists_left_of_mem h.flip ha

/-- An order of one list is an order of the other, if related members agree on it. -/
theorem pairwise_of_forall₂ {P : α → α → Prop} {Q : β → β → Prop} (h : List.Forall₂ R l l')
    (hl : l.Pairwise P) (hPQ : ∀ a b a' b', R a a' → R b b' → P a b → Q a' b') :
    l'.Pairwise Q := by
  induction h with
  | nil => exact List.Pairwise.nil
  | cons hab hrest ih =>
    rw [List.pairwise_cons] at hl
    refine List.pairwise_cons.2 ⟨fun y hy => ?_, ih hl.2⟩
    obtain ⟨x, hx, hxy⟩ := exists_left_of_mem hrest hy
    exact hPQ _ _ _ _ hab hxy (hl.1 x hx)

end Forall₂

/-! ### Single texts -/

theorem Status.ofName?_eq_some {text : String} {status : Status} :
    Status.ofName? text = some status ↔ text = status.name := by
  constructor
  · intro h
    unfold Status.ofName? at h
    split at h <;> first | (obtain rfl := Option.some.inj h; rfl) | cases h
  · rintro rfl
    exact Status.ofName?_name status

theorem Status.name_injective : Function.Injective Status.name := by
  intro a b h
  rw [← Option.some.injEq, ← Status.ofName?_name a, ← Status.ofName?_name b, h]

theorem DocumentKind.ofName?_eq_some {text : String} {kind : DocumentKind} :
    DocumentKind.ofName? text = some kind ↔ text = kind.name := by
  constructor
  · intro h
    unfold DocumentKind.ofName? at h
    split at h <;> first | (obtain rfl := Option.some.inj h; rfl) | cases h
  · rintro rfl
    exact DocumentKind.ofName?_name kind

theorem DocumentKind.name_injective : Function.Injective DocumentKind.name := by
  intro a b h
  rw [← Option.some.injEq, ← DocumentKind.ofName?_name a, ← DocumentKind.ofName?_name b, h]

section Texts

variable {field text : String}

theorem readIdentifier_eq_ok {id : Identifier} :
    readIdentifier field text = .ok id ↔ Identifier.parse? text = some id := by
  unfold readIdentifier
  split <;> simp_all

theorem readKind_eq_ok {kind : DocumentKind} :
    readKind field text = .ok kind ↔ text = kind.name := by
  rw [← DocumentKind.ofName?_eq_some]
  unfold readKind
  split <;> simp_all

theorem readStatus_eq_ok {status : Status} :
    readStatus field text = .ok status ↔ text = status.name := by
  rw [← Status.ofName?_eq_some]
  unfold readStatus
  split <;> simp_all

end Texts

/-- A canonical text is the text of what it reads as. -/
theorem IsCanonical.eq_text {text : String} (h : IsCanonical text) {id : Identifier}
    (hid : Identifier.parse? text = some id) : text = id.text := by
  obtain ⟨id', rfl⟩ := h
  rw [Identifier.parse?_text, Option.some.injEq] at hid
  rw [hid]

/-- Whether a text reads as an identifier, canonical or not. -/
def IsReadable (text : String) : Prop := ∃ id, Identifier.parse? text = some id

theorem isReadable_text (id : Identifier) : IsReadable id.text := ⟨id, Identifier.parse?_text id⟩

theorem IsCanonical.isReadable {text : String} (h : IsCanonical text) : IsReadable text := by
  obtain ⟨id, rfl⟩ := h
  exact isReadable_text id

/-! ### Assignments -/

/-- An assignment is what a row says. -/
structure AssignmentRow.Reads (row : AssignmentRow) (a : Assignment) : Prop where
  id : Identifier.parse? row.id = some a.id
  documentId : Identifier.parse? row.documentId = some a.document.id
  documentKind : row.documentKind = a.document.kind.name
  executorId : Identifier.parse? row.executorId = some a.executorId
  status : row.status = a.status.name
  content : a.content = row.content
  deadline : a.deadline = row.deadline
  report : a.report = row.report
  completedAt : a.completedAt = row.completedAt
  createdAt : a.createdAt = row.createdAt
  updatedAt : a.updatedAt = row.updatedAt

theorem AssignmentJoin.reads_of_toAssignment {j : AssignmentJoin} {coExecutors : List CoExecutor}
    {a : Assignment} (h : j.toAssignment coExecutors = .ok a) : j.row.Reads a := by
  simp only [AssignmentJoin.toAssignment, bind_eq_ok, readStatus_eq_ok, readKind_eq_ok,
    readIdentifier_eq_ok, pure, Except.pure, Except.ok.injEq] at h
  obtain ⟨status, hs, kind, hk, id, hid, document, hd, executor, he, rfl⟩ := h
  exact ⟨hid, hd, hk, he, hs, rfl, rfl, rfl, rfl, rfl, rfl⟩

theorem AssignmentJoin.exists_toAssignment {j : AssignmentJoin} (coExecutors : List CoExecutor)
    (hid : IsReadable j.row.id) (hdoc : IsReadable j.row.documentId)
    (hexec : IsReadable j.row.executorId)
    (hwords : (DocumentKind.ofName? j.row.documentKind).isSome ∧
      (Status.ofName? j.row.status).isSome) :
    ∃ a, j.toAssignment coExecutors = .ok a := by
  obtain ⟨id, hid⟩ := hid
  obtain ⟨document, hdoc⟩ := hdoc
  obtain ⟨executor, hexec⟩ := hexec
  obtain ⟨kind, hkind⟩ := Option.isSome_iff_exists.1 hwords.1
  obtain ⟨status, hstatus⟩ := Option.isSome_iff_exists.1 hwords.2
  simp only [AssignmentJoin.toAssignment, bind_eq_ok, readStatus_eq_ok, readKind_eq_ok,
    readIdentifier_eq_ok, pure, Except.pure, Except.ok.injEq]
  exact ⟨_, status, Status.ofName?_eq_some.1 hstatus, kind, DocumentKind.ofName?_eq_some.1 hkind,
    id, hid, document, hdoc, executor, hexec, rfl⟩

namespace Store

variable {s s' : Store} {id : Identifier}

/-- Rows with different identifiers are read with what belongs to them. -/
theorem hydrateAssignments_eq {rows : List AssignmentJoin} (coRows : List CoExecutorJoin)
    (hids : (rows.map fun j => j.row.id).Nodup) :
    hydrateAssignments rows coRows =
      (readCoExecutors coRows).bind fun cos =>
        rows.mapM fun j => j.toAssignment (belongingTo j.row.id cos) :=
  congrArg (readCoExecutors coRows).bind (funext fun _ => readTaking_ofPairs hids)

theorem loadAssignments_eq_ok {rows : List AssignmentRow} {as : List Assignment}
    (hids : (rows.map AssignmentRow.id).Nodup) :
    s.loadAssignments rows = .ok as ↔
      ∃ cos, readCoExecutors (s.coExecutorsOf (rows.map AssignmentRow.id)) = .ok cos ∧
        List.Forall₂ (fun row a =>
          (s.joinAssignment row).toAssignment (belongingTo row.id cos) = .ok a) rows as := by
  rw [loadAssignments, hydrateAssignments_eq _ (by rwa [List.map_map])]
  refine bind_eq_ok.trans (exists_congr fun cos => and_congr_right fun _ => ?_)
  rw [mapM_eq_ok, List.forall₂_map_left_iff]
  rfl

/-- Rows of the table have different identifiers. -/
theorem Constrained.nodup_assignmentIds (h : s.Constrained) {rows : List AssignmentRow}
    (hrows : ∀ row ∈ rows, row ∈ s.assignments) (once : rows.Nodup) :
    (rows.map AssignmentRow.id).Nodup :=
  List.Nodup.map_on (fun row hrow row' hrow' =>
    List.inj_on_of_nodup_map h.assignmentIds (hrows row hrow) (hrows row' hrow')) once

/-- An assignment that is found is what some row under its identifier says. -/
theorem exists_row_of_assignment? {a : Assignment} (h : s.assignment? id = .ok (some a)) :
    ∃ row ∈ s.assignments, row.id = id.text ∧ row.Reads a := by
  unfold assignment? at h
  obtain ⟨as, has, hhead⟩ : ∃ as,
      s.loadAssignments (s.assignments.filter fun a => a.id = id.text) = .ok as ∧
        as.head? = some a := by
    cases hload : s.loadAssignments (s.assignments.filter fun a => a.id = id.text) with
    | error e => rw [hload] at h; cases h
    | ok as => rw [hload] at h; exact ⟨as, rfl, Except.ok.inj h⟩
  obtain ⟨cos, -, hread⟩ := bind_eq_ok.1 has
  obtain ⟨row, hrow, ha⟩ := exists_of_head?_readTaking hread hhead
  obtain ⟨hmem, hid⟩ := List.mem_filter.1 hrow
  exact ⟨row, hmem, of_decide_eq_true hid, AssignmentJoin.reads_of_toAssignment ha⟩

theorem assignment?_eq_none (h : s.hasAssignment id.text = false) :
    s.assignment? id = .ok none := by
  have none_left : s.assignments.filter (fun a => a.id = id.text) = [] := by
    refine List.filter_eq_nil_iff.2 fun a ha hid => ?_
    rw [hasAssignment_iff.2 ⟨a, ha, of_decide_eq_true hid⟩] at h
    exact Bool.noConfusion h
  have no_rows : s.coExecutorsOf [] = [] := by
    simp [coExecutorsOf, sortByKey, sortBy]
  rw [assignment?, none_left, loadAssignments, List.map_nil, List.map_nil, no_rows]
  rfl

theorem hasAssignment_of_assignment? {a : Assignment} (h : s.assignment? id = .ok (some a)) :
    s.hasAssignment id.text = true := by
  obtain ⟨row, hrow, hid, -⟩ := exists_row_of_assignment? h
  exact hasAssignment_iff.2 ⟨row, hrow, hid⟩

/-- What is read under an identifier carries it. -/
theorem id_of_assignment? {a : Assignment} (ha : s.assignment? id = .ok (some a)) : a.id = id := by
  obtain ⟨row, -, hid, hreads⟩ := exists_row_of_assignment? ha
  have hread := hreads.id
  rw [hid, Identifier.parse?_text] at hread
  exact (Option.some.inj hread).symm

/-- Under the identifier of a row, that row is read. -/
theorem Constrained.assignment?_eq (h : s.Constrained) {row : AssignmentRow}
    (hrow : row ∈ s.assignments) (hid : row.id = id.text) :
    s.assignment? id = (s.loadAssignments [row]).map List.head? := by
  have alone : s.assignments.filter (fun a => a.id = id.text) = [row] := by
    rw [← hid]
    exact filter_key_eq h.assignmentIds hrow
  rw [assignment?, alone]

theorem CoExecutorJoin.toCoExecutor_eq_ok {j : CoExecutorJoin} {c : CoExecutor} :
    j.toCoExecutor = .ok c ↔
      ∃ user, Identifier.parse? j.row.userId = some user ∧ ⟨user, j.fullName⟩ = c := by
  simp only [CoExecutorJoin.toCoExecutor, bind_eq_ok, readIdentifier_eq_ok, pure, Except.pure,
    Except.ok.injEq]

theorem mem_coExecutorsOf {ids : List String} {j : CoExecutorJoin} :
    j ∈ s.coExecutorsOf ids ↔
      ∃ c ∈ s.coExecutors, c.assignmentId ∈ ids ∧ ⟨c, s.userName? c.userId⟩ = j := by
  simp only [coExecutorsOf, mem_sortByKey, List.mem_map, List.mem_filter,
    List.contains_iff_mem, and_assoc]

/-- Co-executors can be read if their users can. -/
theorem exists_readCoExecutors_iff {ids : List String} :
    (∃ cos, readCoExecutors (s.coExecutorsOf ids) = .ok cos) ↔
      ∀ c ∈ s.coExecutors, c.assignmentId ∈ ids → IsReadable c.userId := by
  constructor
  · rintro ⟨cos, hcos⟩ c hc hown
    obtain ⟨p, -, hp⟩ := exists_mem_of_mapM hcos (mem_coExecutorsOf.2 ⟨c, hc, hown, rfl⟩)
    obtain ⟨_, hread, -⟩ := bind_eq_ok.1 hp
    obtain ⟨user, huser, -⟩ := CoExecutorJoin.toCoExecutor_eq_ok.1 hread
    exact ⟨user, huser⟩
  · intro h
    refine exists_mapM_eq_ok fun j hj => ?_
    obtain ⟨c, hc, hown, rfl⟩ := mem_coExecutorsOf.1 hj
    obtain ⟨user, huser⟩ := h c hc hown
    exact ⟨_, bind_eq_ok.2
      ⟨_, CoExecutorJoin.toCoExecutor_eq_ok.2 ⟨user, huser, rfl⟩, rfl⟩⟩

/-- A row is read under its identifier if its own texts and those of its co-executors read. -/
theorem Constrained.assignment?_of_readable (h : s.Constrained) {row : AssignmentRow}
    (hrow : row ∈ s.assignments) (hid : row.id = id.text) (hdoc : IsReadable row.documentId)
    (hexec : IsReadable row.executorId)
    (hcos : ∀ c ∈ s.coExecutors, c.assignmentId = id.text → IsReadable c.userId) :
    ∃ a, s.assignment? id = .ok (some a) ∧ row.Reads a := by
  obtain ⟨cos, hcos⟩ : ∃ cos, readCoExecutors (s.coExecutorsOf [row.id]) = .ok cos := by
    refine exists_readCoExecutors_iff.2 fun c hc hown => hcos c hc ?_
    rw [← hid, List.mem_singleton.1 hown]
  obtain ⟨a, ha⟩ := (s.joinAssignment row).exists_toAssignment (belongingTo row.id cos)
    (hid ▸ isReadable_text id) hdoc hexec (h.words row hrow)
  refine ⟨a, ?_, AssignmentJoin.reads_of_toAssignment ha⟩
  have hload : s.loadAssignments [row] = .ok [a] :=
    (loadAssignments_eq_ok (by simp)).2 ⟨cos, hcos, .cons ha .nil⟩
  rw [h.assignment?_eq hrow hid, hload]
  rfl

theorem Orderly.isReadable_coExecutor (h : s.Orderly) {c : CoExecutorRow}
    (hc : c ∈ s.coExecutors) : IsReadable c.userId :=
  (h.isCanonical_of_hasUser (h.coExecutors c hc).2).isReadable

/-- In an orderly store every row reads, and is found under its identifier. -/
theorem Orderly.assignment?_of_mem (h : s.Orderly) {row : AssignmentRow}
    (hrow : row ∈ s.assignments) (hid : row.id = id.text) :
    ∃ a, s.assignment? id = .ok (some a) ∧ row.Reads a :=
  h.assignment?_of_readable hrow hid
    (h.isCanonical_of_isRegistered (h.assignmentDocuments row hrow)).isReadable
    (h.isCanonical_of_hasUser (h.executors row hrow)).isReadable
    fun _ hc _ => h.isReadable_coExecutor hc

/-- In an orderly store an identifier is either unknown or the one of an assignment that reads. -/
theorem Orderly.assignment?_cases (h : s.Orderly) (id : Identifier) :
    s.hasAssignment id.text = false ∧ s.assignment? id = .ok none ∨
      ∃ row ∈ s.assignments, row.id = id.text ∧
        ∃ a, s.assignment? id = .ok (some a) ∧ row.Reads a := by
  cases hhas : s.hasAssignment id.text with
  | false => exact .inl ⟨rfl, assignment?_eq_none hhas⟩
  | true =>
    obtain ⟨row, hrow, hid⟩ := hasAssignment_iff.1 hhas
    exact .inr ⟨row, hrow, hid, h.assignment?_of_mem hrow hid⟩

end Store

/-! ### Acknowledgment tasks -/

/-- A task is what a row says. -/
structure AcknowledgmentRow.Reads (row : AcknowledgmentRow) (t : AcknowledgmentTask) : Prop where
  id : Identifier.parse? row.id = some t.id
  documentId : Identifier.parse? row.documentId = some t.document.id
  documentKind : row.documentKind = t.document.kind.name
  creatorId : Identifier.parse? row.creatorId = some t.creatorId
  content : t.content = row.content
  createdAt : t.createdAt = row.createdAt
  completedAt : t.completedAt = row.completedAt

theorem AcknowledgmentJoin.reads_of_toTask {j : AcknowledgmentJoin} {recipients : List Recipient}
    {t : AcknowledgmentTask} (h : j.toTask recipients = .ok t) :
    j.row.Reads t ∧ t.recipients = recipients := by
  simp only [AcknowledgmentJoin.toTask, bind_eq_ok, readKind_eq_ok, readIdentifier_eq_ok, pure,
    Except.pure, Except.ok.injEq] at h
  obtain ⟨kind, hk, id, hid, document, hd, creator, hc, rfl⟩ := h
  exact ⟨⟨hid, hd, hk, hc, rfl, rfl, rfl⟩, rfl⟩

theorem AcknowledgmentJoin.exists_toTask {j : AcknowledgmentJoin} (recipients : List Recipient)
    (hid : IsReadable j.row.id) (hdoc : IsReadable j.row.documentId)
    (hcreator : IsReadable j.row.creatorId)
    (hkind : (DocumentKind.ofName? j.row.documentKind).isSome) :
    ∃ t, j.toTask recipients = .ok t := by
  obtain ⟨id, hid⟩ := hid
  obtain ⟨document, hdoc⟩ := hdoc
  obtain ⟨creator, hcreator⟩ := hcreator
  obtain ⟨kind, hkind⟩ := Option.isSome_iff_exists.1 hkind
  simp only [AcknowledgmentJoin.toTask, bind_eq_ok, readKind_eq_ok, readIdentifier_eq_ok, pure,
    Except.pure, Except.ok.injEq]
  exact ⟨_, kind, DocumentKind.ofName?_eq_some.1 hkind, id, hid, document, hdoc, creator,
    hcreator, rfl⟩

theorem RecipientJoin.toRecipient_eq_ok {j : RecipientJoin} {r : Recipient} :
    j.toRecipient = .ok r ↔
      ∃ id, Identifier.parse? j.row.id = some id ∧
        ∃ task, Identifier.parse? j.row.acknowledgmentId = some task ∧
          ∃ user, Identifier.parse? j.row.userId = some user ∧
            ⟨id, task, user, j.userName, j.row.viewedAt, j.row.confirmedAt,
              j.row.createdAt⟩ = r := by
  simp only [RecipientJoin.toRecipient, bind_eq_ok, readIdentifier_eq_ok, pure, Except.pure,
    Except.ok.injEq]

namespace Store

variable {s s' : Store} {id : Identifier}

/-- Rows with different identifiers are read with what belongs to them. -/
theorem hydrateTasks_eq {rows : List AcknowledgmentJoin} (recipientRows : List RecipientJoin)
    (hids : (rows.map fun j => j.row.id).Nodup) :
    hydrateTasks rows recipientRows =
      (readRecipients recipientRows).bind fun rs =>
        rows.mapM fun j => j.toTask (belongingTo j.row.id rs) :=
  congrArg (readRecipients recipientRows).bind (funext fun _ => readTaking_ofPairs hids)

theorem loadTasks_eq_ok {rows : List AcknowledgmentRow} {ts : List AcknowledgmentTask}
    (hids : (rows.map AcknowledgmentRow.id).Nodup) :
    s.loadTasks rows = .ok ts ↔
      ∃ rs, readRecipients (s.recipientsOf (rows.map AcknowledgmentRow.id)) = .ok rs ∧
        List.Forall₂ (fun row t =>
          (s.joinAcknowledgment row).toTask (belongingTo row.id rs) = .ok t) rows ts := by
  rw [loadTasks, hydrateTasks_eq _ (by rwa [List.map_map])]
  refine bind_eq_ok.trans (exists_congr fun rs => and_congr_right fun _ => ?_)
  rw [mapM_eq_ok, List.forall₂_map_left_iff]
  rfl

/-- Rows of the table have different identifiers. -/
theorem Constrained.nodup_taskIds (h : s.Constrained) {rows : List AcknowledgmentRow}
    (hrows : ∀ row ∈ rows, row ∈ s.acknowledgments) (once : rows.Nodup) :
    (rows.map AcknowledgmentRow.id).Nodup :=
  List.Nodup.map_on (fun row hrow row' hrow' =>
    List.inj_on_of_nodup_map h.taskIds (hrows row hrow) (hrows row' hrow')) once

theorem mem_recipientsOf {ids : List String} {j : RecipientJoin} :
    j ∈ s.recipientsOf ids ↔
      ∃ r ∈ s.recipients, r.acknowledgmentId ∈ ids ∧ ⟨r, s.userName? r.userId⟩ = j := by
  simp only [recipientsOf, mem_sortByKey, List.mem_map, List.mem_filter,
    List.contains_iff_mem, and_assoc]

/-- Recipients can be read if their texts can. -/
theorem exists_readRecipients {ids : List String}
    (h : ∀ r ∈ s.recipients, r.acknowledgmentId ∈ ids →
      IsReadable r.id ∧ IsReadable r.acknowledgmentId ∧ IsReadable r.userId) :
    ∃ rs, readRecipients (s.recipientsOf ids) = .ok rs := by
  refine exists_mapM_eq_ok fun j hj => ?_
  obtain ⟨r, hr, howner, rfl⟩ := mem_recipientsOf.1 hj
  obtain ⟨⟨entry, hentry⟩, ⟨task, htask⟩, user, huser⟩ := h r hr howner
  exact ⟨_, bind_eq_ok.2
    ⟨_, RecipientJoin.toRecipient_eq_ok.2 ⟨entry, hentry, task, htask, user, huser, rfl⟩, rfl⟩⟩

/-- A task that is found is what some row under its identifier says, and its recipients are the
users of the recipient rows that belong to that row. -/
theorem exists_row_of_task? {t : AcknowledgmentTask} (h : s.task? id = .ok (some t)) :
    ∃ row ∈ s.acknowledgments, row.id = id.text ∧ row.Reads t ∧
      ∀ user, user ∈ t.recipients.map Recipient.userId ↔
        ∃ r ∈ s.recipients, r.acknowledgmentId = id.text ∧
          Identifier.parse? r.userId = some user := by
  unfold task? tasksWhere at h
  set rows := sortByKeyDesc taskKey (s.acknowledgments.filter fun t => t.id = id.text) with hdef
  obtain ⟨ts, hts, hhead⟩ : ∃ ts, s.loadTasks rows = .ok ts ∧ ts.head? = some t := by
    cases hload : s.loadTasks rows with
    | error e => rw [hload] at h; cases h
    | ok ts => rw [hload] at h; exact ⟨ts, rfl, Except.ok.inj h⟩
  obtain ⟨rs, hrs, hread⟩ := bind_eq_ok.1 hts
  obtain ⟨row, hrow, hread⟩ := exists_of_head?_readTaking hread hhead
  obtain ⟨hmem, hid⟩ := List.mem_filter.1 (mem_sortByKeyDesc.1 hrow)
  have hid : row.id = id.text := of_decide_eq_true hid
  obtain ⟨hreads, hrecipients⟩ := AcknowledgmentJoin.reads_of_toTask hread
  refine ⟨row, hmem, hid, hreads, fun user => ?_⟩
  simp only [List.mem_map, hrecipients, mem_belongingTo]
  constructor
  · rintro ⟨r, hr, rfl⟩
    obtain ⟨k, hk, hpair⟩ := exists_of_mem_mapM hrs hr
    obtain ⟨x, hx, hown, rfl⟩ := mem_recipientsOf.1 hk
    obtain ⟨r', hr', hpair⟩ := bind_eq_ok.1 hpair
    obtain ⟨howner, rfl⟩ := Prod.mk.inj (Except.ok.inj hpair)
    obtain ⟨_, -, _, -, user, huser, rfl⟩ := RecipientJoin.toRecipient_eq_ok.1 hr'
    exact ⟨x, hx, howner.trans hid, huser⟩
  · rintro ⟨x, hx, howner, huser⟩
    have hk : ⟨x, s.userName? x.userId⟩ ∈ s.recipientsOf (rows.map AcknowledgmentRow.id) :=
      mem_recipientsOf.2 ⟨x, hx, List.mem_map.2 ⟨row, hrow, hid.trans howner.symm⟩, rfl⟩
    obtain ⟨pair, hpair, hread⟩ := exists_mem_of_mapM hrs hk
    obtain ⟨r, hr, heq⟩ := bind_eq_ok.1 hread
    rw [← Except.ok.inj heq] at hpair
    obtain ⟨_, -, _, -, user', huser', rfl⟩ := RecipientJoin.toRecipient_eq_ok.1 hr
    rw [howner.trans hid.symm] at hpair
    exact ⟨_, hpair, Option.some.inj (huser'.symm.trans huser)⟩

theorem id_of_task? {t : AcknowledgmentTask} (ht : s.task? id = .ok (some t)) : t.id = id := by
  obtain ⟨row, -, hid, hreads, -⟩ := exists_row_of_task? ht
  have hread := hreads.id
  rw [hid, Identifier.parse?_text] at hread
  exact (Option.some.inj hread).symm

/-- A task is read under its identifier if its own texts and those of its recipients read. -/
theorem Constrained.task?_of_readable (h : s.Constrained) {row : AcknowledgmentRow}
    (hrow : row ∈ s.acknowledgments) (hid : row.id = id.text) (hdoc : IsReadable row.documentId)
    (hcreator : IsReadable row.creatorId)
    (hrecipients : ∀ r ∈ s.recipients, r.acknowledgmentId = id.text →
      IsReadable r.id ∧ IsReadable r.userId) :
    ∃ t, s.task? id = .ok (some t) ∧ row.Reads t := by
  have alone : sortByKeyDesc taskKey (s.acknowledgments.filter fun t => t.id = id.text) =
      [row] := by
    rw [← hid, filter_key_eq h.taskIds hrow]
    rfl
  obtain ⟨rs, hrs⟩ : ∃ rs, readRecipients (s.recipientsOf [row.id]) = .ok rs := by
    refine exists_readRecipients fun r hr howner => ?_
    have howner : r.acknowledgmentId = id.text := by rw [← hid, List.mem_singleton.1 howner]
    exact ⟨(hrecipients r hr howner).1, howner ▸ isReadable_text id, (hrecipients r hr howner).2⟩
  obtain ⟨t, ht⟩ := (s.joinAcknowledgment row).exists_toTask (belongingTo row.id rs)
    (hid ▸ isReadable_text id) hdoc hcreator (h.taskKinds row hrow)
  refine ⟨t, ?_, (AcknowledgmentJoin.reads_of_toTask ht).1⟩
  have hload : s.loadTasks [row] = .ok [t] :=
    (loadTasks_eq_ok (by simp)).2 ⟨rs, hrs, .cons ht .nil⟩
  rw [task?, tasksWhere, alone, hload]
  rfl

/-! ### Growth of the directory -/

/-- Users and documents have been added, and nothing in the directory has gone or changed. -/
structure GrowsTo (s s' : Store) : Prop where
  users : s.users <+: s'.users
  registers : ∀ kind, s.register kind <+: s'.register kind

namespace GrowsTo

theorem refl (s : Store) : s.GrowsTo s := ⟨List.prefix_rfl, fun _ => List.prefix_rfl⟩

theorem trans {s₁ s₂ s₃ : Store} (h : s₁.GrowsTo s₂) (h' : s₂.GrowsTo s₃) : s₁.GrowsTo s₃ :=
  ⟨h.users.trans h'.users, fun kind => (h.registers kind).trans (h'.registers kind)⟩

theorem of_eq (hu : s'.users = s.users) (hi : s'.incoming = s.incoming)
    (ho : s'.outgoing = s.outgoing) : s.GrowsTo s' where
  users := hu ▸ List.prefix_rfl
  registers kind := by
    cases kind with
    | incoming => exact (congrArg (s.incoming <+: ·) hi).mpr List.prefix_rfl
    | outgoing => exact (congrArg (s.outgoing <+: ·) ho).mpr List.prefix_rfl

/-- What stands in the longer list first stands there first already in the shorter one. -/
theorem find?_eq {α : Type} {p : α → Bool} {l l' : List α} (h : l <+: l') (hp : ∃ a ∈ l, p a) :
    l'.find? p = l.find? p := by
  obtain ⟨rest, rfl⟩ := h
  obtain ⟨a, ha⟩ := Option.isSome_iff_exists.1 (List.find?_isSome.2 hp)
  rw [List.find?_append, ha, Option.some_or]

theorem userName?_eq (h : s.GrowsTo s') {user : String} (hu : s.hasUser user = true) :
    s'.userName? user = s.userName? user := by
  obtain ⟨u, hu, hid⟩ := hasUser_iff.1 hu
  rw [userName?, userName?, find?_eq h.users ⟨u, hu, decide_eq_true hid⟩]

theorem registered?_eq (h : s.GrowsTo s') {kindName document : String}
    (hd : s.IsRegistered kindName document) (kind : DocumentKind) :
    s'.registered? kind kindName document = s.registered? kind kindName document := by
  obtain ⟨kind', rfl, d, hd, hid⟩ := hd
  unfold registered?
  split
  · rename_i hname
    have hkind : kind' = kind := by
      have := DocumentKind.ofName?_eq_some.2 hname
      rwa [DocumentKind.ofName?_name, Option.some.injEq] at this
    subst hkind
    exact find?_eq (h.registers kind') ⟨d, hd, decide_eq_true hid⟩
  · rfl

end GrowsTo

theorem growsTo_enroll (s : Store) (kind : DocumentKind) (row : DocumentRow) :
    s.GrowsTo (s.enroll kind row) where
  users := users_enroll kind row ▸ List.prefix_rfl
  registers kind' := by
    by_cases h : kind = kind'
    · subst h
      rw [register_enroll_self]
      exact List.prefix_append _ _
    · exact register_enroll_of_ne row h ▸ List.prefix_rfl

/-- **What is read for an assignment depends on its own rows.** If they are the same in a store
whose directory has only grown, the same value is read. -/
theorem Orderly.assignment?_congr (h : s.Orderly) (grows : s.GrowsTo s')
    (hrows : s'.assignments.filter (fun a => a.id = id.text) =
      s.assignments.filter fun a => a.id = id.text)
    (hcos : s'.coExecutors.filter (fun c => c.assignmentId = id.text) =
      s.coExecutors.filter fun c => c.assignmentId = id.text) :
    s'.assignment? id = s.assignment? id := by
  rw [assignment?, assignment?, hrows]
  set rows := s.assignments.filter fun a => a.id = id.text with hdef
  have own : ∀ x, (rows.map AssignmentRow.id).contains x →  x = id.text := by
    intro x hx
    obtain ⟨row, hrow, rfl⟩ := List.mem_map.1 (List.contains_iff_mem.1 hx)
    exact of_decide_eq_true (List.mem_filter.1 hrow).2
  have narrow : ∀ cos : List CoExecutorRow,
      cos.filter (fun c => (rows.map AssignmentRow.id).contains c.assignmentId) =
        (cos.filter fun c => c.assignmentId = id.text).filter fun c =>
          (rows.map AssignmentRow.id).contains c.assignmentId := by
    intro cos
    rw [List.filter_filter]
    refine List.filter_congr fun c _ => ?_
    cases hc : (rows.map AssignmentRow.id).contains c.assignmentId with
    | false => rfl
    | true => simp [own _ hc]
  have joins : rows.map s'.joinAssignment = rows.map s.joinAssignment := by
    refine List.map_congr_left fun row hrow => ?_
    have hrow := List.mem_of_mem_filter hrow
    simp only [joinAssignment, grows.userName?_eq (h.executors row hrow),
      grows.registered?_eq (h.assignmentDocuments row hrow)]
  have coJoins : s'.coExecutorsOf (rows.map AssignmentRow.id) =
      s.coExecutorsOf (rows.map AssignmentRow.id) := by
    rw [coExecutorsOf, coExecutorsOf, narrow, hcos, ← narrow]
    refine congrArg _ (List.map_congr_left fun c hc => ?_)
    rw [grows.userName?_eq (h.coExecutors c (List.mem_of_mem_filter hc)).2]
  rw [loadAssignments, loadAssignments, joins, coJoins]

end Store

end Chancery
