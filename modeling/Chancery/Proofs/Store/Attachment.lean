import Chancery.Proofs.Acknowledgments.Loading

/-!
# Rows with the rows that belong to them

Some texts of a row are read strictly: identifiers, kinds and statuses. A reading of rows succeeds
if all of these read, and else reports the first that does not, those of the subordinate rows
before those of the rows themselves (`Heeds`). This is put together along the reading, step by
step, and has nothing to do with which rows belong to which.

A reading that succeeds hands back one value for each row, in the order of the rows, and each holds
what its own subordinate rows read as, in their order. That needs the rows to have different
identifiers, for the portions are taken out while the rows are read.

## Main definitions

* `StrictText` — a text that must read, with its field
* `Heeds` — a reading that fails with the first text that does not read, and only then
* `IsReading` — one value for each row, or the first text that does not read
* `AssignmentJoin.Attaches`, `AcknowledgmentJoin.Attaches`

## Main results

* `heeds_whole`, `forall₂_whole` — readings of rows with rows that belong to them
* `hydration_attaches` — these for assignments and for tasks
-/

namespace Chancery

/-! ### Texts that are read strictly -/

/-- The forms that texts are read in. -/
inductive TextForm where
  | identifier
  | kind
  | status
deriving DecidableEq

/-- Whether a text reads in a form. -/
def TextForm.accepts : TextForm → String → Bool
  | identifier, text => (Identifier.parse? text).isSome
  | kind, text => (DocumentKind.ofName? text).isSome
  | status, text => (Status.ofName? text).isSome

/-- A text that must read in a form, with the field it stands in. -/
structure StrictText where
  field : String
  text : String
  form : TextForm
deriving DecidableEq

namespace StrictText

/-- Whether the text reads. -/
def reads (t : StrictText) : Bool := t.form.accepts t.text

/-- What is reported of a text that does not read. -/
def fault (t : StrictText) : StoreFault := .corruptValue t.field t.text

end StrictText

/-- Whether a reading succeeds where some texts read, and else reports the first that does not. -/
inductive Heeds {β : Type} (texts : List StrictText) : Except StoreFault β → Prop
  | read {b : β} (all : ∀ t ∈ texts, t.reads = true) : Heeds texts (.ok b)
  | unread {t : StrictText} (first : texts.find? (fun t => !t.reads) = some t) :
      Heeds texts (.error t.fault)

section Heeds

variable {α β ρ : Type} {texts texts' : List StrictText} {t : StrictText}
  {r : Except StoreFault α} {f : α → Except StoreFault β}

theorem heeds_nil (b : β) : Heeds [] (.ok b) := .read (by simp)

/-- A reading of one text, for which something is found or not. -/
theorem heeds_found {found : Option α} (h : t.reads = found.isSome)
    (hsome : ∀ a, found = some a → r = .ok a) (hnone : found = none → r = .error t.fault) :
    Heeds [t] r := by
  cases found with
  | some a =>
    rw [hsome a rfl]
    exact .read (by simp [h])
  | none =>
    rw [hnone rfl]
    exact .unread (by simp [h])

theorem heeds_readIdentifier (field text : String) :
    Heeds [⟨field, text, .identifier⟩] (readIdentifier field text) :=
  heeds_found rfl (fun id h => by rw [readIdentifier, h]) fun h => by rw [readIdentifier, h]; rfl

theorem heeds_readKind (field text : String) :
    Heeds [⟨field, text, .kind⟩] (readKind field text) :=
  heeds_found rfl (fun kind h => by rw [readKind, h]) fun h => by rw [readKind, h]; rfl

theorem heeds_readStatus (field text : String) :
    Heeds [⟨field, text, .status⟩] (readStatus field text) :=
  heeds_found rfl (fun status h => by rw [readStatus, h]) fun h => by rw [readStatus, h]; rfl

/-- What is read later is reported only if everything before it reads. -/
theorem Heeds.bind (h : Heeds texts r) (hf : ∀ a, Heeds texts' (f a)) :
    Heeds (texts ++ texts') (r >>= f) := by
  cases h with
  | unread first => exact .unread (by rw [List.find?_append, first, Option.some_or])
  | @read a all =>
    have hnone : texts.find? (fun t => !t.reads) = none :=
      List.find?_eq_none.2 fun t ht => by simp [all t ht]
    have later : Heeds texts' (f a) := hf a
    change Heeds (texts ++ texts') (f a)
    generalize f a = r' at later ⊢
    cases later with
    | read all' => exact .read fun t ht => (List.mem_append.1 ht).elim (all t) (all' t)
    | unread first => exact .unread (by rw [List.find?_append, hnone, Option.none_or, first])

theorem Heeds.cons (h : Heeds [t] r) (hf : ∀ a, Heeds texts (f a)) :
    Heeds (t :: texts) (r >>= f) := h.bind hf

theorem Heeds.map (h : Heeds texts r) (g : α → β) : Heeds texts (r >>= fun a => .ok (g a)) := by
  simpa only [List.append_nil] using h.bind fun a => heeds_nil (g a)

theorem heeds_mapM {read : ρ → Except StoreFault β} {textsOf : ρ → List StrictText}
    (h : ∀ row, Heeds (textsOf row) (read row)) (rows : List ρ) :
    Heeds (rows.flatMap textsOf) (rows.mapM read) := by
  induction rows with
  | nil => exact heeds_nil []
  | cons row rows ih =>
    rw [List.mapM_cons, List.flatMap_cons]
    exact (h row).bind fun b => ih.map (b :: ·)

/-- What a row takes has nothing to do with whether its texts read. -/
theorem heeds_readTaking {key : ρ → String} {read : List α → ρ → Except StoreFault β}
    {textsOf : ρ → List StrictText} (h : ∀ own row, Heeds (textsOf row) (read own row))
    (rows : List ρ) (portions : Portions α) :
    Heeds (rows.flatMap textsOf) (readTaking key read rows portions) := by
  induction rows generalizing portions with
  | nil => exact heeds_nil []
  | cons row rows ih =>
    rw [readTaking_cons, List.flatMap_cons]
    exact (h _ row).bind fun b => (ih _).map (b :: ·)

end Heeds

/-! ### The texts of the rows -/

/-- The texts of a co-executor row that must read. -/
def CoExecutorJoin.strictTexts (j : CoExecutorJoin) : List StrictText :=
  [⟨"assignment_co_executors.user_id", j.row.userId, .identifier⟩]

/-- The texts of an assignment row that must read, in the order in which they are read. -/
def AssignmentJoin.strictTexts (j : AssignmentJoin) : List StrictText :=
  [⟨"assignments.status", j.row.status, .status⟩,
   ⟨"assignments.document_kind", j.row.documentKind, .kind⟩,
   ⟨"assignments.id", j.row.id, .identifier⟩,
   ⟨"assignments.document_id", j.row.documentId, .identifier⟩,
   ⟨"assignments.executor_id", j.row.executorId, .identifier⟩]

/-- The texts of a recipient row that must read, in the order in which they are read. -/
def RecipientJoin.strictTexts (j : RecipientJoin) : List StrictText :=
  [⟨"acknowledgment_recipients.id", j.row.id, .identifier⟩,
   ⟨"acknowledgment_recipients.acknowledgment_id", j.row.acknowledgmentId, .identifier⟩,
   ⟨"acknowledgment_recipients.user_id", j.row.userId, .identifier⟩]

/-- The texts of a task row that must read, in the order in which they are read. -/
def AcknowledgmentJoin.strictTexts (j : AcknowledgmentJoin) : List StrictText :=
  [⟨"acknowledgments.document_kind", j.row.documentKind, .kind⟩,
   ⟨"acknowledgments.id", j.row.id, .identifier⟩,
   ⟨"acknowledgments.document_id", j.row.documentId, .identifier⟩,
   ⟨"acknowledgments.creator_id", j.row.creatorId, .identifier⟩]

theorem heeds_toCoExecutor (j : CoExecutorJoin) : Heeds j.strictTexts j.toCoExecutor :=
  (heeds_readIdentifier _ _).map _

theorem heeds_toAssignment (coExecutors : List CoExecutor) (j : AssignmentJoin) :
    Heeds j.strictTexts (j.toAssignment coExecutors) :=
  (heeds_readStatus _ _).cons fun _ => (heeds_readKind _ _).cons fun _ =>
    (heeds_readIdentifier _ _).cons fun _ => (heeds_readIdentifier _ _).cons fun _ =>
      (heeds_readIdentifier _ _).map _

theorem heeds_toRecipient (j : RecipientJoin) : Heeds j.strictTexts j.toRecipient :=
  (heeds_readIdentifier _ _).cons fun _ => (heeds_readIdentifier _ _).cons fun _ =>
    (heeds_readIdentifier _ _).map _

theorem heeds_toTask (recipients : List Recipient) (j : AcknowledgmentJoin) :
    Heeds j.strictTexts (j.toTask recipients) :=
  (heeds_readKind _ _).cons fun _ => (heeds_readIdentifier _ _).cons fun _ =>
    (heeds_readIdentifier _ _).cons fun _ => (heeds_readIdentifier _ _).map _

/-! ### Whole readings -/

/-- Whether a reading of rows is what it should be. If certain texts read, it has one value for each
row, in the order of the rows. Otherwise it reports one that does not read, the first. -/
structure IsReading {ρ β : Type} (texts : List StrictText) (attaches : ρ → β → Prop)
    (rows : List ρ) (r : Except StoreFault (List β)) : Prop where
  read : (∀ t ∈ texts, t.reads = true) → ∃ bs, r = .ok bs ∧ List.Forall₂ attaches rows bs
  unread : (∃ t ∈ texts, t.reads = false) → ∃ t ∈ texts, t.reads = false ∧
    texts.find? (fun t => !t.reads) = some t ∧ r = .error (.corruptValue t.field t.text)

theorem Heeds.isReading {ρ β : Type} {texts : List StrictText} {attaches : ρ → β → Prop}
    {rows : List ρ} {r : Except StoreFault (List β)} (h : Heeds texts r)
    (hok : ∀ bs, r = .ok bs → List.Forall₂ attaches rows bs) :
    IsReading texts attaches rows r := by
  cases h with
  | @read bs all =>
    refine ⟨fun _ => ⟨bs, rfl, hok bs rfl⟩, fun ⟨t, ht, hreads⟩ => ?_⟩
    rw [all t ht] at hreads
    cases hreads
  | @unread t first =>
    have ht := List.mem_of_find?_eq_some first
    have hreads : t.reads = false := by simpa using List.find?_some first
    refine ⟨fun all => ?_, fun _ => ⟨t, ht, hreads, first, rfl⟩⟩
    rw [all t ht] at hreads
    cases hreads

section Whole

variable {ρ κ α β : Type} {key : ρ → String} {owner : κ → String}
  {read : List α → ρ → Except StoreFault β} {readOwn : κ → Except StoreFault α} {rows : List ρ}
  {ownRows : List κ}

/-- Subordinate rows are read, and then the rows that they belong to. -/
theorem heeds_whole {textsOf : ρ → List StrictText} {ownTexts : κ → List StrictText}
    (hown : ∀ k, Heeds (ownTexts k) (readOwn k))
    (hread : ∀ own row, Heeds (textsOf row) (read own row)) :
    Heeds (ownRows.flatMap ownTexts ++ rows.flatMap textsOf)
      ((ownRows.mapM fun k => return (owner k, ← readOwn k)) >>= fun pairs =>
        readTaking key read rows (.ofPairs pairs)) :=
  (heeds_mapM (fun k => (hown k).map (owner k, ·)) ownRows).bind fun _ =>
    heeds_readTaking hread rows _

/-- **Each row is read with the readings of the rows that belong to it**, if no two rows have one
text that others can belong to. -/
theorem forall₂_whole {bs : List β} (hkeys : (rows.map key).Nodup)
    (h : ((ownRows.mapM fun k => return (owner k, ← readOwn k)) >>= fun pairs =>
      readTaking key read rows (.ofPairs pairs)) = .ok bs) :
    List.Forall₂ (fun row b => ∃ own, read own row = .ok b ∧
      List.Forall₂ (fun k a => readOwn k = .ok a) (ownRows.filter fun k => owner k = key row) own)
      rows bs := by
  obtain ⟨pairs, hpairs, h⟩ := bind_eq_ok.1 h
  rw [readTaking_ofPairs hkeys] at h
  exact (mapM_eq_ok.1 h).imp fun row b hb =>
    ⟨_, hb, forall₂_belongingTo (key row) hpairs⟩

end Whole

/-! ### Assignments and tasks -/

/-- A co-executor is what a row says, under the name that was looked up. -/
structure CoExecutorJoin.Reads (j : CoExecutorJoin) (c : CoExecutor) : Prop where
  userId : Identifier.parse? j.row.userId = some c.userId
  fullName : c.fullName = j.fullName

/-- Whether an assignment is what a row says, with the number and the subject from the register of
its own kind, and has the co-executors of the rows that name it, in their order. -/
structure AssignmentJoin.Attaches (coRows : List CoExecutorJoin) (j : AssignmentJoin)
    (a : Assignment) : Prop where
  reads : j.row.Reads a
  executorName : a.executorName = j.executorName
  documentNumber : a.documentNumber = ofRegister a.document.kind j.incomingNumber j.outgoingNumber
  documentSubject :
    a.documentSubject = ofRegister a.document.kind j.incomingSubject j.outgoingSubject
  coExecutors : List.Forall₂ CoExecutorJoin.Reads
    (coRows.filter fun k => k.row.assignmentId = j.row.id) a.coExecutors

/-- Whether a task is what a row says, with the number from the register of its own kind, and has
the recipients of the rows that name it, in their order. -/
structure AcknowledgmentJoin.Attaches (recipientRows : List RecipientJoin) (j : AcknowledgmentJoin)
    (t : AcknowledgmentTask) : Prop where
  reads : j.row.Reads t
  creatorName : t.creatorName = j.creatorName
  documentNumber : t.documentNumber = ofRegister t.document.kind j.incomingNumber j.outgoingNumber
  recipients : List.Forall₂ (fun k r => k.row.Reads r ∧ r.userName = k.userName)
    (recipientRows.filter fun k => k.row.acknowledgmentId = j.row.id) t.recipients

theorem attaches_hydrateAssignments {rows : List AssignmentJoin} {coRows : List CoExecutorJoin}
    {as : List Assignment} (hids : (rows.map fun j => j.row.id).Nodup)
    (h : hydrateAssignments rows coRows = .ok as) :
    List.Forall₂ (AssignmentJoin.Attaches coRows) rows as := by
  refine (forall₂_whole hids h).imp fun j a ⟨own, ha, hown⟩ => ?_
  obtain ⟨hexecutor, hnumber, hsubject⟩ := AssignmentJoin.names_of_toAssignment ha
  refine ⟨AssignmentJoin.reads_of_toAssignment ha, hexecutor, hnumber, hsubject, ?_⟩
  rw [AssignmentJoin.coExecutors_of_toAssignment ha]
  refine hown.imp fun k c hc => ?_
  obtain ⟨user, huser, rfl⟩ := Store.CoExecutorJoin.toCoExecutor_eq_ok.1 hc
  exact ⟨huser, rfl⟩

theorem attaches_hydrateTasks {rows : List AcknowledgmentJoin}
    {recipientRows : List RecipientJoin} {ts : List AcknowledgmentTask}
    (hids : (rows.map fun j => j.row.id).Nodup) (h : hydrateTasks rows recipientRows = .ok ts) :
    List.Forall₂ (AcknowledgmentJoin.Attaches recipientRows) rows ts := by
  refine (forall₂_whole hids h).imp fun j t ⟨own, ht, hown⟩ => ?_
  obtain ⟨hcreator, hnumber⟩ := AcknowledgmentJoin.names_of_toTask ht
  obtain ⟨hreads, hrecipients⟩ := AcknowledgmentJoin.reads_of_toTask ht
  refine ⟨hreads, hcreator, hnumber, ?_⟩
  rw [hrecipients]
  exact hown.imp fun k r hr => RecipientJoin.reads_of_toRecipient hr

/-- **Rows are read with exactly the rows that belong to them, or a corrupt text is reported.**
Whatever the texts of the rows are and however the subordinate rows are ordered, the rows with
different identifiers read as one value each, in their order, if all their texts read; otherwise
the first text that does not read is reported with its field. This holds of assignments with their
co-executors and of tasks with their recipients. -/
theorem hydration_attaches :
    (∀ (rows : List AssignmentJoin) (coRows : List CoExecutorJoin),
      (rows.map fun j => j.row.id).Nodup →
      IsReading
        (coRows.flatMap CoExecutorJoin.strictTexts ++ rows.flatMap AssignmentJoin.strictTexts)
        (AssignmentJoin.Attaches coRows) rows (hydrateAssignments rows coRows)) ∧
    ∀ (rows : List AcknowledgmentJoin) (recipientRows : List RecipientJoin),
      (rows.map fun j => j.row.id).Nodup →
      IsReading
        (recipientRows.flatMap RecipientJoin.strictTexts ++
          rows.flatMap AcknowledgmentJoin.strictTexts)
        (AcknowledgmentJoin.Attaches recipientRows) rows (hydrateTasks rows recipientRows) :=
  ⟨fun _ _ hids => (heeds_whole heeds_toCoExecutor heeds_toAssignment).isReading fun _ h =>
      attaches_hydrateAssignments hids h,
    fun _ _ hids => (heeds_whole heeds_toRecipient heeds_toTask).isReading fun _ h =>
      attaches_hydrateTasks hids h⟩

/-- A row of an assignment under an identifier, with what both registers have. -/
def sampleAssignment (id kind : String) : AssignmentJoin :=
  { row :=
      { id, documentId := "00000000000000000000000000000002", documentKind := kind
        executorId := "00000000000000000000000000000001", content := "Have it mended"
        deadline := none, status := "new", report := none, completedAt := none
        createdAt := .ofUnixNanos 0, updatedAt := .ofUnixNanos 0 }
    executorName := some "Boris"
    incomingNumber := some "17/b"
    incomingSubject := some "The roof"
    outgoingNumber := some "9"
    outgoingSubject := none }

/-- A row of a task under an identifier, with what both registers have. -/
def sampleTask (id kind : String) : AcknowledgmentJoin :=
  { row :=
      { id, documentId := "00000000000000000000000000000002", documentKind := kind
        content := "Read this", creatorId := "00000000000000000000000000000000"
        createdAt := .ofUnixNanos 0, completedAt := none }
    creatorName := some "Anna"
    incomingNumber := some "17/b"
    outgoingNumber := some "9" }

/-- A row of a recipient of a task. -/
def sampleRecipient (id task user : String) : RecipientJoin :=
  { row := ⟨id, task, user, none, none, .ofUnixNanos 0⟩, userName := none }

/-- Co-executors of two assignments come mixed, and with them one of a third that is not read; each
assignment has its own. Of two tasks neither is read, because a recipient is nobody; the kind that
does not read either would have come later. -/
theorem hydration_attaches_of_samples :
    let rows := [sampleAssignment "00000000000000000000000000000003" "outgoing",
      sampleAssignment "00000000000000000000000000000004" "incoming"]
    let coRows : List CoExecutorJoin :=
      [⟨⟨"00000000000000000000000000000004", "00000000000000000000000000000001"⟩, none⟩,
       ⟨⟨"00000000000000000000000000000003", "00000000000000000000000000000001"⟩, some "Boris"⟩,
       ⟨⟨"elsewhere", "00000000000000000000000000000000"⟩, some "Anna"⟩,
       ⟨⟨"00000000000000000000000000000004", "00000000000000000000000000000000"⟩, some "Anna"⟩]
    let tasks := [sampleTask "00000000000000000000000000000003" "incoming",
      sampleTask "00000000000000000000000000000004" "sideways"]
    let recipients := [sampleRecipient "00000000000000000000000000000005"
        "00000000000000000000000000000004" "00000000000000000000000000000001",
      sampleRecipient "00000000000000000000000000000006"
        "00000000000000000000000000000003" "nobody"]
    ((rows.map fun j => j.row.id).Nodup ∧ (tasks.map fun j => j.row.id).Nodup) ∧
    (∃ as, hydrateAssignments rows coRows = .ok as ∧
      List.Forall₂ (AssignmentJoin.Attaches coRows) rows as ∧
      (as.map fun a => (a.documentNumber, a.coExecutors.map CoExecutor.fullName)) =
        [(some "9", [some "Boris"]), (some "17/b", [none, some "Anna"])]) ∧
    hydrateTasks tasks recipients =
      .error (.corruptValue "acknowledgment_recipients.user_id" "nobody") := by
  intro rows coRows tasks recipients
  have hrows : (rows.map fun j => j.row.id).Nodup := by decide +kernel
  have htasks : (tasks.map fun j => j.row.id).Nodup := by decide +kernel
  refine ⟨⟨hrows, htasks⟩, ?_, ?_⟩
  · obtain ⟨as, has, hattached⟩ :=
      (hydration_attaches.1 rows coRows hrows).read (by decide +kernel)
    have hshown : ((hydrateAssignments rows coRows).toOption.map fun as => as.map fun a =>
        (a.documentNumber, a.coExecutors.map CoExecutor.fullName)) =
          some [(some "9", [some "Boris"]), (some "17/b", [none, some "Anna"])] := by
      decide +kernel
    rw [has] at hshown
    exact ⟨as, has, hattached, Option.some.inj hshown⟩
  · obtain ⟨t, -, -, hfirst, hfault⟩ :=
      (hydration_attaches.2 tasks recipients htasks).unread (by decide +kernel)
    have hnobody : (recipients.flatMap RecipientJoin.strictTexts ++
        tasks.flatMap AcknowledgmentJoin.strictTexts).find? (fun t => !t.reads) =
          some ⟨"acknowledgment_recipients.user_id", "nobody", .identifier⟩ := by
      decide +kernel
    obtain rfl := Option.some.inj (hfirst.symm.trans hnobody)
    exact hfault

end Chancery
