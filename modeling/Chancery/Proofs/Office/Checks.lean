import Chancery.Office.Acknowledgments
import Chancery.Office.Assignments
import Chancery.Proofs.Store.Hydration
import Mathlib.Data.List.Find

/-!
# What a passed check has established

Every operation that writes is one check followed by one write. The checks are chains of readings,
each of which may refuse, and the lemmas here take a whole chain apart once: what is known of the
actor, of the texts of the request and of the store when nothing was refused. They are stated as
equivalences where the check is a single question, and as the facts that later proofs need where
it is a chain.

A check only reads, so none of these lemmas speaks of two stores.

## Main results

* `Policy.authorize_eq_ok`, `Intake.identifier_eq_ok`, `Store.requireUsers_eq_ok` and the other
  single questions
* `Office.of_checkCreate`, `Office.of_checkUpdate`, `Office.of_readMove`, `Office.of_checkDelete`,
  `Office.of_checkAcknowledgment`
-/

namespace Chancery

/-! ### Single questions -/

namespace Policy

theorem requireActor_eq_ok {actor : Option Actor} {a : Actor} :
    requireActor actor = .ok a ↔ actor = some a := by
  cases actor <;> simp [requireActor]

theorem authorize_eq_ok {actor : Option Actor} {op : Operation} {a : Actor} :
    authorize actor op = .ok a ↔ actor = some a ∧ permits a op = true := by
  cases actor with
  | none => simp [authorize]
  | some b =>
    simp only [authorize, Option.some.injEq]
    split
    · rename_i hp
      simp only [Except.ok.injEq, iff_self_and]
      rintro rfl
      exact hp
    · rename_i hp
      simp only [reduceCtorEq, false_iff]
      rintro ⟨rfl, hb⟩
      exact hp hb

/-- What is left to the staff is permitted to administrators and clerks, and to nobody else. -/
theorem permits_eq_of_staff (a : Actor) {op : Operation}
    (hop : requirementFor op = .anyRole staff) :
    permits a op = (a.holds .admin || a.holds .clerk) := by
  rw [permits, hop]
  simp [Actor.holdsAny, staff]

theorem authorizeTransition_eq_ok {actor : Actor} {executor : Identifier}
    {source target : Status} :
    authorizeTransition actor executor source target = .ok () ↔
      transitionPermitted actor executor source target = true := by
  unfold authorizeTransition
  split <;> simp_all

end Policy

namespace Intake

theorem identifier_eq_ok {what text : String} {id : Identifier} :
    identifier what text = .ok id ↔ Identifier.parse? text = some id := by
  unfold identifier
  split <;> simp_all

section Distinct

variable {α : Type} [DecidableEq α] {l : List α} {a : α}

@[simp] theorem mem_distinct : a ∈ distinct l ↔ a ∈ l := by
  induction l with
  | nil => rfl
  | cons b l ih =>
    rw [distinct, List.mem_cons, List.mem_cons, List.mem_filter, ih]
    by_cases h : a = b <;> simp [h]

theorem nodup_distinct (l : List α) : (distinct l).Nodup := by
  induction l with
  | nil => exact List.nodup_nil
  | cons b l ih =>
    rw [distinct, List.nodup_cons]
    exact ⟨by simp, ih.filter _⟩

end Distinct

/-- The co-executors of a request are those that it names, each once. -/
theorem of_coExecutors {texts : List String} {users : List Identifier}
    (h : coExecutors texts = .ok users) :
    users.Nodup ∧ ∀ u, u ∈ users ↔ ∃ text ∈ texts, Identifier.parse? text = some u := by
  unfold coExecutors at h
  cases hread : texts.mapM (identifier "co-executor") with
  | error e => rw [hread] at h; cases h
  | ok ids =>
    rw [hread] at h
    obtain rfl : distinct ids = users := Except.ok.inj h
    refine ⟨nodup_distinct ids, fun u => ?_⟩
    rw [mem_distinct]
    constructor
    · intro hu
      obtain ⟨text, htext, hid⟩ := exists_of_mem_mapM hread hu
      exact ⟨text, htext, identifier_eq_ok.1 hid⟩
    · rintro ⟨text, htext, hid⟩
      obtain ⟨u', hu', hid'⟩ := exists_mem_of_mapM hread htext
      rwa [Option.some.inj (hid.symm.trans (identifier_eq_ok.1 hid'))]

theorem status_eq_ok {text : String} {status : Status} :
    Intake.status text = .ok status ↔ Text.trim text = status.name := by
  rw [← Status.ofName?_eq_some]
  unfold Intake.status
  split <;> simp_all

end Intake

namespace Store

variable {s : Store}

theorem during_eq_ok {α : Type} {operation : String} {answer : Except StoreFault α} {a : α} :
    during operation answer = .ok a ↔ answer = .ok a := by
  cases answer <;> simp [during, Except.mapError]

/-- The first user that is missing is reported. -/
theorem requireUsers_eq (s : Store) (ids : List Identifier) :
    s.requireUsers ids =
      match ids.find? fun id => !s.hasUser id.text with
      | some missing => .error (.invalidReference ("user " ++ missing.text ++ " does not exist"))
      | none => .ok () := by
  have known : ∀ id ∈ ids, (!(s.existingUsers ids).contains id) = !s.hasUser id.text := by
    intro id hid
    rw [Bool.eq_iff_iff]
    simp [existingUsers, hid]
  rw [← List.find?_congr known]
  rfl

theorem requireUsers_eq_ok {ids : List Identifier} :
    s.requireUsers ids = .ok () ↔ ∀ id ∈ ids, s.hasUser id.text = true := by
  rw [requireUsers_eq]
  cases hfind : ids.find? fun id => !s.hasUser id.text with
  | some missing =>
    have hmissing := List.find?_some hfind
    rw [Bool.not_eq_true'] at hmissing
    simp only [reduceCtorEq, false_iff]
    intro hall
    rw [hall missing (List.mem_of_find?_eq_some hfind)] at hmissing
    exact Bool.noConfusion hmissing
  | none =>
    simp only [true_iff]
    intro id hid
    have := List.find?_eq_none.1 hfind id hid
    rwa [Bool.not_eq_true', Bool.not_eq_false] at this

/-- A document that was found is registered. -/
theorem isRegistered_of_requireDocument {ref : DocumentRef} (h : s.requireDocument ref = .ok ()) :
    s.IsRegistered ref.kind.name ref.id.text := by
  unfold requireDocument at h
  obtain ⟨found, hfound, h⟩ := bind_eq_ok.1 h
  have hfound := during_eq_ok.1 hfound
  unfold document? at hfound
  cases hd : (s.register ref.kind).find? fun d => d.id = ref.id.text with
  | some d =>
    have hid := List.find?_some hd
    exact ⟨ref.kind, rfl, d, List.mem_of_find?_eq_some hd, of_decide_eq_true hid⟩
  | none =>
    rw [hd] at hfound
    obtain rfl := Except.ok.inj hfound
    cases h

end Store

/-! ### Chains -/

namespace Office

variable {s : Store} {actor : Option Actor}

theorem requireAssignment_eq_ok {operation : String} {id : Identifier} {a : Assignment} :
    requireAssignment s operation id = .ok a ↔ s.assignment? id = .ok (some a) := by
  simp only [requireAssignment, bind_eq_ok, Store.during_eq_ok]
  constructor
  · rintro ⟨found, hfound, h⟩
    cases found with
    | none => cases h
    | some b => rw [hfound, Except.ok.inj h]
  · exact fun h => ⟨some a, h, rfl⟩

theorem requireModifiable_eq_ok {editor : Actor} {a : Assignment} {verb : String} :
    requireModifiable editor a verb = .ok () ↔
      (a.status = .finished → Policy.permits editor .modifyFinishedAssignment = true) := by
  unfold requireModifiable
  split <;> simp_all

theorem of_checkCreate {r : Request.CreateAssignment} {creator : Actor} {new : NewAssignment}
    (h : checkCreate actor r s = .ok (creator, new)) :
    actor = some creator ∧ s.IsRegistered new.document.kind.name new.document.id.text ∧
      ∀ u ∈ new.executorId :: new.coExecutorIds, s.hasUser u.text = true := by
  simp only [checkCreate, bind_eq_ok, Policy.authorize_eq_ok, pure, Except.pure, Except.ok.injEq,
    Prod.mk.injEq] at h
  obtain ⟨a, ⟨rfl, -⟩, document, -, executor, -, deadline, -, coExecutors, -, _, hdoc, _, husers,
    rfl, rfl⟩ := h
  exact ⟨rfl, Store.isRegistered_of_requireDocument hdoc, Store.requireUsers_eq_ok.1 husers⟩

/-- The new assignment says what the request says. -/
theorem requested_of_checkCreate {r : Request.CreateAssignment} {creator : Actor}
    {new : NewAssignment} (h : checkCreate actor r s = .ok (creator, new)) :
    Intake.document r.documentId r.documentKind = .ok new.document ∧
      Identifier.parse? r.executorId = some new.executorId ∧ new.content = r.content ∧
      Intake.date "deadline" r.deadline = .ok new.deadline ∧
      Intake.coExecutors r.coExecutorIds = .ok new.coExecutorIds := by
  simp only [checkCreate, bind_eq_ok, Intake.identifier_eq_ok, pure, Except.pure, Except.ok.injEq,
    Prod.mk.injEq] at h
  obtain ⟨_, -, document, hdocument, executor, hexecutor, deadline, hdeadline, coExecutors,
    hcoExecutors, _, -, _, -, -, rfl⟩ := h
  exact ⟨hdocument, hexecutor, rfl, hdeadline, hcoExecutors⟩

theorem of_checkUpdate {r : Request.UpdateAssignment} {editor : Actor} {id : Identifier}
    {details : AssignmentUpdate} (h : checkUpdate actor r s = .ok (editor, id, details)) :
    actor = some editor ∧ Policy.permits editor .updateAssignment = true ∧
      Identifier.parse? r.id = some id ∧
      (∃ existing, s.assignment? id = .ok (some existing) ∧
        (existing.status = .finished →
          Policy.permits editor .modifyFinishedAssignment = true)) ∧
      ∀ u ∈ details.executorId :: details.coExecutorIds, s.hasUser u.text = true := by
  simp only [checkUpdate, bind_eq_ok, Policy.authorize_eq_ok, Intake.identifier_eq_ok,
    requireAssignment_eq_ok, pure, Except.pure, Except.ok.injEq, Prod.mk.injEq] at h
  obtain ⟨a, ⟨rfl, hp⟩, id', hid, existing, hex, _, hmod, executor, -, deadline, -, coExecutors,
    -, _, husers, rfl, rfl, rfl⟩ := h
  exact ⟨rfl, hp, hid, ⟨existing, hex, requireModifiable_eq_ok.1 hmod⟩,
    Store.requireUsers_eq_ok.1 husers⟩

/-- The new details say what the request says. -/
theorem requested_of_checkUpdate {r : Request.UpdateAssignment} {editor : Actor}
    {id : Identifier} {details : AssignmentUpdate}
    (h : checkUpdate actor r s = .ok (editor, id, details)) :
    Identifier.parse? r.executorId = some details.executorId ∧ details.content = r.content ∧
      Intake.date "deadline" r.deadline = .ok details.deadline ∧
      Intake.coExecutors r.coExecutorIds = .ok details.coExecutorIds := by
  simp only [checkUpdate, bind_eq_ok, Intake.identifier_eq_ok, pure, Except.pure, Except.ok.injEq,
    Prod.mk.injEq] at h
  obtain ⟨_, -, _, -, _, -, _, -, executor, hexecutor, deadline, hdeadline, coExecutors,
    hcoExecutors, _, -, -, -, rfl⟩ := h
  exact ⟨hexecutor, rfl, hdeadline, hcoExecutors⟩

theorem of_readMove {r : Request.MoveAssignment} {mover : Actor} {id : Identifier}
    {target : Status} {existing : Assignment}
    (h : readMove actor r s = .ok (mover, id, target, existing)) :
    actor = some mover ∧ Identifier.parse? r.id = some id ∧ Text.trim r.status = target.name ∧
      s.assignment? id = .ok (some existing) := by
  simp only [readMove, bind_eq_ok, Policy.requireActor_eq_ok, Intake.identifier_eq_ok,
    Intake.status_eq_ok, requireAssignment_eq_ok, pure, Except.pure, Except.ok.injEq,
    Prod.mk.injEq] at h
  obtain ⟨a, rfl, id', hid, target', htarget, existing', hex, rfl, rfl, rfl, rfl⟩ := h
  exact ⟨rfl, hid, htarget, hex⟩

theorem of_checkDelete {text : String} {deleter : Actor} {id : Identifier}
    (h : checkDelete actor text s = .ok (some (deleter, id))) :
    actor = some deleter ∧ Policy.permits deleter .deleteAssignment = true ∧
      Identifier.parse? text = some id ∧
      ∃ existing, s.assignment? id = .ok (some existing) ∧
        (existing.status = .finished →
          Policy.permits deleter .modifyFinishedAssignment = true) := by
  simp only [checkDelete, bind_eq_ok, Policy.authorize_eq_ok, Intake.identifier_eq_ok,
    Store.during_eq_ok] at h
  obtain ⟨a, ⟨rfl, hp⟩, id', hid, found, hfound, h⟩ := h
  cases found with
  | none => cases h
  | some existing =>
    simp only [bind_eq_ok, pure, Except.pure, Except.ok.injEq, Option.some.injEq,
      Prod.mk.injEq] at h
    obtain ⟨_, hmod, rfl, rfl⟩ := h
    exact ⟨rfl, hp, hid, existing, hfound, requireModifiable_eq_ok.1 hmod⟩

theorem getAssignment_eq_ok {text : String} {office : Office} {found : Option Assignment} :
    getAssignment actor text office = .ok found ↔
      (∃ viewer, actor = some viewer) ∧
        ∃ id, Identifier.parse? text = some id ∧ office.store.assignment? id = .ok found := by
  simp only [getAssignment, bind_eq_ok, Policy.authorize_eq_ok, Intake.identifier_eq_ok,
    Store.during_eq_ok]
  constructor
  · rintro ⟨viewer, ⟨hactor, -⟩, hid⟩
    exact ⟨⟨viewer, hactor⟩, hid⟩
  · rintro ⟨⟨viewer, hactor⟩, hid⟩
    exact ⟨viewer, ⟨hactor, rfl⟩, hid⟩

theorem getAcknowledgment_eq_ok {text : String} {office : Office}
    {found : Option AcknowledgmentTask} :
    getAcknowledgment actor text office = .ok found ↔
      (∃ viewer, actor = some viewer) ∧
        ∃ id, Identifier.parse? text = some id ∧ office.store.task? id = .ok found := by
  simp only [getAcknowledgment, readTask, bind_eq_ok, Policy.authorize_eq_ok,
    Intake.identifier_eq_ok, Store.during_eq_ok, pure, Except.pure, Except.ok.injEq]
  constructor
  · rintro ⟨_, ⟨viewer, ⟨hactor, -⟩, id, hid, rfl⟩, hfound⟩
    exact ⟨⟨viewer, hactor⟩, id, hid, hfound⟩
  · rintro ⟨⟨viewer, hactor⟩, id, hid, hfound⟩
    exact ⟨(viewer, id), ⟨viewer, ⟨hactor, rfl⟩, id, hid, rfl⟩, hfound⟩

theorem acknowledgmentsOfDocument_eq_ok {text : String} {office : Office}
    {ts : List AcknowledgmentTask} :
    acknowledgmentsOfDocument actor text office = .ok ts ↔
      (∃ viewer, actor = some viewer) ∧
        ∃ id, Identifier.parse? text = some id ∧ office.store.tasksOfDocument id = .ok ts := by
  simp only [acknowledgmentsOfDocument, bind_eq_ok, Policy.authorize_eq_ok,
    Intake.identifier_eq_ok, Store.during_eq_ok]
  constructor
  · rintro ⟨viewer, ⟨hactor, -⟩, hid⟩
    exact ⟨⟨viewer, hactor⟩, hid⟩
  · rintro ⟨⟨viewer, hactor⟩, hid⟩
    exact ⟨viewer, ⟨hactor, rfl⟩, hid⟩

theorem activeAcknowledgments_eq_ok {office : Office} {ts : List AcknowledgmentTask} :
    activeAcknowledgments actor office = .ok ts ↔
      (∃ viewer, actor = some viewer ∧
        Policy.permits viewer .listActiveAcknowledgments = true) ∧
        office.store.activeTasks = .ok ts := by
  simp only [activeAcknowledgments, bind_eq_ok, Policy.authorize_eq_ok, Store.during_eq_ok]
  constructor
  · rintro ⟨viewer, hviewer, hts⟩
    exact ⟨⟨viewer, hviewer⟩, hts⟩
  · rintro ⟨⟨viewer, hviewer⟩, hts⟩
    exact ⟨viewer, hviewer, hts⟩

/-- Whoever is shown a queue sees its own, or may see those of others. -/
theorem pendingAcknowledgments_eq_ok {user : Option String} {office : Office}
    {ts : List AcknowledgmentTask} :
    pendingAcknowledgments actor user office = .ok ts ↔
      ∃ viewer queue, actor = some viewer ∧
        (∀ text, user = some text → Identifier.parse? text = some queue) ∧
        (user = none → queue = viewer.id) ∧
        (queue ≠ viewer.id → Policy.permits viewer .viewOthersAcknowledgments = true) ∧
        office.store.tasksPendingFor queue = .ok ts := by
  have shown : ∀ (viewer : Actor) (queue : Identifier),
      (do
        if queue ≠ viewer.id then
          let _ ← Policy.authorize (some viewer) .viewOthersAcknowledgments
        Store.during "acknowledgment.pending" (office.store.tasksPendingFor queue)) = .ok ts ↔
      (queue ≠ viewer.id → Policy.permits viewer .viewOthersAcknowledgments = true) ∧
        office.store.tasksPendingFor queue = .ok ts := by
    intro viewer queue
    split
    · simp [bind_eq_ok, Policy.authorize_eq_ok, Store.during_eq_ok, *]
    · simp_all [Store.during_eq_ok]
  unfold pendingAcknowledgments
  simp only [bind_eq_ok, Policy.authorize_eq_ok]
  cases user with
  | none =>
    simp only [pure_bind, shown]
    constructor
    · rintro ⟨viewer, ⟨hviewer, -⟩, h⟩
      exact ⟨viewer, viewer.id, hviewer, nofun, fun _ => rfl, h⟩
    · rintro ⟨viewer, queue, hviewer, -, hown, h⟩
      obtain rfl := hown trivial
      exact ⟨viewer, ⟨hviewer, rfl⟩, h⟩
  | some text =>
    simp only [bind_eq_ok, Intake.identifier_eq_ok, shown]
    constructor
    · rintro ⟨viewer, ⟨hviewer, -⟩, queue, hqueue, h⟩
      exact ⟨viewer, queue, hviewer, fun _ h => Option.some.inj h ▸ hqueue, nofun, h⟩
    · rintro ⟨viewer, queue, hviewer, hqueue, -, h⟩
      exact ⟨viewer, ⟨hviewer, rfl⟩, queue, hqueue text rfl, h⟩

theorem of_checkAcknowledgment {r : Request.CreateAcknowledgment} {new : NewAcknowledgment}
    (h : checkAcknowledgment actor r s = .ok new) :
    new.recipientIds = Intake.recipients r.recipientIds ∧ new.recipientIds ≠ [] ∧
      s.IsRegistered new.document.kind.name new.document.id.text ∧
      ∀ u ∈ new.recipientIds, s.hasUser u.text = true := by
  simp only [checkAcknowledgment, bind_eq_ok] at h
  obtain ⟨creator, -, document, -, h⟩ := h
  split at h
  · cases h
  · rename_i hne
    simp only [bind_eq_ok, pure, Except.pure, Except.ok.injEq] at h
    obtain ⟨_, hdoc, _, husers, rfl⟩ := h
    exact ⟨rfl, by simpa using hne, Store.isRegistered_of_requireDocument hdoc,
      Store.requireUsers_eq_ok.1 husers⟩

/-- A new task is in the name of whoever asks for it, and nobody is to acknowledge it twice. -/
theorem requested_of_checkAcknowledgment {r : Request.CreateAcknowledgment}
    {new : NewAcknowledgment} (h : checkAcknowledgment actor r s = .ok new) :
    (∃ creator, actor = some creator ∧ new.creatorId = creator.id) ∧ new.recipientIds.Nodup := by
  have honce : new.recipientIds.Nodup := by
    rw [(of_checkAcknowledgment h).1]
    exact Intake.nodup_distinct _
  simp only [checkAcknowledgment, bind_eq_ok, Policy.authorize_eq_ok] at h
  obtain ⟨creator, ⟨rfl, -⟩, document, -, h⟩ := h
  split at h
  · cases h
  · simp only [bind_eq_ok, pure, Except.pure, Except.ok.injEq] at h
    obtain ⟨_, -, _, -, rfl⟩ := h
    exact ⟨⟨creator, rfl, rfl⟩, honce⟩

theorem readTask_eq_ok {actor : Except Failure Actor} {text : String} {a : Actor}
    {task : Identifier} :
    readTask actor text = .ok (a, task) ↔ actor = .ok a ∧ Identifier.parse? text = some task := by
  simp only [readTask, bind_eq_ok, Intake.identifier_eq_ok, pure, Except.pure, Except.ok.injEq,
    Prod.mk.injEq]
  constructor
  · rintro ⟨b, hb, t, ht, rfl, rfl⟩
    exact ⟨hb, ht⟩
  · rintro ⟨ha, ht⟩
    exact ⟨a, ha, task, ht, rfl, rfl⟩

end Office

end Chancery
