import Chancery.Proofs.Acknowledgments.Queues
import Chancery.Proofs.Journal.Totals
import Chancery.Proofs.Office.Freshness
import Chancery.Proofs.Store.Acceptance
import Chancery.Proofs.Store.Rereading

/-!
# What the store refuses

The checks of a request are there to find what the store would refuse. This module says that they
find everything but one thing: whoever asks for an acknowledgment is not looked up, and the store
refuses the task of somebody who is no user. In an office that only calls have written to, nothing
else that is asked of it ends in a failure of the store, neither when a row is written nor when one
is read back.

An answer is *untroubled* if it is no failure of the store; it may be a refusal by the office.
Whether an answer is untroubled is settled step by step along the chain of checks, and a step is
allowed to suppose that those before it were passed (`Untroubled.bind`). Reading a request never
touches the store. Reading the store meets texts that read, because the store is orderly. Writing
meets rows that can stand there: what is referred to was looked up, nobody is named twice, and the
identifiers are new.

A listing with a search text is left out. Its pattern may be longer than the store looks for.

## Main definitions

* `Untroubled`
* `Call.IsStrangersCircular` — the one call that the store refuses

## Main results

* `Office.storage_fails_only_strangers`
-/

namespace Chancery

open Store

/-- Whether an answer is no failure of the store. -/
def Untroubled {α : Type} (r : Except Failure α) : Prop :=
  ∀ operation fault, r ≠ .error (.storage operation fault)

theorem untroubled_ok {α : Type} (a : α) : Untroubled (.ok a : Except Failure α) := nofun

/-- A failure that is passed on is as good as where it comes from. -/
theorem Untroubled.of_eq_error {α β : Type} {x : Except Failure α} {e : Failure}
    (h : Untroubled x) (hx : x = .error e) : Untroubled (.error e : Except Failure β) :=
  fun operation fault he => h operation fault (hx.trans (congrArg _ (Except.error.inj he)))

/-- A chain is untroubled if every step of it is, once those before it were passed. -/
theorem Untroubled.bind {α β : Type} {x : Except Failure α} {f : α → Except Failure β}
    (hx : Untroubled x) (hf : ∀ a, x = .ok a → Untroubled (f a)) : Untroubled (x >>= f) := by
  cases x with
  | error e => exact hx.of_eq_error rfl
  | ok a => exact hf a rfl

theorem Untroubled.map {α β : Type} {x : Except Failure α} (hx : Untroubled x) (f : α → β) :
    Untroubled (x.map f) := by
  cases x with
  | error e => exact hx.of_eq_error rfl
  | ok a => exact untroubled_ok (f a)

theorem untroubled_mapM {α β : Type} {f : α → Except Failure β} {l : List α}
    (h : ∀ a ∈ l, Untroubled (f a)) : Untroubled (l.mapM f) := by
  induction l with
  | nil => exact untroubled_ok []
  | cons a l ih =>
    rw [List.forall_mem_cons] at h
    rw [List.mapM_cons]
    exact h.1.bind fun b _ => (ih h.2).bind fun bs _ => untroubled_ok (b :: bs)

/-! ### Permission -/

namespace Policy

theorem untroubled_requireActor (actor : Option Actor) : Untroubled (requireActor actor) := by
  cases actor <;> exact nofun

theorem untroubled_authorize (actor : Option Actor) (op : Operation) :
    Untroubled (authorize actor op) := by
  cases actor with
  | none => exact nofun
  | some a =>
    unfold authorize
    dsimp only
    split <;> exact nofun

theorem untroubled_authorizeTransition (actor : Actor) (executor : Identifier)
    (source target : Status) : Untroubled (authorizeTransition actor executor source target) := by
  unfold authorizeTransition
  split <;> exact nofun

end Policy

/-! ### Texts of a request -/

namespace Intake

theorem untroubled_identifier (what text : String) : Untroubled (identifier what text) := by
  unfold identifier
  split <;> exact nofun

theorem untroubled_date (what : String) (text : Option String) :
    Untroubled (date what text) := by
  unfold date
  split
  · exact nofun
  · split <;> exact nofun

theorem untroubled_status (text : String) : Untroubled (Intake.status text) := by
  unfold Intake.status
  split <;> exact nofun

theorem untroubled_document (id kind : String) : Untroubled (document id kind) := by
  refine (untroubled_identifier _ _).bind fun id _ => Untroubled.bind ?_ fun _ _ => nofun
  unfold documentKind
  split <;> exact nofun

theorem untroubled_coExecutors (texts : List String) : Untroubled (coExecutors texts) :=
  (untroubled_mapM fun text _ => untroubled_identifier "co-executor" text).map distinct

theorem untroubled_optionally {α : Type} {read : String → Except Failure α}
    (hread : ∀ text, Untroubled (read text)) (text : Option String) :
    Untroubled (optionally read text) := by
  unfold optionally
  split
  · exact nofun
  · exact (hread _).map some

theorem untroubled_query (settings : WorkflowSettings) (r : Request.ListAssignments) :
    Untroubled (query settings r) :=
  (untroubled_optionally (untroubled_identifier "document") _).bind fun _ _ =>
    (untroubled_optionally (untroubled_identifier "executor") _).bind fun _ _ =>
      (untroubled_optionally untroubled_status _).bind fun _ _ =>
        (untroubled_date _ _).bind fun _ _ =>
          (untroubled_date _ _).bind fun _ _ => nofun

theorem untroubled_window (r : Request.Summary) (today : Date) :
    Untroubled (window r today) := by
  unfold window
  split
  · split <;> exact nofun
  · refine (untroubled_date _ _).bind fun start _ => (untroubled_date _ _).bind fun finish _ => ?_
    split <;> exact nofun

end Intake

/-! ### Looking at the store -/

section Looking

variable {s : Store} {α : Type} {operation : String}

/-- A step that the store does not refuse. -/
theorem untroubled_during {answer : Except StoreFault α} (h : ∃ a, answer = .ok a) :
    Untroubled (during operation answer) := by
  obtain ⟨a, rfl⟩ := h
  exact untroubled_ok a

theorem untroubled_requireUsers (s : Store) (ids : List Identifier) :
    Untroubled (s.requireUsers ids) := by
  unfold requireUsers
  split <;> exact nofun

theorem Store.Orderly.untroubled_requireDocument (h : s.Orderly) (ref : DocumentRef) :
    Untroubled (s.requireDocument ref) := by
  refine (untroubled_during (h.exists_document? ref)).bind fun found _ => ?_
  split <;> exact nofun

/-- In an orderly store whatever is asked for is found or is not there. -/
theorem Store.Orderly.exists_assignment? (h : s.Orderly) (id : Identifier) :
    ∃ found, s.assignment? id = .ok found := by
  rcases h.assignment?_cases id with ⟨-, hnone⟩ | ⟨_, -, -, a, ha, -⟩
  · exact ⟨none, hnone⟩
  · exact ⟨some a, ha⟩

end Looking

namespace Office

variable {office : Office} {o : Occasion} {actor : Option Actor}

theorem untroubled_requireAssignment {s : Store} (h : s.Orderly) (operation : String)
    (id : Identifier) : Untroubled (requireAssignment s operation id) := by
  refine (untroubled_during (h.exists_assignment? id)).bind fun found _ => ?_
  split <;> exact nofun

theorem untroubled_requireModifiable (actor : Actor) (a : Assignment) (verb : String) :
    Untroubled (requireModifiable actor a verb) := by
  unfold requireModifiable
  split <;> exact nofun

theorem untroubled_readTask {actor : Except Failure Actor} (h : Untroubled actor)
    (text : String) : Untroubled (readTask actor text) :=
  h.bind fun _ _ => (Intake.untroubled_identifier _ _).bind fun _ _ => nofun

/-! ### Operations that only read -/

section Reading

variable (h : office.store.Orderly)

include h

theorem untroubled_getAssignment (text : String) : Untroubled (office.getAssignment actor text) :=
  (Policy.untroubled_authorize _ _).bind fun _ _ =>
    (Intake.untroubled_identifier _ _).bind fun id _ =>
      untroubled_during (h.exists_assignment? id)

theorem untroubled_listAssignments {r : Request.ListAssignments}
    (hsearch : Text.nonBlank? r.search = none) :
    Untroubled (office.listAssignments o actor r) := by
  refine (Policy.untroubled_authorize _ _).bind fun _ _ =>
    (Intake.untroubled_query _ _).bind fun q hq => untroubled_during ?_
  have hplain : q.search = none := by
    obtain ⟨_, -, _, -, _, -, _, -, _, -, rfl⟩ := Intake.query_eq_ok.1 hq
    exact hsearch
  obtain ⟨answer, hanswer, -⟩ := h.listAssignments_total hplain o.today
  exact ⟨answer, hanswer⟩

theorem untroubled_getAcknowledgment (text : String) :
    Untroubled (office.getAcknowledgment actor text) :=
  (untroubled_readTask (Policy.untroubled_authorize _ _) _).bind fun read _ =>
    untroubled_during (h.exists_task? read.2)

theorem untroubled_acknowledgmentsOfDocument (text : String) :
    Untroubled (office.acknowledgmentsOfDocument actor text) :=
  (Policy.untroubled_authorize _ _).bind fun _ _ =>
    (Intake.untroubled_identifier _ _).bind fun _ _ =>
      untroubled_during (h.exists_tasksWhere _)

theorem untroubled_pendingAcknowledgments (user : Option String) :
    Untroubled (office.pendingAcknowledgments actor user) := by
  refine (Policy.untroubled_authorize _ _).bind fun viewer _ => ?_
  have shown : ∀ queue : Identifier, Untroubled (do
      if queue ≠ viewer.id then
        let _ ← Policy.authorize (some viewer) .viewOthersAcknowledgments
      during "acknowledgment.pending" (office.store.tasksPendingFor queue)) := by
    intro queue
    have asked : Untroubled (during "acknowledgment.pending"
        (office.store.tasksPendingFor queue)) := untroubled_during (h.exists_tasksWhere _)
    split
    · exact (Policy.untroubled_authorize _ _).bind fun _ _ => asked
    · exact asked
  cases user with
  | none => exact shown viewer.id
  | some text => exact (Intake.untroubled_identifier _ _).bind fun queue _ => shown queue

theorem untroubled_activeAcknowledgments : Untroubled (office.activeAcknowledgments actor) :=
  (Policy.untroubled_authorize _ _).bind fun _ _ => untroubled_during (h.exists_tasksWhere _)

theorem untroubled_summary (r : Request.Summary) : Untroubled (office.summary o actor r) := by
  refine (Policy.untroubled_authorize _ _).bind fun viewer _ =>
    (Intake.untroubled_window _ _).bind fun w _ => ?_
  obtain ⟨stats, hstats⟩ := exists_summaryFor h o
    (Policy.dashboardRole viewer ((Text.nonBlank? r.role).bind Role.ofName?)) viewer.id w
  rw [hstats]
  exact untroubled_ok stats

end Reading

/-! ### Checks before a write -/

section Checking

variable {s : Store} (h : s.Orderly)

include h

theorem untroubled_checkCreate (r : Request.CreateAssignment) :
    Untroubled (checkCreate actor r s) :=
  (Policy.untroubled_authorize _ _).bind fun _ _ =>
    (Intake.untroubled_document _ _).bind fun document _ =>
      (Intake.untroubled_identifier _ _).bind fun _ _ =>
        (Intake.untroubled_date _ _).bind fun _ _ =>
          (Intake.untroubled_coExecutors _).bind fun _ _ =>
            (h.untroubled_requireDocument document).bind fun _ _ =>
              (untroubled_requireUsers s _).bind fun _ _ => nofun

theorem untroubled_checkUpdate (r : Request.UpdateAssignment) :
    Untroubled (checkUpdate actor r s) :=
  (Policy.untroubled_authorize _ _).bind fun _ _ =>
    (Intake.untroubled_identifier _ _).bind fun id _ =>
      (untroubled_requireAssignment h _ id).bind fun _ _ =>
        (untroubled_requireModifiable _ _ _).bind fun _ _ =>
          (Intake.untroubled_identifier _ _).bind fun _ _ =>
            (Intake.untroubled_date _ _).bind fun _ _ =>
              (Intake.untroubled_coExecutors _).bind fun _ _ =>
                (untroubled_requireUsers s _).bind fun _ _ => nofun

theorem untroubled_readMove (r : Request.MoveAssignment) : Untroubled (readMove actor r s) :=
  (Policy.untroubled_requireActor _).bind fun _ _ =>
    (Intake.untroubled_identifier _ _).bind fun id _ =>
      (Intake.untroubled_status _).bind fun _ _ =>
        (untroubled_requireAssignment h _ id).bind fun _ _ => nofun

theorem untroubled_checkDelete (text : String) : Untroubled (checkDelete actor text s) := by
  refine (Policy.untroubled_authorize _ _).bind fun _ _ =>
    (Intake.untroubled_identifier _ _).bind fun id _ =>
      (untroubled_during (h.exists_assignment? id)).bind fun found _ => ?_
  split
  · exact nofun
  · exact (untroubled_requireModifiable _ _ _).bind fun _ _ => nofun

theorem untroubled_checkAcknowledgment (r : Request.CreateAcknowledgment) :
    Untroubled (checkAcknowledgment actor r s) := by
  refine (Policy.untroubled_authorize _ _).bind fun _ _ =>
    (Intake.untroubled_document _ _).bind fun document _ => ?_
  have found : ∀ new : NewAcknowledgment, Untroubled (do
      s.requireDocument document
      s.requireUsers (Intake.recipients r.recipientIds)
      return new) := fun new =>
    (h.untroubled_requireDocument document).bind fun _ _ =>
      (untroubled_requireUsers s _).bind fun _ _ => untroubled_ok new
  dsimp only
  split
  · exact nofun
  · exact found _

end Checking

/-! ### Operations that write -/

section Writing

variable (h : office.store.Orderly)

include h

theorem untroubled_createAssignment {r : Request.CreateAssignment}
    (hnew : ∀ checked, checkCreate actor r office.store = .ok checked → office.SuppliesNew o 1) :
    Untroubled (office.createAssignment o actor r).1 := by
  unfold createAssignment
  cases hc : checkCreate actor r office.store with
  | error e => exact (untroubled_checkCreate h r).of_eq_error hc
  | ok checked =>
    obtain ⟨creator, new⟩ := checked
    obtain ⟨store, hadd⟩ := h.exists_addAssignment (hnew _ hc).hasAssignment_nextId
      (Intake.of_coExecutors (requested_of_checkCreate hc).2.2.2.2).1 (of_checkCreate hc).2.2 o.now
    obtain ⟨a, ha⟩ := h.assignment?_addAssignment hadd
    simp only [enterAssignment, hadd, Call.written_eq_ok.2 ha]
    exact untroubled_ok a

theorem untroubled_updateAssignment (r : Request.UpdateAssignment) :
    Untroubled (office.updateAssignment o actor r).1 := by
  unfold updateAssignment
  cases hc : checkUpdate actor r office.store with
  | error e => exact (untroubled_checkUpdate h r).of_eq_error hc
  | ok checked =>
    obtain ⟨editor, id, details⟩ := checked
    obtain ⟨-, -, -, ⟨existing, hex, -⟩, husers⟩ := of_checkUpdate hc
    obtain ⟨store, hupdate⟩ := Store.exists_updateAssignment
      (Store.hasAssignment_of_assignment? hex)
      (Intake.of_coExecutors (requested_of_checkUpdate hc).2.2.2).1 husers o.now
    obtain ⟨a, ha⟩ := h.assignment?_updateAssignment hex hupdate
    simp only [hupdate, requireAssignment_eq_ok.2 ha]
    exact untroubled_ok a

theorem untroubled_moveAssignment (r : Request.MoveAssignment) :
    Untroubled (office.moveAssignment o actor r).1 := by
  unfold moveAssignment
  cases hc : readMove actor r office.store with
  | error e => exact (untroubled_readMove h r).of_eq_error hc
  | ok read =>
    obtain ⟨mover, id, target, existing⟩ := read
    cases hp : Policy.authorizeTransition mover existing.executorId existing.status target with
    | error e =>
      simp only [hp]
      exact (Policy.untroubled_authorizeTransition _ _ _ _).of_eq_error hp
    | ok _ =>
      simp only [hp]
      split
      · exact nofun
      · rename_i hmoved
        obtain ⟨a, ha⟩ := h.assignment?_setStatus (of_readMove hc).2.2.2 target r.report
          (target.completionAfter existing.completedAt o.now)
        rw [hmoved] at ha
        rw [requireAssignment_eq_ok.2 ha]
        exact untroubled_ok a

theorem untroubled_deleteAssignment (text : String) :
    Untroubled (office.deleteAssignment actor text).1 := by
  unfold deleteAssignment
  split
  · rename_i hc
    exact (untroubled_checkDelete h text).of_eq_error hc
  · exact nofun
  · exact nofun

/-- **A task in the name of a user is granted** once its request has passed its checks. -/
theorem createAcknowledgment_of_user {r : Request.CreateAcknowledgment}
    {new : NewAcknowledgment} (hc : checkAcknowledgment actor r office.store = .ok new)
    (hnew : office.SuppliesNew o (new.recipientIds.length + 1))
    (huser : office.store.hasUser new.creatorId.text = true) :
    ∃ store task,
      office.store.addAcknowledgment (office.nextId o)
        ((office.afterDrawing 1).upcoming o new.recipientIds.length) o.now new = .ok store ∧
      store.task? (office.nextId o) = .ok (some task) ∧
      office.createAcknowledgment o actor r =
        (.ok task, ((office.afterDrawing (new.recipientIds.length + 1)).withStore store).record
          (.acknowledgmentCreated new.creatorId task.id new.recipientIds.length)) := by
  obtain ⟨store, hadd⟩ := h.exists_addAcknowledgment (length_upcoming _ o _)
    hnew.hasAcknowledgment_nextId hnew.entries.1 hnew.entries.2 huser
    (requested_of_checkAcknowledgment hc).2 (of_checkAcknowledgment hc).2.2.2 o.now
  obtain ⟨t, ht⟩ := h.task?_addAcknowledgment hadd
  refine ⟨store, t, hadd, ht, ?_⟩
  simp only [createAcknowledgment, hc, enterAcknowledgment, hadd, Call.written_eq_ok.2 ht]

omit h in
/-- **A task in the name of a stranger is refused by the store**, however well its request has
passed its checks. -/
theorem createAcknowledgment_of_stranger {r : Request.CreateAcknowledgment}
    {new : NewAcknowledgment} (hc : checkAcknowledgment actor r office.store = .ok new)
    (hnew : office.SuppliesNew o (new.recipientIds.length + 1))
    (huser : office.store.hasUser new.creatorId.text = false) :
    (office.createAcknowledgment o actor r).1 =
      .error (.storage "acknowledgment.create" (.database .foreignKeyViolation)) := by
  have hadd := Store.addAcknowledgment_of_stranger hnew.hasAcknowledgment_nextId huser
    ((office.afterDrawing 1).upcoming o new.recipientIds.length) o.now
  simp only [createAcknowledgment, hc, enterAcknowledgment, hadd]

/-- What the store refuses of requests for a task. -/
theorem createAcknowledgment_eq_storage_iff {r : Request.CreateAcknowledgment}
    (hnew : ∀ new, checkAcknowledgment actor r office.store = .ok new →
      office.SuppliesNew o (new.recipientIds.length + 1)) {operation : String}
    {fault : StoreFault} :
    (office.createAcknowledgment o actor r).1 = .error (.storage operation fault) ↔
      (operation = "acknowledgment.create" ∧ fault = .database .foreignKeyViolation) ∧
        ∃ new, checkAcknowledgment actor r office.store = .ok new ∧
          office.store.hasUser new.creatorId.text = false := by
  constructor
  · intro hrefused
    cases hc : checkAcknowledgment actor r office.store with
    | error e =>
      rw [createAcknowledgment, hc] at hrefused
      exact absurd hrefused
        ((untroubled_checkAcknowledgment h r).of_eq_error hc operation fault)
    | ok new =>
      cases huser : office.store.hasUser new.creatorId.text with
      | true =>
        obtain ⟨store, task, -, -, answer⟩ := createAcknowledgment_of_user h hc (hnew new hc) huser
        rw [answer] at hrefused
        cases hrefused
      | false =>
        rw [createAcknowledgment_of_stranger hc (hnew new hc) huser] at hrefused
        obtain ⟨rfl, rfl⟩ := Failure.storage.inj (Except.error.inj hrefused)
        exact ⟨⟨rfl, rfl⟩, new, rfl, huser⟩
  · rintro ⟨⟨rfl, rfl⟩, new, hc, huser⟩
    exact createAcknowledgment_of_stranger hc (hnew new hc) huser

end Writing

theorem untroubled_viewAcknowledgment (text : String) :
    Untroubled (office.viewAcknowledgment o actor text).1 := by
  unfold viewAcknowledgment
  split
  · rename_i hr
    exact (untroubled_readTask (Policy.untroubled_requireActor actor) text).of_eq_error hr
  · split <;> exact nofun

theorem untroubled_confirmAcknowledgment (text : String) :
    Untroubled (office.confirmAcknowledgment o actor text).1 := by
  unfold confirmAcknowledgment
  split
  · rename_i hr
    exact (untroubled_readTask (Policy.untroubled_requireActor actor) text).of_eq_error hr
  · split <;> exact nofun

theorem untroubled_deleteAcknowledgment (text : String) :
    Untroubled (office.deleteAcknowledgment actor text).1 := by
  unfold deleteAcknowledgment
  split
  · rename_i hr
    exact (untroubled_readTask (Policy.untroubled_authorize actor _) text).of_eq_error hr
  · split <;> exact nofun

end Office

/-! ### All calls -/

namespace Call

/-- The text that a call searches for, if it is a search. -/
def searchText? : Call → Option String
  | listAssignments _ r => Text.nonBlank? r.search
  | _ => none

/-- Whether a call asks for an acknowledgment, with everything in order, in the name of somebody
who is no user. -/
def IsStrangersCircular (s : Store) : Call → Prop
  | createAcknowledgment (some actor) r =>
    (∃ new, Office.checkAcknowledgment (some actor) r s = .ok new) ∧ s.user? actor.id = .ok none
  | _ => False

theorem isStrangersCircular_iff {s : Store} (h : s.Orderly) {actor : Option Actor}
    {r : Request.CreateAcknowledgment} :
    IsStrangersCircular s (.createAcknowledgment actor r) ↔
      ∃ new, Office.checkAcknowledgment actor r s = .ok new ∧
        s.hasUser new.creatorId.text = false := by
  constructor
  · intro hstranger
    cases actor with
    | none => cases hstranger
    | some actor =>
      obtain ⟨⟨new, hnew⟩, hnone⟩ := hstranger
      obtain ⟨⟨creator, hcreator, hid⟩, -⟩ := Office.requested_of_checkAcknowledgment hnew
      obtain rfl := Option.some.inj hcreator
      exact ⟨new, hnew, hid ▸ h.user?_eq_none_iff.1 hnone⟩
  · rintro ⟨new, hnew, hnone⟩
    obtain ⟨⟨creator, rfl, hid⟩, -⟩ := Office.requested_of_checkAcknowledgment hnew
    exact ⟨⟨new, hnew⟩, h.user?_eq_none_iff.2 (hid ▸ hnone)⟩

end Call

theorem Untroubled.answerWith_ne {α : Type} {r : Except Failure α} (h : Untroubled r)
    (answer : α → Answer) (operation : String) (fault : StoreFault) :
    Call.answerWith answer r ≠ .error (.office (.storage operation fault)) :=
  fun he => h operation fault (Call.answerWith_eq_office.1 he)

namespace Office

variable {run : List (Occasion × Call)} {n : Nat} {o : Occasion} {c : Call}

/-- A call of a workflow other than a request for an acknowledgment is not refused by the store. -/
theorem perform_ne_storage (apart : DrawsApart run) (hcall : run[n]? = some (o, c))
    (hentry : c.isEntry = false) (hcircular : ∀ actor r, c ≠ .createAcknowledgment actor r)
    (hsearch : c.searchText? = none) (operation : String) (fault : StoreFault) :
    (c.perform o (stage run n)).1 ≠ .error (.office (.storage operation fault)) := by
  have h := orderly_stage run n
  cases c with
  | addUser _ | addDocument _ => cases hentry
  | createAcknowledgment actor r => exact absurd rfl (hcircular actor r)
  | createAssignment actor r =>
    refine (untroubled_createAssignment h fun checked hc => ?_).answerWith_ne _ _ _
    exact apart.suppliesNew hcall (drawn_createAssignment hc)
  | updateAssignment _ r => exact (untroubled_updateAssignment h r).answerWith_ne _ _ _
  | moveAssignment _ r => exact (untroubled_moveAssignment h r).answerWith_ne _ _ _
  | deleteAssignment _ id => exact (untroubled_deleteAssignment h id).answerWith_ne _ _ _
  | getAssignment _ id => exact (untroubled_getAssignment h id).answerWith_ne _ _ _
  | listAssignments _ _ =>
    exact (untroubled_listAssignments h hsearch).answerWith_ne _ _ _
  | viewAcknowledgment _ task => exact (untroubled_viewAcknowledgment task).answerWith_ne _ _ _
  | confirmAcknowledgment _ task =>
    exact (untroubled_confirmAcknowledgment task).answerWith_ne _ _ _
  | deleteAcknowledgment _ task =>
    exact (untroubled_deleteAcknowledgment task).answerWith_ne _ _ _
  | getAcknowledgment _ task => exact (untroubled_getAcknowledgment h task).answerWith_ne _ _ _
  | acknowledgmentsOfDocument _ document =>
    exact (untroubled_acknowledgmentsOfDocument h document).answerWith_ne _ _ _
  | pendingAcknowledgments _ user =>
    exact (untroubled_pendingAcknowledgments h user).answerWith_ne _ _ _
  | activeAcknowledgments _ => exact (untroubled_activeAcknowledgments h).answerWith_ne _ _ _
  | summary _ r => exact (untroubled_summary h r).answerWith_ne _ _ _

/-- **The store refuses nothing but what strangers circulate.** In a run in which no identifier is
drawn twice, a call of a workflow that is no search ends in a failure of the store exactly if it
asks for an acknowledgment in the name of somebody who is no user, with everything else in order;
and then the failure is the missing reference. -/
theorem storage_fails_only_strangers (apart : DrawsApart run) (hcall : run[n]? = some (o, c))
    (hentry : c.isEntry = false) (hsearch : c.searchText? = none) (operation : String)
    (fault : StoreFault) :
    (c.perform o (stage run n)).1 = .error (.office (.storage operation fault)) ↔
      (operation = "acknowledgment.create" ∧ fault = .database .foreignKeyViolation) ∧
        c.IsStrangersCircular (stage run n).store := by
  by_cases hcircular : ∃ actor r, c = .createAcknowledgment actor r
  · obtain ⟨actor, r, rfl⟩ := hcircular
    have h := orderly_stage run n
    rw [Call.isStrangersCircular_iff h]
    exact Call.answerWith_eq_office.trans (createAcknowledgment_eq_storage_iff h
      fun _ hnew => apart.suppliesNew hcall (drawn_createAcknowledgment hnew))
  · have hother : ∀ actor r, c ≠ .createAcknowledgment actor r :=
      fun actor r hc => hcircular ⟨actor, r, hc⟩
    refine iff_of_false (perform_ne_storage apart hcall hentry hother hsearch operation fault) ?_
    rintro ⟨-, hstranger⟩
    unfold Call.IsStrangersCircular at hstranger
    split at hstranger
    · exact hother _ _ rfl
    · exact hstranger

/-- A clerk who is not in the directory. -/
def carla : Actor := ⟨.ofNat 9, { admin := false, clerk := true, executor := false }⟩

/-- A document is circulated by a stranger and then by a user. -/
def strangersRun : List (Occasion × Call) :=
  circulatingRun.take 4 ++
    [(minute 4, .createAcknowledgment (some carla) circular),
     (minute 5, .createAcknowledgment (some anna) circular)]

/-- Of two requests that differ in nothing but their actor the store refuses the stranger's. -/
theorem storage_fails_only_strangers_of_strangersRun :
    DrawsApart strangersRun ∧
      ((Call.createAcknowledgment (some carla) circular).perform (minute 4)
        (stage strangersRun 4)).1 =
          .error (.office (.storage "acknowledgment.create" (.database .foreignKeyViolation))) ∧
      ∀ operation fault, ((Call.createAcknowledgment (some anna) circular).perform (minute 5)
        (stage strangersRun 5)).1 ≠ .error (.office (.storage operation fault)) := by
  have apart : DrawsApart strangersRun := by decide +kernel
  have accepted : (checkAcknowledgment (some carla) circular
      (stage strangersRun 4).store).toOption.isSome = true := by decide +kernel
  have stranger : (stage strangersRun 4).store.user? carla.id = .ok none := by decide +kernel
  have known : (stage strangersRun 5).store.user? anna.id ≠ .ok none := by decide +kernel
  have first : strangersRun[4]? =
      some (minute 4, .createAcknowledgment (some carla) circular) := rfl
  have second : strangersRun[5]? =
      some (minute 5, .createAcknowledgment (some anna) circular) := rfl
  obtain ⟨new, hnew⟩ := Option.isSome_iff_exists.1 accepted
  refine ⟨apart, ?_, fun operation fault he => ?_⟩
  · exact (storage_fails_only_strangers apart first rfl rfl _ _).2
      ⟨⟨rfl, rfl⟩, ⟨new, toOption_eq_some.1 hnew⟩, stranger⟩
  · have hstranger := ((storage_fails_only_strangers apart second rfl rfl _ _).1 he).2
    exact known hstranger.2

end Office

end Chancery
