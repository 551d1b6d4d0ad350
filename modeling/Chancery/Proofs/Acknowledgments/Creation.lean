import Chancery.Proofs.Acknowledgments.Loading
import Chancery.Proofs.Office.Refusals

/-!
# Circulating a document

The staff may name anything in a request to have a document acknowledged, and there is an answer
to everything it may name. The request is looked at in a fixed order: the identifier of the
document, its kind, whether any recipient is left, the document itself, the recipients. What is
reported is the first thing that is wrong, and then nothing has happened. If nothing is wrong, there
is a task, whoever was named in whatever way is on it once, and the trail says how many these are.

`Office.Circulates` has a constructor for each of these cases. The conditions of a case contain that
none of those before it applies.

## Main definitions

* `Request.CreateAcknowledgment.Names`, `Request.CreateAcknowledgment.Lists`,
  `Request.CreateAcknowledgment.asked`
* `Office.IsCircular` — a task as it is when it has just been created
* `Office.Circulates`

## Main results

* `Office.circulates_createAcknowledgment`
-/

namespace Chancery

/-! ### What a request names -/

namespace Request.CreateAcknowledgment

/-- Whether a request names a document: its identifier, and the word for its kind. -/
def Names (r : CreateAcknowledgment) (ref : DocumentRef) : Prop :=
  Identifier.parse? r.documentId = some ref.id ∧ Text.trim r.documentKind = ref.kind.name

/-- Whether an identifier is among the recipients of a request, in any spelling. -/
def Lists (r : CreateAcknowledgment) (user : Identifier) : Prop :=
  ∃ text ∈ r.recipientIds, Identifier.parse? text = some user

/-- What is to be entered for a request in the name of a user, once its document was read. -/
def asked (r : CreateAcknowledgment) (ref : DocumentRef) (creator : Actor) : NewAcknowledgment :=
  ⟨ref, r.content, creator.id, Intake.recipients r.recipientIds⟩

end Request.CreateAcknowledgment

namespace Intake

/-- The reference to a document is read, or refused for its identifier, or for its kind. -/
theorem document_cases (id kind : String) :
    (Identifier.parse? id = none ∧ document id kind =
      .error (.invalidReference ("malformed document id '" ++ id ++ "'"))) ∨
    (∃ a, Identifier.parse? id = some a ∧ (∀ k : DocumentKind, Text.trim kind ≠ k.name) ∧
      document id kind = .error (.validation ("unknown document kind '" ++ kind ++ "'"))) ∨
    ∃ ref : DocumentRef, Identifier.parse? id = some ref.id ∧ Text.trim kind = ref.kind.name ∧
      document id kind = .ok ref := by
  unfold document identifier documentKind
  cases hid : Identifier.parse? id with
  | none => exact .inl ⟨rfl, rfl⟩
  | some a =>
    cases hkind : DocumentKind.ofName? (Text.trim kind) with
    | none =>
      refine .inr (.inl ⟨a, rfl, fun k hk => ?_, rfl⟩)
      rw [DocumentKind.ofName?_eq_some.2 hk] at hkind
      cases hkind
    | some k => exact .inr (.inr ⟨⟨a, k⟩, rfl, DocumentKind.ofName?_eq_some.1 hkind, rfl⟩)

/-- What is dropped from a list stands in it before, so the first member that satisfies a condition
stays. -/
theorem find?_distinct {α : Type} [DecidableEq α] (p : α → Bool) (l : List α) :
    (distinct l).find? p = l.find? p := by
  induction l with
  | nil => rfl
  | cons a l ih =>
    rw [distinct, List.find?_cons, List.find?_cons]
    cases ha : p a with
    | true => rfl
    | false =>
      have drop : (fun b => decide (decide (b ≠ a) = true ∧ p b = true)) = p := by
        funext b
        by_cases hb : b = a
        · simp [hb, ha]
        · simp [hb]
      simp only [List.find?_filter, drop, ih]

variable {texts : List String} {user : Identifier}

theorem mem_recipients :
    user ∈ recipients texts ↔ ∃ text ∈ texts, Identifier.parse? text = some user := by
  rw [recipients, mem_distinct, List.mem_filterMap]

/-- The first recipient of whom something holds, in terms of the texts. -/
theorem exists_of_find?_recipients {p : Identifier → Bool}
    (h : (recipients texts).find? p = some user) :
    p user = true ∧ ∃ before text after, texts = before ++ text :: after ∧
      Identifier.parse? text = some user ∧
        ∀ text ∈ before, ∀ user, Identifier.parse? text = some user → p user = false := by
  have huser := List.find?_some h
  rw [recipients, find?_distinct, List.find?_filterMap, Option.bind_eq_some_iff] at h
  obtain ⟨text, hfirst, hread⟩ := h
  obtain ⟨-, before, after, hsplit, hbefore⟩ := List.find?_eq_some_iff_append.1 hfirst
  refine ⟨huser, before, text, after, hsplit, hread, fun t ht u hu => ?_⟩
  have hnot := hbefore t ht
  rwa [hu, Option.any_some, Bool.not_eq_true'] at hnot

end Intake

/-! ### Looking up the document -/

namespace Store.Orderly

variable {s : Store} {ref : DocumentRef}

theorem requireDocument_of_isRegistered (h : s.Orderly)
    (hd : s.IsRegistered ref.kind.name ref.id.text) : s.requireDocument ref = .ok () := by
  obtain ⟨d, -, hfound, -⟩ := h.exists_document?_of_isRegistered hd
  rw [requireDocument, hfound]
  rfl

theorem requireDocument_of_not_isRegistered (h : s.Orderly)
    (hd : ¬ s.IsRegistered ref.kind.name ref.id.text) :
    s.requireDocument ref = .error (.invalidReference
      (ref.kind.name ++ " document " ++ ref.id.text ++ " does not exist")) := by
  obtain ⟨found, hfound⟩ := h.exists_document? ref
  cases found with
  | none =>
    rw [requireDocument, hfound]
    rfl
  | some d =>
    have hok : s.requireDocument ref = .ok () := by
      rw [requireDocument, hfound]
      rfl
    exact absurd (isRegistered_of_requireDocument hok) hd

end Store.Orderly

/-! ### A new task -/

/-- The row of a new task reads as what it was made of. -/
theorem AcknowledgmentRow.Reads.of_acknowledgmentRow {id : Identifier} {now : Instant}
    {new : NewAcknowledgment} {t : AcknowledgmentTask}
    (h : (Store.acknowledgmentRow id now new).Reads t) :
    t.document = new.document ∧ t.content = new.content ∧ t.creatorId = new.creatorId ∧
      t.createdAt = now ∧ t.completedAt = none := by
  have hdocument := h.documentId
  have hcreator := h.creatorId
  simp only [Store.acknowledgmentRow, Identifier.parse?_text, Option.some.injEq]
    at hdocument hcreator
  have hkind := DocumentKind.name_injective h.documentKind
  exact ⟨congrArg₂ DocumentRef.mk hdocument.symm hkind.symm, h.content, hcreator.symm,
    h.createdAt, h.completedAt⟩

namespace Store.ShowsAll

variable {s : Store} {t : AcknowledgmentTask}

/-- The recipients of a task are the users that its entries were written for. -/
theorem map_userId_perm (h : s.ShowsAll t) {users : List Identifier}
    (hrows : (s.entriesUnder t.id).map RecipientRow.userId = users.map Identifier.text) :
    (t.recipients.map Recipient.userId).Perm users := by
  obtain ⟨entries, hperm, hreads⟩ := h.recipients
  have hread : entries.map (fun r => Identifier.parse? r.userId) =
      (t.recipients.map Recipient.userId).map some := by
    rw [List.map_map, ← List.forall₂_eq_eq_eq, List.forall₂_map_left_iff,
      List.forall₂_map_right_iff]
    exact hreads.imp fun _ _ hread => hread.userId
  have hwritten : (s.entriesUnder t.id).map (fun r => Identifier.parse? r.userId) =
      users.map some := by
    calc (s.entriesUnder t.id).map (fun r => Identifier.parse? r.userId)
        = ((s.entriesUnder t.id).map RecipientRow.userId).map Identifier.parse? := by
          rw [List.map_map]; rfl
      _ = users.map some := by
          rw [hrows, List.map_map]
          exact List.map_congr_left fun u _ => Identifier.parse?_text u
  rw [← List.map_perm_map_iff (Option.some_injective _), ← hread, ← hwritten]
  exact hperm.map _

/-- Of entries that nobody has touched, nobody is shown to have. -/
theorem untouched (h : s.ShowsAll t)
    (hrows : ∀ r ∈ s.entriesUnder t.id, r.viewedAt = none ∧ r.confirmedAt = none) :
    ∀ e ∈ t.recipients, e.viewedAt = none ∧ e.confirmedAt = none := by
  intro e he
  obtain ⟨entries, hperm, hreads⟩ := h.recipients
  obtain ⟨r, hr, hread⟩ := exists_left_of_mem hreads he
  obtain ⟨hviewed, hconfirmed⟩ := hrows r (hperm.mem_iff.1 hr)
  exact ⟨hread.viewedAt.trans hviewed, hread.confirmedAt.trans hconfirmed⟩

end Store.ShowsAll

namespace Office

variable {office : Office} {o : Occasion} {creator : Actor} {r : Request.CreateAcknowledgment}
  {ref : DocumentRef}

/-- Whether a task is on file as a request for it has it, and nobody has reacted to it. -/
structure IsCircular (s : Store) (o : Occasion) (creator : Actor)
    (r : Request.CreateAcknowledgment) (ref : DocumentRef) (task : AcknowledgmentTask) : Prop where
  document : task.document = ref
  content : task.content = r.content
  creatorId : task.creatorId = creator.id
  createdAt : task.createdAt = o.now
  completedAt : task.completedAt = none
  recipients : ∀ user, user ∈ task.recipients.map Recipient.userId ↔ r.Lists user
  once : (task.recipients.map Recipient.userId).Nodup
  untouched : ∀ e ∈ task.recipients, e.viewedAt = none ∧ e.confirmedAt = none
  onFile : s.task? task.id = .ok (some task)
  shown : s.ShowsAll task

/-- What becomes of a request to have a document acknowledged, case by case. -/
inductive Circulates (office : Office) (o : Occasion) (creator : Actor)
    (r : Request.CreateAcknowledgment) : Except Failure AcknowledgmentTask × Office → Prop where
  | malformedDocument (malformed : Identifier.parse? r.documentId = none) :
    Circulates office o creator r
      (.error (.invalidReference ("malformed document id '" ++ r.documentId ++ "'")), office)
  | unknownKind {id : Identifier} (wellFormed : Identifier.parse? r.documentId = some id)
    (unknown : ∀ kind : DocumentKind, Text.trim r.documentKind ≠ kind.name) :
    Circulates office o creator r
      (.error (.validation ("unknown document kind '" ++ r.documentKind ++ "'")), office)
  /-- This is reported whether or not there is such a document. -/
  | nobody {ref : DocumentRef} (document : r.Names ref) (unlisted : ∀ user, ¬ r.Lists user) :
    Circulates office o creator r (.error .emptyRecipients, office)
  | missingDocument {ref : DocumentRef} (document : r.Names ref)
    (listed : ∃ user, r.Lists user)
    (missing : ¬ office.store.IsRegistered ref.kind.name ref.id.text) :
    Circulates office o creator r (.error (.invalidReference
      (ref.kind.name ++ " document " ++ ref.id.text ++ " does not exist")), office)
  /-- The user that is reported is the first one missing in the order of the texts. -/
  | missingUser {ref : DocumentRef} {before after : List String} {text : String}
    {user : Identifier} (document : r.Names ref)
    (registered : office.store.IsRegistered ref.kind.name ref.id.text)
    (split : r.recipientIds = before ++ text :: after)
    (read : Identifier.parse? text = some user)
    (missing : office.store.hasUser user.text = false)
    (known : ∀ text ∈ before, ∀ user, Identifier.parse? text = some user →
      office.store.hasUser user.text = true) :
    Circulates office o creator r
      (.error (.invalidReference ("user " ++ user.text ++ " does not exist")), office)
  | circulated {ref : DocumentRef} {task : AcknowledgmentTask} {office' : Office}
    (document : r.Names ref) (listed : ∃ user, r.Lists user)
    (registered : office.store.IsRegistered ref.kind.name ref.id.text)
    (known : ∀ user, r.Lists user → office.store.hasUser user.text = true)
    (circular : IsCircular office'.store o creator r ref task)
    (trail : office'.trail = office.trail ++
      [.acknowledgmentCreated creator.id task.id task.recipients.length]) :
    Circulates office o creator r (.ok task, office')

/-- A task that was added is read back as it was requested. -/
theorem isCircular_of_added (h : office.store.Orderly) {store : Store}
    {entryIds : List Identifier} {id : Identifier} {task : AcknowledgmentTask}
    (registered : office.store.IsRegistered ref.kind.name ref.id.text)
    (drawn : entryIds.length = (r.asked ref creator).recipientIds.length)
    (added : office.store.addAcknowledgment id entryIds o.now (r.asked ref creator) = .ok store)
    (read : store.task? id = .ok (some task)) :
    IsCircular store o creator r ref task ∧
      task.recipients.length = (r.asked ref creator).recipientIds.length := by
  obtain rfl : task.id = id := Store.id_of_task? read
  have hstore : store.Orderly := h.addAcknowledgment registered added
  obtain ⟨absent, hrows⟩ := Store.addAcknowledgment_eq added
  have yields :
      store.YieldsTask (Store.acknowledgmentRow task.id o.now (r.asked ref creator)) task := by
    refine ⟨?_, rfl, read⟩
    rw [hrows]
    exact List.mem_append_right _ List.mem_cons_self
  obtain ⟨document, content, creatorId, createdAt, completedAt⟩ :=
    (yields.reads hstore.toConstrained).of_acknowledgmentRow
  have shown := yields.showsAll hstore
  have entries := Store.entriesUnder_addAcknowledgment added task.id
  rw [h.entriesUnder_eq_nil absent, List.nil_append, if_pos rfl] at entries
  have users :
      (task.recipients.map Recipient.userId).Perm (r.asked ref creator).recipientIds := by
    refine shown.map_userId_perm ?_
    rw [entries, Store.map_userId_recipientRows task.id o.now drawn]
  refine ⟨{
    document
    content
    creatorId
    createdAt
    completedAt
    recipients := fun user => users.mem_iff.trans Intake.mem_recipients
    once := users.nodup_iff.2 (Intake.nodup_distinct _)
    untouched := shown.untouched fun e he => ?_
    onFile := read
    shown }, ?_⟩
  · rw [entries] at he
    obtain ⟨e, -, rfl⟩ := List.mem_map.1 he
    exact ⟨rfl, rfl⟩
  · rw [← users.length_eq, List.length_map]

/-- What a member of the staff asks for is judged by the request alone. -/
theorem checkAcknowledgment_of_staff (r : Request.CreateAcknowledgment) (s : Store)
    (staff : creator.holds .admin = true ∨ creator.holds .clerk = true) :
    checkAcknowledgment (some creator) r s = do
      let document ← Intake.document r.documentId r.documentKind
      if (Intake.recipients r.recipientIds).isEmpty then
        throw .emptyRecipients
      s.requireDocument document
      s.requireUsers (Intake.recipients r.recipientIds)
      return r.asked document creator := by
  have permitted : Policy.permits creator .createAcknowledgment = true := by
    rw [Policy.permits_eq_of_staff creator rfl]
    exact Bool.or_eq_true_iff.2 staff
  rw [checkAcknowledgment, Policy.authorize_eq_ok.2 ⟨rfl, permitted⟩]
  rfl

theorem createAcknowledgment_of_error {actor : Option Actor} {e : Failure}
    (hc : checkAcknowledgment actor r office.store = .error e) :
    office.createAcknowledgment o actor r = (.error e, office) := by
  rw [createAcknowledgment, hc]

/-- **A request in which nothing is wrong is granted.** -/
theorem circulates_of_check (h : office.store.Orderly) (names : r.Names ref)
    (listed : ∃ user, r.Lists user)
    (registered : office.store.IsRegistered ref.kind.name ref.id.text)
    (known : ∀ user, r.Lists user → office.store.hasUser user.text = true)
    (huser : office.store.hasUser creator.id.text = true)
    (check : checkAcknowledgment (some creator) r office.store = .ok (r.asked ref creator))
    (hnew : office.SuppliesNew o ((r.asked ref creator).recipientIds.length + 1)) :
    Circulates office o creator r (office.createAcknowledgment o (some creator) r) := by
  obtain ⟨store, task, added, read, answer⟩ := createAcknowledgment_of_user h check hnew huser
  obtain ⟨circular, count⟩ :=
    isCircular_of_added h registered (length_upcoming _ o _) added read
  rw [answer]
  refine .circulated names listed registered known circular ?_
  rw [count, trail_record, trail_withStore, trail_afterDrawing]
  rfl

/-- A request whose document could be read is judged by its recipients and by what is on file. -/
theorem circulates_of_document (h : office.store.Orderly)
    (staff : creator.holds .admin = true ∨ creator.holds .clerk = true)
    (huser : office.store.hasUser creator.id.text = true)
    (hnew : ∀ new, checkAcknowledgment (some creator) r office.store = .ok new →
      office.SuppliesNew o (new.recipientIds.length + 1))
    (names : r.Names ref) (hdoc : Intake.document r.documentId r.documentKind = .ok ref) :
    Circulates office o creator r (office.createAcknowledgment o (some creator) r) := by
  have check := checkAcknowledgment_of_staff r office.store staff
  simp only [hdoc, bind, Except.bind] at check
  by_cases listed : ∃ user, r.Lists user
  · have hsome : (Intake.recipients r.recipientIds).isEmpty = false := by
      obtain ⟨user, hmem⟩ := listed
      rw [List.isEmpty_eq_false_iff]
      exact List.ne_nil_of_mem (Intake.mem_recipients.2 hmem)
    simp only [hsome, Bool.false_eq_true, if_false] at check
    by_cases registered : office.store.IsRegistered ref.kind.name ref.id.text
    · rw [h.requireDocument_of_isRegistered registered, Store.requireUsers_eq] at check
      cases hfind : (Intake.recipients r.recipientIds).find? fun id =>
          !office.store.hasUser id.text with
      | none =>
        rw [hfind] at check
        have known : ∀ user, r.Lists user → office.store.hasUser user.text = true := by
          intro user hmem
          have := List.find?_eq_none.1 hfind user (Intake.mem_recipients.2 hmem)
          rwa [Bool.not_eq_true', Bool.not_eq_false] at this
        exact circulates_of_check h names listed registered known huser check (hnew _ check)
      | some user =>
        rw [hfind] at check
        obtain ⟨hmissing, before, text, after, split, read, known⟩ :=
          Intake.exists_of_find?_recipients hfind
        rw [createAcknowledgment_of_error check]
        simp only [Bool.not_eq_true', Bool.not_eq_false'] at hmissing known
        exact .missingUser names registered split read hmissing known
    · rw [h.requireDocument_of_not_isRegistered registered] at check
      rw [createAcknowledgment_of_error check]
      exact .missingDocument names listed registered
  · have hnone : (Intake.recipients r.recipientIds).isEmpty = true := by
      rw [List.isEmpty_iff, List.eq_nil_iff_forall_not_mem]
      exact fun user hmem => listed ⟨user, Intake.mem_recipients.1 hmem⟩
    simp only [hnone, if_true] at check
    rw [createAcknowledgment_of_error check]
    exact .nobody names (not_exists.1 listed)

/-- Every request of the staff is answered in one of the ways that there are, as long as what is
drawn for a new task is new. -/
theorem circulates_of_suppliesNew (h : office.store.Orderly)
    (staff : creator.holds .admin = true ∨ creator.holds .clerk = true)
    (huser : office.store.hasUser creator.id.text = true)
    (hnew : ∀ new, checkAcknowledgment (some creator) r office.store = .ok new →
      office.SuppliesNew o (new.recipientIds.length + 1)) :
    Circulates office o creator r (office.createAcknowledgment o (some creator) r) := by
  have check := checkAcknowledgment_of_staff r office.store staff
  rcases Intake.document_cases r.documentId r.documentKind with
    ⟨hid, hdoc⟩ | ⟨id, hid, hkind, hdoc⟩ | ⟨ref, hid, hkind, hdoc⟩
  · rw [hdoc] at check
    rw [createAcknowledgment_of_error check]
    exact .malformedDocument hid
  · rw [hdoc] at check
    rw [createAcknowledgment_of_error check]
    exact .unknownKind hid hkind
  · exact circulates_of_document h staff huser hnew ⟨hid, hkind⟩ hdoc

/-- **Every request of the staff to have a document acknowledged is answered in one of six ways**,
at every stage of a run in which no identifier is drawn twice. -/
theorem circulates_createAcknowledgment {run : List (Occasion × Call)} {n : Nat}
    (apart : DrawsApart run) (hcall : run[n]? = some (o, .createAcknowledgment (some creator) r))
    (staff : creator.holds .admin = true ∨ creator.holds .clerk = true)
    (huser : (stage run n).store.hasUser creator.id.text = true) :
    Circulates (stage run n) o creator r
      ((stage run n).createAcknowledgment o (some creator) r) :=
  circulates_of_suppliesNew (orderly_stage run n) staff huser fun _ hc =>
    apart.suppliesNew hcall (drawn_createAcknowledgment hc)

/-- Of the four texts that `circular` has for recipients two name the same user and one nobody. -/
theorem circulates_createAcknowledgment_of_circulatingRun :
    DrawsApart circulatingRun ∧
      Circulates (stage circulatingRun 5) (minute 5) anna circular
        ((stage circulatingRun 5).createAcknowledgment (minute 5) (some anna) circular) ∧
      ((stage circulatingRun 5).createAcknowledgment (minute 5) (some anna) circular).1.toOption.map
        (fun task => task.recipients.map Recipient.userId) = some [boris.id, vera.id] := by
  have staff : anna.holds .admin = true ∨ anna.holds .clerk = true := by decide
  have shown : DrawsApart circulatingRun ∧
      (stage circulatingRun 5).store.hasUser anna.id.text = true ∧
      ((stage circulatingRun 5).createAcknowledgment (minute 5) (some anna) circular).1.toOption.map
        (fun task => task.recipients.map Recipient.userId) = some [boris.id, vera.id] := by
    decide +kernel
  obtain ⟨apart, huser, answered⟩ := shown
  exact ⟨apart, circulates_createAcknowledgment apart rfl staff huser, answered⟩

end Office

end Chancery
