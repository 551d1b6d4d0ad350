import Chancery.Proofs.Acknowledgments.Entries
import Chancery.Proofs.Acknowledgments.Queues
import Chancery.Proofs.Assignments.Lifecycle

/-!
# What a caller outside the staff can do

An actor that is neither an administrator nor a clerk is an *outsider* here, whatever else it is:
executor, co-executor, creator of an assignment, recipient of a task. What an outsider can do to
the tables is bounded in two ways. `OwnWork` lists the changes that are possible, each with the row
it is made to, and `LeavesRest` says of every row what no outsider can touch. The second follows
from the first, but it is what other users rely on.

Permission is looked up in three places. Operations of the staff are refused by the table of
operations, moves by the table of moves, and a view or a confirmation needs no permission at all:
there the query itself picks the actor's own entry, so the bound is a fact about
`RecipientRow.isUnseen` and `RecipientRow.isWaiting`.

That a change meets *one* row is owed to the constraints of the tables. Nothing is assumed of the
texts in them.

## Main definitions

* `Store.OwnWork` — the changes that an outsider can make
* `Store.LeavesRest` — what stays as it was

## Main results

* `Office.outsider_confined`
-/

namespace Chancery

/-! ### The tables of the policy, read for an outsider -/

namespace Policy

variable {a : Actor}

/-- What is left to the staff is refused to an outsider. -/
theorem permits_staffOnly (ha : a.holds .admin = false) (hc : a.holds .clerk = false)
    {op : Operation} (hop : requirementFor op = .anyRole staff) : permits a op = false := by
  rw [permits_eq_of_staff a hop, ha, hc]
  rfl

/-- An outsider moves what it executes, and only forward through the work that is owed. -/
theorem transition_of_outsider {executor : Identifier} {source target : Status}
    (ha : a.holds .admin = false) (hc : a.holds .clerk = false)
    (h : transitionPermitted a executor source target = true) :
    executor = a.id ∧ (source = .new ∨ source = .inProgress) ∧
      (target = .inProgress ∨ target = .completed) := by
  have hexecutor : executor = a.id := by
    by_contra hne
    simp [transitionPermitted, transitionRules, hasCapacity, ha, hc, hne] at h
  rcases transition_without_admin ha h with ⟨hclerk, -⟩ | hmove
  · rw [hc] at hclerk
    cases hclerk
  · exact ⟨hexecutor, hmove⟩

end Policy

/-! ### The changes -/

/-- Whether two rows are one piece of work that has come further at most, and the same row unless
the user is its executor. -/
def AssignmentRow.IsProgressOf (user : Identifier) (a b : AssignmentRow) : Prop :=
  b = { a with status := b.status, report := b.report, completedAt := b.completedAt,
               updatedAt := b.updatedAt } ∧
    (Identifier.parse? a.executorId ≠ some user → b = a)

/-- Whether two rows are one entry with other times at most, and the same row unless it is the
user's own. -/
def RecipientRow.IsReactionOf (user : Identifier) (a b : RecipientRow) : Prop :=
  b = { a with viewedAt := b.viewedAt, confirmedAt := b.confirmedAt } ∧
    (a.userId ≠ user.text → b = a)

namespace Store

/-- The stores that an outsider can leave behind. -/
inductive OwnWork (user : Identifier) (s : Store) : Store → Prop
  | nothing : OwnWork user s s
  /-- A new assignment is added, with its co-executors. -/
  | added {row : AssignmentRow} {coExecutors : List CoExecutorRow}
      (fresh : s.hasAssignment row.id = false) (status : row.status = Status.new.name)
      (owned : ∀ c ∈ coExecutors, c.assignmentId = row.id) :
      OwnWork user s { s with assignments := s.assignments ++ [row]
                              coExecutors := s.coExecutors ++ coExecutors }
  /-- An assignment that the user executes comes further. -/
  | moved {before after : List AssignmentRow} {row : AssignmentRow} {target : Status}
      {report : Option String} {completedAt : Option Instant} {updatedAt : Instant}
      (stored : s.assignments = before ++ row :: after)
      (executor : Identifier.parse? row.executorId = some user)
      (source : row.status = Status.new.name ∨ row.status = Status.inProgress.name)
      (onward : target = .inProgress ∨ target = .completed) :
      OwnWork user s { s with
        assignments := before ++
          { row with status := target.name, report, completedAt, updatedAt } :: after }
  /-- The user's own entry on a task is viewed for the first time. -/
  | viewed {before after : List RecipientRow} {entry : RecipientRow} {now : Instant}
      (stored : s.recipients = before ++ entry :: after) (own : entry.userId = user.text)
      (unseen : entry.viewedAt = none) :
      OwnWork user s { s with
        recipients := before ++ { entry with viewedAt := some now } :: after }
  /-- The user's own entry on a task is confirmed. -/
  | confirmed {before after : List RecipientRow} {entry : RecipientRow} {now : Instant}
      (stored : s.recipients = before ++ entry :: after) (own : entry.userId = user.text)
      (waiting : entry.confirmedAt = none) :
      OwnWork user s { s with
        recipients := before ++
          { entry with viewedAt := entry.viewedAt.orElse fun _ => some now
                       confirmedAt := some now } :: after }
  /-- The user's own entry is the last of its task to be confirmed, and the task is complete. -/
  | completed {before after : List RecipientRow} {entry : RecipientRow}
      {earlier later : List AcknowledgmentRow} {task : AcknowledgmentRow} {now : Instant}
      (stored : s.recipients = before ++ entry :: after) (own : entry.userId = user.text)
      (waiting : entry.confirmedAt = none)
      (last : ∀ r ∈ before ++ after, r.acknowledgmentId = entry.acknowledgmentId →
        r.confirmedAt.isSome)
      (listed : s.acknowledgments = earlier ++ task :: later)
      (concerned : task.id = entry.acknowledgmentId) (incomplete : task.completedAt = none) :
      OwnWork user s { s with
        acknowledgments := earlier ++ { task with completedAt := some now } :: later
        recipients := before ++
          { entry with viewedAt := entry.viewedAt.orElse fun _ => some now
                       confirmedAt := some now } :: after }

/-- What an outsider leaves as it was: no row goes, and of the rows that stay no field changes
other than the progress of its own work, the times of its own entries and the completion of a
task. -/
structure LeavesRest (user : Identifier) (s s' : Store) : Prop where
  users : s'.users = s.users
  incoming : s'.incoming = s.incoming
  outgoing : s'.outgoing = s.outgoing
  assignments : ∃ kept added, s'.assignments = kept ++ added ∧
    List.Forall₂ (AssignmentRow.IsProgressOf user) s.assignments kept
  coExecutors : s.coExecutors <+: s'.coExecutors
  acknowledgments : List.Forall₂ (fun t t' => t' = { t with completedAt := t'.completedAt })
    s.acknowledgments s'.acknowledgments
  recipients : List.Forall₂ (RecipientRow.IsReactionOf user) s.recipients s'.recipients

/-- Two lists with one difference agree, member by member, up to that difference. -/
theorem forall₂_split {α : Type} {R : α → α → Prop} (refl : ∀ a, R a a) {a b : α}
    (hab : R a b) (before after : List α) :
    List.Forall₂ R (before ++ a :: after) (before ++ b :: after) := by
  have same : ∀ l : List α, List.Forall₂ R l l := fun l =>
    List.forall₂_same.2 fun a _ => refl a
  exact List.rel_append (same before) (.cons hab (same after))

variable {user : Identifier} {s s' : Store}

theorem LeavesRest.refl (user : Identifier) (s : Store) : LeavesRest user s s where
  users := rfl
  incoming := rfl
  outgoing := rfl
  assignments := ⟨s.assignments, [], by simp, List.forall₂_same.2 fun _ _ => ⟨rfl, fun _ => rfl⟩⟩
  coExecutors := List.prefix_rfl
  acknowledgments := List.forall₂_same.2 fun _ _ => rfl
  recipients := List.forall₂_same.2 fun _ _ => ⟨rfl, fun _ => rfl⟩

/-- **What an outsider can do leaves the rest as it was.** -/
theorem OwnWork.leavesRest (h : OwnWork user s s') : LeavesRest user s s' := by
  have same := LeavesRest.refl user s
  -- A row of the user's own may differ; that of somebody else is not the row in question.
  have reacted : ∀ {before after entry viewedAt confirmedAt},
      s.recipients = before ++ entry :: after → entry.userId = user.text →
      List.Forall₂ (RecipientRow.IsReactionOf user) s.recipients
        (before ++ { entry with viewedAt, confirmedAt } :: after) := by
    intro before after entry viewedAt confirmedAt stored own
    rw [stored]
    exact forall₂_split (fun _ => ⟨rfl, fun _ => rfl⟩)
      ⟨rfl, fun hne => absurd own hne⟩ before after
  cases h with
  | nothing => exact same
  | added fresh status owned =>
    obtain ⟨kept, _, hkept, hsame⟩ := same.assignments
    exact { same with
      assignments := ⟨s.assignments, _, rfl,
        List.forall₂_same.2 fun _ _ => ⟨rfl, fun _ => rfl⟩⟩
      coExecutors := List.prefix_append _ _ }
  | @moved before after row _ _ _ _ stored executor source onward =>
    refine { same with assignments := ⟨_, [], (List.append_nil _).symm, ?_⟩ }
    rw [stored]
    exact forall₂_split (fun _ => ⟨rfl, fun _ => rfl⟩)
      ⟨rfl, fun hne => absurd executor hne⟩ before after
  | viewed stored own unseen => exact { same with recipients := reacted stored own }
  | confirmed stored own waiting => exact { same with recipients := reacted stored own }
  | @completed _ _ _ earlier later _ _ stored own waiting last listed concerned incomplete =>
    refine { same with acknowledgments := ?_, recipients := reacted stored own }
    rw [listed]
    refine forall₂_split ?_ ?_ earlier later
    · exact fun _ => rfl
    · exact rfl

/-! ### The writes of an outsider -/

variable {id task : Identifier} {now : Instant}

theorem ownWork_addAssignment {new : NewAssignment} (ha : s.addAssignment id now new = .ok s') :
    OwnWork user s s' := by
  obtain ⟨hfresh, rfl⟩ := addAssignment_eq ha
  refine .added hfresh rfl fun c hc => ?_
  obtain ⟨u, -, rfl⟩ := List.mem_map.1 hc
  rfl

namespace Constrained

theorem ownWork_setStatus (h : s.Constrained) {existing : Assignment}
    (hex : s.assignment? id = .ok (some existing)) (hexecutor : existing.executorId = user)
    (hsource : existing.status = .new ∨ existing.status = .inProgress) {target : Status}
    (htarget : target = .inProgress ∨ target = .completed) (report : Option String)
    (completedAt : Option Instant) :
    OwnWork user s (s.setStatus id now target report completedAt).2 := by
  obtain ⟨row, hrow, hid, hreads⟩ := exists_row_of_assignment? hex
  obtain ⟨before, after, hstored, hafter⟩ :=
    h.exists_split_setStatus hrow hid now target report completedAt
  rw [hafter]
  refine .moved hstored (hexecutor ▸ hreads.executorId) ?_ htarget
  rw [hreads.status]
  exact hsource.imp (congrArg Status.name) (congrArg Status.name)

/-- Of the entries on a task, one at most is a user's. -/
theorem pairwise_isEntry (h : s.Constrained) {p : RecipientRow → Bool}
    (hp : ∀ r, p r = true → RecipientRow.isEntry task user r = true) :
    s.recipients.Pairwise fun a b => ¬ (p a = true ∧ p b = true) := by
  refine h.recipients_pairwise.imp fun {a b} hab hboth => ?_
  obtain ⟨hta, hua⟩ := Bool.and_eq_true_iff.1 (hp a hboth.1)
  obtain ⟨htb, hub⟩ := Bool.and_eq_true_iff.1 (hp b hboth.2)
  have htask := (of_decide_eq_true hta).trans (of_decide_eq_true htb).symm
  have huser := (of_decide_eq_true hua).trans (of_decide_eq_true hub).symm
  simp [RecipientRow.clashes, htask, huser] at hab

theorem ownWork_viewEntry (h : s.Constrained)
    (hunseen : s.recipients.any (RecipientRow.isUnseen task user) = true) :
    OwnWork user s (s.viewEntry task user now) := by
  obtain ⟨entry, hentry, hp⟩ := List.any_eq_true.1 hunseen
  obtain ⟨hown, hviewed⟩ := Bool.and_eq_true_iff.1 hp
  obtain ⟨before, after, hstored, hmap⟩ :=
    exists_split_map (p := fun r => RecipientRow.isUnseen task user r = true)
      (RecipientRow.view now) (h.pairwise_isEntry fun _ hr => (Bool.and_eq_true_iff.1 hr).1)
      hentry hp
  have hafter : s.viewEntry task user now =
      { s with recipients := before ++ RecipientRow.view now entry :: after } :=
    congrArg (fun rows => { s with recipients := rows }) hmap
  rw [hafter]
  exact .viewed hstored (of_decide_eq_true (Bool.and_eq_true_iff.1 hown).2)
    (Option.isNone_iff_eq_none.1 hviewed)

/-- A confirmation changes one entry, the user's. -/
theorem exists_confirmEntry (h : s.Constrained)
    (hwaiting : s.recipients.any (RecipientRow.isWaiting task user) = true) (now : Instant) :
    ∃ before after entry, s.recipients = before ++ entry :: after ∧
      entry.userId = user.text ∧ entry.acknowledgmentId = task.text ∧ entry.confirmedAt = none ∧
      s.confirmEntry task user now =
        { s with recipients := before ++ RecipientRow.confirm now entry :: after } := by
  obtain ⟨entry, hentry, hp⟩ := List.any_eq_true.1 hwaiting
  obtain ⟨hown, hunconfirmed⟩ := Bool.and_eq_true_iff.1 hp
  obtain ⟨htask, huser⟩ := Bool.and_eq_true_iff.1 hown
  obtain ⟨before, after, hstored, hmap⟩ :=
    exists_split_map (p := fun r => RecipientRow.isWaiting task user r = true)
      (RecipientRow.confirm now) (h.pairwise_isEntry fun _ hr => (Bool.and_eq_true_iff.1 hr).1)
      hentry hp
  exact ⟨before, after, entry, hstored, of_decide_eq_true huser, of_decide_eq_true htask,
    Option.isNone_iff_eq_none.1 hunconfirmed,
    congrArg (fun rows => { s with recipients := rows }) hmap⟩

/-- A stamp changes the row of the task, unless it bears one. -/
theorem stampComplete_cases (h : s.Constrained) {row : AcknowledgmentRow}
    (hrow : row ∈ s.acknowledgments) (hid : row.id = task.text) (now : Instant) :
    (s.stampComplete task now).2 = s ∨
      row.completedAt = none ∧ ∃ earlier later, s.acknowledgments = earlier ++ row :: later ∧
        (s.stampComplete task now).2 =
          { s with acknowledgments := earlier ++ AcknowledgmentRow.complete now row :: later } := by
  cases hstamp : row.completedAt with
  | some stamp =>
    have hclosed : ∀ t ∈ s.acknowledgments, ¬ AcknowledgmentRow.isOpen task t = true := by
      intro t ht hopen
      obtain ⟨htid, hnone⟩ := Bool.and_eq_true_iff.1 hopen
      rw [h.task_eq ht hrow ((of_decide_eq_true htid).trans hid.symm), hstamp] at hnone
      cases hnone
    have hsame : (s.acknowledgments.map fun t =>
        if AcknowledgmentRow.isOpen task t then AcknowledgmentRow.complete now t else t) =
        s.acknowledgments := by
      refine (List.map_congr_left fun t ht => ?_).trans (List.map_id _)
      rw [if_neg (hclosed t ht), id]
    exact .inl (congrArg (fun rows => { s with acknowledgments := rows }) hsame)
  | none =>
    have hone : s.acknowledgments.Pairwise fun a b =>
        ¬ (AcknowledgmentRow.isOpen task a = true ∧ AcknowledgmentRow.isOpen task b = true) := by
      refine (List.pairwise_map.1 h.taskIds).imp fun {a b} hne hboth => hne ?_
      exact (of_decide_eq_true (Bool.and_eq_true_iff.1 hboth.1).1).trans
        (of_decide_eq_true (Bool.and_eq_true_iff.1 hboth.2).1).symm
    obtain ⟨earlier, later, hlisted, hmap⟩ := exists_split_map (AcknowledgmentRow.complete now)
      hone hrow (Bool.and_eq_true_iff.2 ⟨decide_eq_true hid, by rw [hstamp]; rfl⟩)
    exact .inr ⟨rfl, earlier, later, hlisted,
      congrArg (fun rows => { s with acknowledgments := rows }) hmap⟩

theorem ownWork_markConfirmed (h : s.Constrained) (task user : Identifier) (now : Instant) :
    OwnWork user s (s.markConfirmed task user now).2 := by
  rcases s.markConfirmed_cases task user now with
    ⟨hw, -, he⟩ | ⟨hw, hsettled, he⟩ | ⟨-, -, he⟩ | ⟨-, he⟩ <;> rw [he]
  · obtain ⟨before, after, entry, hstored, huser, -, hnone, hafter⟩ :=
      h.exists_confirmEntry hw now
    rw [hafter]
    exact .confirmed hstored huser hnone
  · obtain ⟨before, after, entry, hstored, huser, htask, hnone, hafter⟩ :=
      h.exists_confirmEntry hw now
    obtain ⟨row, hrow, hid⟩ :=
      hasAcknowledgment_iff.1 (h.recipients entry (by simp [hstored])).1
    rcases (h.confirmEntry task user now).stampComplete_cases hrow (hid.trans htask) now with
      hstamped | ⟨hopen, earlier, later, hlisted, hstamped⟩
    · rw [hstamped, hafter]
      exact .confirmed hstored huser hnone
    · rw [hstamped, hafter]
      refine .completed hstored huser hnone (fun r hr hown => ?_) hlisted hid hopen
      have hall := List.any_eq_false.1 hsettled r (by
        rw [hafter]
        simp only [List.mem_append, List.mem_cons] at hr ⊢
        exact hr.imp_right .inr)
      simpa [hown, htask, Option.isSome_iff_ne_none] using hall
  · exact .nothing
  · exact .nothing

end Constrained

end Store

/-! ### Calls of an outsider -/

namespace Call

open Store

variable {o : Occasion} {office office' : Office} {c : Call} {answer : Except Refusal Answer}

/-- **Nobody is refused before anything is looked at.** -/
theorem perform_of_nobody (o : Occasion) (office : Office) (hc : c.isEntry = false)
    (hnobody : c.actor? = none) :
    c.perform o office = (.error (.office .unauthenticated), office) := by
  cases c
  case addUser => cases hc
  case addDocument => cases hc
  all_goals
    obtain rfl : _ = none := hnobody
    rfl

theorem Outcome.ownWork (hout : Outcome o office c answer office') (hc : c.isEntry = false)
    {actor : Actor} (hactor : c.actor? = some actor) (ha : actor.holds .admin = false)
    (hk : actor.holds .clerk = false) (h : office.store.Constrained) :
    OwnWork actor.id office.store office'.store := by
  -- No call gets past a check that is left to the staff.
  have refused : ∀ {op} {a : Option Actor} {b : Actor} {P : Prop}, a = some actor →
      Policy.requirementFor op = .anyRole Policy.staff →
      Policy.authorize a op = .ok b → P := by
    rintro op _ b P rfl hop hb
    obtain ⟨hab, hp⟩ := Policy.authorize_eq_ok.1 hb
    rw [← Option.some.inj hab, Policy.permits_staffOnly ha hk hop] at hp
    cases hp
  cases hout with
  | refused _ => exact .nothing
  | looked _ => exact .nothing
  | userEntered _ => cases hc
  | documentEntered _ => cases hc
  | assignmentCreated _ added _ => exact ownWork_addAssignment added
  | assignmentUnread _ added _ => exact ownWork_addAssignment added
  | assignmentUpdated checked _ =>
    obtain ⟨editor, heditor, -⟩ := bind_eq_ok.1 checked
    exact refused hactor rfl heditor
  | moveDenied _ _ => exact .nothing
  | assignmentMoved read permitted moved =>
    obtain ⟨rfl, -, -, hex⟩ := Office.of_readMove read
    obtain rfl := Option.some.inj hactor
    obtain ⟨-, rfl⟩ := Prod.mk.inj moved
    obtain ⟨hexecutor, hsource, htarget⟩ := Policy.transition_of_outsider ha hk permitted
    exact h.ownWork_setStatus hex hexecutor hsource htarget _ _
  | assignmentDeleted checked =>
    obtain ⟨deleter, hdeleter, -⟩ := bind_eq_ok.1 checked
    exact refused hactor rfl hdeleter
  | assignmentAbsent _ => exact .nothing
  | taskCreated checked _ _ =>
    obtain ⟨creator, hcreator, -⟩ := bind_eq_ok.1 checked
    exact refused hactor rfl hcreator
  | taskUnread checked _ _ =>
    obtain ⟨creator, hcreator, -⟩ := bind_eq_ok.1 checked
    exact refused hactor rfl hcreator
  | taskDeleted read _ => exact refused hactor rfl (Office.readTask_eq_ok.1 read).1
  | taskAbsent read _ => exact refused hactor rfl (Office.readTask_eq_ok.1 read).1
  | taskViewed read unseen =>
    obtain rfl := Policy.requireActor_eq_ok.1 (Office.readTask_eq_ok.1 read).1
    obtain rfl := Option.some.inj hactor
    exact h.ownWork_viewEntry unseen
  | viewedBefore _ _ _ => exact .nothing
  | @taskConfirmed _ _ confirmer task _ _ read _ confirmed =>
    obtain rfl := Policy.requireActor_eq_ok.1 (Office.readTask_eq_ok.1 read).1
    obtain rfl := Option.some.inj hactor
    have hown := h.ownWork_markConfirmed task confirmer.id o.now
    rw [confirmed] at hown
    simpa using hown
  | confirmedBefore _ _ _ => exact .nothing

end Call

namespace Office

open Store

variable {office : Office} {actor : Actor}

/-- **The queue of an outsider is its own.** Each task in it names the actor among its recipients,
without a confirmation, and so do the tables. -/
theorem pendingAcknowledgments_of_outsider (ha : actor.holds .admin = false)
    (hk : actor.holds .clerk = false) (hs : office.store.Constrained) {user : Option String}
    {ts : List AcknowledgmentTask}
    (h : pendingAcknowledgments (some actor) user office = .ok ts) {t : AcknowledgmentTask}
    (ht : t ∈ ts) :
    (∃ entry ∈ t.recipients, entry.userId = actor.id ∧ entry.confirmedAt = none) ∧
      ∃ r ∈ office.store.recipients, Identifier.parse? r.acknowledgmentId = some t.id ∧
        r.userId = actor.id.text ∧ r.confirmedAt = none := by
  obtain ⟨viewer, queue, hviewer, -, -, hothers, hts⟩ := pendingAcknowledgments_eq_ok.1 h
  obtain rfl := Option.some.inj hviewer
  obtain rfl : queue = actor.id := by
    by_contra hne
    have hp := hothers hne
    rw [Policy.permits_staffOnly ha hk rfl] at hp
    cases hp
  obtain ⟨row, -, hpending, hreads, -, hentries⟩ := hs.exists_row_of_tasksWhere hts ht
  obtain ⟨r, hr, hp⟩ := List.any_eq_true.1 hpending
  simp only [Bool.and_eq_true, decide_eq_true_eq, Option.isNone_iff_eq_none] at hp
  obtain ⟨⟨howner, huser⟩, hnone⟩ := hp
  obtain ⟨entry, hentry, hread⟩ := hentries r hr howner
  have hreaction := reads_of_readRecipient hread
  refine ⟨⟨entry, hentry, ?_, hreaction.confirmedAt.trans hnone⟩,
    r, hr, howner ▸ hreads.id, huser, hnone⟩
  have hparsed := hreaction.userId
  rw [huser, Identifier.parse?_text] at hparsed
  exact (Option.some.inj hparsed).symm

/-- **What a caller without a role of the staff can do.** Nobody at all is refused whatever is
asked, and leaves no trace. An actor that is neither administrator nor clerk can make the changes
of `OwnWork` and no others, whatever it asks, and so leaves the rest as it was. Where it is shown a
queue of tasks, each of them waits for the actor itself. -/
theorem outsider_confined (o : Occasion) (office : Office) (c : Call) (hc : c.isEntry = false) :
    (c.actor? = none → c.perform o office = (.error (.office .unauthenticated), office)) ∧
      ∀ actor, c.actor? = some actor → actor.holds .admin = false → actor.holds .clerk = false →
        office.store.Constrained →
        OwnWork actor.id office.store (c.perform o office).2.store ∧
          LeavesRest actor.id office.store (c.perform o office).2.store ∧
          ∀ user ts, c = .pendingAcknowledgments (some actor) user →
            (c.perform o office).1 = .ok (.tasks ts) → ∀ t ∈ ts,
              (∃ entry ∈ t.recipients, entry.userId = actor.id ∧ entry.confirmedAt = none) ∧
              ∃ r ∈ office.store.recipients, Identifier.parse? r.acknowledgmentId = some t.id ∧
                r.userId = actor.id.text ∧ r.confirmedAt = none := by
  refine ⟨Call.perform_of_nobody o office hc, fun actor hactor ha hk h => ?_⟩
  have hown := (Call.perform_outcome o office c).ownWork hc hactor ha hk h
  refine ⟨hown, hown.leavesRest, fun user ts hcall hanswer t ht => ?_⟩
  subst hcall
  obtain ⟨ts', hts, heq⟩ := Call.answerWith_eq_ok.1 hanswer
  obtain rfl := Answer.tasks.inj heq
  exact pendingAcknowledgments_of_outsider ha hk h hts ht

/-- An executor of `circulatingRun` confirms, as the last of two recipients of a task. -/
theorem outsider_confined_of_circulatingRun :
    let office := stage circulatingRun 9
    let call := Call.confirmAcknowledgment (some vera) "00000000000000000000000000000006"
    call.isEntry = false ∧ call.actor? = some vera ∧ vera.holds .admin = false ∧
      vera.holds .clerk = false ∧ office.store.Constrained ∧
      (call.perform (minute 7) office).2.store ≠ office.store ∧
      OwnWork vera.id office.store (call.perform (minute 7) office).2.store := by
  have hconstrained := (orderly_stage circulatingRun 9).toConstrained
  exact ⟨rfl, rfl, rfl, rfl, hconstrained, by decide +kernel,
    ((outsider_confined (minute 7) (stage circulatingRun 9)
      (.confirmAcknowledgment (some vera) "00000000000000000000000000000006") rfl).2
      vera rfl rfl rfl hconstrained).1⟩

end Office

end Chancery
