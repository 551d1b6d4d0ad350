import Chancery.Proofs.Acknowledgments.Entries

/-!
# Views and confirmations commute

A view and a confirmation do to a store what a `Touch` does: they change some entries and perhaps
stamp a task. Written out (`Store.touch_eq`), the entries are changed row by row, and whether the
task is stamped is a question about the entries before.

At one time any two touches commute. On the entries this is so row by row (`Touch.row_comm`): a
confirmation implies a view, and fills in the same time as the view would have. On the tasks it is
not, because each of the two confirmations that are missing may be the last. What decides is
symmetric all the same: after both, the task is stamped if one of the two found an entry to confirm
and nobody is left (`Touch.settles_or`).

## Main definitions

* `Touch`, `Store.touch`
* `Store.IsSettled`

## Main results

* `Store.touch_eq`, `Store.touch_comm`
* `Store.IsSettled.touch` — the stamp stays where it belongs
-/

namespace Chancery

open Store

/-- A view or a confirmation of a task by a user. -/
inductive Touch where
  | view (task user : Identifier)
  | confirm (task user : Identifier)
  deriving DecidableEq

/-- What a view or a confirmation does to a store. -/
def Store.touch (now : Instant) (t : Touch) (s : Store) : Store :=
  match t with
  | .view task user => (s.markViewed task user now).2
  | .confirm task user => (s.markConfirmed task user now).2

namespace Touch

def task : Touch → Identifier
  | view task _ => task
  | confirm task _ => task

def user : Touch → Identifier
  | view _ user => user
  | confirm _ user => user

/-- Whether a row is the entry that a touch is about. -/
def concerns (t : Touch) (r : RecipientRow) : Bool := RecipientRow.isEntry t.task t.user r

/-- What a touch does to an entry. -/
def row (now : Instant) : Touch → RecipientRow → RecipientRow
  | view task user, r => if RecipientRow.isUnseen task user r then RecipientRow.view now r else r
  | confirm task user, r =>
    if RecipientRow.isWaiting task user r then RecipientRow.confirm now r else r

/-- Whether a touch finds an entry to confirm. -/
def finds (rows : List RecipientRow) : Touch → Bool
  | view _ _ => false
  | confirm task user => rows.any (RecipientRow.isWaiting task user)

/-- Whether a row is an unconfirmed entry on a task. -/
def isPending (task : Identifier) (r : RecipientRow) : Bool :=
  r.acknowledgmentId = task.text && r.confirmedAt.isNone

/-- Whether a touch confirms the last entry of its task that was not confirmed. -/
def settles (now : Instant) (rows : List RecipientRow) (t : Touch) : Bool :=
  t.finds rows && !(rows.map (t.row now)).any (isPending t.task)

variable {now : Instant} {id : Identifier} {a b t : Touch} {r : RecipientRow}
  {rows : List RecipientRow}

/-! ### One entry -/

theorem row_of_not_concerns (h : t.concerns r = false) : t.row now r = r := by
  cases t with
  | view task user =>
    have unseen : RecipientRow.isUnseen task user r = false := by
      rw [RecipientRow.isUnseen, show RecipientRow.isEntry task user r = false from h,
        Bool.false_and]
    rw [row, unseen, if_neg Bool.false_ne_true]
  | confirm task user =>
    have waiting : RecipientRow.isWaiting task user r = false := by
      rw [RecipientRow.isWaiting, show RecipientRow.isEntry task user r = false from h,
        Bool.false_and]
    rw [row, waiting, if_neg Bool.false_ne_true]

/-- A touch changes the times of a row and nothing else. -/
theorem row_eq (t : Touch) (r : RecipientRow) :
    t.row now r =
      { r with viewedAt := (t.row now r).viewedAt, confirmedAt := (t.row now r).confirmedAt } := by
  cases t <;> simp only [row] <;> split <;> rfl

theorem concerns_row (a b : Touch) (r : RecipientRow) :
    b.concerns (a.row now r) = b.concerns r := by
  rw [row_eq]
  rfl

/-- At one time a view adds nothing to a confirmation, nor a second call to a first one. -/
theorem row_comm (a b : Touch) (r : RecipientRow) :
    b.row now (a.row now r) = a.row now (b.row now r) := by
  by_cases ha : a.concerns r = true
  · by_cases hb : b.concerns r = true
    · -- Both are about this entry: the four pairs, and whether each of the times is filled in.
      simp only [concerns, RecipientRow.isEntry, Bool.and_eq_true, decide_eq_true_eq] at ha hb
      cases a <;> cases b <;> cases hv : r.viewedAt <;> cases hc : r.confirmedAt <;>
        simp_all [row, RecipientRow.isUnseen, RecipientRow.isWaiting, RecipientRow.isEntry,
          RecipientRow.view, RecipientRow.confirm, task, user]
    · have hb' := Bool.eq_false_iff.2 hb
      rw [row_of_not_concerns hb', row_of_not_concerns (by rwa [concerns_row])]
  · have ha' := Bool.eq_false_iff.2 ha
    rw [row_of_not_concerns ha', row_of_not_concerns (t := a) (by rwa [concerns_row])]

theorem map_row_comm (a b : Touch) (rows : List RecipientRow) :
    (rows.map (a.row now)).map (b.row now) = (rows.map (b.row now)).map (a.row now) := by
  rw [List.map_map, List.map_map]
  exact List.map_congr_left fun r _ => row_comm a b r

/-- A confirmation by a user confirms the entry of this user, and nothing else does. -/
theorem confirmedAt_row {user : Identifier} (t : Touch) (hid : r.acknowledgmentId = id.text)
    (huser : r.userId = user.text) :
    (t.row now r).confirmedAt.isSome = (r.confirmedAt.isSome || t = .confirm id user) := by
  cases t with
  | view task viewer =>
    have other : Touch.view task viewer ≠ .confirm id user := Touch.noConfusion
    rw [decide_eq_false other, Bool.or_false, row]
    split <;> rfl
  | confirm task confirmer =>
    have entry : RecipientRow.isEntry task confirmer r =
        (confirm task confirmer = confirm id user : Bool) := by
      simp [RecipientRow.isEntry, hid, huser, eq_comm]
    rw [row, RecipientRow.isWaiting, entry]
    by_cases same : confirm task confirmer = confirm id user
    · rw [decide_eq_true same, Bool.true_and, Bool.or_true]
      split
      · rfl
      · rwa [← Option.not_isNone, Bool.not_eq_true', ← Bool.not_eq_true]
    · rw [decide_eq_false same, Bool.false_and, Bool.or_false, if_neg Bool.false_ne_true]

/-! ### Unconfirmed entries -/

/-- Nothing that is confirmed becomes unconfirmed. -/
theorem isNone_of_isNone_row (h : (t.row now r).confirmedAt.isNone = true) :
    r.confirmedAt.isNone = true := by
  cases t <;> simp only [row] at h <;> split at h
  · exact h
  · exact h
  · exact Bool.noConfusion h
  · exact h

/-- A touch of another task leaves a row alone. -/
theorem row_of_ne (hne : id ≠ t.task) (hr : r.acknowledgmentId = id.text) : t.row now r = r :=
  row_of_not_concerns (isEntry_of_ne hne hr)

theorem isPending_row_of_ne (now : Instant) (r : RecipientRow) (hne : id ≠ t.task) :
    isPending id (t.row now r) = isPending id r := by
  by_cases hr : r.acknowledgmentId = id.text
  · rw [row_of_ne hne hr]
  · rw [row_eq]
    simp [isPending, hr]

theorem isWaiting_row_of_ne {user : Identifier} (hne : id ≠ t.task) :
    RecipientRow.isWaiting id user (t.row now r) = RecipientRow.isWaiting id user r := by
  by_cases hr : r.acknowledgmentId = id.text
  · rw [row_of_ne hne hr]
  · rw [row_eq]
    simp [RecipientRow.isWaiting, RecipientRow.isEntry, hr]

/-- A touch that finds nothing to confirm leaves every time of a confirmation alone. -/
theorem confirmedAt_row_of_not_finds (now : Instant) (h : t.finds rows = false) (hr : r ∈ rows) :
    (t.row now r).confirmedAt = r.confirmedAt := by
  cases t with
  | view task user =>
    rw [row]
    split <;> rfl
  | confirm task user =>
    rw [row, if_neg (List.any_eq_false.1 h r hr)]

theorem isPending_row_of_not_finds (h : t.finds rows = false) (hr : r ∈ rows) :
    isPending id (t.row now r) = isPending id r := by
  have hconfirmed := confirmedAt_row_of_not_finds now h hr
  rw [row_eq, isPending, isPending, hconfirmed]

theorem any_map_of_forall_mem {f : RecipientRow → RecipientRow} {p q : RecipientRow → Bool}
    (h : ∀ r ∈ rows, p (f r) = q r) : (rows.map f).any p = rows.any q := by
  rw [Bool.eq_iff_iff, List.any_map, List.any_eq_true, List.any_eq_true]
  exact exists_congr fun r => and_congr_right fun hr => by rw [Function.comp_apply, h r hr]

theorem any_isPending_of_not_finds (h : t.finds rows = false) :
    (rows.map (t.row now)).any (isPending id) = rows.any (isPending id) :=
  any_map_of_forall_mem fun _ => isPending_row_of_not_finds h

theorem finds_map_of_not_finds (h : a.finds rows = false) (b : Touch) :
    b.finds (rows.map (a.row now)) = b.finds rows := by
  cases b with
  | view task user => rfl
  | confirm task user =>
    refine any_map_of_forall_mem fun r hr => ?_
    have hconfirmed := confirmedAt_row_of_not_finds now h hr
    rw [row_eq, RecipientRow.isWaiting, RecipientRow.isWaiting, hconfirmed]
    rfl

theorem finds_of_finds_map (h : b.finds (rows.map (a.row now)) = true) : b.finds rows = true := by
  cases b with
  | view task user => exact h
  | confirm task user =>
    obtain ⟨r', hr', hwaiting⟩ := List.any_eq_true.1 h
    obtain ⟨r, hr, rfl⟩ := List.mem_map.1 hr'
    obtain ⟨hentry, hnone⟩ := Bool.and_eq_true_iff.1 hwaiting
    refine List.any_eq_true.2 ⟨r, hr, Bool.and_eq_true_iff.2 ⟨?_, isNone_of_isNone_row hnone⟩⟩
    exact (concerns_row a (.confirm task user) r).symm.trans hentry

/-- Who finds an entry to confirm finds the task outstanding. -/
theorem any_isPending_of_finds (h : t.finds rows = true) :
    rows.any (isPending t.task) = true := by
  cases t with
  | view task user => exact Bool.noConfusion h
  | confirm task user =>
    obtain ⟨r, hr, hwaiting⟩ := List.any_eq_true.1 h
    obtain ⟨hentry, hnone⟩ := Bool.and_eq_true_iff.1 hwaiting
    exact List.any_eq_true.2
      ⟨r, hr, Bool.and_eq_true_iff.2 ⟨(Bool.and_eq_true_iff.1 hentry).1, hnone⟩⟩

/-! ### The last confirmation -/

/-- A touch of another task does not decide whether this one settles its task. -/
theorem settles_map_of_ne (hne : b.task ≠ a.task) :
    b.settles now (rows.map (a.row now)) = b.settles now rows := by
  have finds : b.finds (rows.map (a.row now)) = b.finds rows := by
    cases b with
    | view task user => rfl
    | confirm task user => exact any_map_of_forall_mem fun r _ => isWaiting_row_of_ne hne
  rw [settles, settles, finds, map_row_comm,
    any_map_of_forall_mem fun r _ => isPending_row_of_ne now r hne]

/-- **Which of two touches settles their task does not matter.** Some one of them does if one of
them finds an entry to confirm and, after both, no entry is unconfirmed. -/
theorem settles_or (same : a.task = b.task) :
    (a.settles now rows || b.settles now (rows.map (a.row now))) =
      ((a.finds rows || b.finds rows) &&
        !((rows.map (a.row now)).map (b.row now)).any (isPending b.task)) := by
  cases hb : b.finds (rows.map (a.row now)) with
  | true =>
    -- The first touch leaves the entry that the second one finds.
    have pending := any_isPending_of_finds hb
    have first : a.settles now rows = false := by
      rw [settles, same, pending, Bool.not_true, Bool.and_false]
    rw [first, settles, hb, finds_of_finds_map hb, Bool.false_or, Bool.or_true]
  | false =>
    have finds : (a.finds rows || b.finds rows) = a.finds rows := by
      cases ha : a.finds rows with
      | true => exact Bool.true_or _
      | false =>
        rw [finds_map_of_not_finds ha] at hb
        rw [hb, Bool.or_false]
    rw [any_isPending_of_not_finds hb, finds, settles, settles, hb, Bool.false_and, Bool.or_false,
      same]

end Touch

/-! ### The whole store -/

namespace Store

variable {s : Store} {now : Instant}

theorem mapRecipients_of_none {p : RecipientRow → Bool} {f : RecipientRow → RecipientRow}
    (h : s.recipients.any p = false) : s.mapRecipients p f = s := by
  have rows : (s.recipients.map fun r => if p r then f r else r) = s.recipients := by
    refine (List.map_congr_left fun r hr => ?_).trans (List.map_id _)
    exact if_neg (List.any_eq_false.1 h r hr)
  rw [mapRecipients, rows]

/-- Who has no entry has none that could be changed. -/
theorem any_eq_false_of_hasEntry {task user : Identifier} {p : RecipientRow → Bool}
    (h : s.hasEntry task user = false) :
    (s.recipients.any fun r => RecipientRow.isEntry task user r && p r) = false := by
  refine List.any_eq_false.2 fun r hr hboth => List.any_eq_false.1 h r hr ?_
  exact (Bool.and_eq_true_iff.1 hboth).1

theorem markViewed_snd (task user : Identifier) :
    (s.markViewed task user now).2 = s.viewEntry task user now := by
  rcases s.markViewed_cases task user now with ⟨-, h⟩ | ⟨hu, -, h⟩ | ⟨he, h⟩ <;> rw [h]
  · exact (mapRecipients_of_none hu).symm
  · exact (mapRecipients_of_none (any_eq_false_of_hasEntry he)).symm

/-- The row of a task after a touch, which settled the task or did not. -/
def stampIf (settled : Bool) (task : Identifier) (now : Instant) (x : AcknowledgmentRow) :
    AcknowledgmentRow :=
  if settled && AcknowledgmentRow.isOpen task x then AcknowledgmentRow.complete now x else x

@[simp] theorem stampIf_false (task : Identifier) : stampIf false task now = id := rfl

/-- **The store after a touch.** The entries are changed row by row, and the row of the task is
stamped if it has no stamp and this was the last confirmation. -/
theorem touch_eq (now : Instant) (t : Touch) (s : Store) :
    s.touch now t = { s with
      recipients := s.recipients.map (t.row now)
      acknowledgments :=
        s.acknowledgments.map (stampIf (t.settles now s.recipients) t.task now) } := by
  cases t with
  | view task user =>
    have unsettled : (Touch.view task user).settles now s.recipients = false := rfl
    rw [touch, markViewed_snd, unsettled, stampIf_false, List.map_id]
    rfl
  | confirm task user =>
    have outstanding : (s.confirmEntry task user now).isOutstanding task =
        (s.recipients.map ((Touch.confirm task user).row now)).any (Touch.isPending task) := rfl
    have settles : (Touch.confirm task user).settles now s.recipients =
        (s.recipients.any (RecipientRow.isWaiting task user) &&
          !(s.confirmEntry task user now).isOutstanding task) := rfl
    have rows : s.recipients.map ((Touch.confirm task user).row now) =
        (s.confirmEntry task user now).recipients := rfl
    rw [settles, rows, touch]
    rcases s.markConfirmed_cases task user now with
      ⟨hw, ho, h⟩ | ⟨hw, ho, h⟩ | ⟨hw, -, h⟩ | ⟨he, h⟩ <;> rw [h]
    · rw [hw, ho, Bool.not_true, Bool.and_false, stampIf_false, List.map_id]
      rfl
    · rw [hw, ho]
      rfl
    · rw [hw, Bool.false_and, stampIf_false, List.map_id, confirmEntry, mapRecipients_of_none hw]
    · have hw : s.recipients.any (RecipientRow.isWaiting task user) = false :=
        any_eq_false_of_hasEntry he
      rw [hw, Bool.false_and, stampIf_false, List.map_id, confirmEntry, mapRecipients_of_none hw]

/-- Two stamps, one after the other, are one. -/
theorem stampIf_stampIf (p q : Bool) (task task' : Identifier) (x : AcknowledgmentRow) :
    stampIf q task' now (stampIf p task now x) =
      if p && AcknowledgmentRow.isOpen task x || q && AcknowledgmentRow.isOpen task' x then
        AcknowledgmentRow.complete now x
      else x := by
  cases hp : p && AcknowledgmentRow.isOpen task x with
  | true =>
    have closed : AcknowledgmentRow.isOpen task' (AcknowledgmentRow.complete now x) = false :=
      Bool.and_false _
    rw [stampIf, stampIf, hp, if_pos rfl, closed, Bool.and_false, Bool.true_or, if_pos rfl,
      if_neg Bool.false_ne_true]
  | false =>
    rw [stampIf, stampIf, hp, if_neg Bool.false_ne_true, Bool.false_or]

/-- **At one time, any two touches commute.** -/
theorem touch_comm (a b : Touch) (s : Store) :
    (s.touch now a).touch now b = (s.touch now b).touch now a := by
  have tasks : ∀ x,
      stampIf (b.settles now (s.recipients.map (a.row now))) b.task now
          (stampIf (a.settles now s.recipients) a.task now x) =
        stampIf (a.settles now (s.recipients.map (b.row now))) a.task now
          (stampIf (b.settles now s.recipients) b.task now x) := by
    intro x
    rw [stampIf_stampIf, stampIf_stampIf]
    by_cases same : a.task = b.task
    · rw [same, ← Bool.and_or_distrib_right, ← Bool.and_or_distrib_right, Touch.settles_or same,
        Touch.settles_or same.symm, same, Touch.map_row_comm, Bool.or_comm (b.finds _)]
    · rw [Touch.settles_map_of_ne (Ne.symm same), Touch.settles_map_of_ne same, Bool.or_comm]
  rw [touch_eq, touch_eq, touch_eq, touch_eq]
  simp only [List.map_map, Store.mk.injEq, true_and]
  refine ⟨List.map_congr_left fun x _ => ?_, List.map_congr_left fun r _ => Touch.row_comm a b r⟩
  have htasks := tasks x
  simpa using htasks

theorem isOutstanding_touch (t : Touch) (id : Identifier) :
    (s.touch now t).isOutstanding id =
      (s.recipients.map (t.row now)).any (Touch.isPending id) := by
  rw [touch_eq]
  rfl

theorem entriesUnder_touch (t : Touch) (id : Identifier) :
    (s.touch now t).entriesUnder id = (s.entriesUnder id).map (t.row now) := by
  rw [touch_eq, entriesUnder, entriesUnder, List.filter_map]
  refine congrArg (List.map _) (List.filter_congr fun r _ => ?_)
  rw [Function.comp_apply, Touch.row_eq]

/-! ### Settled tasks -/

/-- A task waits for its stamp exactly if somebody's confirmation is missing. -/
def IsSettled (s : Store) (id : Identifier) : Prop :=
  s.acknowledgments.any (AcknowledgmentRow.isOpen id) = s.isOutstanding id

theorem isOpen_stampIf_of_ne {id task : Identifier} (hne : id ≠ task) (settled : Bool)
    (x : AcknowledgmentRow) :
    AcknowledgmentRow.isOpen id (stampIf settled task now x) = AcknowledgmentRow.isOpen id x := by
  rw [stampIf]
  split
  · rename_i h
    have hown := of_decide_eq_true (Bool.and_eq_true_iff.1 (Bool.and_eq_true_iff.1 h).2).1
    have hid : x.id ≠ id.text := fun hid => hne (Identifier.text_inj.1 (hid.symm.trans hown))
    simp [AcknowledgmentRow.isOpen, AcknowledgmentRow.complete, hid]
  · rfl

theorem isOpen_stampIf_true (task : Identifier) (x : AcknowledgmentRow) :
    AcknowledgmentRow.isOpen task (stampIf true task now x) = false := by
  rw [stampIf, Bool.true_and]
  split
  · exact Bool.and_false _
  · exact Bool.eq_false_iff.2 ‹_›

/-- **A settled task stays settled.** -/
theorem IsSettled.touch {id : Identifier} (h : s.IsSettled id) (t : Touch) :
    (s.touch now t).IsSettled id := by
  rw [IsSettled, isOutstanding_touch, touch_eq]
  by_cases same : id = t.task
  · subst same
    rw [Touch.settles]
    cases hfinds : t.finds s.recipients with
    | false =>
      rw [Bool.false_and, stampIf_false, List.map_id, Touch.any_isPending_of_not_finds hfinds]
      exact h
    | true =>
      have before : s.isOutstanding t.task = true := Touch.any_isPending_of_finds hfinds
      cases houtstanding : (s.recipients.map (t.row now)).any (Touch.isPending t.task) with
      | true =>
        rw [Bool.not_true, Bool.and_false, stampIf_false, List.map_id]
        exact h.trans before
      | false =>
        rw [Bool.not_false, Bool.and_true]
        refine List.any_eq_false.2 fun x' hx' => ?_
        obtain ⟨x, -, rfl⟩ := List.mem_map.1 hx'
        rw [isOpen_stampIf_true]
        exact Bool.false_ne_true
  · rw [Touch.any_map_of_forall_mem fun r _ => Touch.isPending_row_of_ne now r same, List.any_map]
    exact (congrArg s.acknowledgments.any (funext fun x =>
      isOpen_stampIf_of_ne same _ x)).trans h

end Store

end Chancery
