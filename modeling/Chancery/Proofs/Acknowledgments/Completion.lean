import Chancery.Proofs.Acknowledgments.Fate
import Chancery.Proofs.Acknowledgments.Touches
import Mathlib.Data.Nat.Find

/-!
# Sequences of views and confirmations

What is answered to a confirmation depends on the calls before it in a simple way. The entry of a
user is confirmed if the user has made a confirmation, and the task is outstanding if there is a
recipient who has not. `Tally` is the invariant that says so of the store after some calls. That a
task is open exactly if it is outstanding belongs to it, because the call that confirms the last
entry reports the completion only if it finds the task open.

So the task is completed by the call before which it is outstanding and after which it is not
(`Call.isCompletionOf_perform`), and since it never becomes outstanding again there is at most one.

## Main definitions

* `Call.touch?`, `Call.confirms`
* `Tally`
* `Office.CompletesIn`, `Office.CompletesOnce`

## Main results

* `Office.tally_after` — the invariant
* `Office.store_after` — the store after views and confirmations, as a fold
* `Office.completes_once`
-/

namespace Chancery

open Store Office

/-! ### Calls -/

namespace Call

/-- Whether a call is a view or a confirmation. -/
def isTouch : Call → Bool
  | viewAcknowledgment .. | confirmAcknowledgment .. => true
  | _ => false

/-- What a view or a confirmation does to the store, if it can be read. -/
def touch? : Call → Option Touch
  | viewAcknowledgment actor text =>
    (readTask (Policy.requireActor actor) text).toOption.map fun read => .view read.2 read.1.id
  | confirmAcknowledgment actor text =>
    (readTask (Policy.requireActor actor) text).toOption.map fun read => .confirm read.2 read.1.id
  | _ => none

/-- The store that a view or a confirmation leaves. -/
def touching (now : Instant) (c : Call) (s : Store) : Store :=
  match c.touch? with
  | some t => s.touch now t
  | none => s

/-- Whether a call is a confirmation of a task by a user. -/
def confirms (task user : Identifier) (c : Call) : Bool := c.touch? = some (.confirm task user)

variable {o : Occasion} {office : Office} {c : Call} {actor : Option Actor} {text : String}
  {a : Actor} {id : Identifier}

/-- A view or a confirmation touches the store, or leaves it as it is. -/
theorem store_perform (h : c.isTouch = true) :
    (c.perform o office).2.store = c.touching o.now office.store := by
  cases c with
  | viewAcknowledgment actor text =>
    simp only [perform, wrote_snd, touching, touch?, Office.viewAcknowledgment]
    cases hread : readTask (Policy.requireActor actor) text with
    | error e => rfl
    | ok read =>
      obtain ⟨viewer, task⟩ := read
      simp only [Except.toOption, Option.map_some, Store.touch]
      rcases office.store.markViewed_cases task viewer.id o.now with
        ⟨-, h⟩ | ⟨-, -, h⟩ | ⟨-, h⟩ <;> simp only [h] <;> rfl
  | confirmAcknowledgment actor text =>
    simp only [perform, wrote_snd, touching, touch?, Office.confirmAcknowledgment]
    cases hread : readTask (Policy.requireActor actor) text with
    | error e => rfl
    | ok read =>
      obtain ⟨confirmer, task⟩ := read
      simp only [Except.toOption, Option.map_some, Store.touch]
      rcases office.store.markConfirmed_cases task confirmer.id o.now with
        ⟨-, -, h⟩ | ⟨-, -, h⟩ | ⟨-, -, h⟩ | ⟨-, h⟩ <;> simp only [h] <;> simp
  | _ => exact Bool.noConfusion h

theorem touching_comm {now : Instant} (c c' : Call) (s : Store) :
    c'.touching now (c.touching now s) = c.touching now (c'.touching now s) := by
  unfold touching
  cases c.touch? with
  | none => rfl
  | some t =>
    cases c'.touch? with
    | none => rfl
    | some t' => exact touch_comm t t' s

/-- Whoever has no entry is told so, and nothing changes. -/
theorem perform_view_of_not_hasEntry
    (read : readTask (Policy.requireActor actor) text = .ok (a, id))
    (h : office.store.hasEntry id a.id = false) :
    (viewAcknowledgment actor text).perform o office =
      (.error (.office (noEntry id)), office) := by
  have hu : office.store.recipients.any (RecipientRow.isUnseen id a.id) = false :=
    any_eq_false_of_hasEntry h
  simp only [perform, wrote, Office.viewAcknowledgment, read, markViewed, hu, h]
  rfl

@[inherit_doc perform_view_of_not_hasEntry]
theorem perform_confirm_of_not_hasEntry
    (read : readTask (Policy.requireActor actor) text = .ok (a, id))
    (h : office.store.hasEntry id a.id = false) :
    (confirmAcknowledgment actor text).perform o office =
      (.error (.office (noEntry id)), office) := by
  have hw : office.store.recipients.any (RecipientRow.isWaiting id a.id) = false :=
    any_eq_false_of_hasEntry h
  simp only [perform, wrote, Office.confirmAcknowledgment, read, markConfirmed, hw, h]
  rfl

/-- Whoever has confirmed is told so. -/
theorem perform_confirm_of_not_waiting
    (read : readTask (Policy.requireActor actor) text = .ok (a, id))
    (h : office.store.hasEntry id a.id = true)
    (hw : office.store.recipients.any (RecipientRow.isWaiting id a.id) = false) :
    ((confirmAcknowledgment actor text).perform o office).1 =
      .ok (.confirmed ⟨.alreadyRecorded, false⟩) := by
  simp only [perform, wrote, Office.confirmAcknowledgment, read, markConfirmed, hw, h]
  rfl

/-- A confirmation that was missing is recorded, and it completes the task if that is open and
nobody's is missing afterwards. -/
theorem perform_confirm_of_waiting
    (read : readTask (Policy.requireActor actor) text = .ok (a, id))
    (hw : office.store.recipients.any (RecipientRow.isWaiting id a.id) = true) :
    ((confirmAcknowledgment actor text).perform o office).1 =
      .ok (.confirmed ⟨.recorded,
        !(office.store.touch o.now (.confirm id a.id)).isOutstanding id &&
          office.store.acknowledgments.any (AcknowledgmentRow.isOpen id)⟩) := by
  have outstanding : (office.store.touch o.now (.confirm id a.id)).isOutstanding id =
      (office.store.confirmEntry id a.id o.now).isOutstanding id :=
    isOutstanding_touch _ id
  rw [outstanding]
  simp only [perform, wrote, Office.confirmAcknowledgment, read, markConfirmed, hw, if_true]
  cases (office.store.confirmEntry id a.id o.now).isOutstanding id <;> rfl

/-- Only a confirmation of a task can end its being outstanding. -/
theorem isOutstanding_touching (now : Instant) (s : Store)
    (h : ∀ user, c.touch? ≠ some (.confirm id user)) :
    (c.touching now s).isOutstanding id = s.isOutstanding id := by
  unfold touching
  split
  · rename_i t ht
    rw [isOutstanding_touch]
    cases t with
    | view task user => exact Touch.any_isPending_of_not_finds rfl
    | confirm task user =>
      have hne : id ≠ task := by
        rintro rfl
        exact h user ht
      exact Touch.any_map_of_forall_mem fun r _ => Touch.isPending_row_of_ne now r hne
  · rfl

theorem touch?_eq_confirm {user : Identifier} :
    c.touch? = some (.confirm id user) ↔ ∃ actor text a, c = .confirmAcknowledgment actor text ∧
      readTask (Policy.requireActor actor) text = .ok (a, id) ∧ a.id = user := by
  constructor
  · intro h
    cases c with
    | viewAcknowledgment actor text =>
      rw [touch?, Option.map_eq_some_iff] at h
      obtain ⟨read, -, h⟩ := h
      cases h
    | confirmAcknowledgment actor text =>
      rw [touch?, Option.map_eq_some_iff] at h
      obtain ⟨⟨a, task⟩, hread, h⟩ := h
      cases h
      exact ⟨actor, text, a, rfl, toOption_eq_some.1 hread, rfl⟩
    | _ => cases h
  · rintro ⟨actor, text, a, rfl, hread, rfl⟩
    rw [touch?, hread]
    rfl

/-- A call that is not a confirmation of a task does not complete it. -/
theorem isCompletionOf_perform_of_other (h : c.isTouch = true)
    (other : ∀ user, c.touch? ≠ some (.confirm id user)) :
    c.isCompletionOf id (c.perform o office).1 = false := by
  cases c with
  | viewAcknowledgment actor text => rfl
  | confirmAcknowledgment actor text =>
    cases hread : readTask (Policy.requireActor actor) text with
    | error e =>
      have refused : ((confirmAcknowledgment actor text).perform o office).1 =
          .error (.office e) := by
        simp only [perform, wrote, Office.confirmAcknowledgment, hread]
        rfl
      rw [refused]
      rfl
    | ok read =>
      obtain ⟨a, task⟩ := read
      refine isCompletionOf_of_ne (readTask_eq_ok.1 hread).2 ?_ _
      rintro rfl
      exact other a.id (touch?_eq_confirm.2 ⟨actor, text, a, rfl, hread, rfl⟩)
  | _ => exact Bool.noConfusion h

/-- **A call completes a task if the task is outstanding before it and not after it.** -/
theorem isCompletionOf_perform (hsettled : office.store.IsSettled id) (h : c.isTouch = true) :
    c.isCompletionOf id (c.perform o office).1 =
      (office.store.isOutstanding id && !(c.perform o office).2.store.isOutstanding id) := by
  rw [store_perform h]
  by_cases other : ∀ user, c.touch? ≠ some (.confirm id user)
  · rw [isCompletionOf_perform_of_other h other, isOutstanding_touching o.now office.store other,
      Bool.and_not_self]
  · obtain ⟨user, htouch⟩ := not_forall_not.1 other
    rw [touching, htouch]
    obtain ⟨actor, text, a, rfl, read, rfl⟩ := touch?_eq_confirm.1 htouch
    have named := (readTask_eq_ok.1 read).2
    cases hw : office.store.recipients.any (RecipientRow.isWaiting id a.id) with
    | true =>
      have before : office.store.isOutstanding id = true :=
        Touch.any_isPending_of_finds (t := .confirm id a.id) hw
      rw [perform_confirm_of_waiting read hw, hsettled, before]
      simp [isCompletionOf, named]
    | false =>
      have unchanged : (office.store.touch o.now (.confirm id a.id)).isOutstanding id =
          office.store.isOutstanding id := by
        rw [isOutstanding_touch]
        exact Touch.any_isPending_of_not_finds hw
      rw [unchanged, Bool.and_not_self]
      cases he : office.store.hasEntry id a.id with
      | true =>
        rw [perform_confirm_of_not_waiting read he hw]
        rfl
      | false =>
        rw [perform_confirm_of_not_hasEntry read he]
        rfl

end Call

/-! ### Who has confirmed -/

/-- Of the task under an identifier it is known who its recipients are and which of them have
confirmed. -/
structure Tally (s : Store) (id : Identifier) (recipients : List Identifier)
    (confirmed : Identifier → Bool) : Prop where
  recipients : ∀ user, user ∈ recipients ↔ ∃ r ∈ s.entriesUnder id, r.userId = user.text
  confirmed : ∀ r ∈ s.entriesUnder id,
    ∃ user, r.userId = user.text ∧ r.confirmedAt.isSome = confirmed user
  settled : s.IsSettled id

namespace Tally

variable {s : Store} {id user : Identifier} {recipients : List Identifier}
  {confirmed : Identifier → Bool} {now : Instant}

theorem confirmedAt_isNone (h : Tally s id recipients confirmed) {r : RecipientRow}
    (hr : r ∈ s.entriesUnder id) (huser : r.userId = user.text) :
    r.confirmedAt.isNone = !confirmed user := by
  obtain ⟨user', huser', hconfirmed⟩ := h.confirmed r hr
  obtain rfl := Identifier.text_inj.1 (huser.symm.trans huser')
  rw [← hconfirmed, Option.not_isSome]

theorem hasEntry_iff (h : Tally s id recipients confirmed) :
    s.hasEntry id user = true ↔ user ∈ recipients := by
  rw [hasEntry_eq, List.any_eq_true, h.recipients]
  exact exists_congr fun r => and_congr_right fun _ => decide_eq_true_iff

theorem isWaiting_iff (h : Tally s id recipients confirmed) :
    s.recipients.any (RecipientRow.isWaiting id user) = true ↔
      user ∈ recipients ∧ confirmed user = false := by
  rw [any_isWaiting, List.any_eq_true, h.recipients]
  constructor
  · rintro ⟨r, hr, hboth⟩
    obtain ⟨huser, hnone⟩ := Bool.and_eq_true_iff.1 hboth
    have huser := of_decide_eq_true huser
    rw [h.confirmedAt_isNone hr huser, Bool.not_eq_true'] at hnone
    exact ⟨⟨r, hr, huser⟩, hnone⟩
  · rintro ⟨⟨r, hr, huser⟩, hnot⟩
    refine ⟨r, hr, Bool.and_eq_true_iff.2 ⟨decide_eq_true huser, ?_⟩⟩
    rw [h.confirmedAt_isNone hr huser, hnot, Bool.not_false]

theorem isOutstanding_iff (h : Tally s id recipients confirmed) :
    s.isOutstanding id = true ↔ ∃ user ∈ recipients, confirmed user = false := by
  rw [isOutstanding_eq, List.any_eq_true]
  constructor
  · rintro ⟨r, hr, hnone⟩
    obtain ⟨user, huser, -⟩ := h.confirmed r hr
    rw [h.confirmedAt_isNone hr huser, Bool.not_eq_true'] at hnone
    exact ⟨user, (h.recipients user).2 ⟨r, hr, huser⟩, hnone⟩
  · rintro ⟨user, hmem, hnot⟩
    obtain ⟨r, hr, huser⟩ := (h.recipients user).1 hmem
    refine ⟨r, hr, ?_⟩
    rw [h.confirmedAt_isNone hr huser, hnot, Bool.not_false]

/-- The recipients that are read are those that the tally knows. -/
theorem mem_recipients_of_task? (h : Tally s id recipients confirmed) {task : AcknowledgmentTask}
    (user : Identifier) (read : s.task? id = .ok (some task)) :
    user ∈ task.recipients.map Recipient.userId ↔ user ∈ recipients := by
  obtain ⟨-, -, -, -, hread⟩ := exists_row_of_task? read
  rw [hread, h.recipients]
  constructor
  · rintro ⟨r, hr, hown, hparse⟩
    have hentry : r ∈ s.entriesUnder id := List.mem_filter.2 ⟨hr, decide_eq_true hown⟩
    obtain ⟨user', huser', -⟩ := h.confirmed r hentry
    rw [huser', Identifier.parse?_text] at hparse
    cases hparse
    exact ⟨r, hentry, huser'⟩
  · rintro ⟨r, hr, huser⟩
    obtain ⟨hmem, hown⟩ := List.mem_filter.1 hr
    refine ⟨r, hmem, of_decide_eq_true hown, ?_⟩
    rw [huser, Identifier.parse?_text]

/-- Of a new task nobody has confirmed. -/
theorem of_added {s' : Store} {entryIds : List Identifier} {new : NewAcknowledgment}
    (constrained : s.Constrained) (added : s.addAcknowledgment id entryIds now new = .ok s')
    (nonempty : new.recipientIds ≠ []) (drawn : entryIds.length = new.recipientIds.length) :
    Tally s' id new.recipientIds fun _ => false := by
  obtain ⟨absent, hstore⟩ := addAcknowledgment_eq added
  have entries := entriesUnder_addAcknowledgment added id
  rw [constrained.entriesUnder_eq_nil absent, List.nil_append, if_pos rfl] at entries
  have users : (s'.entriesUnder id).map RecipientRow.userId =
      new.recipientIds.map Identifier.text := by
    rw [entries, map_userId_recipientRows id now drawn]
  have unconfirmed : ∀ r ∈ s'.entriesUnder id, r.confirmedAt = none := by
    intro r hr
    rw [entries] at hr
    obtain ⟨e, -, rfl⟩ := List.mem_map.1 hr
    rfl
  have mem : ∀ user, user ∈ new.recipientIds ↔ ∃ r ∈ s'.entriesUnder id, r.userId = user.text := by
    intro user
    rw [← List.mem_map_of_injective Identifier.text_injective, ← users, List.mem_map]
  refine ⟨mem, fun r hr => ?_, ?_⟩
  · have huser : r.userId ∈ new.recipientIds.map Identifier.text := by
      rw [← users]
      exact List.mem_map_of_mem hr
    obtain ⟨user, -, huser⟩ := List.mem_map.1 huser
    exact ⟨user, huser.symm, by rw [unconfirmed r hr]; rfl⟩
  · have isOpen : s'.acknowledgments.any (AcknowledgmentRow.isOpen id) = true := by
      rw [hstore]
      refine List.any_eq_true.2 ⟨acknowledgmentRow id now new, ?_, ?_⟩
      · exact List.mem_append_right _ List.mem_cons_self
      · exact Bool.and_eq_true_iff.2 ⟨decide_eq_true rfl, rfl⟩
    have outstanding : s'.isOutstanding id = true := by
      obtain ⟨user, huser⟩ := List.exists_mem_of_ne_nil _ nonempty
      obtain ⟨r, hr, -⟩ := (mem user).1 huser
      rw [isOutstanding_eq]
      exact List.any_eq_true.2 ⟨r, hr, by rw [unconfirmed r hr]; rfl⟩
    exact isOpen.trans outstanding.symm

/-- **A touch adds the user who confirms.** -/
theorem touch (h : Tally s id recipients confirmed) (t : Touch) :
    Tally (s.touch now t) id recipients
      fun user => confirmed user || t = .confirm id user where
  recipients user := by
    have userId : ∀ r, (t.row now r).userId = r.userId := fun r => by rw [Touch.row_eq]
    simp only [h.recipients, entriesUnder_touch, List.mem_map, exists_exists_and_eq_and, userId]
  confirmed r' hr' := by
    rw [entriesUnder_touch] at hr'
    obtain ⟨r, hr, rfl⟩ := List.mem_map.1 hr'
    obtain ⟨user, huser, hconfirmed⟩ := h.confirmed r hr
    refine ⟨user, ?_, ?_⟩
    · rw [Touch.row_eq]
      exact huser
    · have hid := of_decide_eq_true (List.mem_filter.1 hr).2
      rw [Touch.confirmedAt_row t hid huser, hconfirmed]
  settled := h.settled.touch t

end Tally

/-! ### Sequences -/

namespace Office

variable {office : Office} {calls calls' : List (Occasion × Call)} {id : Identifier}
  {recipients : List Identifier} {n m : Nat}

/-- Whether one of the first calls of a list is a confirmation of a task by a user. -/
def confirmedBy (calls : List (Occasion × Call)) (id : Identifier) (n : Nat) (user : Identifier) :
    Bool :=
  (calls.take n).any fun call => call.2.confirms id user

theorem confirmedBy_succ {call : Occasion × Call} (h : calls[n]? = some call) :
    confirmedBy calls id (n + 1) =
      fun user => confirmedBy calls id n user || call.2.confirms id user := by
  funext user
  rw [confirmedBy, List.take_add_one, h, List.any_append]
  simp [confirmedBy]

theorem confirmedBy_succ_of_none (h : calls[n]? = none) :
    confirmedBy calls id (n + 1) = confirmedBy calls id n := by
  funext user
  rw [confirmedBy, List.take_add_one, h, Option.toList_none, List.append_nil]
  rfl

/-- The store after some views and confirmations, one after the other. -/
theorem store_after (h : ∀ call ∈ calls, call.2.isTouch = true) :
    (office.after calls).store =
      calls.foldl (fun s call => call.2.touching call.1.now s) office.store := by
  induction calls generalizing office with
  | nil => rfl
  | cons call calls ih =>
    obtain ⟨o, c⟩ := call
    have hc : c.isTouch = true := h (o, c) List.mem_cons_self
    rw [after_cons, ih fun call hcall => h call (List.mem_cons_of_mem _ hcall), List.foldl_cons,
      Call.store_perform hc]

/-- **What is known of a task after some views and confirmations.** -/
theorem tally_after (h : ∀ call ∈ calls, call.2.isTouch = true)
    (tally : Tally office.store id recipients fun _ => false) (n : Nat) :
    Tally (office.after (calls.take n)).store id recipients (confirmedBy calls id n) := by
  induction n with
  | zero => exact tally
  | succ n ih =>
    cases hcall : calls[n]? with
    | none =>
      rw [confirmedBy_succ_of_none hcall, List.take_add_one, hcall, Option.toList_none,
        List.append_nil]
      exact ih
    | some call =>
      have hc : call.2.isTouch = true := h call (List.mem_of_getElem? hcall)
      rw [confirmedBy_succ hcall, List.take_add_one, hcall, after_append]
      have hstore : ((office.after (calls.take n)).after [call]).store =
          call.2.touching call.1.now (office.after (calls.take n)).store :=
        Call.store_perform hc
      rw [Option.toList_some, hstore, Call.touching]
      cases htouch : call.2.touch? with
      | none => simpa [Call.confirms, htouch] using ih
      | some t => simpa [Call.confirms, htouch] using ih.touch t

/-- What is true at first and is not true for ever has a last moment before it first fails. -/
theorem exists_turn {p : Nat → Bool} (start : p 0 = true) (ends : ∃ m, p m = false) :
    ∃ n, (∀ m ≤ n, p m = true) ∧ p (n + 1) = false := by
  have first := Nat.find_spec ends
  obtain ⟨n, hn⟩ : ∃ n, Nat.find ends = n + 1 := by
    refine Nat.exists_eq_succ_of_ne_zero fun hzero => ?_
    rw [hzero, start] at first
    cases first
  refine ⟨n, fun m hm => ?_, hn ▸ first⟩
  have hlt : m < Nat.find ends := by omega
  exact Bool.of_not_eq_false (Nat.find_min ends hlt)

/-- Whether the call of a list with a number is answered that it completed a task. -/
def CompletesIn (office : Office) (calls : List (Occasion × Call)) (id : Identifier) (n : Nat) :
    Prop :=
  ∃ o c, calls[n]? = some (o, c) ∧
    c.isCompletionOf id (c.perform o (office.after (calls.take n))).1 = true

/-- What is answered to views and confirmations, and what they lead to, if a task has been created
for some recipients. -/
structure CompletesOnce (office : Office) (id : Identifier) (recipients : List Identifier)
    (calls : List (Occasion × Call)) : Prop where
  /-- A recipient's confirmation is recorded if it is the first one, and found recorded if not. -/
  recorded : ∀ n o confirmer text,
    calls[n]? = some (o, .confirmAcknowledgment (some confirmer) text) →
    Identifier.parse? text = some id → confirmer.id ∈ recipients →
    ∃ completed, (Call.perform o (office.after (calls.take n))
        (.confirmAcknowledgment (some confirmer) text)).1 =
      .ok (.confirmed
        ⟨if confirmedBy calls id n confirmer.id then .alreadyRecorded else .recorded, completed⟩)
  /-- Whoever is not a recipient is told so, and nothing changes. -/
  refused : ∀ n o actor text c, calls[n]? = some (o, c) →
    c = .viewAcknowledgment (some actor) text ∨ c = .confirmAcknowledgment (some actor) text →
    Identifier.parse? text = some id → actor.id ∉ recipients →
    c.perform o (office.after (calls.take n)) =
      (.error (.office (noEntry id)), office.after (calls.take n))
  /-- If every recipient confirms, then one call completes the task, and that is the first one
  after which nobody is unconfirmed. -/
  once : (∀ user ∈ recipients, ∃ call ∈ calls, call.2.confirms id user = true) →
    ∃ n, CompletesIn office calls id n ∧ (∀ m, CompletesIn office calls id m → m = n) ∧
      (office.after (calls.take (n + 1))).store.isOutstanding id = false ∧
      ∀ m ≤ n, (office.after (calls.take m)).store.isOutstanding id = true
  /-- If not, then none does. -/
  never : ∀ user ∈ recipients, (∀ call ∈ calls, call.2.confirms id user = false) →
    ∀ n, ¬ CompletesIn office calls id n
  /-- At one time, the order of the calls makes no difference to the store. -/
  sameStore : ∀ now, (∀ call ∈ calls, call.1.now = now) → ∀ calls', calls.Perm calls' →
    (office.after calls').store = (office.after calls).store

section

variable (h : ∀ call ∈ calls, call.2.isTouch = true)
  (tally : Tally office.store id recipients fun _ => false)

include h tally

theorem completesIn_iff :
    CompletesIn office calls id n ↔
      (office.after (calls.take n)).store.isOutstanding id = true ∧
        (office.after (calls.take (n + 1))).store.isOutstanding id = false := by
  have settled := (tally_after h tally n).settled
  cases hcall : calls[n]? with
  | none =>
    rw [List.take_add_one, hcall, Option.toList_none, List.append_nil]
    constructor
    · rintro ⟨o, c, hcall', -⟩
      rw [hcall] at hcall'
      cases hcall'
    · rintro ⟨before, after⟩
      rw [before] at after
      cases after
  | some call =>
    obtain ⟨o, c⟩ := call
    have hc : c.isTouch = true := h (o, c) (List.mem_of_getElem? hcall)
    rw [List.take_add_one, hcall, after_append]
    have key := Call.isCompletionOf_perform (o := o) settled hc
    constructor
    · rintro ⟨o', c', hcall', hcompletes⟩
      rw [hcall] at hcall'
      cases hcall'
      rw [key, Bool.and_eq_true, Bool.not_eq_true'] at hcompletes
      exact hcompletes
    · rintro ⟨before, after⟩
      refine ⟨o, c, hcall, ?_⟩
      rw [key, before, Bool.true_and, Bool.not_eq_true']
      exact after

/-- A task that is not outstanding any more is never outstanding again. -/
theorem isOutstanding_mono (hnm : n ≤ m)
    (hm : (office.after (calls.take m)).store.isOutstanding id = true) :
    (office.after (calls.take n)).store.isOutstanding id = true := by
  obtain ⟨user, hmem, hnot⟩ := (tally_after h tally m).isOutstanding_iff.1 hm
  refine (tally_after h tally n).isOutstanding_iff.2 ⟨user, hmem, ?_⟩
  refine List.any_eq_false.2 fun call hcall => List.any_eq_false.1 hnot call ?_
  rw [← Nat.min_eq_left hnm, ← List.take_take] at hcall
  exact List.mem_of_mem_take hcall

/-- If everybody confirms then one call completes the task, and no other. -/
theorem exists_completesIn (nonempty : recipients ≠ [])
    (all : ∀ user ∈ recipients, ∃ call ∈ calls, call.2.confirms id user = true) :
    ∃ n, CompletesIn office calls id n ∧ (∀ m, CompletesIn office calls id m → m = n) ∧
      (office.after (calls.take (n + 1))).store.isOutstanding id = false ∧
      ∀ m ≤ n, (office.after (calls.take m)).store.isOutstanding id = true := by
  have settles : ∃ m, (office.after (calls.take m)).store.isOutstanding id = false := by
    refine ⟨calls.length, Bool.eq_false_iff.2 fun outstanding => ?_⟩
    obtain ⟨user, hmem, hnot⟩ := (tally_after h tally calls.length).isOutstanding_iff.1 outstanding
    obtain ⟨call, hcall, hconfirms⟩ := all user hmem
    rw [confirmedBy, List.take_length] at hnot
    exact List.any_eq_false.1 hnot call hcall hconfirms
  have start : (office.after (calls.take 0)).store.isOutstanding id = true := by
    obtain ⟨user, hmem⟩ := List.exists_mem_of_ne_nil _ nonempty
    exact (tally_after h tally 0).isOutstanding_iff.2 ⟨user, hmem, rfl⟩
  obtain ⟨n, before, first⟩ := exists_turn start settles
  refine ⟨n, (completesIn_iff h tally).2 ⟨before n n.le_refl, first⟩, fun m hm => ?_, first, before⟩
  obtain ⟨outstanding, later⟩ := (completesIn_iff h tally).1 hm
  rcases Nat.lt_trichotomy m n with hlt | rfl | hlt
  · rw [before (m + 1) hlt] at later
    cases later
  · rfl
  · rw [isOutstanding_mono h tally hlt outstanding] at first
    cases first

theorem not_completesIn {user : Identifier} (hmem : user ∈ recipients)
    (hnot : ∀ call ∈ calls, call.2.confirms id user = false) (n : Nat) :
    ¬ CompletesIn office calls id n := by
  intro hcompletes
  obtain ⟨-, later⟩ := (completesIn_iff h tally).1 hcompletes
  have outstanding : (office.after (calls.take (n + 1))).store.isOutstanding id = true := by
    refine (tally_after h tally (n + 1)).isOutstanding_iff.2 ⟨user, hmem, ?_⟩
    refine List.any_eq_false.2 fun call hcall => ?_
    rw [hnot call (List.mem_of_mem_take hcall)]
    exact Bool.false_ne_true
  rw [outstanding] at later
  cases later

end

/-- At one time, the order of views and confirmations makes no difference to the store. -/
theorem store_after_perm {now : Instant} (h : ∀ call ∈ calls, call.2.isTouch = true)
    (atOnce : ∀ call ∈ calls, call.1.now = now) (perm : calls.Perm calls') :
    (office.after calls').store = (office.after calls).store := by
  rw [store_after h, store_after fun call hcall => h call (perm.mem_iff.2 hcall)]
  refine (perm.foldl_eq' (fun x hx y hy s => ?_) office.store).symm
  rw [atOnce x hx, atOnce y hy]
  exact Call.touching_comm x.2 y.2 s

/-- The tally of a task that has just been created: nobody has confirmed. -/
theorem tally_of_created {o : Occasion} {actor : Option Actor}
    {r : Request.CreateAcknowledgment} {task : AcknowledgmentTask} {office₁ : Office}
    (constrained : office.store.Constrained)
    (created : createAcknowledgment o actor r office = (.ok task, office₁)) :
    task.recipients.map Recipient.userId ≠ [] ∧
      Tally office₁.store task.id (task.recipients.map Recipient.userId) fun _ => false := by
  have hout : Call.Outcome o office (.createAcknowledgment actor r) (.ok (.task task)) office₁ := by
    have hout := Call.perform_outcome o office (.createAcknowledgment actor r)
    rw [Call.perform, created] at hout
    exact hout
  cases hout with
  | looked reads => cases reads
  | @taskCreated _ _ new store _ checked added read =>
    have tally : Tally store (office.nextId o) new.recipientIds fun _ => false :=
      .of_added constrained added (of_checkAcknowledgment checked).2.1 (by simp [upcoming])
    rw [id_of_task? read, store_record, store_withStore]
    have same := fun user => tally.mem_recipients_of_task? user read
    refine ⟨fun hnil => ?_, { tally with recipients := fun user => ?_ }⟩
    · obtain ⟨user, huser⟩ := List.exists_mem_of_ne_nil _ (of_checkAcknowledgment checked).2.1
      have hmem := (same user).2 huser
      rw [hnil] at hmem
      cases hmem
    · rw [same, tally.recipients]

/-- **A task is completed exactly once, whatever the order of the calls.** The store in which it is
created may hold anything that its tables allow, and the calls may be made by anybody and concern
other tasks as well. -/
theorem completes_once {o : Occasion} {actor : Option Actor} {r : Request.CreateAcknowledgment}
    {task : AcknowledgmentTask} {office₁ : Office} (constrained : office.store.Constrained)
    (created : createAcknowledgment o actor r office = (.ok task, office₁))
    (h : ∀ call ∈ calls, call.2.isTouch = true) :
    CompletesOnce office₁ task.id (task.recipients.map Recipient.userId) calls := by
  obtain ⟨nonempty, tally⟩ := tally_of_created constrained created
  constructor
  · intro n o confirmer text hcall named hmem
    have read : readTask (Policy.requireActor (some confirmer)) text = .ok (confirmer, task.id) :=
      readTask_eq_ok.2 ⟨rfl, named⟩
    have known := tally_after h tally n
    cases hbefore : confirmedBy calls task.id n confirmer.id with
    | false =>
      exact ⟨_, Call.perform_confirm_of_waiting read (known.isWaiting_iff.2 ⟨hmem, hbefore⟩)⟩
    | true =>
      refine ⟨_, Call.perform_confirm_of_not_waiting read (known.hasEntry_iff.2 hmem) ?_⟩
      refine Bool.eq_false_iff.2 fun waiting => ?_
      rw [(known.isWaiting_iff.1 waiting).2] at hbefore
      cases hbefore
  · intro n o stranger text c hcall hc named hmem
    have read : readTask (Policy.requireActor (some stranger)) text = .ok (stranger, task.id) :=
      readTask_eq_ok.2 ⟨rfl, named⟩
    have absent : (office₁.after (calls.take n)).store.hasEntry task.id stranger.id = false :=
      Bool.eq_false_iff.2 fun entry => hmem ((tally_after h tally n).hasEntry_iff.1 entry)
    rcases hc with rfl | rfl
    · exact Call.perform_view_of_not_hasEntry read absent
    · exact Call.perform_confirm_of_not_hasEntry read absent
  · exact exists_completesIn h tally nonempty
  · exact fun user hmem hnot => not_completesIn h tally hmem hnot
  · exact fun now atOnce calls' perm => store_after_perm h atOnce perm

/-- The calls of `circulatingRun` that follow the second task within one minute complete it, and
complete it as well the other way round. -/
theorem completes_once_of_circulatingRun :
    let office := stage circulatingRun 6
    let calls := (circulatingRun.drop 6).take 5
    CompletesOnce office (.ofNat 6) [boris.id, vera.id] calls ∧
      (∃ n, CompletesIn office calls (.ofNat 6) n) ∧
      (office.after calls.reverse).store = (office.after calls).store := by
  have answered : (createAcknowledgment (minute 5) (some anna) circular
      (stage circulatingRun 5)).1.toOption.map
        (fun task => (task.id, task.recipients.map Recipient.userId)) =
      some (.ofNat 6, [boris.id, vera.id]) := by decide +kernel
  obtain ⟨task, htask, hboth⟩ := Option.map_eq_some_iff.1 answered
  obtain ⟨hid, hrecipients⟩ := Prod.mk.inj hboth
  have created : createAcknowledgment (minute 5) (some anna) circular (stage circulatingRun 5) =
      (.ok task, stage circulatingRun 6) := Prod.ext (toOption_eq_some.1 htask) rfl
  have once : CompletesOnce (stage circulatingRun 6) task.id
      (task.recipients.map Recipient.userId) ((circulatingRun.drop 6).take 5) :=
    completes_once (orderly_stage circulatingRun 5).toConstrained created (by decide)
  rw [hid, hrecipients] at once
  have confirmed : ∀ user ∈ [boris.id, vera.id],
      ∃ call ∈ (circulatingRun.drop 6).take 5, call.2.confirms (.ofNat 6) user = true := by
    decide +kernel
  obtain ⟨n, hn, -⟩ := once.once confirmed
  have atOnce : ∀ call ∈ (circulatingRun.drop 6).take 5, call.1.now = (minute 7).now := by
    decide +kernel
  exact ⟨once, ⟨n, hn⟩, once.sameStore _ atOnce _ (List.reverse_perm _).symm⟩

end Office

end Chancery
