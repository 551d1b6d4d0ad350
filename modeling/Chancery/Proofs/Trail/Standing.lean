import Chancery.Proofs.Assignments.Fate
import Chancery.Proofs.Trail.Growth

/-!
# What the trail tells of an assignment

Read from its beginning, the trail takes an assignment through *standings*: nothing is known of it,
it is on file with a status, it is gone. An event fits the standing in which it finds the
assignment, or it is about something else (`Standing.Step`). That the trail of every stage can be
read in this way, and that the standing to which it leads is what the store holds, is the invariant
`Office.standing_stage`. What the trail says about an assignment is then read off the standings
(`Tells.source_eq`, `Tells.unnamed_of_gone`), without going back to the calls.

## Main definitions

* `Standing`, `Standing.Step`, `Standing.Fits`
* `Tells` — a part of the trail leads from one standing to another
* `AuditEvent.statusTold` — the status to which the last move led

## Main results

* `Call.Outcome.accounts` — what a call tells fits what it does
* `Office.standing_stage` — the trail of a stage tells what its store holds
-/

namespace Chancery

/-- How an assignment stands, according to what has been told of it. -/
inductive Standing where
  | unknown
  | onFile (status : Status)
  | gone
  deriving DecidableEq

namespace Standing

/-- What an event makes of the standing of an assignment. -/
inductive Step (id : Identifier) : Standing → AuditEvent → Standing → Prop
  | other {st e} (unnamed : e.assignment? ≠ some id) : Step id st e st
  | created {actor executor} :
      Step id .unknown (.assignmentCreated actor id executor) (.onFile .new)
  | updated {s actor} : Step id (.onFile s) (.assignmentUpdated actor id) (.onFile s)
  | transitioned {s t actor} :
      Step id (.onFile s) (.assignmentTransitioned actor id s t) (.onFile t)
  | denied {s t actor} :
      Step id (.onFile s) (.assignmentTransitionDenied actor id s t) (.onFile s)
  | deleted {s actor} : Step id (.onFile s) (.assignmentDeleted actor id) .gone

/-- Whether a standing is what the store holds of an assignment. -/
def Fits : Standing → Option AssignmentRow → Prop
  | onFile s, row? => row?.map AssignmentRow.status = some s.name
  | _, row? => row? = none

/-- The status of what is on file; before that, the one that it will have at first. -/
def status : Standing → Status
  | onFile s => s
  | _ => .new

variable {st : Standing} {row : AssignmentRow} {s : Status}

theorem Fits.eq_onFile (h : st.Fits (some row)) (hs : row.status = s.name) : st = .onFile s := by
  cases st with
  | unknown => cases h
  | gone => cases h
  | onFile s' => rw [Status.name_injective ((Option.some.inj h).symm.trans hs)]

theorem Fits.status_eq (h : st.Fits (some row)) : st ≠ .gone ∧ row.status = st.status.name := by
  cases st with
  | unknown => cases h
  | gone => cases h
  | onFile s' => exact ⟨Standing.noConfusion, Option.some.inj h⟩

end Standing

open Standing in
/-- Whether some events lead from one standing of an assignment to another. -/
inductive Tells (id : Identifier) : Standing → List AuditEvent → Standing → Prop
  | nil {st} : Tells id st [] st
  | cons {st st₁ st' e events} (step : Step id st e st₁) (rest : Tells id st₁ events st') :
      Tells id st (e :: events) st'

namespace AuditEvent

/-- The status to which an event moves an assignment. -/
def target? (id : Identifier) : AuditEvent → Option Status
  | assignmentTransitioned _ id' _ target => if id' = id then some target else none
  | _ => none

/-- The status of an assignment according to some events: that to which the last move led, and
`new` if there was none. -/
def statusTold (id : Identifier) (events : List AuditEvent) : Status :=
  (events.filterMap (target? id)).getLast?.getD .new

theorem target?_of_unnamed {id : Identifier} {e : AuditEvent} (h : e.assignment? ≠ some id) :
    e.target? id = none := by
  cases e <;> simp_all [target?, assignment?]

end AuditEvent

namespace Tells

variable {id : Identifier} {st st' : Standing} {before after : List AuditEvent} {e : AuditEvent}

theorem append {st₁ : Standing} (h : Tells id st before st₁) (h' : Tells id st₁ after st') :
    Tells id st (before ++ after) st' := by
  induction h with
  | nil => exact h'
  | cons step _ ih => exact .cons step (ih h')

theorem exists_between (h : Tells id st (before ++ after) st') :
    ∃ st₁, Tells id st before st₁ ∧ Tells id st₁ after st' := by
  induction before generalizing st with
  | nil => exact ⟨st, .nil, h⟩
  | cons e before ih =>
    cases h with
    | cons step rest =>
      obtain ⟨st₁, hbefore, hafter⟩ := ih rest
      exact ⟨st₁, .cons step hbefore, hafter⟩

/-- Around an event there is the standing in which it finds the assignment and the one in which it
leaves it. -/
theorem exists_step (h : Tells id st (before ++ e :: after) st') :
    ∃ st₁ st₂, Tells id st before st₁ ∧ st₁.Step id e st₂ ∧ Tells id st₂ after st' := by
  obtain ⟨st₁, hbefore, hrest⟩ := h.exists_between
  cases hrest with
  | cons step rest => exact ⟨st₁, _, hbefore, step, rest⟩

/-- Events about other things say nothing. -/
theorem of_unnamed (h : ∀ e ∈ before, e.assignment? ≠ some id) : Tells id st before st := by
  induction before with
  | nil => exact .nil
  | cons e before ih =>
    exact .cons (.other (h e List.mem_cons_self)) (ih fun e he => h e (List.mem_cons_of_mem _ he))

theorem eq_of_unnamed (h : Tells id st before st')
    (unnamed : ∀ e ∈ before, e.assignment? ≠ some id) : st' = st := by
  induction h with
  | nil => rfl
  | @cons st st₁ st' e events step _ ih =>
    rw [ih fun e he => unnamed e (List.mem_cons_of_mem _ he)]
    have he := unnamed e List.mem_cons_self
    cases step with
    | other _ => rfl
    | created | updated | transitioned | denied | deleted => exact absurd rfl he

/-- Once an assignment is gone it stays so, and is not named again. -/
theorem unnamed_of_gone (h : Tells id st before st') (gone : st = .gone) :
    st' = .gone ∧ ∀ e ∈ before, e.assignment? ≠ some id := by
  induction h with
  | nil => exact ⟨gone, fun e he => by cases he⟩
  | @cons st st₁ st' e events step _ ih =>
    subst gone
    cases step with
    | other unnamed =>
      obtain ⟨hgone, hrest⟩ := ih rfl
      exact ⟨hgone, List.forall_mem_cons.2 ⟨unnamed, hrest⟩⟩

/-- While an assignment is on file its status is the one to which the last move led. -/
theorem status_eq_getLast? (h : Tells id st before st') (present : st' ≠ .gone) :
    st'.status = (before.filterMap (AuditEvent.target? id)).getLast?.getD st.status := by
  induction h with
  | nil => rfl
  | @cons st st₁ st' e events step rest ih =>
    rw [ih present, List.filterMap_cons]
    cases step with
    | other unnamed => rw [AuditEvent.target?_of_unnamed unnamed]
    | transitioned => simp [AuditEvent.target?, List.getLast?_cons, Standing.status]
    | deleted => exact absurd (rest.unnamed_of_gone rfl).1 present
    | created => rfl
    | updated => rfl
    | denied => rfl

theorem status_eq (h : Tells id .unknown before st') (present : st' ≠ .gone) :
    st'.status = AuditEvent.statusTold id before :=
  h.status_eq_getLast? present

/-- The status with which a move finds an assignment is the one to which the last move led. -/
theorem source_eq {actor : Identifier} {source target : Status}
    (h : Tells id .unknown
      (before ++ .assignmentTransitioned actor id source target :: after) st') :
    source = AuditEvent.statusTold id before := by
  obtain ⟨st₁, st₂, hbefore, step, -⟩ := h.exists_step
  cases step with
  | other unnamed => exact absurd rfl unnamed
  | transitioned => exact hbefore.status_eq Standing.noConfusion

/-- Once its deletion is told an assignment is gone and is not named again. -/
theorem gone_of_deleted {actor : Identifier}
    (h : Tells id st (before ++ .assignmentDeleted actor id :: after) st') :
    st' = .gone ∧ ∀ e ∈ after, e.assignment? ≠ some id := by
  obtain ⟨st₁, st₂, -, step, hafter⟩ := h.exists_step
  cases step with
  | other unnamed => exact absurd rfl unnamed
  | deleted => exact hafter.unnamed_of_gone rfl

/-- What is first told of an assignment is its creation. -/
theorem created_of_find? (h : Tells id .unknown before st')
    (first : before.find? (fun e => e.assignment? = some id) = some e) :
    ∃ actor executor, e = .assignmentCreated actor id executor := by
  obtain ⟨named, unread, rest, rfl, unnamed⟩ := List.find?_eq_some_iff_append.1 first
  obtain ⟨st₁, st₂, hbefore, step, -⟩ := h.exists_step
  obtain rfl := hbefore.eq_of_unnamed fun e he => by simpa using unnamed e he
  cases step with
  | other unnamed => exact absurd (of_decide_eq_true named) unnamed
  | created => exact ⟨_, _, rfl⟩

end Tells

/-! ### One call -/

/-- Whether a call is meant to write to an assignment. -/
def Call.isOnAssignment : Call → Bool
  | createAssignment .. | updateAssignment .. | moveAssignment .. | deleteAssignment .. => true
  | _ => false

theorem Fate.row_eq {o : Occasion} {id : Identifier} {s s' : Store} {c : Call}
    {answer : Except Refusal Answer} {row row' : Option AssignmentRow}
    (h : Fate o id s s' c answer row row') (hc : c.isOnAssignment = false) : row' = row := by
  cases h with
  | kept _ _ => rfl
  | entered _ | edited _ _ | moved _ _ _ _ | deleted _ _ => cases hc

/-- What is read under an identifier is on file with the status that is read. -/
theorem Standing.Fits.of_assignment? {s : Store} {id : Identifier} {st : Standing} {a : Assignment}
    (fits : st.Fits (s.rowUnder? id)) (h : s.Constrained) (ha : s.assignment? id = .ok (some a)) :
    st = .onFile a.status ∧
      ∃ row, s.rowUnder? id = some row ∧ row.status = a.status.name := by
  obtain ⟨row, hrow, hreads⟩ := h.rowUnder?_of_assignment? ha
  rw [hrow] at fits
  exact ⟨fits.eq_onFile hreads.status, row, hrow, hreads.status⟩

/-- Whether what is told of an assignment, between one office and a later one, fits what has become
of it. If it has become known in between, its identifier has been drawn. -/
def Accounts (o : Occasion) (id : Identifier) (office office' : Office) (st : Standing) : Prop :=
  ∃ events st', office'.trail = office.trail ++ events ∧ Tells id st events st' ∧
    st'.Fits (office'.store.rowUnder? id) ∧
    (st' ≠ .unknown → st ≠ .unknown ∨ id ∈ office.drawnBetween o office')

section

variable {o : Occasion} {office office' : Office} {c : Call} {answer : Except Refusal Answer}
  {id : Identifier} {st st' : Standing} {events : List AuditEvent} {e : AuditEvent}

/-- Events about other records say nothing. -/
theorem accounts_of_unnamed (fits : st.Fits (office.store.rowUnder? id))
    (htrail : office'.trail = office.trail ++ events)
    (hrow : office'.store.rowUnder? id = office.store.rowUnder? id)
    (unnamed : ∀ e ∈ events, e.assignment? ≠ some id) : Accounts o id office office' st :=
  ⟨events, st, htrail, .of_unnamed unnamed, hrow ▸ fits, .inl⟩

theorem accounts_of_quiet (fits : st.Fits (office.store.rowUnder? id))
    (htrail : office'.trail = office.trail)
    (hrow : office'.store.rowUnder? id = office.store.rowUnder? id) :
    Accounts o id office office' st :=
  accounts_of_unnamed fits (htrail.trans (List.append_nil _).symm) hrow fun e he => by cases he

theorem accounts_of_other (fits : st.Fits (office.store.rowUnder? id))
    (htrail : office'.trail = office.trail ++ [e])
    (hrow : office'.store.rowUnder? id = office.store.rowUnder? id)
    (unnamed : e.assignment? ≠ some id) : Accounts o id office office' st :=
  accounts_of_unnamed fits htrail hrow (List.forall_mem_singleton.2 unnamed)

/-- One event leads on an assignment that is known. -/
theorem accounts_of_step (htrail : office'.trail = office.trail ++ [e]) (step : st.Step id e st')
    (fits : st'.Fits (office'.store.rowUnder? id)) (known : st ≠ .unknown) :
    Accounts o id office office' st :=
  ⟨[e], st', htrail, .cons step .nil, fits, fun _ => .inl known⟩

/-- **What a call tells of an assignment fits what it does to it.** An assignment of which nothing
is known is created; whatever else is told finds it on file with the status that the event
mentions. -/
theorem Call.Outcome.accounts (hout : Outcome o office c answer office')
    (h : office.store.Orderly) (fits : st.Fits (office.store.rowUnder? id))
    (apart : st ≠ .unknown → id ∉ office.drawnBetween o office') :
    Accounts o id office office' st := by
  have same : c.isOnAssignment = false →
      office'.store.rowUnder? id = office.store.rowUnder? id := (hout.fate h id).row_eq
  cases hout with
  | refused _ => exact accounts_of_quiet fits rfl rfl
  | looked _ => exact accounts_of_quiet fits rfl rfl
  | userEntered _ => exact accounts_of_quiet fits rfl (same rfl)
  | documentEntered _ => exact accounts_of_quiet fits rfl (same rfl)
  | @assignmentCreated actor r creator new store a _ added read =>
    have after := Store.rowUnder?_addAssignment added id
    have named := Store.id_of_assignment? read
    by_cases hid : office.nextId o = id
    · rw [hid] at named
      rw [if_pos hid] at after
      have drawn : id ∈ office.drawnBetween o (((office.afterDrawing 1).withStore store).record
          (.assignmentCreated creator.id a.id new.executorId)) :=
        hid ▸ Office.nextId_mem_drawnBetween (Nat.lt_succ_self office.drawn)
      obtain rfl : st = .unknown := Decidable.byContradiction fun known => apart known drawn
      refine ⟨_, .onFile .new, rfl, .cons (named ▸ .created) .nil, ?_, fun _ => .inr drawn⟩
      exact congrArg (Option.map AssignmentRow.status) after
    · rw [if_neg hid] at after
      exact accounts_of_other fits rfl after fun hsome =>
        hid (named.symm.trans (Option.some.inj hsome))
  | assignmentUnread _ added unread =>
    obtain ⟨a, ha⟩ := h.toConstrained.assignment?_addAssignment added
    rw [written_eq_ok.2 ha] at unread
    cases unread
  | @assignmentUpdated actor r editor id' details store checked updated =>
    obtain ⟨-, -, -, ⟨existing, hex, -⟩, -⟩ := Office.of_checkUpdate checked
    have after := Store.rowUnder?_updateAssignment updated id
    by_cases hid : id = id'
    · subst hid
      obtain ⟨rfl, row, hrow, hstatus⟩ := fits.of_assignment? h.toConstrained hex
      rw [hrow, Option.map_some, if_pos rfl] at after
      refine accounts_of_step rfl .updated ?_ Standing.noConfusion
      rw [Office.store_record, Office.store_withStore, after]
      exact congrArg some hstatus
    · simp only [if_neg hid, Option.map_id'] at after
      exact accounts_of_other fits rfl after fun hsome => hid (Option.some.inj hsome).symm
  | @moveDenied actor r mover id' target existing e read _ =>
    obtain ⟨-, -, -, hex⟩ := Office.of_readMove read
    by_cases hid : id = id'
    · subst hid
      obtain ⟨rfl, -⟩ := fits.of_assignment? h.toConstrained hex
      exact accounts_of_step rfl .denied fits Standing.noConfusion
    · exact accounts_of_other fits rfl rfl fun hsome => hid (Option.some.inj hsome).symm
  | @assignmentMoved actor r mover id' target existing store read _ moved =>
    obtain ⟨-, -, -, hex⟩ := Office.of_readMove read
    have after := Store.rowUnder?_setStatus moved id
    by_cases hid : id = id'
    · subst hid
      obtain ⟨rfl, row, hrow, -⟩ := fits.of_assignment? h.toConstrained hex
      rw [hrow, Option.map_some, if_pos rfl] at after
      refine accounts_of_step rfl .transitioned ?_ Standing.noConfusion
      exact congrArg (Option.map AssignmentRow.status) after
    · simp only [if_neg hid, Option.map_id'] at after
      exact accounts_of_other fits rfl after fun hsome => hid (Option.some.inj hsome).symm
  | @assignmentDeleted actor text deleter id' checked =>
    obtain ⟨-, -, -, existing, hex, -⟩ := Office.of_checkDelete checked
    have after := office.store.rowUnder?_deleteAssignment id' id
    by_cases hid : id = id'
    · subst hid
      obtain ⟨rfl, -⟩ := fits.of_assignment? h.toConstrained hex
      rw [if_pos rfl] at after
      exact accounts_of_step rfl .deleted after Standing.noConfusion
    · rw [if_neg hid] at after
      exact accounts_of_other fits rfl after fun hsome => hid (Option.some.inj hsome).symm
  | assignmentAbsent _ => exact accounts_of_quiet fits rfl rfl
  | taskCreated _ _ _ => exact accounts_of_other fits rfl (same rfl) nofun
  | taskUnread _ _ _ => exact accounts_of_quiet fits rfl (same rfl)
  | taskDeleted _ _ => exact accounts_of_other fits rfl (same rfl) nofun
  | taskAbsent _ _ => exact accounts_of_quiet fits rfl (same rfl)
  | taskViewed _ _ => exact accounts_of_other fits rfl (same rfl) nofun
  | viewedBefore _ _ _ => exact accounts_of_quiet fits rfl rfl
  | taskConfirmed _ _ _ =>
    refine accounts_of_unnamed fits (Office.trail_foldl_record _ _) (same rfl) fun e he => ?_
    rw [(Office.of_mem_confirmationEvents he).1]
    nofun
  | confirmedBefore _ _ _ => exact accounts_of_quiet fits rfl rfl

end

/-! ### Runs -/

namespace Office

variable {run : List (Occasion × Call)} {n : Nat} {id : Identifier}

/-- **The trail of a stage tells of every assignment what the store holds of it.** An assignment is
known only if its identifier has been drawn. -/
theorem standing_stage (apart : DrawsApart run) (n : Nat) (id : Identifier) :
    ∃ st, Tells id .unknown (stage run n).trail st ∧
      st.Fits ((stage run n).store.rowUnder? id) ∧ (st ≠ .unknown → WasDrawn run n id) := by
  induction n with
  | zero => exact ⟨.unknown, .nil, rfl, fun known => absurd rfl known⟩
  | succ n ih =>
    obtain ⟨st, tells, fits, known⟩ := ih
    rcases stage_step run n with ⟨o, c, answer, hc, -, hout⟩ | ⟨-, same⟩
    · have fresh : st ≠ .unknown → id ∉ drawnAt run n := fun h => apart.not_mem_drawnAt (known h)
      rw [drawnAt_eq hc] at fresh
      obtain ⟨events, st', htrail, told, fits', known'⟩ :=
        hout.accounts (orderly_stage run n) fits fresh
      refine ⟨st', htrail ▸ tells.append told, fits', fun h => ?_⟩
      rcases known' h with h | h
      · exact (known h).succ
      · exact wasDrawn_of_mem hc h
    · rw [same]
      exact ⟨st, tells, fits, fun h => (known h).succ⟩

end Office

end Chancery
