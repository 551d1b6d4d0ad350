import Chancery.Proofs.Assignments.Fate
import Mathlib.Logic.Relation

/-!
# The lifecycle without an administrator

An administrator may make any move, and so every status may follow every other. Where no
administrator acts, the table of moves leaves five: work is started, started or not it is
completed, and completed work is finished or returned. The first half of this module reads that
off the table, for every mixture of the other roles.

The second half carries it through runs. What one call does to a status is `status_step`; that a
finished assignment comes out of a call as the very same value is `finished_step`, and rests on
two guards and the table at once: editing and deleting look at the status themselves, moving does
not need to, because the table has no move out of `finished`.

## Main definitions

* `Status.Advances` — the moves that are left
* `Call.byAdmin` — a call of an administrator
* `Lifecycle` — what holds of one assignment in a run

## Main results

* `Office.lifecycle_without_admin`
-/

namespace Chancery

/-! ### The moves that are left -/

namespace Status

/-- The moves between different statuses that are made without an administrator. -/
inductive Advances : Status → Status → Prop
  | start : Advances .new .inProgress
  | completeAtOnce : Advances .new .completed
  | complete : Advances .inProgress .completed
  | finish : Advances .completed .finished
  | giveBack : Advances .completed .returned

/-- How far the work has come. -/
def rank : Status → Nat
  | .new => 0
  | .inProgress => 1
  | .completed => 2
  | .finished | .returned | .cancelled => 3

variable {s t : Status}

theorem Advances.rank_lt (h : s.Advances t) : s.rank < t.rank := by
  cases h <;> decide

theorem Advances.ne_cancelled (h : s.Advances t) : t ≠ .cancelled := by
  cases h <;> decide

theorem Advances.eq_completed (h : s.Advances .finished) : s = .completed := by
  cases h
  rfl

/-- Whatever lies ahead of a status is the status itself or has come further. -/
theorem eq_or_rank_lt (h : Relation.ReflTransGen Advances s t) : t = s ∨ s.rank < t.rank := by
  induction h with
  | refl => exact .inl rfl
  | tail _ hadv ih =>
    rcases ih with rfl | ih
    · exact .inr hadv.rank_lt
    · exact .inr (Nat.lt_trans ih hadv.rank_lt)

/-- Nothing lies ahead of a finished or a returned assignment. -/
theorem eq_of_final (h : Relation.ReflTransGen Advances s t) (hs : s = .finished ∨ s = .returned) :
    t = s := by
  induction h with
  | refl => rfl
  | tail _ hadv ih => rcases hs with rfl | rfl <;> subst ih <;> cases hadv

end Status

namespace Policy

theorem permits_modifyFinished {a : Actor} :
    permits a .modifyFinishedAssignment = a.holds .admin := by
  show ([Role.admin].any a.holds) = a.holds .admin
  simp

/-- Without the role of an administrator, a clerk finishes or returns completed work, and an
executor who is no clerk starts or completes work that is owed. -/
theorem transition_without_admin {a : Actor} {executor : Identifier} {source target : Status}
    (ha : a.holds .admin = false)
    (h : transitionPermitted a executor source target = true) :
    a.holds .clerk = true ∧ source = .completed ∧ (target = .finished ∨ target = .returned) ∨
      (source = .new ∨ source = .inProgress) ∧ (target = .inProgress ∨ target = .completed) := by
  cases hc : a.holds .clerk with
  | true =>
    simp only [transitionPermitted, transitionRules, List.find?_cons, hasCapacity, ha, hc,
      StatusSet.contains, Bool.and_eq_true, List.contains_iff_mem, List.mem_cons,
      List.not_mem_nil, or_false] at h
    exact .inl ⟨rfl, h⟩
  | false =>
    by_cases he : executor = a.id
    · simp only [transitionPermitted, transitionRules, List.find?_cons, hasCapacity, ha, hc, he,
        decide_true, StatusSet.contains, Bool.and_eq_true, List.contains_iff_mem, List.mem_cons,
        List.not_mem_nil, or_false] at h
      exact .inr h
    · simp [transitionPermitted, transitionRules, hasCapacity, ha, hc, he] at h

/-- A move without an administrator keeps the status or advances it. -/
theorem advances_without_admin {a : Actor} {executor : Identifier} {source target : Status}
    (ha : a.holds .admin = false)
    (h : transitionPermitted a executor source target = true) :
    target = source ∨ source.Advances target := by
  rcases transition_without_admin ha h with ⟨-, rfl, rfl | rfl⟩ | ⟨rfl | rfl, rfl | rfl⟩
  · exact .inr .finish
  · exact .inr .giveBack
  · exact .inr .start
  · exact .inr .completeAtOnce
  · exact .inl rfl
  · exact .inr .complete

end Policy

/-- Whether a call is made by an administrator. -/
def Call.byAdmin (c : Call) : Bool := c.actor?.any fun a => a.holds .admin

/-! ### One call -/

namespace Fate

variable {o : Occasion} {id : Identifier} {s s' : Store} {c : Call}
  {answer : Except Refusal Answer} {row row' : AssignmentRow} {a b : Assignment}

/-- A new assignment has the first status. -/
theorem status_of_entered (h : Fate o id s s' c answer none (some row')) (hb : row'.Reads b) :
    b.status = .new := by
  cases h
  exact Status.name_injective hb.status.symm

/-- What a call that is not an administrator's does to the status. A status that advances was
moved, and only a clerk moves to `finished`. -/
theorem status_step (h : Fate o id s s' c answer (some row) (some row'))
    (hc : c.byAdmin = false) (ha : row.Reads a) (hb : row'.Reads b) :
    b.status = a.status ∨ a.status.Advances b.status ∧
      ∃ mover r, c = .moveAssignment (some mover) r ∧
        (b.status = .finished → mover.holds .clerk = true) := by
  cases h with
  | kept _ _ => exact .inl (Status.name_injective (hb.status.symm.trans ha.status))
  | edited _ _ => exact .inl (Status.name_injective (hb.status.symm.trans ha.status))
  | @moved mover r executor source target _ _ _ before permitted _ =>
    have hadmin : mover.holds .admin = false := hc
    obtain rfl : source = a.status := Status.name_injective (before.symm.trans ha.status)
    obtain rfl : target = b.status := Status.name_injective hb.status
    rcases Policy.advances_without_admin hadmin permitted with same | advances
    · exact .inl same
    · refine .inr ⟨advances, mover, r, rfl, fun hfin => ?_⟩
      rcases Policy.transition_without_admin hadmin permitted with ⟨hclerk, -⟩ | ⟨-, hne | hne⟩
      · exact hclerk
      · rw [hfin] at hne
        cases hne
      · rw [hfin] at hne
        cases hne

/-- A finished row comes out of a call that is not an administrator's as it was, and so do its
co-executors. -/
theorem finished_step {after : Option AssignmentRow}
    (h : Fate o id s s' c answer (some row) after) (hc : c.byAdmin = false)
    (hfin : row.status = Status.finished.name) :
    after = some row ∧ s'.coExecutorsUnder id = s.coExecutorsUnder id := by
  -- Editing and deleting are guarded by a permission that only administrators have.
  have unguarded : ∀ actor : Actor, actor.holds .admin = false →
      (row.status = Status.finished.name →
        Policy.permits actor .modifyFinishedAssignment = true) → False := by
    intro actor hadmin guarded
    have := guarded hfin
    rw [Policy.permits_modifyFinished, hadmin] at this
    exact Bool.noConfusion this
  cases h with
  | kept _ coExecutors => exact ⟨rfl, coExecutors⟩
  | @edited editor r details _ _ _ guarded => exact (unguarded editor hc guarded).elim
  | @deleted deleter text _ _ _ guarded => exact (unguarded deleter hc guarded).elim
  | @moved mover r executor source target _ _ _ before permitted _ =>
    have hadmin : mover.holds .admin = false := hc
    obtain rfl : source = .finished := Status.name_injective (before.symm.trans hfin)
    rcases Policy.transition_without_admin hadmin permitted with ⟨-, hne, -⟩ | ⟨hne | hne, -⟩ <;>
      cases hne

end Fate

/-! ### Runs -/

namespace Office

variable {run : List (Occasion × Call)} {id : Identifier} {n m : Nat} {a b : Assignment}

/-- A call is not an administrator's if none of the run is. -/
theorem byAdmin_of_getElem? (h : ∀ call ∈ run, call.2.byAdmin = false) {o : Occasion} {c : Call}
    (hc : run[n]? = some (o, c)) : c.byAdmin = false :=
  h (o, c) (List.mem_of_getElem? hc)

/-- An assignment that was not there before has the first status. -/
theorem status_of_entered (ha : (stage run n).store.assignment? id = .ok none)
    (hb : IsOnFile run (n + 1) id b) : b.status = .new := by
  obtain ⟨row', hrow', hreads'⟩ := hb.exists_row
  have absent : (stage run n).store.rowUnder? id = none := by
    rcases (orderly_stage run n).assignment?_cases id with ⟨hnone, -⟩ | ⟨-, -, -, a, ha', -⟩
    · exact Store.rowUnder?_eq_none_iff.2 hnone
    · rw [ha] at ha'
      cases ha'
  rcases stage_fate run n id with ⟨o, c, answer, -, -, hfate⟩ | ⟨-, hsame⟩
  · rw [absent, hrow'] at hfate
    exact hfate.status_of_entered hreads'
  · rw [hsame, absent] at hrow'
    cases hrow'

/-- What one call does to the status. -/
theorem status_step (h : ∀ call ∈ run, call.2.byAdmin = false) (ha : IsOnFile run n id a)
    (hb : IsOnFile run (n + 1) id b) :
    b.status = a.status ∨ a.status.Advances b.status ∧
      ∃ o mover r, run[n]? = some (o, .moveAssignment (some mover) r) ∧
        (b.status = .finished → mover.holds .clerk = true) := by
  obtain ⟨row, hrow, hreads⟩ := ha.exists_row
  obtain ⟨row', hrow', hreads'⟩ := hb.exists_row
  rcases stage_fate run n id with ⟨o, c, answer, hc, -, hfate⟩ | ⟨-, hsame⟩
  · rw [hrow, hrow'] at hfate
    rcases hfate.status_step (byAdmin_of_getElem? h hc) hreads hreads' with
      same | ⟨advances, mover, r, rfl, hclerk⟩
    · exact .inl same
    · exact .inr ⟨advances, o, mover, r, hc, hclerk⟩
  · have hb' : IsOnFile run n id b := by
      rw [IsOnFile, ← hsame]
      exact hb
    exact .inl (congrArg Assignment.status (hb'.unique ha))

/-- A finished assignment is the very same value after a call. -/
theorem finished_step (h : ∀ call ∈ run, call.2.byAdmin = false) (ha : IsOnFile run n id a)
    (hfin : a.status = .finished) : IsOnFile run (n + 1) id a := by
  obtain ⟨row, hrow, hreads⟩ := ha.exists_row
  rcases stage_fate run n id with ⟨o, c, answer, hc, -, hfate⟩ | ⟨-, hsame⟩
  · rw [hrow] at hfate
    obtain ⟨hrow', hcos⟩ :=
      hfate.finished_step (byAdmin_of_getElem? h hc) (hreads.status.trans (congrArg _ hfin))
    have same := (orderly_stage run n).assignment?_congr_of_rowUnder? (orderly_stage run (n + 1))
      (growsTo_stage run n.le_succ) (hrow'.trans hrow.symm) hcos
    exact same.trans ha
  · rw [IsOnFile, hsame]
    exact ha

/-- While an assignment is there, its status only advances. -/
theorem status_forward (h : ∀ call ∈ run, call.2.byAdmin = false) (hnm : n ≤ m)
    (stays : StaysOnFile run n m id) (ha : IsOnFile run n id a) (hb : IsOnFile run m id b) :
    Relation.ReflTransGen Status.Advances a.status b.status := by
  induction hnm generalizing b with
  | refl =>
    rw [ha.unique hb]
  | @step m hnm ih =>
    obtain ⟨b', hb'⟩ := exists_isOnFile (stays m hnm m.le_succ)
    have soFar := ih (stays.mono n.le_refl m.le_succ) hb'
    rcases status_step h hb' hb with same | ⟨advances, -⟩
    · rw [same]
      exact soFar
    · exact soFar.tail advances

/-- A finished assignment is the very same value ever after. -/
theorem finished_kept (h : ∀ call ∈ run, call.2.byAdmin = false) (hnm : n ≤ m)
    (ha : IsOnFile run n id a) (hfin : a.status = .finished) : IsOnFile run m id a := by
  induction hnm with
  | refl => exact ha
  | step _ ih => exact finished_step h ih hfin

/-- No assignment is cancelled. -/
theorem never_cancelled (h : ∀ call ∈ run, call.2.byAdmin = false) (ha : IsOnFile run n id a) :
    a.status ≠ .cancelled := by
  induction n generalizing a with
  | zero => exact absurd ha.hasAssignment Bool.false_ne_true
  | succ n ih =>
    rcases (orderly_stage run n).assignment?_cases id with ⟨-, hnone⟩ | ⟨-, -, -, b, hb, -⟩
    · rw [status_of_entered hnone ha]
      decide
    · rcases status_step h hb ha with same | ⟨advances, -⟩
      · rw [same]
        exact ih hb
      · exact advances.ne_cancelled

/-- The lifecycle of the assignment under an identifier, over all stages of a run. -/
structure Lifecycle (run : List (Occasion × Call)) (id : Identifier) : Prop where
  /-- At every stage there is no assignment or one that can be read. -/
  reads : ∀ n, (stage run n).store.assignment? id = .ok none ∨ ∃ a, IsOnFile run n id a
  /-- An assignment that was not there before is `new`. -/
  startsNew : ∀ n b, (stage run n).store.assignment? id = .ok none → IsOnFile run (n + 1) id b →
    b.status = .new
  /-- One call keeps the status or makes one of the moves of `Status.Advances`. -/
  oneCall : ∀ n a b, IsOnFile run n id a → IsOnFile run (n + 1) id b →
    b.status = a.status ∨ a.status.Advances b.status
  /-- While the assignment is there, its status only moves forward along `Status.Advances`. -/
  forward : ∀ n m a b, n ≤ m → StaysOnFile run n m id → IsOnFile run n id a →
    IsOnFile run m id b → Relation.ReflTransGen Status.Advances a.status b.status
  /-- A status that was left is not entered again. -/
  neverBack : ∀ n m l a b c, n ≤ m → m ≤ l → StaysOnFile run n l id → IsOnFile run n id a →
    IsOnFile run m id b → IsOnFile run l id c → b.status ≠ a.status → c.status ≠ a.status
  neverCancelled : ∀ n a, IsOnFile run n id a → a.status ≠ .cancelled
  /-- `finished` and `returned` are final. -/
  final : ∀ n m a b, n ≤ m → StaysOnFile run n m id → IsOnFile run n id a → IsOnFile run m id b →
    a.status = .finished ∨ a.status = .returned → b.status = a.status
  /-- `finished` is entered from `completed`, by a clerk's move. -/
  finishedByClerk : ∀ n a b, IsOnFile run n id a → IsOnFile run (n + 1) id b →
    a.status ≠ .finished → b.status = .finished →
      a.status = .completed ∧ ∃ o mover r,
        run[n]? = some (o, .moveAssignment (some mover) r) ∧ mover.holds .clerk = true
  /-- A finished assignment is never deleted, and at every later stage everyone who asks for it is
  given the very same value. -/
  finishedKept : ∀ n m a, n ≤ m → IsOnFile run n id a → a.status = .finished →
    IsOnFile run m id a ∧ ∀ viewer text, Identifier.parse? text = some id →
      getAssignment (some viewer) text (stage run m) = .ok (some a)

/-- **Without an administrator the status of an assignment only moves forward, and a finished
assignment is never changed.** Nothing else is assumed of the callers: they may be anonymous or
hold any other roles, and an assignment may change hands. -/
theorem lifecycle_without_admin (h : ∀ call ∈ run, call.2.byAdmin = false) (id : Identifier) :
    Lifecycle run id where
  reads n := by
    rcases (orderly_stage run n).assignment?_cases id with ⟨-, hnone⟩ | ⟨-, -, -, a, ha, -⟩
    · exact .inl hnone
    · exact .inr ⟨a, ha⟩
  startsNew n b := status_of_entered
  oneCall n a b ha hb := (status_step h ha hb).imp_right And.left
  forward n m a b hnm stays ha hb := status_forward h hnm stays ha hb
  neverBack n m l a b c hnm hml stays ha hb hc hne := by
    have first := status_forward h hnm (stays.mono n.le_refl hml) ha hb
    have rest := status_forward h hml (stays.mono hnm l.le_refl) hb hc
    rcases Status.eq_or_rank_lt first with same | hlt
    · exact absurd same hne
    · intro same
      rcases Status.eq_or_rank_lt rest with same' | hlt'
      · exact hne (same'.symm.trans same)
      · rw [same] at hlt'
        omega
  neverCancelled n a := never_cancelled h
  final n m a b hnm stays ha hb := Status.eq_of_final (status_forward h hnm stays ha hb)
  finishedByClerk n a b ha hb hne hfin := by
    rcases status_step h ha hb with same | ⟨advances, o, mover, r, hc, hclerk⟩
    · exact absurd (same.symm.trans hfin) hne
    · refine ⟨?_, o, mover, r, hc, hclerk hfin⟩
      rw [hfin] at advances
      exact advances.eq_completed
  finishedKept n m a hnm ha hfin := by
    have kept := finished_kept h hnm ha hfin
    exact ⟨kept, fun viewer text hid => getAssignment_eq_ok.2 ⟨⟨viewer, rfl⟩, id, hid, kept⟩⟩

theorem lifecycle_of_finishingRun :
    (∀ call ∈ finishingRun, call.2.byAdmin = false) ∧ Lifecycle finishingRun (.ofNat 3) ∧
      (stage finishingRun 7).store.assignments.map AssignmentRow.status = ["finished"] :=
  ⟨by decide, lifecycle_without_admin (by decide) _, by decide +kernel⟩

end Office

end Chancery
