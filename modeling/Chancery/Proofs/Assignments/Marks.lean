import Chancery.Proofs.Assignments.Fate
import Chancery.Proofs.Calendar.Order

/-!
# The marks that moves leave on an assignment

Status, report and completion time of an assignment are what its moves have made of them, and the
row alone does not say which moves those were. `Office.moves` collects the moves that were granted
since the assignment was entered, each with the value before and after, and `Bears` says how the
assignment follows from that list. The list is not bounded by a previous assignment under the same
identifier, because it starts where this one was entered.

The completion is stamped with the reading of the clock at which the move was judged, and the
update with the later one at which it was written. Where the readings of a run never decrease, the
three times of an assignment are therefore in order, and the invariant that shows it is that the
time of the last update is one of the readings so far.

## Main definitions

* `Move`, `Office.moves` — the moves of an assignment
* `Assignment.Bears` — how it follows from them
* `Office.readings` — the readings of the clock in a run

## Main results

* `Office.assignment_bears_moves`
-/

namespace Chancery

/-- The readings of the clock that a call makes: two for a move, one for everything else. -/
def Call.readings (o : Occasion) : Call → List Instant
  | .moveAssignment .. => [o.clock, o.clockAtWriting]
  | _ => [o.clock]

theorem Call.clock_mem_readings (o : Occasion) (c : Call) : o.clock ∈ c.readings o := by
  cases c <;> exact List.mem_cons_self

/-- A move of an assignment that was granted: when it was judged, the report that came with it,
and the assignment before and after. -/
structure Move where
  now : Instant
  report : Option String
  before : Assignment
  after : Assignment

/-- What an assignment has become by its moves, of which the last one comes last. -/
structure Assignment.Bears (a : Assignment) (moves : List Move) : Prop where
  /-- The status is that of the last move, and `new` before the first. -/
  status : a.status = (moves.getLast?.map fun m => m.after.status).getD .new
  /-- A completed assignment was completed by its last move, which stamped it. -/
  completed : a.status = .completed →
    ∃ m, moves.getLast? = some m ∧ m.after.status = .completed ∧ a.completedAt = some m.now
  /-- Neither work that is owed nor a returned or cancelled assignment has a completion time. -/
  cleared : a.status ≠ .completed → a.status ≠ .finished → a.completedAt = none
  /-- A finished assignment has kept what was recorded before the move by which it last became
  finished, and before every move since. -/
  finished : a.status = .finished →
    ∃ earlier m later, moves = earlier ++ m :: later ∧ m.after.status = .finished ∧
      m.before.status ≠ .finished ∧ a.completedAt = m.before.completedAt ∧
      ∀ m' ∈ later, m'.before.status = .finished ∧ m'.after.status = .finished ∧
        m'.before.completedAt = a.completedAt
  /-- The report is the last one that came with a move. -/
  report : a.report = (moves.filterMap Move.report).getLast?

/-- The three times of an assignment are in order. -/
structure Assignment.InOrder (a : Assignment) : Prop where
  created_le_updated : a.createdAt ≤ a.updatedAt
  created_le_completed : ∀ t, a.completedAt = some t → a.createdAt ≤ t
  completed_le_updated : ∀ t, a.completedAt = some t → t ≤ a.updatedAt

namespace Assignment.InOrder

variable {a b : Assignment}

/-- An assignment that is entered has its times in order. -/
theorem of_entered (hcompleted : b.completedAt = none) (hsame : b.createdAt = b.updatedAt) :
    b.InOrder where
  created_le_updated := hsame ▸ Instant.le_refl _
  created_le_completed t ht := by cases hcompleted.symm.trans ht
  completed_le_updated t ht := by cases hcompleted.symm.trans ht

/-- A later update keeps the order. -/
theorem updated (h : a.InOrder) (hcompleted : b.completedAt = a.completedAt)
    (hcreated : b.createdAt = a.createdAt) (hle : a.updatedAt ≤ b.updatedAt) : b.InOrder where
  created_le_updated := hcreated ▸ Instant.le_trans h.created_le_updated hle
  created_le_completed t ht := hcreated ▸ h.created_le_completed t (hcompleted ▸ ht)
  completed_le_updated t ht :=
    Instant.le_trans (h.completed_le_updated t (hcompleted ▸ ht)) hle

/-- A move that is judged after the last update and written after it was judged keeps the
order. -/
theorem moved (h : a.InOrder) {now : Instant}
    (hcompleted : b.completedAt = b.status.completionAfter a.completedAt now)
    (hcreated : b.createdAt = a.createdAt) (hnow : a.updatedAt ≤ now) (hle : now ≤ b.updatedAt) :
    b.InOrder := by
  have later : a.updatedAt ≤ b.updatedAt := Instant.le_trans hnow hle
  cases hs : b.status <;> rw [hs] at hcompleted
  case completed =>
    refine ⟨hcreated ▸ Instant.le_trans h.created_le_updated later, fun t ht => ?_, fun t ht => ?_⟩
    · obtain rfl := Option.some.inj (hcompleted.symm.trans ht)
      exact hcreated ▸ Instant.le_trans h.created_le_updated hnow
    · obtain rfl := Option.some.inj (hcompleted.symm.trans ht)
      exact hle
  case finished => exact h.updated hcompleted hcreated later
  all_goals
    refine ⟨hcreated ▸ Instant.le_trans h.created_le_updated later, fun t ht => ?_, fun t ht => ?_⟩
    · cases hcompleted.symm.trans ht
    · cases hcompleted.symm.trans ht

end Assignment.InOrder

namespace Assignment.Bears

variable {a b : Assignment} {moves : List Move}

theorem nil (hstatus : a.status = .new) (hreport : a.report = none)
    (hcompleted : a.completedAt = none) : a.Bears [] where
  status := hstatus
  completed h := by
    rw [hstatus] at h
    cases h
  cleared _ _ := hcompleted
  finished h := by
    rw [hstatus] at h
    cases h
  report := hreport

theorem of_eq (h : a.Bears moves) (hstatus : b.status = a.status) (hreport : b.report = a.report)
    (hcompleted : b.completedAt = a.completedAt) : b.Bears moves where
  status := hstatus.trans h.status
  completed hb := by
    rw [hcompleted]
    exact h.completed (hstatus ▸ hb)
  cleared hb hb' := by
    rw [hcompleted]
    exact h.cleared (hstatus ▸ hb) (hstatus ▸ hb')
  finished hb := by
    rw [hcompleted]
    exact h.finished (hstatus ▸ hb)
  report := hreport.trans h.report

/-- One more move adds its marks to those of the moves before. -/
theorem concat (h : a.Bears moves) {now : Instant} {report : Option String}
    (hreport : b.report = report.orElse fun _ => a.report)
    (hcompleted : b.completedAt = b.status.completionAfter a.completedAt now) :
    b.Bears (moves ++ [⟨now, report, a, b⟩]) where
  status := by simp
  completed hb := by
    refine ⟨_, List.getLast?_concat, hb, ?_⟩
    rw [hcompleted, hb]
    rfl
  cleared hb hb' := by
    rw [hcompleted]
    cases hs : b.status <;> first | rfl | contradiction
  finished hb := by
    have kept : b.completedAt = a.completedAt := by
      rw [hcompleted, hb]
      rfl
    by_cases ha : a.status = .finished
    · obtain ⟨earlier, m, later, rfl, hm, hm', hrecorded, hlater⟩ := h.finished ha
      refine ⟨earlier, m, later ++ [⟨now, report, a, b⟩], by simp, hm, hm',
        kept.trans hrecorded, ?_⟩
      simp only [List.forall_mem_append, List.forall_mem_singleton, kept, and_true]
      exact ⟨hlater, ha, hb⟩
    · exact ⟨moves, _, [], rfl, hb, ha, kept, by simp⟩
  report := by
    rw [List.filterMap_append, List.getLast?_append, hreport, h.report]
    cases report <;> simp

end Assignment.Bears

/-! ### Runs -/

namespace Office

/-- The move that a run makes of an assignment at a stage, if it makes one. -/
def moveAt (run : List (Occasion × Call)) (id : Identifier) (n : Nat) : Option Move :=
  match run[n]? with
  | none => none
  | some (o, c) =>
    match c, (c.perform o (stage run n)).1, (stage run n).store.assignment? id with
    | .moveAssignment _ r, .ok (.assignment after), .ok (some before) =>
      if Identifier.parse? r.id = some id then some ⟨o.now, r.report, before, after⟩ else none
    | _, _, _ => none

/-- The moves that a run makes of an assignment from one stage to another. -/
def moves (run : List (Occasion × Call)) (id : Identifier) (k n : Nat) : List Move :=
  (List.range' k (n - k)).filterMap (moveAt run id)

variable {run : List (Occasion × Call)} {id : Identifier} {k n : Nat} {a b : Assignment}
  {o : Occasion} {c : Call}

theorem moves_self : moves run id k k = [] := by
  simp [moves]

theorem moves_succ (h : k ≤ n) :
    moves run id k (n + 1) = moves run id k n ++ (moveAt run id n).toList := by
  rw [moves, moves, show n + 1 - k = n - k + 1 by omega, List.range'_concat,
    List.filterMap_append, show k + 1 * (n - k) = n by omega]
  cases h : moveAt run id n <;> simp [h]

theorem moveAt_of_none (h : run[n]? = none) : moveAt run id n = none := by
  simp [moveAt, h]

theorem moveAt_of_unmoved (hc : run[n]? = some (o, c))
    (unmoved : c.isMoveOf id (c.perform o (stage run n)).1 = false) : moveAt run id n = none := by
  unfold moveAt
  rw [hc]
  simp only
  split
  · rename_i _ hanswer
    rw [hanswer] at unmoved
    rw [if_neg (of_decide_eq_false unmoved)]
  · rfl

theorem moveAt_of_moved {actor : Option Actor} {r : Request.MoveAssignment}
    (hc : run[n]? = some (o, .moveAssignment actor r)) (named : Identifier.parse? r.id = some id)
    (ha : IsOnFile run n id a)
    (hanswer : ((Call.moveAssignment actor r).perform o (stage run n)).1 = .ok (.assignment b)) :
    moveAt run id n = some ⟨o.now, r.report, a, b⟩ := by
  simp only [moveAt, hc, hanswer, show (stage run n).store.assignment? id = .ok (some a) from ha,
    named, if_true]

/-! ### One call -/

/-- What one call does to the times, the status and the report of an assignment that is there
before and after it. Either it makes no move, and then only the time of the update may change; or it
makes one, and the move knows the values before and after. -/
theorem marks_step (ha : IsOnFile run n id a) (hb : IsOnFile run (n + 1) id b) :
    (moveAt run id n = none ∧ b.status = a.status ∧ b.report = a.report ∧
        b.completedAt = a.completedAt ∧ b.createdAt = a.createdAt ∧
        (b.updatedAt = a.updatedAt ∨ ∃ o c, run[n]? = some (o, c) ∧ b.updatedAt = o.now)) ∨
      ∃ o actor r, run[n]? = some (o, .moveAssignment actor r) ∧
        moveAt run id n = some ⟨o.now, r.report, a, b⟩ ∧
        b.report = (r.report.orElse fun _ => a.report) ∧
        b.completedAt = b.status.completionAfter a.completedAt o.now ∧
        b.createdAt = a.createdAt ∧ b.updatedAt = o.writing := by
  obtain ⟨row, hrow, hreads⟩ := ha.exists_row
  obtain ⟨row', hrow', hreads'⟩ := hb.exists_row
  rcases stage_fate run n id with ⟨o, c, answer, hc, hanswer, hfate⟩ | ⟨hc, hsame⟩
  · rw [hrow, hrow'] at hfate
    cases hfate with
    | kept unmoved _ =>
      refine .inl ⟨moveAt_of_unmoved hc (hanswer ▸ unmoved),
        Status.name_injective (hreads'.status.symm.trans hreads.status),
        hreads'.report.trans hreads.report.symm,
        hreads'.completedAt.trans hreads.completedAt.symm,
        hreads'.createdAt.trans hreads.createdAt.symm, .inl ?_⟩
      exact hreads'.updatedAt.trans hreads.updatedAt.symm
    | edited _ _ =>
      exact .inl ⟨moveAt_of_unmoved hc rfl,
        Status.name_injective (hreads'.status.symm.trans hreads.status),
        hreads'.report.trans hreads.report.symm,
        hreads'.completedAt.trans hreads.completedAt.symm,
        hreads'.createdAt.trans hreads.createdAt.symm, .inr ⟨o, _, hc, hreads'.updatedAt⟩⟩
    | @moved mover r executor source target b' _ named before permitted read =>
      obtain rfl : b' = b := IsOnFile.unique read hb
      obtain rfl : target = b'.status := Status.name_injective hreads'.status
      refine .inr ⟨o, some mover, r, hc, moveAt_of_moved hc named ha hanswer.symm, ?_, ?_,
        hreads'.createdAt.trans hreads.createdAt.symm, hreads'.updatedAt⟩
      · rw [hreads'.report, hreads.report]
        rfl
      · rw [hreads'.completedAt, hreads.completedAt]
        rfl
  · have hb' : IsOnFile run n id b := by
      rw [IsOnFile, ← hsame]
      exact hb
    obtain rfl := hb'.unique ha
    exact .inl ⟨moveAt_of_none hc, rfl, rfl, rfl, rfl, .inl rfl⟩

/-- An assignment that was not there before was entered by the call: it has the first status, no
report and no completion time, and both its times are that of the call. -/
theorem entered_step (absent : (stage run n).store.hasAssignment id.text = false)
    (hb : IsOnFile run (n + 1) id b) :
    ∃ o actor r, run[n]? = some (o, .createAssignment actor r) ∧
      ((Call.createAssignment actor r).perform o (stage run n)).1 = .ok (.assignment b) ∧
      b.status = .new ∧ b.report = none ∧ b.completedAt = none ∧ b.createdAt = o.now ∧
      b.updatedAt = o.now := by
  obtain ⟨row', hrow', hreads'⟩ := hb.exists_row
  have hrow := Store.rowUnder?_eq_none_iff.2 absent
  rcases stage_fate run n id with ⟨o, c, answer, hc, hanswer, hfate⟩ | ⟨-, hsame⟩
  · rw [hrow, hrow'] at hfate
    cases hfate with
    | @entered actor r new b' read =>
      obtain rfl : b' = b := IsOnFile.unique read hb
      exact ⟨o, actor, r, hc, hanswer.symm, Status.name_injective hreads'.status.symm,
        hreads'.report, hreads'.completedAt, hreads'.createdAt, hreads'.updatedAt⟩
  · rw [hsame, hrow] at hrow'
    cases hrow'

/-- An assignment bears the marks of all moves that were made while it was there. -/
theorem bears_moves (hkn : k ≤ n) (stays : StaysOnFile run k n id) (ha : IsOnFile run k id a)
    (entered : a.Bears []) (hb : IsOnFile run n id b) : b.Bears (moves run id k n) := by
  induction hkn generalizing b with
  | refl =>
    rw [moves_self, ← ha.unique hb]
    exact entered
  | @step n hkn ih =>
    obtain ⟨b', hb'⟩ := exists_isOnFile (stays n hkn n.le_succ)
    have soFar := ih (stays.mono k.le_refl n.le_succ) hb'
    rw [moves_succ hkn]
    rcases marks_step hb' hb with ⟨hmove, hstatus, hreport, hcompleted, -, -⟩ |
      ⟨o, actor, r, -, hmove, hreport, hcompleted, -, -⟩ <;> rw [hmove]
    · rw [Option.toList_none, List.append_nil]
      exact soFar.of_eq hstatus hreport hcompleted
    · exact soFar.concat hreport hcompleted

/-- The time of entry never changes. -/
theorem createdAt_eq (hkn : k ≤ n) (stays : StaysOnFile run k n id) (ha : IsOnFile run k id a)
    (hb : IsOnFile run n id b) : b.createdAt = a.createdAt := by
  induction hkn generalizing b with
  | refl => rw [ha.unique hb]
  | @step n hkn ih =>
    obtain ⟨b', hb'⟩ := exists_isOnFile (stays n hkn n.le_succ)
    rw [← ih (stays.mono k.le_refl n.le_succ) hb']
    rcases marks_step hb' hb with ⟨-, -, -, -, hcreated, -⟩ | ⟨-, -, -, -, -, -, -, hcreated, -⟩
    · exact hcreated
    · exact hcreated

/-! ### Times in order -/

/-- The readings of the clock in a run, in their order. -/
def readings (run : List (Occasion × Call)) : List Instant :=
  run.flatMap fun call => call.2.readings call.1

theorem readings_take_succ (hc : run[n]? = some (o, c)) :
    readings (run.take (n + 1)) = readings (run.take n) ++ c.readings o := by
  rw [readings, List.take_add_one, hc, List.flatMap_append]
  simp [readings]

/-- The time of the last update is a reading of the clock that was made so far, and so none that is
yet to come is earlier. That is the invariant by which the times stay in order. -/
theorem inOrder_of_stays (hkn : k ≤ n) (stays : StaysOnFile run k n id)
    (ha : IsOnFile run k id a) (entered : a.InOrder)
    (hread : ∃ t ∈ readings (run.take k), a.updatedAt = t.truncated)
    (hb : IsOnFile run n id b) (sorted : (readings (run.take n)).Pairwise (· ≤ ·)) :
    b.InOrder ∧ ∃ t ∈ readings (run.take n), b.updatedAt = t.truncated := by
  induction hkn generalizing b with
  | refl =>
    rw [← ha.unique hb]
    exact ⟨entered, hread⟩
  | @step n hkn ih =>
    obtain ⟨b', hb'⟩ := exists_isOnFile (stays n hkn n.le_succ)
    cases hc : run[n]? with
    | none =>
      rw [IsOnFile, stage_succ_of_none hc] at hb
      rw [List.take_add_one, hc, Option.toList_none, List.append_nil] at sorted ⊢
      exact ih (stays.mono k.le_refl n.le_succ) hb sorted
    | some call =>
      obtain ⟨o, c⟩ := call
      rw [readings_take_succ hc] at sorted ⊢
      obtain ⟨sortedBefore, sortedNow, cross⟩ := List.pairwise_append.1 sorted
      obtain ⟨inOrder, t, ht, hupdated⟩ := ih (stays.mono k.le_refl n.le_succ) hb' sortedBefore
      have now_le : b'.updatedAt ≤ o.now := by
        rw [hupdated]
        exact Instant.truncated_le_truncated (cross t ht _ (Call.clock_mem_readings o c))
      rcases marks_step hb' hb with ⟨-, -, -, hcompleted, hcreated, same | ⟨o', c', hc', hnow⟩⟩ |
        ⟨o', actor, r, hc', -, -, hcompleted, hcreated, hwriting⟩
      · refine ⟨inOrder.updated hcompleted hcreated (same ▸ Instant.le_refl _), t, ?_, ?_⟩
        · exact List.mem_append_left _ ht
        · exact same.trans hupdated
      · obtain ⟨rfl, rfl⟩ := Prod.mk.inj (Option.some.inj (hc.symm.trans hc'))
        refine ⟨inOrder.updated hcompleted hcreated (hnow ▸ now_le), o.clock, ?_, hnow⟩
        exact List.mem_append_right _ (Call.clock_mem_readings o c)
      · obtain ⟨rfl, rfl⟩ := Prod.mk.inj (Option.some.inj (hc.symm.trans hc'))
        have written : o.clock ≤ o.clockAtWriting :=
          (List.pairwise_cons.1 sortedNow).1 _ List.mem_cons_self
        refine ⟨inOrder.moved hcompleted hcreated now_le ?_, o.clockAtWriting, ?_, hwriting⟩
        · rw [hwriting]
          exact Instant.truncated_le_truncated written
        · exact List.mem_append_right _ (List.mem_cons_of_mem _ List.mem_cons_self)

/-- New details leave the marks of the moves alone, whoever gives them and whatever they are. -/
theorem marks_of_updateAssignment (ha : IsOnFile run n id a) (o : Occasion)
    (actor : Option Actor) (r : Request.UpdateAssignment) :
    ∃ b, ((Call.updateAssignment actor r).perform o (stage run n)).2.store.assignment? id =
        .ok (some b) ∧
      b.status = a.status ∧ b.report = a.report ∧ b.completedAt = a.completedAt ∧
        b.createdAt = a.createdAt := by
  obtain ⟨row, hrow, hreads⟩ := ha.exists_row
  have hout := Call.perform_outcome o (stage run n) (.updateAssignment actor r)
  have orderly := hout.orderly (orderly_stage run n)
  have hfate := hout.fate (orderly_stage run n) id
  obtain ⟨row', hrow', same⟩ : ∃ row', ((Call.updateAssignment actor r).perform o
      (stage run n)).2.store.rowUnder? id = some row' ∧ row'.status = row.status ∧
        row'.report = row.report ∧ row'.completedAt = row.completedAt ∧
          row'.createdAt = row.createdAt := by
    rw [hrow] at hfate
    generalize ((Call.updateAssignment actor r).perform o (stage run n)).2.store.rowUnder? id =
      after at hfate
    cases hfate with
    | kept _ _ => exact ⟨row, rfl, rfl, rfl, rfl, rfl⟩
    | edited _ _ => exact ⟨_, rfl, rfl, rfl, rfl, rfl⟩
  obtain ⟨b, hb, hreads'⟩ := orderly.assignment?_of_mem (Store.of_rowUnder? hrow').1
    (Store.of_rowUnder? hrow').2
  refine ⟨b, hb, Status.name_injective ?_, ?_, ?_, ?_⟩
  · rw [← hreads'.status, same.1, hreads.status]
  · rw [hreads'.report, same.2.1, hreads.report]
  · rw [hreads'.completedAt, same.2.2.1, hreads.completedAt]
  · rw [hreads'.createdAt, same.2.2.2, hreads.createdAt]

/-- **Status, report and completion time are what the moves since the entry have made of them.**
The assignment on file at any stage was entered by a call, has been there ever since, and bears the
marks of its moves from then on; new details would not change these; and if the readings of the
clock so far never decrease, its times are in order. -/
theorem assignment_bears_moves (ha : IsOnFile run n id a) :
    ∃ k o actor r created,
      k < n ∧ run[k]? = some (o, .createAssignment actor r) ∧
      ((Call.createAssignment actor r).perform o (stage run k)).1 = .ok (.assignment created) ∧
      created.id = id ∧ StaysOnFile run (k + 1) n id ∧
      a.createdAt = o.now ∧
      a.Bears (moves run id (k + 1) n) ∧
      ((readings (run.take n)).Pairwise (· ≤ ·) → a.InOrder) ∧
      ∀ o actor r, ∃ b,
        ((Call.updateAssignment actor r).perform o (stage run n)).2.store.assignment? id =
          .ok (some b) ∧
        b.status = a.status ∧ b.report = a.report ∧ b.completedAt = a.completedAt ∧
          b.createdAt = a.createdAt := by
  obtain ⟨k, hkn, habsent, hsince⟩ :=
    exists_entry (fun s => s.hasAssignment id.text = true) Bool.false_ne_true ha.hasAssignment
  have stays : StaysOnFile run (k + 1) n id := fun i hki hin => hsince i hki hin
  obtain ⟨created, hcreated⟩ := exists_isOnFile (stays (k + 1) (k + 1).le_refl hkn)
  obtain ⟨o, actor, r, hc, hanswer, hstatus, hreport, hcompleted, hnow, hupdated⟩ :=
    entered_step (Bool.eq_false_iff.2 habsent) hcreated
  refine ⟨k, o, actor, r, created, hkn, hc, hanswer, Store.id_of_assignment? hcreated, stays,
    ?_, ?_, fun sorted => ?_, marks_of_updateAssignment ha⟩
  · rw [createdAt_eq hkn stays hcreated ha, hnow]
  · exact bears_moves hkn stays hcreated (.nil hstatus hreport hcompleted) ha
  · refine (inOrder_of_stays hkn stays hcreated ?_ ⟨o.clock, ?_, hupdated⟩ ha sorted).1
    · exact .of_entered hcompleted (hnow.trans hupdated.symm)
    · rw [readings_take_succ hc]
      exact List.mem_append_right _ (Call.clock_mem_readings o _)

theorem assignment_bears_moves_of_finishingRun :
    ∃ a, IsOnFile finishingRun 6 (.ofNat 3) a ∧ a.InOrder ∧
      ∃ k, a.Bears (moves finishingRun (.ofNat 3) k 6) := by
  obtain ⟨a, ha⟩ : ∃ a, IsOnFile finishingRun 6 (.ofNat 3) a :=
    exists_isOnFile (by decide +kernel)
  obtain ⟨k, -, -, -, -, -, -, -, -, -, -, bears, inOrder, -⟩ := assignment_bears_moves ha
  exact ⟨a, ha, inOrder (by decide), k + 1, bears⟩

end Office

end Chancery
