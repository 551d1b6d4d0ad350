import Chancery.Proofs.Office.Runs
import Chancery.Proofs.Store.Rereading

/-!
# What one call does to one assignment

A call touches at most one assignment. `Fate` follows the row under one identifier through one
call: it is entered, edited, moved or deleted, or it is kept, and each case says who may do that,
under which guard, and what the row is afterwards. Everything that is shown of assignments over
whole runs is shown by cases on the fate at one stage.

A row that is kept keeps its co-executors too. That a kept row was not moved is part of the
statement, because a history of moves has to know where it does *not* grow.

## Main definitions

* `Store.rowUnder?` — the row of an assignment
* `Fate`

## Main results

* `Call.Outcome.fate` — the fate of a row in one call
* `Office.stage_fate` — the fate of a row from one stage to the next
-/

namespace Chancery

namespace Store

variable {s s' : Store} {id : Identifier}

/-- The row of the assignment with an identifier. -/
def rowUnder? (s : Store) (id : Identifier) : Option AssignmentRow :=
  s.assignments.find? fun a => a.id = id.text

/-- The co-executor rows of the assignment with an identifier. -/
def coExecutorsUnder (s : Store) (id : Identifier) : List CoExecutorRow :=
  s.coExecutors.filter fun c => c.assignmentId = id.text

theorem of_rowUnder? {row : AssignmentRow} (h : s.rowUnder? id = some row) :
    row ∈ s.assignments ∧ row.id = id.text := of_find?_key h

theorem rowUnder?_eq_none_iff : s.rowUnder? id = none ↔ s.hasAssignment id.text = false := by
  rw [Bool.eq_false_iff, Ne, hasAssignment_iff, rowUnder?, List.find?_eq_none]
  simp

theorem Constrained.rowUnder?_of_mem (h : s.Constrained) {row : AssignmentRow}
    (hrow : row ∈ s.assignments) (hid : row.id = id.text) : s.rowUnder? id = some row := by
  rw [rowUnder?, ← hid]
  exact find?_key_eq h.assignmentIds hrow

/-- The rows under an identifier are at most the one. -/
theorem Constrained.filter_rowUnder? (h : s.Constrained) :
    s.assignments.filter (fun a => a.id = id.text) = (s.rowUnder? id).toList := by
  cases hrow : s.rowUnder? id with
  | none => exact List.filter_eq_nil_iff.2 (List.find?_eq_none.1 hrow)
  | some row =>
    obtain ⟨hmem, hid⟩ := of_rowUnder? hrow
    rw [← hid, filter_key_eq h.assignmentIds hmem, Option.toList_some]

/-- What is read under an identifier is the row under it. -/
theorem Constrained.rowUnder?_of_assignment? (h : s.Constrained) {a : Assignment}
    (ha : s.assignment? id = .ok (some a)) :
    ∃ row, s.rowUnder? id = some row ∧ row.Reads a := by
  obtain ⟨row, hrow, hid, hreads⟩ := exists_row_of_assignment? ha
  exact ⟨row, h.rowUnder?_of_mem hrow hid, hreads⟩

/-- **What is read for an assignment depends on its own rows**, stated of the row under its
identifier. -/
theorem Orderly.assignment?_congr_of_rowUnder? (h : s.Orderly) (h' : s'.Orderly)
    (grows : s.GrowsTo s') (hrow : s'.rowUnder? id = s.rowUnder? id)
    (hcos : s'.coExecutorsUnder id = s.coExecutorsUnder id) :
    s'.assignment? id = s.assignment? id := by
  refine h.assignment?_congr grows ?_ hcos
  rw [h'.filter_rowUnder?, h.filter_rowUnder?, hrow]

/-! ### The row after a write -/

variable {id' : Identifier} {now : Instant}

theorem rowUnder?_addAssignment {new : NewAssignment} (h : s.addAssignment id' now new = .ok s')
    (id : Identifier) :
    s'.rowUnder? id =
      if id' = id then some (assignmentRow id' now new) else s.rowUnder? id := by
  obtain ⟨hnew, rfl⟩ := addAssignment_eq h
  have fresh : ∀ a ∈ s.assignments, a.id ≠ (assignmentRow id' now new).id := by
    intro a ha hid
    have taken : s.hasAssignment id'.text = true := hasAssignment_iff.2 ⟨a, ha, hid⟩
    rw [hnew] at taken
    exact Bool.noConfusion taken
  have hfind := find?_key_concat AssignmentRow.id fresh id.text
  simp only [id_assignmentRow, Identifier.text_inj] at hfind
  exact hfind

theorem rowUnder?_mapAssignment {f : AssignmentRow → AssignmentRow} (hf : ∀ a, (f a).id = a.id) :
    (s.mapAssignment id'.text f).rowUnder? id =
      (s.rowUnder? id).map fun a => if id = id' then f a else a := by
  have h := find?_key_map hf s.assignments id'.text id.text
  simp only [Identifier.text_inj] at h
  exact h

theorem rowUnder?_updateAssignment {u : AssignmentUpdate}
    (h : s.updateAssignment id' now u = .ok (true, s')) (id : Identifier) :
    s'.rowUnder? id =
      (s.rowUnder? id).map fun a => if id = id' then AssignmentRow.withDetails now u a else a := by
  obtain ⟨-, -, hrows⟩ := updateAssignment_eq_ok.1 h
  obtain rfl := insertCoExecutors_eq hrows
  exact rowUnder?_mapAssignment (id_withDetails u)

theorem rowUnder?_setStatus {status : Status} {report : Option String}
    {completedAt : Option Instant}
    (h : s.setStatus id' now status report completedAt = (true, s')) (id : Identifier) :
    s'.rowUnder? id = (s.rowUnder? id).map fun a =>
      if id = id' then AssignmentRow.moved now status report completedAt a else a := by
  obtain ⟨-, rfl⟩ := Prod.mk.inj h
  exact rowUnder?_mapAssignment (id_moved status report completedAt)

theorem rowUnder?_deleteAssignment (s : Store) (id' id : Identifier) :
    (s.deleteAssignment id').2.rowUnder? id = if id = id' then none else s.rowUnder? id := by
  have h := find?_key_filter_ne AssignmentRow.id s.assignments id'.text id.text
  simp only [Identifier.text_inj] at h
  exact h

/-! ### The co-executors after a write to another assignment -/

theorem filter_coExecutorRows (hne : id ≠ id') (users : List Identifier) :
    (coExecutorRows id'.text users).filter (fun c => c.assignmentId = id.text) = [] := by
  refine List.filter_eq_nil_iff.2 fun c hc hid => hne ?_
  obtain ⟨u, -, rfl⟩ := List.mem_map.1 hc
  exact (Identifier.text_inj.1 (of_decide_eq_true hid)).symm

theorem coExecutorsUnder_addAssignment (hne : id ≠ id') {new : NewAssignment}
    (h : s.addAssignment id' now new = .ok s') :
    s'.coExecutorsUnder id = s.coExecutorsUnder id := by
  obtain ⟨-, rfl⟩ := addAssignment_eq h
  simp only [coExecutorsUnder, List.filter_append, filter_coExecutorRows hne, List.append_nil]

theorem coExecutorsUnder_dropCoExecutors (hne : id ≠ id') :
    (s.dropCoExecutors id'.text).coExecutorsUnder id = s.coExecutorsUnder id := by
  simp only [coExecutorsUnder, dropCoExecutors, List.filter_filter]
  refine List.filter_congr fun c _ => ?_
  by_cases hc : c.assignmentId = id.text <;> simp [hc, hne]

theorem coExecutorsUnder_updateAssignment (hne : id ≠ id') {u : AssignmentUpdate}
    (h : s.updateAssignment id' now u = .ok (true, s')) :
    s'.coExecutorsUnder id = s.coExecutorsUnder id := by
  obtain ⟨-, -, hrows⟩ := updateAssignment_eq_ok.1 h
  obtain rfl := insertCoExecutors_eq hrows
  rw [← coExecutorsUnder_dropCoExecutors (s := s) hne]
  simp only [coExecutorsUnder, List.filter_append, filter_coExecutorRows hne, List.append_nil]
  rfl

theorem coExecutorsUnder_setStatus {status : Status} {report : Option String}
    {completedAt : Option Instant}
    (h : s.setStatus id' now status report completedAt = (true, s')) :
    s'.coExecutorsUnder id = s.coExecutorsUnder id := by
  obtain ⟨-, rfl⟩ := Prod.mk.inj h
  rfl

end Store

/-! ### The fate of a row -/

/-- Whether a call is a move of an assignment that was granted. -/
def Call.isMoveOf (id : Identifier) : Call → Except Refusal Answer → Bool
  | .moveAssignment _ r, .ok _ => Identifier.parse? r.id = some id
  | _, _ => false

open Store in
/-- What becomes of the row under an identifier in one call, which leads from one store to another:
the call, what is answered, and the row before and after. -/
inductive Fate (o : Occasion) (id : Identifier) (s s' : Store) :
    Call → Except Refusal Answer → Option AssignmentRow → Option AssignmentRow → Prop
  | kept {c answer row} (unmoved : c.isMoveOf id answer = false)
      (coExecutors : s'.coExecutorsUnder id = s.coExecutorsUnder id) :
      Fate o id s s' c answer row row
  | entered {actor r new a} (read : s'.assignment? id = .ok (some a)) :
      Fate o id s s' (.createAssignment actor r) (.ok (.assignment a)) none
        (some (assignmentRow id o.now new))
  | edited {editor r details answer row}
      (may : Policy.permits editor .updateAssignment = true)
      (guarded : row.status = Status.finished.name →
        Policy.permits editor .modifyFinishedAssignment = true) :
      Fate o id s s' (.updateAssignment (some editor) r) answer (some row)
        (some (AssignmentRow.withDetails o.now details row))
  | moved {mover r executor source target a row}
      (named : Identifier.parse? r.id = some id)
      (before : row.status = source.name)
      (permitted : Policy.transitionPermitted mover executor source target = true)
      (read : s'.assignment? id = .ok (some a)) :
      Fate o id s s' (.moveAssignment (some mover) r) (.ok (.assignment a)) (some row)
        (some (AssignmentRow.moved o.writing target r.report
          (target.completionAfter row.completedAt o.now) row))
  | deleted {deleter text answer row}
      (may : Policy.permits deleter .deleteAssignment = true)
      (guarded : row.status = Status.finished.name →
        Policy.permits deleter .modifyFinishedAssignment = true) :
      Fate o id s s' (.deleteAssignment (some deleter) text) answer (some row) none

namespace Call

variable {o : Occasion} {office office' : Office} {c : Call} {answer : Except Refusal Answer}

theorem isMoveOf_error (id : Identifier) (c : Call) (e : Refusal) :
    c.isMoveOf id (.error e) = false := by
  cases c <;> rfl

theorem isMoveOf_of_isReading (id : Identifier) (h : c.isReading = true) :
    c.isMoveOf id answer = false := by
  cases c <;> first | rfl | exact Bool.noConfusion h

theorem isMoveOf_of_ne {id id' : Identifier} {actor : Option Actor} {r : Request.MoveAssignment}
    (named : Identifier.parse? r.id = some id') (hne : id ≠ id') :
    (moveAssignment actor r).isMoveOf id answer = false := by
  cases answer with
  | error e => rfl
  | ok a => simpa [isMoveOf, named] using Ne.symm hne

/-- A call that leaves the assignments and the co-executors alone keeps every row. -/
theorem fate_of_eq {s s' : Store} (id : Identifier) (unmoved : c.isMoveOf id answer = false)
    (ha : s'.assignments = s.assignments) (hc : s'.coExecutors = s.coExecutors) :
    Fate o id s s' c answer (s.rowUnder? id) (s'.rowUnder? id) := by
  rw [show s'.rowUnder? id = s.rowUnder? id by rw [Store.rowUnder?, Store.rowUnder?, ha]]
  exact .kept unmoved (by rw [Store.coExecutorsUnder, Store.coExecutorsUnder, hc])

namespace Outcome

/-- The row under another identifier than the one that is written to is kept. -/
theorem fate_of_ne {id : Identifier} {s s' : Store} (unmoved : c.isMoveOf id answer = false)
    (hrow : s'.rowUnder? id = s.rowUnder? id)
    (hcos : s'.coExecutorsUnder id = s.coExecutorsUnder id) :
    Fate o id s s' c answer (s.rowUnder? id) (s'.rowUnder? id) := by
  rw [hrow]
  exact .kept unmoved hcos

/-- The guard of a finished assignment, read off the row. -/
theorem guard_of_reads {row : AssignmentRow} {a : Assignment} (hreads : row.Reads a) {p : Prop}
    (guarded : a.status = .finished → p) : row.status = Status.finished.name → p := by
  intro hrow
  refine guarded (Option.some.inj ?_)
  rw [← Status.ofName?_name a.status, ← hreads.status, hrow, Status.ofName?_name]

/-- **What a call does to the row under an identifier.** -/
theorem fate (hout : Outcome o office c answer office') (h : office.store.Orderly)
    (id : Identifier) :
    Fate o id office.store office'.store c answer (office.store.rowUnder? id)
      (office'.store.rowUnder? id) := by
  have h' := hout.orderly h
  cases hout with
  | refused _ => exact fate_of_eq id (isMoveOf_error id _ _) rfl rfl
  | looked reads => exact fate_of_eq id (isMoveOf_of_isReading id reads) rfl rfl
  | userEntered added =>
    obtain ⟨-, rfl⟩ := Store.insertUser_eq_ok.1 (Store.addUser_eq_ok.1 added).1
    exact fate_of_eq id rfl rfl rfl
  | documentEntered added =>
    obtain ⟨-, rfl⟩ := Store.insertDocument_eq_ok.1 (Store.addDocument_eq_ok.1 added).1
    exact fate_of_eq id rfl (Store.assignments_enroll _ _) (Store.coExecutors_enroll _ _)
  | @assignmentCreated actor r creator new store a _ added read =>
    have after := Store.rowUnder?_addAssignment added id
    by_cases hid : office.nextId o = id
    · subst hid
      have before := Store.rowUnder?_eq_none_iff.2 (Store.addAssignment_eq added).1
      rw [if_pos rfl] at after
      rw [Office.store_record, Office.store_withStore, before, after]
      exact .entered read
    · rw [if_neg hid] at after
      exact fate_of_ne rfl after (Store.coExecutorsUnder_addAssignment (Ne.symm hid) added)
  | assignmentUnread _ added unread =>
    obtain ⟨a, ha⟩ := h.toConstrained.assignment?_addAssignment added
    rw [written_eq_ok.2 ha] at unread
    cases unread
  | @assignmentUpdated actor r editor id' details store checked updated =>
    obtain ⟨rfl, may, -, ⟨existing, hex, guarded⟩, -⟩ := Office.of_checkUpdate checked
    have after := Store.rowUnder?_updateAssignment updated id
    by_cases hid : id = id'
    · subst hid
      obtain ⟨row, hrow, hreads⟩ := h.rowUnder?_of_assignment? hex
      simp only [if_true] at after
      rw [Office.store_record, Office.store_withStore, after, hrow]
      exact .edited may (guard_of_reads hreads guarded)
    · simp only [if_neg hid, Option.map_id'] at after
      exact fate_of_ne rfl after (Store.coExecutorsUnder_updateAssignment hid updated)
  | moveDenied _ _ => exact fate_of_eq id rfl rfl rfl
  | @assignmentMoved actor r mover id' target existing store read permitted moved =>
    obtain ⟨rfl, named, -, hex⟩ := Office.of_readMove read
    have after := Store.rowUnder?_setStatus moved id
    by_cases hid : id = id'
    · subst hid
      obtain ⟨row, hrow, hreads⟩ := h.rowUnder?_of_assignment? hex
      simp only [if_true, hrow, Option.map_some, hreads.completedAt] at after
      have orderly : store.Orderly := h'
      obtain ⟨a, ha, -⟩ := orderly.assignment?_of_mem (Store.of_rowUnder? after).1
        (Store.of_rowUnder? after).2
      rw [Office.requireAssignment_eq_ok.2 ha, hrow, Office.store_record, Office.store_withStore,
        after]
      exact .moved named hreads.status permitted ha
    · simp only [if_neg hid, Option.map_id'] at after
      exact fate_of_ne (isMoveOf_of_ne named hid) after (Store.coExecutorsUnder_setStatus moved)
  | @assignmentDeleted actor text deleter id' checked =>
    obtain ⟨rfl, may, -, existing, hex, guarded⟩ := Office.of_checkDelete checked
    have after := office.store.rowUnder?_deleteAssignment id' id
    by_cases hid : id = id'
    · subst hid
      obtain ⟨row, hrow, hreads⟩ := h.rowUnder?_of_assignment? hex
      rw [if_pos rfl] at after
      rw [Office.store_record, Office.store_withStore, after, hrow]
      exact .deleted may (guard_of_reads hreads guarded)
    · rw [if_neg hid] at after
      exact fate_of_ne rfl after (Store.coExecutorsUnder_dropCoExecutors hid)
  | assignmentAbsent _ => exact fate_of_eq id rfl rfl rfl
  | taskCreated _ added _ =>
    obtain ⟨-, rfl⟩ := Store.addAcknowledgment_eq added
    exact fate_of_eq id rfl rfl rfl
  | taskUnread _ added _ =>
    obtain ⟨-, rfl⟩ := Store.addAcknowledgment_eq added
    exact fate_of_eq id rfl rfl rfl
  | taskDeleted _ _ => exact fate_of_eq id rfl rfl rfl
  | taskAbsent _ _ => exact fate_of_eq id rfl rfl rfl
  | taskViewed _ _ => exact fate_of_eq id rfl rfl rfl
  | viewedBefore _ _ _ => exact fate_of_eq id rfl rfl rfl
  | @taskConfirmed _ _ confirmer task outcome store _ _ confirmed =>
    rw [Office.store_foldl_record]
    rcases office.store.markConfirmed_cases task confirmer.id o.now with
      ⟨-, -, he⟩ | ⟨-, -, he⟩ | ⟨-, -, he⟩ | ⟨-, he⟩ <;>
      obtain ⟨-, rfl⟩ := Prod.mk.inj (confirmed.symm.trans he) <;> exact fate_of_eq id rfl rfl rfl
  | confirmedBefore _ _ _ => exact fate_of_eq id rfl rfl rfl

end Outcome

end Call

namespace Office

variable {run : List (Occasion × Call)}

/-- **What becomes of a row from one stage to the next.** -/
theorem stage_fate (run : List (Occasion × Call)) (n : Nat) (id : Identifier) :
    (∃ o c answer, run[n]? = some (o, c) ∧ answer = (c.perform o (stage run n)).1 ∧
      Fate o id (stage run n).store (stage run (n + 1)).store c answer
        ((stage run n).store.rowUnder? id) ((stage run (n + 1)).store.rowUnder? id)) ∨
      run[n]? = none ∧ stage run (n + 1) = stage run n := by
  rcases stage_step run n with ⟨o, c, answer, hc, hanswer, hout⟩ | h
  · exact .inl ⟨o, c, answer, hc, hanswer, hout.fate (orderly_stage run n) id⟩
  · exact .inr h

/-- Whether an assignment is what is read under an identifier at a stage. -/
def IsOnFile (run : List (Occasion × Call)) (n : Nat) (id : Identifier) (a : Assignment) : Prop :=
  (stage run n).store.assignment? id = .ok (some a)

/-- Whether there is an assignment under an identifier at every stage from one to another. -/
def StaysOnFile (run : List (Occasion × Call)) (n m : Nat) (id : Identifier) : Prop :=
  ∀ i, n ≤ i → i ≤ m → (stage run i).store.hasAssignment id.text = true

variable {n m : Nat} {id : Identifier} {a : Assignment} {row : AssignmentRow}

theorem IsOnFile.exists_row (h : IsOnFile run n id a) :
    ∃ row, (stage run n).store.rowUnder? id = some row ∧ row.Reads a :=
  (orderly_stage run n).rowUnder?_of_assignment? h

theorem IsOnFile.hasAssignment (h : IsOnFile run n id a) :
    (stage run n).store.hasAssignment id.text = true :=
  Store.hasAssignment_of_assignment? h

theorem exists_isOnFile (h : (stage run n).store.hasAssignment id.text = true) :
    ∃ a, IsOnFile run n id a := by
  rcases (orderly_stage run n).assignment?_cases id with ⟨hnone, -⟩ | ⟨-, -, -, a, ha, -⟩
  · rw [hnone] at h
    exact Bool.noConfusion h
  · exact ⟨a, ha⟩

theorem IsOnFile.unique {b : Assignment} (ha : IsOnFile run n id a) (hb : IsOnFile run n id b) :
    a = b := by
  rw [IsOnFile, ha] at hb
  exact Option.some.inj (Except.ok.inj hb)

theorem StaysOnFile.mono {k l : Nat} (h : StaysOnFile run n m id) (hk : n ≤ k) (hl : l ≤ m) :
    StaysOnFile run k l id :=
  fun i hki hil => h i (by omega) (by omega)

end Office

end Chancery
