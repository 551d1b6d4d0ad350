import Chancery.Proofs.Office.Outcome

/-!
# Runs of the office

A run is a list of calls, each with its occasion, on an office that has just opened. Its stages are
numbered: stage `n` is the office after the first `n` calls, and the last stage is repeated for
ever. Statements about what has happened so far or what happens later are statements about smaller
and larger numbers, which saves splitting the list of calls.

Nothing is assumed of the calls. In particular every call brings its own supply of identifiers, so
one identifier may be drawn twice, and a record that is entered under an identifier need not be the
first under it. What belongs to a record's history therefore starts at the stage from which on it
has been there (`exists_entry`), not at the first stage that knows its identifier.

## Main definitions

* `Office.stage`
* `Store.SameDirectory`

## Main results

* `Call.Outcome.directory_cases` — what a call can make of the directory
* `Office.orderly_stage` — the store of every stage is orderly
* `Office.growsTo_stage` — the directory of a stage grows to that of every later one
* `Office.exists_entry` — what is there now was once entered
-/

namespace Chancery

/-- Whether two stores have the same directory. -/
structure Store.SameDirectory (s s' : Store) : Prop where
  users : s'.users = s.users
  incoming : s'.incoming = s.incoming
  outgoing : s'.outgoing = s.outgoing

/-! ### One call -/

namespace Office

@[simp] theorem store_foldl_record (office : Office) (events : List AuditEvent) :
    (events.foldl record office).store = office.store := by
  induction events generalizing office with
  | nil => rfl
  | cons event events ih => rw [List.foldl_cons, ih, store_record]

end Office

namespace Call.Outcome

variable {o : Occasion} {office office' : Office} {c : Call} {answer : Except Refusal Answer}

/-- Every call leaves an orderly store if it finds one. -/
theorem orderly (hout : Outcome o office c answer office') (h : office.store.Orderly) :
    office'.store.Orderly := by
  cases hout with
  | refused _ => exact h
  | looked _ => exact h
  | userEntered added => exact h.addUser added
  | documentEntered added => exact h.addDocument added
  | assignmentCreated checked added _ =>
    exact h.addAssignment (Office.of_checkCreate checked).2.1 added
  | assignmentUnread checked added _ =>
    exact h.addAssignment (Office.of_checkCreate checked).2.1 added
  | assignmentUpdated _ updated => exact h.updateAssignment updated
  | moveDenied _ _ => exact h
  | assignmentMoved _ _ moved =>
    obtain ⟨-, rfl⟩ := Prod.mk.inj moved
    exact h.setStatus _ _ _
  | assignmentDeleted _ => exact h.deleteAssignment _
  | assignmentAbsent _ => exact h
  | taskCreated checked added _ =>
    exact h.addAcknowledgment (Office.of_checkAcknowledgment checked).2.2.1 added
  | taskUnread checked added _ =>
    exact h.addAcknowledgment (Office.of_checkAcknowledgment checked).2.2.1 added
  | taskDeleted _ _ => exact h.deleteAcknowledgment _
  | taskAbsent _ _ => exact h.deleteAcknowledgment _
  | taskViewed _ _ => exact h.viewEntry _ _
  | viewedBefore _ _ _ => exact h
  | @taskConfirmed _ _ confirmer task outcome store _ _ confirmed =>
    have marked : (office.store.markConfirmed task confirmer.id o.now).2.Orderly :=
      h.markConfirmed task confirmer.id
    rw [confirmed] at marked
    simpa using marked
  | confirmedBefore _ _ _ => exact h

/-- **A call enters a user, enters a document or leaves the directory as it is.** -/
theorem directory_cases (hout : Outcome o office c answer office') :
    (∃ new user, c = .addUser new ∧ answer = .ok (.user user) ∧
      office.store.addUser (office.nextId o) o.now new = .ok (user, office'.store)) ∨
    (∃ new document, c = .addDocument new ∧ answer = .ok (.document document) ∧
      office.store.addDocument (office.nextId o) o.now new = .ok (document, office'.store)) ∨
    ((∃ e, answer = .error e) ∨ c.isEntry = false) ∧
      office.store.SameDirectory office'.store := by
  cases hout with
  | userEntered added => exact .inl ⟨_, _, rfl, rfl, added⟩
  | documentEntered added => exact .inr (.inl ⟨_, _, rfl, rfl, added⟩)
  | refused _ | moveDenied _ _ => exact .inr (.inr ⟨.inl ⟨_, rfl⟩, ⟨rfl, rfl, rfl⟩⟩)
  | looked reads =>
    refine .inr (.inr ⟨.inr ?_, ⟨rfl, rfl, rfl⟩⟩)
    cases c <;> first | rfl | cases reads
  | assignmentCreated _ added _ | assignmentUnread _ added _ =>
    obtain ⟨-, rfl⟩ := Store.addAssignment_eq added
    exact .inr (.inr ⟨.inr rfl, ⟨rfl, rfl, rfl⟩⟩)
  | assignmentUpdated _ updated =>
    obtain ⟨-, -, hrows⟩ := Store.updateAssignment_eq_ok.1 updated
    obtain rfl := Store.insertCoExecutors_eq hrows
    exact .inr (.inr ⟨.inr rfl, ⟨rfl, rfl, rfl⟩⟩)
  | assignmentMoved _ _ moved =>
    obtain ⟨-, rfl⟩ := Prod.mk.inj moved
    exact .inr (.inr ⟨.inr rfl, ⟨rfl, rfl, rfl⟩⟩)
  | taskCreated _ added _ | taskUnread _ added _ =>
    obtain ⟨-, rfl⟩ := Store.addAcknowledgment_eq added
    exact .inr (.inr ⟨.inr rfl, ⟨rfl, rfl, rfl⟩⟩)
  | assignmentDeleted _ | assignmentAbsent _ | taskDeleted _ _ | taskAbsent _ _ | taskViewed _ _
  | viewedBefore _ _ _ | confirmedBefore _ _ _ =>
    exact .inr (.inr ⟨.inr rfl, ⟨rfl, rfl, rfl⟩⟩)
  | @taskConfirmed _ _ confirmer task outcome store _ _ confirmed =>
    rw [Office.store_foldl_record]
    refine .inr (.inr ⟨.inr rfl, ?_⟩)
    rcases office.store.markConfirmed_cases task confirmer.id o.now with
      ⟨-, -, he⟩ | ⟨-, -, he⟩ | ⟨-, -, he⟩ | ⟨-, he⟩ <;>
      obtain ⟨-, rfl⟩ := Prod.mk.inj (confirmed.symm.trans he) <;> exact ⟨rfl, rfl, rfl⟩

/-- No call takes anything out of the directory or changes it. -/
theorem growsTo (hout : Outcome o office c answer office') :
    office.store.GrowsTo office'.store := by
  rcases hout.directory_cases with ⟨new, user, -, -, added⟩ | ⟨new, document, -, -, added⟩ |
    ⟨-, same⟩
  · obtain ⟨-, hstore⟩ := Store.insertUser_eq_ok.1 (Store.addUser_eq_ok.1 added).1
    rw [← hstore]
    exact ⟨List.prefix_append _ _, fun kind => by cases kind <;> exact List.prefix_rfl⟩
  · obtain ⟨-, hstore⟩ := Store.insertDocument_eq_ok.1 (Store.addDocument_eq_ok.1 added).1
    rw [← hstore]
    exact Store.growsTo_enroll _ _ _
  · exact .of_eq same.users same.incoming same.outgoing

end Call.Outcome

/-! ### Stages -/

namespace Office

variable {run : List (Occasion × Call)} {n m : Nat}

/-- The office after the first calls of a run. -/
def stage (run : List (Occasion × Call)) (n : Nat) : Office := opened.after (run.take n)

@[simp] theorem stage_zero : stage run 0 = opened := rfl

theorem stage_length : stage run run.length = opened.after run := by
  rw [stage, List.take_length]

theorem stage_succ {o : Occasion} {c : Call} (h : run[n]? = some (o, c)) :
    stage run (n + 1) = (c.perform o (stage run n)).2 := by
  rw [stage, List.take_add_one, h, after_append]
  rfl

theorem stage_succ_of_none (h : run[n]? = none) : stage run (n + 1) = stage run n := by
  rw [stage, List.take_add_one, h, Option.toList_none, List.append_nil]
  rfl

/-- From one stage to the next there is one call, which ends in one of the listed ways, or the run
is over. -/
theorem stage_step (run : List (Occasion × Call)) (n : Nat) :
    (∃ o c answer, run[n]? = some (o, c) ∧ answer = (c.perform o (stage run n)).1 ∧
      Call.Outcome o (stage run n) c answer (stage run (n + 1))) ∨
      run[n]? = none ∧ stage run (n + 1) = stage run n := by
  cases h : run[n]? with
  | none => exact .inr ⟨rfl, stage_succ_of_none h⟩
  | some call =>
    refine .inl ⟨call.1, call.2, _, rfl, rfl, ?_⟩
    rw [stage_succ h]
    exact Call.perform_outcome _ _ _

/-- What relates the store before a call to the one after it relates every stage to every later
one, if it is reflexive and transitive. The relation may take for granted what holds of all stages
between the two. -/
theorem stage_rel {R : Store → Store → Prop} (refl : ∀ s, R s s)
    (trans : ∀ {s₁ s₂ s₃}, R s₁ s₂ → R s₂ s₃ → R s₁ s₃) (h : n ≤ m)
    (step : ∀ i, n ≤ i → i < m → R (stage run i).store (stage run (i + 1)).store) :
    R (stage run n).store (stage run m).store := by
  induction h with
  | refl => exact refl _
  | @step m hnm ih =>
    exact trans (ih fun i hi him => step i hi (by omega)) (step m hnm (Nat.lt_succ_self m))

/-- **The store of every stage is orderly.** -/
theorem orderly_stage (run : List (Occasion × Call)) (n : Nat) : (stage run n).store.Orderly := by
  induction n with
  | zero => exact Store.orderly_empty
  | succ n ih =>
    rcases stage_step run n with ⟨o, c, answer, -, -, hout⟩ | ⟨-, h⟩
    · exact hout.orderly ih
    · rw [h]
      exact ih

theorem orderly_after (run : List (Occasion × Call)) : (opened.after run).store.Orderly := by
  rw [← stage_length]
  exact orderly_stage run run.length

/-- The directory of a stage grows to that of every later one. -/
theorem growsTo_stage (run : List (Occasion × Call)) (h : n ≤ m) :
    (stage run n).store.GrowsTo (stage run m).store := by
  refine stage_rel .refl .trans h fun i _ _ => ?_
  rcases stage_step run i with ⟨o, c, answer, -, -, hout⟩ | ⟨-, h⟩
  · exact hout.growsTo
  · rw [h]
    exact .refl _

/-- **What is there was once entered.** If something holds at a stage that did not hold in the
office that has just opened, then there is a call at which it began to hold, and since which it has
held at every stage. -/
theorem exists_entry (here : Store → Prop) (h₀ : ¬ here opened.store)
    (hn : here (stage run n).store) :
    ∃ k < n, ¬ here (stage run k).store ∧ ∀ i, k < i → i ≤ n → here (stage run i).store := by
  induction n with
  | zero => exact absurd hn h₀
  | succ n ih =>
    by_cases hprev : here (stage run n).store
    · obtain ⟨k, hk, hbefore, hsince⟩ := ih hprev
      refine ⟨k, by omega, hbefore, fun i hki hin => ?_⟩
      rcases Nat.lt_or_ge n i with h | h
      · rwa [show i = n + 1 by omega]
      · exact hsince i hki h
    · refine ⟨n, Nat.lt_succ_self n, hprev, fun i hni hin => ?_⟩
      rwa [show i = n + 1 by omega]

/-! ### Two concrete runs -/

/-- The occasion of the call that a run makes in a given minute. -/
def minute (n : Nat) : Occasion :=
  { clock := .ofUnixNanos (n * 60000000000)
    settings := .initial
    identifiers := fun i => .ofNat i
    storageSize := none }

/-- The clerk and the executors of the runs. -/
def anna : Actor := ⟨.ofNat 0, { admin := false, clerk := true, executor := false }⟩

@[inherit_doc anna]
def boris : Actor := ⟨.ofNat 1, { admin := false, clerk := false, executor := true }⟩

@[inherit_doc anna]
def vera : Actor := ⟨.ofNat 2, { admin := false, clerk := false, executor := true }⟩

/-- An assignment is handed to an executor, who completes it, and finished by a clerk, who then
tries to delete it. -/
def finishingRun : List (Occasion × Call) :=
  [(minute 0, .addUser ⟨"anna", "Anna", anna.roles⟩),
   (minute 1, .addUser ⟨"boris", "Boris", boris.roles⟩),
   (minute 2, .addDocument ⟨.incoming, "17/b", "The roof", none⟩),
   (minute 3, .createAssignment (some anna)
     ⟨"00000000000000000000000000000002", "incoming", "00000000000000000000000000000001",
      "Have it mended", none, []⟩),
   (minute 4, .moveAssignment (some boris)
     ⟨"00000000000000000000000000000003", "completed", some "mended"⟩),
   (minute 5, .moveAssignment (some anna)
     ⟨"00000000000000000000000000000003", "finished", none⟩),
   (minute 6, .deleteAssignment (some anna) "00000000000000000000000000000003")]

/-- The requests of the second run, the first for one recipient and the second for two. Of these
one is named twice, and one text does not read. -/
def memo : Request.CreateAcknowledgment :=
  ⟨"00000000000000000000000000000003", "incoming", "Keep this",
    ["00000000000000000000000000000001"]⟩

@[inherit_doc memo]
def circular : Request.CreateAcknowledgment :=
  ⟨"00000000000000000000000000000003", "incoming", "Read this",
    ["00000000000000000000000000000001", "nobody", "00000000000000000000000000000002",
      "00000000000000000000000000000001"]⟩

/-- A document is circulated twice. One recipient of the second task views it and confirms, the
other confirms, and the first one confirms again, all within one minute in which somebody else tries
to confirm too. Later the other one confirms again. -/
def circulatingRun : List (Occasion × Call) :=
  [(minute 0, .addUser ⟨"anna", "Anna", anna.roles⟩),
   (minute 1, .addUser ⟨"boris", "Boris", boris.roles⟩),
   (minute 2, .addUser ⟨"vera", "Vera", vera.roles⟩),
   (minute 3, .addDocument ⟨.incoming, "17/b", "The roof", none⟩),
   (minute 4, .createAcknowledgment (some anna) memo),
   (minute 5, .createAcknowledgment (some anna) circular),
   (minute 7, .confirmAcknowledgment (some anna) "00000000000000000000000000000006"),
   (minute 7, .viewAcknowledgment (some boris) "00000000000000000000000000000006"),
   (minute 7, .confirmAcknowledgment (some boris) "00000000000000000000000000000006"),
   (minute 7, .confirmAcknowledgment (some vera) "00000000000000000000000000000006"),
   (minute 7, .confirmAcknowledgment (some boris) "00000000000000000000000000000006"),
   (minute 8, .confirmAcknowledgment (some vera) "00000000000000000000000000000006")]

end Office

end Chancery
