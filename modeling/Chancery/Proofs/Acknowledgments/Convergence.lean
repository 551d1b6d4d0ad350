import Chancery.Proofs.Acknowledgments.Fate

/-!
# The convergence of acknowledgment tasks

A task and its entries stand in two tables, and the stamp of the task is written by the call that
fills in the last entry. `Converging` says how the two belong together at one stage: the stamp is
there exactly if no entry is unconfirmed. That the stamp is written *once* is a consequence. A
confirmation that leaves nobody unconfirmed found somebody unconfirmed, so it found no stamp
(`Converging.not_stamped`), so it reports the completion, and no later call does.

What is entered is kept: `Keeps` lets the times of a row be filled in and nothing else happen to it.

The history of a task begins with the call that entered it. Identifiers may be drawn twice, so a
task that was deleted may be followed by another under the same identifier, and the calls before
the entry are about the other one.

## Main definitions

* `Store.RecipientRow.Keeps`, `Store.AcknowledgmentRow.Keeps`
* `Converging`
* `Office.CompletesAt`, `Office.TaskRecord`, `Office.TaskHistory`

## Main results

* `TaskFate.keeps_row`, `TaskFate.keeps_entries`, `TaskFate.converging`, `TaskFate.stamp` — one
  call
* `Office.acknowledgment_converges` — every task of every run
-/

namespace Chancery

/-! ### Filling in -/

namespace Store

/-- The second row is the first one with perhaps some times filled in. -/
structure RecipientRow.Keeps (r r' : RecipientRow) : Prop where
  same : r' = { r with viewedAt := r'.viewedAt, confirmedAt := r'.confirmedAt }
  viewedAt : ∀ t, r.viewedAt = some t → r'.viewedAt = some t
  confirmedAt : ∀ t, r.confirmedAt = some t → r'.confirmedAt = some t

@[inherit_doc RecipientRow.Keeps]
structure AcknowledgmentRow.Keeps (t t' : AcknowledgmentRow) : Prop where
  same : t' = { t with completedAt := t'.completedAt }
  completedAt : ∀ now, t.completedAt = some now → t'.completedAt = some now

namespace RecipientRow

variable {r r' r'' : RecipientRow}

theorem Keeps.refl (r : RecipientRow) : Keeps r r := ⟨rfl, fun _ => id, fun _ => id⟩

theorem Keeps.trans (h : Keeps r r') (h' : Keeps r' r'') : Keeps r r'' where
  same := by
    rw [h'.same, h.same]
  viewedAt t ht := h'.viewedAt t (h.viewedAt t ht)
  confirmedAt t ht := h'.confirmedAt t (h.confirmedAt t ht)

theorem Keeps.userId_eq (h : Keeps r r') : r'.userId = r.userId := by
  rw [h.same]

theorem keeps_view (now : Instant) (hr : r.viewedAt = none) : Keeps r (view now r) where
  same := rfl
  viewedAt t ht := by
    rw [hr] at ht
    cases ht
  confirmedAt _ := id

theorem keeps_confirm (now : Instant) (hr : r.confirmedAt = none) : Keeps r (confirm now r) where
  same := rfl
  viewedAt t ht := by
    rw [confirm, ht]
    rfl
  confirmedAt t ht := by
    rw [hr] at ht
    cases ht

end RecipientRow

namespace AcknowledgmentRow

variable {t t' t'' : AcknowledgmentRow}

theorem Keeps.refl (t : AcknowledgmentRow) : Keeps t t := ⟨rfl, fun _ => id⟩

theorem Keeps.trans (h : Keeps t t') (h' : Keeps t' t'') : Keeps t t'' where
  same := by
    rw [h'.same, h.same]
  completedAt now ht := h'.completedAt now (h.completedAt now ht)

theorem keeps_complete (now : Instant) (ht : t.completedAt = none) : Keeps t (complete now t) where
  same := rfl
  completedAt now' hnow := by
    rw [ht] at hnow
    cases hnow

end AcknowledgmentRow

/-- Rows that are changed under a condition are kept, if those are that satisfy it. -/
theorem forall₂_keeps {p : RecipientRow → Bool} {f : RecipientRow → RecipientRow}
    (hf : ∀ r, p r = true → RecipientRow.Keeps r (f r)) (entries : List RecipientRow) :
    List.Forall₂ RecipientRow.Keeps entries (entries.map fun r => if p r then f r else r) := by
  refine List.forall₂_map_right_iff.2 (List.forall₂_same.2 fun r _ => ?_)
  by_cases hp : p r = true
  · rw [if_pos hp]
    exact hf r hp
  · rw [if_neg hp]
    exact .refl r

theorem exists_mem_of_forall₂ {entries entries' : List RecipientRow} {r : RecipientRow}
    (h : List.Forall₂ RecipientRow.Keeps entries entries') (hr : r ∈ entries) :
    ∃ r' ∈ entries', RecipientRow.Keeps r r' := by
  induction h with
  | nil => cases hr
  | @cons a b _ _ hab _ ih =>
    rcases List.mem_cons.1 hr with rfl | hr
    · exact ⟨b, List.mem_cons_self, hab⟩
    · obtain ⟨r', hr', hkeeps⟩ := ih hr
      exact ⟨r', List.mem_cons_of_mem b hr', hkeeps⟩

theorem forall₂_keeps_trans {entries₁ entries₂ entries₃ : List RecipientRow}
    (h : List.Forall₂ RecipientRow.Keeps entries₁ entries₂)
    (h' : List.Forall₂ RecipientRow.Keeps entries₂ entries₃) :
    List.Forall₂ RecipientRow.Keeps entries₁ entries₃ := by
  induction h generalizing entries₃ with
  | nil => exact h'
  | cons hab _ ih =>
    obtain ⟨c, cs, hbc, hrest, rfl⟩ := List.forall₂_cons_left_iff.1 h'
    exact .cons (hab.trans hbc) (ih hrest)

theorem map_userId_of_keeps {entries entries' : List RecipientRow}
    (h : List.Forall₂ RecipientRow.Keeps entries entries') :
    entries'.map RecipientRow.userId = entries.map RecipientRow.userId := by
  induction h with
  | nil => rfl
  | cons hab _ ih => rw [List.map_cons, List.map_cons, hab.userId_eq, ih]

end Store

open Store

/-! ### One call -/

/-- A task and its entries as they belong together. -/
structure Converging (row : AcknowledgmentRow) (entries : List RecipientRow) : Prop where
  nonempty : entries ≠ []
  /-- The task is stamped complete exactly if everybody has confirmed. -/
  completed : row.completedAt.isSome = true ↔ ∀ r ∈ entries, r.confirmedAt.isSome = true

theorem not_all_confirmed {entries : List RecipientRow}
    (outstanding : (entries.any fun r => r.confirmedAt.isNone) = true) :
    ¬ ∀ r ∈ entries, r.confirmedAt.isSome = true := by
  intro all
  obtain ⟨r, hr, hnone⟩ := List.any_eq_true.1 outstanding
  have hsome := all r hr
  rw [Option.isNone_iff_eq_none.1 hnone] at hsome
  exact Bool.noConfusion hsome

/-- A task that waits for somebody has no stamp. -/
theorem Converging.not_stamped {row : AcknowledgmentRow} {entries : List RecipientRow}
    (h : Converging row entries)
    (outstanding : (entries.any fun r => r.confirmedAt.isNone) = true) :
    row.completedAt = none := by
  rw [← Option.not_isSome_iff_eq_none, h.completed]
  exact not_all_confirmed outstanding

namespace TaskFate

variable {o : Occasion} {id : Identifier} {c : Call} {answer : Except Refusal Answer}
  {row row' : AcknowledgmentRow} {entries entries' : List RecipientRow}

/-- A call that does not take a task away keeps its entries. -/
theorem keeps_entries (h : TaskFate o id c answer (some row) entries (some row') entries') :
    List.Forall₂ RecipientRow.Keeps entries entries' := by
  generalize hrow : some row = before at h
  generalize hrow' : some row' = after at h
  cases h with
  | kept _ => exact List.forall₂_same.2 fun r _ => .refl r
  | entered _ _ _ _ => cases hrow
  | viewed =>
    refine forall₂_keeps (fun r hr => RecipientRow.keeps_view o.now ?_) _
    exact Option.isNone_iff_eq_none.1 (Bool.and_eq_true_iff.1 hr).2
  | confirmed _ confirms _ | completed _ _ confirms _ =>
    rw [confirms]
    refine forall₂_keeps (fun r hr => RecipientRow.keeps_confirm o.now ?_) _
    exact Option.isNone_iff_eq_none.1 (Bool.and_eq_true_iff.1 hr).2
  | deleted => cases hrow'

/-- A call that does not take a task away keeps its row. -/
theorem keeps_row (h : TaskFate o id c answer (some row) entries (some row') entries') :
    AcknowledgmentRow.Keeps row row' := by
  generalize hrow : some row = before at h
  generalize hrow' : some row' = after at h
  cases h with
  | kept _ =>
    cases Option.some.inj (hrow.trans hrow'.symm)
    exact .refl _
  | entered _ _ _ _ => cases hrow
  | viewed | confirmed _ _ _ =>
    cases hrow
    cases hrow'
    exact .refl _
  | completed _ _ _ _ =>
    cases hrow
    cases hrow'
    split
    · rename_i hnone
      exact AcknowledgmentRow.keeps_complete o.now (Option.isNone_iff_eq_none.1 hnone)
    · exact .refl _
  | deleted => cases hrow'

/-- Somebody whose confirmation is missing is somebody unconfirmed. -/
theorem any_unconfirmed {user : String}
    (waiting : (entries.any fun r => r.userId = user && r.confirmedAt.isNone) = true) :
    (entries.any fun r => r.confirmedAt.isNone) = true := by
  obtain ⟨r, hr, hboth⟩ := List.any_eq_true.1 waiting
  exact List.any_eq_true.2 ⟨r, hr, (Bool.and_eq_true_iff.1 hboth).2⟩

/-- **A task and its entries go on belonging together.** -/
theorem converging (h : TaskFate o id c answer (some row) entries (some row') entries')
    (hc : Converging row entries) : Converging row' entries' := by
  generalize hrow : some row = before at h
  generalize hrow' : some row' = after at h
  cases h with
  | kept _ =>
    cases Option.some.inj (hrow.trans hrow'.symm)
    exact hc
  | entered _ _ _ _ => cases hrow
  | viewed =>
    cases hrow
    cases hrow'
    refine ⟨fun hnil => hc.nonempty (List.map_eq_nil_iff.1 hnil), ?_⟩
    rw [hc.completed, List.forall_mem_map]
    refine forall₂_congr fun r _ => ?_
    split <;> rfl
  | confirmed waiting confirms outstanding =>
    cases hrow
    cases hrow'
    have open' := hc.not_stamped (any_unconfirmed waiting)
    refine ⟨fun hnil => ?_, ?_⟩
    · rw [hnil] at outstanding
      exact Bool.noConfusion outstanding
    · rw [open']
      exact iff_of_false Bool.false_ne_true (not_all_confirmed outstanding)
  | completed _ waiting confirms settled =>
    cases hrow
    cases hrow'
    have open' := hc.not_stamped (any_unconfirmed waiting)
    refine ⟨fun hnil => hc.nonempty ?_, ?_⟩
    · rw [confirms] at hnil
      exact List.map_eq_nil_iff.1 hnil
    · rw [open']
      refine iff_of_true rfl fun r hr => ?_
      have hsome := Bool.eq_false_iff.2 (List.any_eq_false.1 settled r hr)
      rw [← Option.not_isNone, hsome, Bool.not_false]
  | deleted => cases hrow'

/-- **The stamp is written by the call that reports the completion.** Either the call reports no
completion and the stamp is as before, or it does, and fills in the stamp and the confirmer's entry
with the same time. -/
theorem stamp (h : TaskFate o id c answer (some row) entries (some row') entries')
    (hc : Converging row entries) :
    c.isCompletionOf id answer = false ∧ row'.completedAt = row.completedAt ∨
      row.completedAt = none ∧ row'.completedAt = some o.now ∧
        ∃ confirmer text, c = .confirmAcknowledgment (some confirmer) text ∧
          Identifier.parse? text = some id ∧ answer = .ok (.confirmed ⟨.recorded, true⟩) ∧
          ∃ r ∈ entries', r.userId = confirmer.id.text ∧ r.confirmedAt = some o.now := by
  generalize hrow : some row = before at h
  generalize hrow' : some row' = after at h
  cases h with
  | kept uncompleted =>
    cases Option.some.inj (hrow.trans hrow'.symm)
    exact .inl ⟨uncompleted, rfl⟩
  | entered _ _ _ _ => cases hrow
  | viewed | confirmed _ _ _ =>
    cases hrow
    cases hrow'
    exact .inl ⟨rfl, rfl⟩
  | @completed confirmer text _ _ _ named waiting confirms settled =>
    cases hrow
    cases hrow'
    have open' := hc.not_stamped (any_unconfirmed waiting)
    obtain ⟨r, hr, hboth⟩ := List.any_eq_true.1 waiting
    rw [open']
    refine .inr ⟨rfl, rfl, confirmer, text, rfl, named, rfl, RecipientRow.confirm o.now r, ?_,
      of_decide_eq_true (Bool.and_eq_true_iff.1 hboth).1, rfl⟩
    rw [confirms]
    exact List.mem_map.2 ⟨r, hr, if_pos hboth⟩
  | deleted => cases hrow'

end TaskFate

/-! ### Runs -/

namespace Office

variable {run : List (Occasion × Call)} {id : Identifier} {k n m : Nat} {row : AcknowledgmentRow}

/-- The call of a run with a number is an actor's confirmation of a task, and it is answered that
this completed the task. -/
def CompletesAt (run : List (Occasion × Call)) (n : Nat) (id : Identifier) (confirmer : Actor) :
    Prop :=
  ∃ o text update, run[n]? = some (o, .confirmAcknowledgment (some confirmer) text) ∧
    Identifier.parse? text = some id ∧
    (Call.perform o (stage run n) (.confirmAcknowledgment (some confirmer) text)).1 =
      .ok (.confirmed ⟨update, true⟩)

theorem CompletesAt.isCompletionOf {o : Occasion} {c : Call} {confirmer : Actor}
    (h : CompletesAt run n id confirmer) (hc : run[n]? = some (o, c)) :
    c.isCompletionOf id (c.perform o (stage run n)).1 = true := by
  obtain ⟨o', text, update, hc', named, hanswer⟩ := h
  obtain ⟨rfl, rfl⟩ := Prod.mk.inj (Option.some.inj (hc.symm.trans hc'))
  rw [hanswer, Call.isCompletionOf, named, Bool.true_and]
  exact decide_eq_true rfl

/-- What is recorded at one stage of a task that was entered by an earlier call for some users. -/
structure TaskRecord (run : List (Occasion × Call)) (id : Identifier) (k n : Nat)
    (users : List String) (row : AcknowledgmentRow) : Prop where
  converging : Converging row ((stage run n).store.entriesUnder id)
  recipients : ((stage run n).store.entriesUnder id).map RecipientRow.userId = users
  /-- If the task is stamped, then one call since reported the completion, and the stamp is the
  time at which its caller confirmed. -/
  stamped : ∀ t, row.completedAt = some t → ∃ j confirmer, k < j ∧ j < n ∧
    CompletesAt run j id confirmer ∧
    (∃ r ∈ (stage run n).store.entriesUnder id,
      r.userId = confirmer.id.text ∧ r.confirmedAt = some t) ∧
    ∀ i confirmer', k < i → i < n → CompletesAt run i id confirmer' → i = j
  /-- If it is not, then none did. -/
  unstamped : row.completedAt = none →
    ∀ j confirmer, k < j → j < n → ¬ CompletesAt run j id confirmer

/-- At one stage a task has the row and the entries that it has at another one, but for times that
were missing. -/
def KeepsTask (run : List (Occasion × Call)) (id : Identifier) (n m : Nat)
    (row : AcknowledgmentRow) : Prop :=
  ∃ row', (stage run m).store.taskUnder? id = some row' ∧ AcknowledgmentRow.Keeps row row' ∧
    List.Forall₂ RecipientRow.Keeps ((stage run n).store.entriesUnder id)
      ((stage run m).store.entriesUnder id)

/-- A call that reports no completion of a task adds nothing to its record. -/
theorem TaskRecord.of_uncompleted {users : List String} {row' : AcknowledgmentRow}
    (h : TaskRecord run id k n users row)
    (keeps : List.Forall₂ RecipientRow.Keeps ((stage run n).store.entriesUnder id)
      ((stage run (n + 1)).store.entriesUnder id))
    (converging : Converging row' ((stage run (n + 1)).store.entriesUnder id))
    (same : row'.completedAt = row.completedAt)
    (notNow : ∀ confirmer, ¬ CompletesAt run n id confirmer) :
    TaskRecord run id k (n + 1) users row' where
  converging := converging
  recipients := (map_userId_of_keeps keeps).trans h.recipients
  stamped t ht := by
    obtain ⟨j, confirmer, hkj, hjn, hcompletes, ⟨r, hr, huser, htime⟩, unique⟩ :=
      h.stamped t (same.symm.trans ht)
    obtain ⟨r', hr', hkeeps⟩ := exists_mem_of_forall₂ keeps hr
    refine ⟨j, confirmer, hkj, by omega, hcompletes,
      ⟨r', hr', hkeeps.userId_eq.trans huser, hkeeps.confirmedAt t htime⟩, ?_⟩
    intro i other hki hin hi
    rcases Nat.lt_succ_iff_lt_or_eq.1 hin with hlt | rfl
    · exact unique i other hki hlt hi
    · exact absurd hi (notNow other)
  unstamped hnone j confirmer hkj hjn := by
    rcases Nat.lt_succ_iff_lt_or_eq.1 hjn with hlt | rfl
    · exact h.unstamped (same.symm.trans hnone) j confirmer hkj hlt
    · exact notNow confirmer

/-- **The record of a task after one more call**, if the task is still there. -/
theorem TaskRecord.step {users : List String} {row' : AcknowledgmentRow}
    (h : TaskRecord run id k n users row) (hkn : k < n)
    (hrow : (stage run n).store.taskUnder? id = some row)
    (hrow' : (stage run (n + 1)).store.taskUnder? id = some row') :
    TaskRecord run id k (n + 1) users row' := by
  rcases stage_taskFate run n id with ⟨o, c, answer, hc, rfl, hfate⟩ | ⟨hnone, hsame⟩
  · rw [hrow, hrow'] at hfate
    have keeps := hfate.keeps_entries
    have converging := hfate.converging h.converging
    rcases hfate.stamp h.converging with
      ⟨uncompleted, same⟩ | ⟨absent, stamp, confirmer, text, rfl, named, hanswer, entry⟩
    · refine h.of_uncompleted keeps converging same fun confirmer hcompletes => ?_
      rw [hcompletes.isCompletionOf hc] at uncompleted
      exact Bool.noConfusion uncompleted
    · refine ⟨converging, (map_userId_of_keeps keeps).trans h.recipients, fun t ht => ?_,
        fun hnone => ?_⟩
      · cases Option.some.inj (stamp.symm.trans ht)
        refine ⟨n, confirmer, hkn, n.lt_succ_self, ⟨o, text, _, hc, named, hanswer⟩, entry, ?_⟩
        intro i other hki hin hi
        rcases Nat.lt_succ_iff_lt_or_eq.1 hin with hlt | rfl
        · exact absurd hi (h.unstamped absent i other hki hlt)
        · rfl
      · rw [stamp] at hnone
        cases hnone
  · rw [hsame, hrow] at hrow'
    cases hrow'
    refine h.of_uncompleted ?_ ?_ rfl ?_
    · rw [hsame]
      exact List.forall₂_same.2 fun r _ => .refl r
    · rw [hsame]
      exact h.converging
    · rintro confirmer ⟨o, text, update, hc, -⟩
      rw [hnone] at hc
      cases hc

/-- A new task is not stamped, and nobody has confirmed. -/
theorem converging_of_entered {now : Instant} {new : NewAcknowledgment}
    {entryIds : List Identifier} (nonempty : new.recipientIds ≠ [])
    (drawn : entryIds.length = new.recipientIds.length) :
    Converging (acknowledgmentRow id now new)
      (recipientRows id now (entryIds.zip new.recipientIds)) := by
  have entries : recipientRows id now (entryIds.zip new.recipientIds) ≠ [] := by
    intro hnil
    have users := map_userId_recipientRows id now drawn
    rw [hnil] at users
    exact nonempty (List.map_eq_nil_iff.1 users.symm)
  refine ⟨entries, iff_of_false Bool.false_ne_true fun all => ?_⟩
  obtain ⟨r, hr⟩ := List.exists_mem_of_ne_nil _ entries
  have hsome := all r hr
  obtain ⟨e, -, rfl⟩ := List.mem_map.1 hr
  exact Bool.noConfusion hsome

/-- A task that was not there before a call and is there after it was entered by the call. -/
theorem exists_creation (absent : (stage run k).store.hasAcknowledgment id.text = false)
    (hrow : (stage run (k + 1)).store.taskUnder? id = some row) :
    ∃ o actor r task, run[k]? = some (o, .createAcknowledgment actor r) ∧
      (Call.perform o (stage run k) (.createAcknowledgment actor r)).1 = .ok (.task task) ∧
      task.id = id ∧
      TaskRecord run id k (k + 1) ((Intake.recipients r.recipientIds).map Identifier.text) row := by
  rcases stage_taskFate run k id with ⟨o, c, answer, hc, hanswer, hfate⟩ | ⟨-, hsame⟩
  · rw [taskUnder?_eq_none_iff.2 absent, hrow] at hfate
    generalize hbefore : (stage run k).store.entriesUnder id = before at hfate
    generalize hafter : (stage run (k + 1)).store.entriesUnder id = after at hfate
    cases hfate with
    | @entered actor r new task entryIds recipients nonempty drawn named =>
      refine ⟨o, actor, r, task, hc, hanswer.symm, named, ?_, ?_, ?_, ?_⟩
      · rw [hafter]
        exact converging_of_entered nonempty drawn
      · rw [hafter, map_userId_recipientRows id o.now drawn, recipients]
      · intro t ht
        cases ht
      · intro _ j confirmer hkj hjk
        omega
  · rw [← hsame, ← taskUnder?_eq_none_iff, hrow] at absent
    cases absent

/-! ### Tasks over stages -/

theorem KeepsTask.refl (hrow : (stage run n).store.taskUnder? id = some row) :
    KeepsTask run id n n row :=
  ⟨row, hrow, .refl row, List.forall₂_same.2 fun r _ => .refl r⟩

theorem KeepsTask.step (h : KeepsTask run id n m row)
    (stays : (stage run (m + 1)).store.hasAcknowledgment id.text = true) :
    KeepsTask run id n (m + 1) row := by
  obtain ⟨row', hrow', keepsRow, keepsEntries⟩ := h
  obtain ⟨row'', hrow''⟩ := exists_taskUnder? stays
  rcases stage_taskFate run m id with ⟨o, c, answer, hc, rfl, hfate⟩ | ⟨-, hsame⟩
  · rw [hrow', hrow''] at hfate
    exact ⟨row'', hrow'', keepsRow.trans hfate.keeps_row,
      forall₂_keeps_trans keepsEntries hfate.keeps_entries⟩
  · refine ⟨row', ?_, keepsRow, ?_⟩
    · rw [hsame]
      exact hrow'
    · rw [hsame]
      exact keepsEntries

/-- While a task is there, its row and its entries are kept. -/
theorem keepsTask (hrow : (stage run n).store.taskUnder? id = some row) (hnm : n ≤ m)
    (stays : ∀ i, n ≤ i → i ≤ m → (stage run i).store.hasAcknowledgment id.text = true) :
    KeepsTask run id n m row := by
  induction hnm with
  | refl => exact .refl hrow
  | @step m hnm ih =>
    exact (ih fun i hni him => stays i hni (Nat.le_succ_of_le him)).step
      (stays (m + 1) (Nat.le_succ_of_le hnm) m.succ.le_refl)

/-- The record of a task that has been there since the call that entered it. -/
theorem record_of_since {users : List String} {first : AcknowledgmentRow} (hkn : k < n)
    (since : ∀ i, k < i → i ≤ n → (stage run i).store.hasAcknowledgment id.text = true)
    (hfirst : (stage run (k + 1)).store.taskUnder? id = some first)
    (record : TaskRecord run id k (k + 1) users first)
    (hrow : (stage run n).store.taskUnder? id = some row) : TaskRecord run id k n users row := by
  induction hkn generalizing row with
  | refl =>
    cases Option.some.inj (hfirst.symm.trans hrow)
    exact record
  | @step n hkn ih =>
    obtain ⟨row', hrow'⟩ := exists_taskUnder? (since n hkn n.le_succ)
    have before := ih (fun i hki hin => since i hki (Nat.le_succ_of_le hin)) hrow'
    exact before.step hkn hrow' hrow

/-- The history, from the call that entered it to some stage, of a task that is there at that
stage. -/
structure TaskHistory (run : List (Occasion × Call)) (id : Identifier) (k n : Nat)
    (row : AcknowledgmentRow) : Prop where
  /-- The task was entered with an entry for everybody whom the request names, and nobody else has
  one. -/
  created : ∃ o actor r task, run[k]? = some (o, .createAcknowledgment actor r) ∧
    (Call.perform o (stage run k) (.createAcknowledgment actor r)).1 = .ok (.task task) ∧
    task.id = id ∧
    TaskRecord run id k n ((Intake.recipients r.recipientIds).map Identifier.text) row
  since : ∀ i, k < i → i ≤ n → (stage run i).store.hasAcknowledgment id.text = true
  distinct : (((stage run n).store.entriesUnder id).map RecipientRow.userId).Nodup
  viewed : ∀ r ∈ (stage run n).store.entriesUnder id,
    r.confirmedAt.isSome = true → r.viewedAt.isSome = true
  /-- At every later stage, as long as the task is not deleted, its row and its entries are the same
  but for times that were missing. -/
  kept : ∀ m, n ≤ m →
    (∀ i, n ≤ i → i ≤ m → (stage run i).store.hasAcknowledgment id.text = true) →
    KeepsTask run id n m row

/-- **Every acknowledgment task converges.** Whatever calls were made, a task that is there was
entered by one of them and has an entry for each of the users it was entered for; it is stamped
complete exactly if all have confirmed, with the time of the confirmation that was answered with
the completion; and no time that is set is ever changed. -/
theorem acknowledgment_converges (run : List (Occasion × Call)) (n : Nat)
    (hrow : row ∈ (stage run n).store.acknowledgments) :
    ∃ id k, row.id = id.text ∧ k < n ∧ TaskHistory run id k n row := by
  have orderly := orderly_stage run n
  obtain ⟨id, hid⟩ := orderly.taskTexts row hrow
  have hunder := orderly.taskUnder?_of_mem hrow hid.symm
  have present : (stage run n).store.hasAcknowledgment id.text = true :=
    hasAcknowledgment_iff.2 ⟨row, hrow, hid.symm⟩
  obtain ⟨k, hkn, absent, since⟩ :=
    exists_entry (fun s => s.hasAcknowledgment id.text = true) Bool.false_ne_true present
  obtain ⟨first, hfirst⟩ := exists_taskUnder? (since (k + 1) k.lt_succ_self hkn)
  obtain ⟨o, actor, r, task, hc, hanswer, named, record⟩ :=
    exists_creation (Bool.eq_false_iff.2 absent) hfirst
  exact ⟨id, k, hid.symm, hkn, {
    created := ⟨o, actor, r, task, hc, hanswer, named,
      record_of_since hkn since hfirst record hunder⟩
    since := since
    distinct := orderly.nodup_entriesUnder
    viewed := fun r hr => orderly.viewed r (List.mem_filter.1 hr).1
    kept := fun m hnm stays => keepsTask hunder hnm stays }⟩

/-- The second task of `circulatingRun`, with two recipients, when it has been completed. -/
theorem acknowledgment_converges_of_circulatingRun :
    ∃ row ∈ (stage circulatingRun 12).store.acknowledgments,
      row.completedAt = some (minute 7).now ∧
        ((stage circulatingRun 12).store.recipients.countP fun r =>
          r.acknowledgmentId = row.id) = 2 ∧
        ∃ id k, row.id = id.text ∧ k < 12 ∧ TaskHistory circulatingRun id k 12 row := by
  have stamped : ∃ row ∈ (stage circulatingRun 12).store.acknowledgments,
      row.completedAt = some (minute 7).now ∧
        ((stage circulatingRun 12).store.recipients.countP fun r =>
          r.acknowledgmentId = row.id) = 2 := by decide +kernel
  obtain ⟨row, hrow, hstamp, hcount⟩ := stamped
  exact ⟨row, hrow, hstamp, hcount, acknowledgment_converges circulatingRun 12 hrow⟩

end Office

end Chancery
