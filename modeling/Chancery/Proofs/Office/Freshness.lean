import Chancery.Proofs.Trail.Growth

/-!
# New identifiers are new

The supply of identifiers knows nothing of the store. That an identifier is new when it is drawn
follows from two facts: what names a record was drawn by an earlier call, and nothing is drawn
twice. The first needs no assumption, the second is one about the supply (`Office.DrawsApart`).

Users and documents draw from the same supply and are left out: no operation of a workflow enters
any.

## Main definitions

* `Store.recordKeys` — the identifiers of assignments, of tasks and of their entries
* `Office.SuppliesNew` — the identifiers that are drawn next are new

## Main results

* `Office.wasDrawn_of_mem_recordKeys`
* `Office.DrawsApart.suppliesNew`
-/

namespace Chancery

theorem subset_append_of_eq {α : Type} {l l' : List α} (m : List α) (h : l' = l) : l' ⊆ l ++ m :=
  h ▸ List.subset_append_left l m

namespace Store

variable {s : Store}

/-- The texts that name an assignment, a task or an entry of a task. -/
def recordKeys (s : Store) : List String :=
  s.assignments.map AssignmentRow.id ++ s.acknowledgments.map AcknowledgmentRow.id ++
    s.recipients.map RecipientRow.id

theorem mem_recordKeys {text : String} :
    text ∈ s.recordKeys ↔ s.hasAssignment text = true ∨ s.hasAcknowledgment text = true ∨
      ∃ r ∈ s.recipients, r.id = text := by
  rw [recordKeys, List.mem_append, List.mem_append, or_assoc, hasAssignment_iff_mem,
    hasAcknowledgment_iff_mem]
  exact or_congr_right (or_congr_right List.mem_map)

/-! ### Keys after a write -/

theorem recordKeys_mapAssignment {text : String} {f : AssignmentRow → AssignmentRow}
    (hid : ∀ a, (f a).id = a.id) : (s.mapAssignment text f).recordKeys = s.recordKeys := by
  rw [recordKeys, map_id_mapAssignment hid]
  rfl

theorem recordKeys_mapRecipients {p : RecipientRow → Bool} {f : RecipientRow → RecipientRow}
    (hid : ∀ r, (f r).id = r.id) : (s.mapRecipients p f).recordKeys = s.recordKeys := by
  have hmap : (s.mapRecipients p f).recipients.map RecipientRow.id =
      s.recipients.map RecipientRow.id := by
    rw [mapRecipients, List.map_map]
    refine List.map_congr_left fun r _ => ?_
    rw [Function.comp_apply]
    split
    · exact hid r
    · rfl
  rw [recordKeys, hmap]
  rfl

theorem recordKeys_stampComplete (task : Identifier) (now : Instant) :
    (s.stampComplete task now).2.recordKeys = s.recordKeys := by
  rw [recordKeys, map_id_stampComplete]
  rfl

theorem recordKeys_markConfirmed (task user : Identifier) (now : Instant) :
    (s.markConfirmed task user now).2.recordKeys = s.recordKeys := by
  have confirmed : (s.confirmEntry task user now).recordKeys = s.recordKeys :=
    recordKeys_mapRecipients fun _ => rfl
  rcases s.markConfirmed_cases task user now with
    ⟨-, -, he⟩ | ⟨-, -, he⟩ | ⟨-, -, he⟩ | ⟨-, he⟩ <;> rw [he]
  · exact confirmed
  · exact (recordKeys_stampComplete task now).trans confirmed

theorem recordKeys_deleteAssignment (id : Identifier) :
    (s.deleteAssignment id).2.recordKeys ⊆ s.recordKeys := by
  intro text htext
  simp only [recordKeys, List.mem_append] at htext ⊢
  refine htext.imp_left (Or.imp_left fun h => ?_)
  exact (List.filter_sublist.map _).subset h

theorem recordKeys_deleteAcknowledgment (task : Identifier) :
    (s.deleteAcknowledgment task).2.recordKeys ⊆ s.recordKeys := by
  intro text htext
  simp only [recordKeys, List.mem_append] at htext ⊢
  exact htext.imp (Or.imp_right fun h => (List.filter_sublist.map _).subset h)
    fun h => (List.filter_sublist.map _).subset h

end Store

/-! ### One call -/

namespace Office

variable {o : Occasion} {office office' : Office}

/-- The supply is drawn from in order. -/
theorem upcoming_succ (office : Office) (o : Occasion) (n : Nat) :
    office.upcoming o (n + 1) = office.nextId o :: (office.afterDrawing 1).upcoming o n := by
  simp only [upcoming, nextId, afterDrawing, List.range_succ_eq_map, List.map_cons, List.map_map,
    Nat.add_zero]
  refine congrArg _ (List.map_congr_left fun i _ => ?_)
  rw [Function.comp_apply, Nat.succ_eq_add_one, Nat.add_assoc, Nat.add_comm 1 i]

@[simp] theorem length_upcoming (office : Office) (o : Occasion) (n : Nat) :
    (office.upcoming o n).length = n := by
  rw [upcoming, List.length_map, List.length_range]

/-- What was drawn when a count of identifiers was drawn. -/
theorem drawnBetween_eq {n : Nat} (h : office'.drawn = office.drawn + n) :
    drawnBetween o office office' = office.upcoming o n := by
  rw [drawnBetween, h, Nat.add_sub_cancel_left]

end Office

namespace Call.Outcome

open Office

variable {o : Occasion} {office office' : Office} {c : Call} {answer : Except Refusal Answer}

theorem recordKeys_addAssignment {new : NewAssignment} {store : Store}
    (added : office.store.addAssignment (office.nextId o) o.now new = .ok store) :
    store.recordKeys ⊆
      office.store.recordKeys ++ (office.upcoming o 1).map Identifier.text := by
  obtain ⟨-, rfl⟩ := Store.addAssignment_eq added
  intro text htext
  simp only [Store.recordKeys, List.map_append, List.map_cons, List.map_nil, List.mem_append,
    List.mem_cons, List.not_mem_nil, or_false, Store.id_assignmentRow, upcoming_succ] at htext ⊢
  rcases htext with ((htext | htext) | htext) | htext
  · exact .inl (.inl (.inl htext))
  · exact .inr (.inl htext)
  · exact .inl (.inl (.inr htext))
  · exact .inl (.inr htext)

theorem recordKeys_addAcknowledgment {new : NewAcknowledgment} {n : Nat} {store : Store}
    (added : office.store.addAcknowledgment (office.nextId o)
      ((office.afterDrawing 1).upcoming o n) o.now new = .ok store) :
    store.recordKeys ⊆
      office.store.recordKeys ++ (office.upcoming o (n + 1)).map Identifier.text := by
  obtain ⟨-, rfl⟩ := Store.addAcknowledgment_eq added
  intro text htext
  have entries : text ∈ (Store.recipientRows (office.nextId o) o.now
        (((office.afterDrawing 1).upcoming o n).zip new.recipientIds)).map RecipientRow.id →
      text ∈ ((office.afterDrawing 1).upcoming o n).map Identifier.text := by
    intro h
    obtain ⟨r, hr, rfl⟩ := List.mem_map.1 h
    obtain ⟨e, he, rfl⟩ := List.mem_map.1 hr
    exact List.mem_map_of_mem (List.of_mem_zip he).1
  simp only [Store.recordKeys, List.map_append, List.map_cons, List.map_nil, List.mem_append,
    List.mem_cons, List.not_mem_nil, or_false, Store.id_acknowledgmentRow, upcoming_succ] at htext ⊢
  rcases htext with (htext | htext | htext) | htext | htext
  · exact .inl (.inl (.inl htext))
  · exact .inl (.inl (.inr htext))
  · exact .inr (.inl htext)
  · exact .inl (.inr htext)
  · exact .inr (.inr (entries htext))

/-- **A call names records only by what it draws.** -/
theorem recordKeys_subset (hout : Outcome o office c answer office') :
    office'.store.recordKeys ⊆
      office.store.recordKeys ++ (drawnBetween o office office').map Identifier.text := by
  cases hout with
  | refused _ | looked _ | moveDenied _ _ | assignmentAbsent _ | viewedBefore _ _ _
  | confirmedBefore _ _ _ => exact List.subset_append_left _ _
  | userEntered added =>
    obtain ⟨-, rfl⟩ := Store.insertUser_eq_ok.1 (Store.addUser_eq_ok.1 added).1
    exact List.subset_append_left _ _
  | documentEntered added =>
    obtain ⟨-, rfl⟩ := Store.insertDocument_eq_ok.1 (Store.addDocument_eq_ok.1 added).1
    exact subset_append_of_eq _ (by simp [Store.recordKeys])
  | assignmentCreated _ added _ | assignmentUnread _ added _ =>
    rw [drawnBetween_eq (n := 1) rfl]
    exact recordKeys_addAssignment added
  | assignmentUpdated _ updated =>
    obtain ⟨-, -, hrows⟩ := Store.updateAssignment_eq_ok.1 updated
    obtain rfl := Store.insertCoExecutors_eq hrows
    exact subset_append_of_eq _ (Store.recordKeys_mapAssignment (Store.id_withDetails _))
  | assignmentMoved _ _ moved =>
    obtain ⟨-, rfl⟩ := Prod.mk.inj moved
    exact subset_append_of_eq _ (Store.recordKeys_mapAssignment (Store.id_moved _ _ _))
  | assignmentDeleted _ =>
    exact List.subset_append_of_subset_left _ (Store.recordKeys_deleteAssignment _)
  | taskCreated _ added _ | taskUnread _ added _ =>
    rw [drawnBetween_eq rfl]
    exact recordKeys_addAcknowledgment added
  | taskDeleted _ _ | taskAbsent _ _ =>
    exact List.subset_append_of_subset_left _ (Store.recordKeys_deleteAcknowledgment _)
  | taskViewed _ _ =>
    exact subset_append_of_eq _ (Store.recordKeys_mapRecipients fun _ => rfl)
  | @taskConfirmed _ _ confirmer task outcome store _ _ confirmed =>
    have hstore : store = (office.store.markConfirmed task confirmer.id o.now).2 := by
      rw [confirmed]
    rw [store_foldl_record, store_withStore, hstore]
    exact subset_append_of_eq _ (Store.recordKeys_markConfirmed task confirmer.id o.now)

end Call.Outcome

/-! ### Stages -/

namespace Office

variable {run : List (Occasion × Call)} {n : Nat}

/-- **What names a record was drawn.** -/
theorem wasDrawn_of_mem_recordKeys {text : String} (h : text ∈ (stage run n).store.recordKeys) :
    ∃ id, WasDrawn run n id ∧ id.text = text := by
  induction n with
  | zero => simp [Store.recordKeys, opened, Store.empty] at h
  | succ n ih =>
    rcases stage_step run n with ⟨o, c, answer, hcall, -, hout⟩ | ⟨-, same⟩
    · rcases List.mem_append.1 (hout.recordKeys_subset h) with h | h
      · obtain ⟨id, hid, htext⟩ := ih h
        exact ⟨id, hid.succ, htext⟩
      · obtain ⟨id, hid, htext⟩ := List.mem_map.1 h
        exact ⟨id, wasDrawn_of_mem hcall hid, htext⟩
    · rw [same] at h
      obtain ⟨id, hid, htext⟩ := ih h
      exact ⟨id, hid.succ, htext⟩

/-- **What a call draws names nothing yet.** -/
theorem DrawsApart.not_mem_recordKeys (h : DrawsApart run) {id : Identifier}
    (hid : id ∈ drawnAt run n) : id.text ∉ (stage run n).store.recordKeys := by
  intro hkey
  obtain ⟨id', hdrawn, htext⟩ := wasDrawn_of_mem_recordKeys hkey
  rw [Identifier.text_inj.1 htext] at hdrawn
  exact h.not_mem_drawnAt hdrawn hid

/-- A call draws nothing twice. -/
theorem DrawsApart.nodup_drawnAt (h : DrawsApart run) (n : Nat) : (drawnAt run n).Nodup := by
  rcases Nat.lt_or_ge n run.length with hn | hn
  · exact (List.nodup_flatMap.1 h).1 n (List.mem_range.2 hn)
  · simp [drawnAt, List.getElem?_eq_none hn]

/-- Whether the next identifiers of the supply are new: different from each other and from all
that name a record. -/
structure SuppliesNew (o : Occasion) (office : Office) (k : Nat) : Prop where
  nodup : (office.upcoming o k).Nodup
  not_mem : ∀ id ∈ office.upcoming o k, id.text ∉ office.store.recordKeys

namespace SuppliesNew

variable {o : Occasion} {office : Office} {k : Nat}

theorem hasAssignment_nextId (h : office.SuppliesNew o (k + 1)) :
    office.store.hasAssignment (office.nextId o).text = false := by
  have hkeys := h.not_mem (office.nextId o) (upcoming_succ office o k ▸ List.mem_cons_self)
  exact Bool.eq_false_iff.2 fun hhas => hkeys (Store.mem_recordKeys.2 (.inl hhas))

theorem hasAcknowledgment_nextId (h : office.SuppliesNew o (k + 1)) :
    office.store.hasAcknowledgment (office.nextId o).text = false := by
  have hkeys := h.not_mem (office.nextId o) (upcoming_succ office o k ▸ List.mem_cons_self)
  exact Bool.eq_false_iff.2 fun hhas => hkeys (Store.mem_recordKeys.2 (.inr (.inl hhas)))

/-- What is drawn after the first identifier for the entries of a task. -/
theorem entries (h : office.SuppliesNew o (k + 1)) :
    ((office.afterDrawing 1).upcoming o k).Nodup ∧
      ∀ e ∈ (office.afterDrawing 1).upcoming o k, ∀ r ∈ office.store.recipients,
        e.text ≠ r.id := by
  obtain ⟨hnodup, hkeys⟩ := h
  rw [upcoming_succ] at hnodup hkeys
  refine ⟨(List.nodup_cons.1 hnodup).2, fun e he r hr heq => ?_⟩
  exact hkeys e (List.mem_cons_of_mem _ he)
    (Store.mem_recordKeys.2 (.inr (.inr ⟨r, hr, heq.symm⟩)))

end SuppliesNew

/-- **What a call of a run draws is new**, if no identifier is drawn twice in the run. -/
theorem DrawsApart.suppliesNew (h : DrawsApart run) {o : Occasion} {c : Call} {k : Nat}
    (hcall : run[n]? = some (o, c))
    (hdrawn : (c.perform o (stage run n)).2.drawn = (stage run n).drawn + k) :
    (stage run n).SuppliesNew o k := by
  rw [← stage_succ hcall] at hdrawn
  have heq : drawnAt run n = (stage run n).upcoming o k := by
    rw [drawnAt_eq hcall, drawnBetween_eq hdrawn]
  exact ⟨heq ▸ h.nodup_drawnAt n, fun id hid => h.not_mem_recordKeys (heq ▸ hid)⟩

theorem drawn_createAssignment {o : Occasion} {office : Office} {actor : Option Actor}
    {r : Request.CreateAssignment} {checked : Actor × NewAssignment}
    (hc : checkCreate actor r office.store = .ok checked) :
    ((Call.createAssignment actor r).perform o office).2.drawn = office.drawn + 1 := by
  simp only [Call.perform, Call.wrote, createAssignment, enterAssignment, hc]
  cases office.store.addAssignment (office.nextId o) o.now checked.2 with
  | error fault => rfl
  | ok store =>
    cases hread : written (store.assignment? (office.nextId o)) <;> simp only [hread] <;> rfl

theorem drawn_createAcknowledgment {o : Occasion} {office : Office} {actor : Option Actor}
    {r : Request.CreateAcknowledgment} {new : NewAcknowledgment}
    (hc : checkAcknowledgment actor r office.store = .ok new) :
    ((Call.createAcknowledgment actor r).perform o office).2.drawn =
      office.drawn + (new.recipientIds.length + 1) := by
  simp only [Call.perform, Call.wrote, createAcknowledgment, enterAcknowledgment, hc]
  cases office.store.addAcknowledgment (office.nextId o)
      ((office.afterDrawing 1).upcoming o new.recipientIds.length) o.now new with
  | error fault => rfl
  | ok store =>
    cases hread : written (store.task? (office.nextId o)) <;> simp only [hread] <;> rfl

end Office

end Chancery
