import Chancery.Proofs.Store.Hydration
import Chancery.Proofs.Store.Sorting
import Chancery.Store.Lateness

/-!
# Lists of rows read back

A list of rows is read together with one list of co-executor rows for all of them, and each row
then takes its own out of it. This module says that reading many rows comes to the same as looking
each of them up by itself. The co-executors of one assignment stand in the long list in the order
in which they stand alone, because no two rows of the table have one sort key.

What an assignment says of a user, and what the tables say, is the same (`Yields.involves_eq`).

## Main definitions

* `Store.Yields` — a row and the assignment that is found under its identifier

## Main results

* `Store.Orderly.exists_loadAssignments` — every list of stored rows reads, row by row
* `Store.Yields.involves_eq`
-/

namespace Chancery

theorem AssignmentJoin.coExecutors_of_toAssignment {j : AssignmentJoin}
    {coExecutors : List CoExecutor} {a : Assignment} (h : j.toAssignment coExecutors = .ok a) :
    a.coExecutors = coExecutors := by
  simp only [AssignmentJoin.toAssignment, bind_eq_ok, pure, Except.pure, Except.ok.injEq] at h
  obtain ⟨_, -, _, -, _, -, _, -, _, -, rfl⟩ := h
  rfl

/-- Readings of picked members are the picked readings, if the two picks mean the same. -/
theorem mapM_filter {ε α β : Type} {f : α → Except ε β} {l : List α} {bs : List β}
    {p : α → Bool} {q : β → Bool} (h : l.mapM f = .ok bs)
    (hpq : ∀ a b, f a = .ok b → p a = q b) : (l.filter p).mapM f = .ok (bs.filter q) := by
  rw [mapM_eq_ok] at h ⊢
  refine List.rel_filter (p := p) (q := q) ?_ h
  intro a b hab
  simp only [hpq a b hab]

/-- What belongs to a record are the readings of the rows that belong to it. -/
theorem forall₂_belongingTo {κ α : Type} {owner : κ → String} {read : κ → Except StoreFault α}
    {rows : List κ} {pairs : List (String × α)} (o : String)
    (h : (rows.mapM fun k => return (owner k, ← read k)) = .ok pairs) :
    List.Forall₂ (fun k a => read k = .ok a) (rows.filter fun k => owner k = o)
      (belongingTo o pairs) := by
  have hfilter : (rows.filter fun k => owner k = o).mapM
      (fun k => return (owner k, ← read k)) = .ok (pairs.filter fun p => p.1 = o) := by
    refine mapM_filter h fun k p hp => ?_
    obtain ⟨a, -, hpair⟩ := bind_eq_ok.1 hp
    rw [← Except.ok.inj hpair]
  rw [belongingTo, List.forall₂_map_right_iff]
  refine (mapM_eq_ok.1 hfilter).imp fun k p hp => ?_
  obtain ⟨a, ha, hpair⟩ := bind_eq_ok.1 hp
  rw [← Except.ok.inj hpair]
  exact ha

namespace Store

variable {s : Store} {id : Identifier} {row : AssignmentRow} {a : Assignment}

/-! ### Co-executors of one assignment among those of many -/

/-- The sort key of a co-executor names its row. -/
theorem row_eq_of_key_eq {j k : CoExecutorJoin} (h : j.key = k.key) : j.row = k.row := by
  unfold CoExecutorJoin.key at h
  obtain ⟨hfront, hlast⟩ := List.append_inj' h rfl
  obtain ⟨howner, -⟩ := List.cons.inj hfront
  obtain ⟨huser, -⟩ := List.cons.inj hlast
  cases hj : j.row
  cases hk : k.row
  rw [hj, hk] at howner huser
  exact CoExecutorRow.mk.injEq .. ▸ ⟨howner, huser⟩

/-- Picking one assignment's co-executors out of those of many leaves what it has alone. -/
theorem filter_coExecutorsOf {ids : List String} {owner : String} (howner : owner ∈ ids) :
    (s.coExecutorsOf ids).filter (fun j => j.row.assignmentId = owner) =
      s.coExecutorsOf [owner] := by
  unfold coExecutorsOf
  rw [filter_sortByKey]
  · rw [List.filter_map, List.filter_filter]
    refine congrArg _ (congrArg _ (List.filter_congr fun c _ => ?_))
    by_cases hc : c.assignmentId = owner
    · simp [hc, howner]
    · simp [hc]
  · intro j hj k hk hkey
    obtain ⟨c, -, rfl⟩ := List.mem_map.1 hj
    obtain ⟨d, -, rfl⟩ := List.mem_map.1 hk
    have hrow : c = d := row_eq_of_key_eq hkey
    rw [hrow]

/-- One assignment takes the same co-executors out of a long list as it has alone. -/
theorem belongingTo_eq {ids : List String} {cos : List (String × CoExecutor)} {owner : String}
    (hcos : readCoExecutors (s.coExecutorsOf ids) = .ok cos) (howner : owner ∈ ids) :
    ∃ own, readCoExecutors (s.coExecutorsOf [owner]) = .ok own ∧
      belongingTo owner own = belongingTo owner cos := by
  refine ⟨cos.filter fun p => p.1 = owner, ?_, ?_⟩
  · rw [← filter_coExecutorsOf howner]
    refine mapM_filter hcos fun j p hp => ?_
    obtain ⟨c, -, hpair⟩ := bind_eq_ok.1 hp
    rw [← Except.ok.inj hpair]
  · simp [belongingTo, List.filter_filter]

/-! ### Rows and assignments -/

theorem loadAssignments_singleton_eq_ok {as : List Assignment} :
    s.loadAssignments [row] = .ok as ↔
      ∃ cos, readCoExecutors (s.coExecutorsOf [row.id]) = .ok cos ∧
        ∃ a, (s.joinAssignment row).toAssignment (belongingTo row.id cos) = .ok a ∧ as = [a] := by
  rw [loadAssignments_eq_ok (by simp)]
  simp only [List.map_singleton, List.forall₂_cons_left_iff, List.forall₂_nil_left_iff]
  constructor
  · rintro ⟨cos, hcos, a, _, ha, rfl, rfl⟩
    exact ⟨cos, hcos, a, ha, rfl⟩
  · rintro ⟨cos, hcos, a, ha, rfl⟩
    exact ⟨cos, hcos, a, [], ha, rfl, rfl⟩

/-- A row of the table and the assignment that is found under its identifier. -/
structure Yields (s : Store) (row : AssignmentRow) (a : Assignment) : Prop where
  stored : row ∈ s.assignments
  id : row.id = a.id.text
  found : s.assignment? a.id = .ok (some a)

namespace Yields

/-- A row yields one assignment. -/
theorem unique {a' : Assignment} (h : s.Yields row a) (h' : s.Yields row a') : a = a' := by
  have hid : a.id = a'.id := Identifier.text_inj.1 (h.id.symm.trans h'.id)
  have hfound := h.found
  rw [hid, h'.found] at hfound
  exact (Option.some.inj (Except.ok.inj hfound)).symm

/-- The reading behind a found assignment. -/
theorem exists_toAssignment (h : s.Yields row a) (hs : s.Constrained) :
    ∃ cos, readCoExecutors (s.coExecutorsOf [row.id]) = .ok cos ∧
      (s.joinAssignment row).toAssignment (belongingTo row.id cos) = .ok a := by
  have hfound := h.found
  rw [hs.assignment?_eq h.stored h.id] at hfound
  cases hload : s.loadAssignments [row] with
  | error e => rw [hload] at hfound; cases hfound
  | ok as =>
    obtain ⟨cos, hcos, b, hb, rfl⟩ := loadAssignments_singleton_eq_ok.1 hload
    rw [hload] at hfound
    obtain rfl : b = a := Option.some.inj (Except.ok.inj hfound)
    exact ⟨cos, hcos, hb⟩

theorem reads (h : s.Yields row a) (hs : s.Constrained) : row.Reads a := by
  obtain ⟨cos, -, ha⟩ := h.exists_toAssignment hs
  exact AssignmentJoin.reads_of_toAssignment ha

/-- **The assignment and the tables agree on whom it involves.** -/
theorem involves_eq (h : s.Yields row a) (hs : s.Orderly) (user : Identifier) :
    a.involves user = s.involves user row := by
  obtain ⟨cos, hcos, ha⟩ := h.exists_toAssignment hs.toConstrained
  have hreads := AssignmentJoin.reads_of_toAssignment ha
  have hexecutor : a.executorId = user ↔ row.executorId = user.text := by
    obtain ⟨e, he⟩ := hs.isCanonical_of_hasUser (hs.executors row h.stored)
    have hread := hreads.executorId
    rw [show (s.joinAssignment row).row.executorId = row.executorId from rfl, ← he,
      Identifier.parse?_text, Option.some.injEq] at hread
    rw [← hread, ← he, Identifier.text_inj]
  have hothers : (∃ c ∈ a.coExecutors, c.userId = user) ↔
      ∃ c ∈ s.coExecutors, c.assignmentId = row.id ∧ c.userId = user.text := by
    rw [AssignmentJoin.coExecutors_of_toAssignment ha]
    constructor
    · rintro ⟨c, hc, rfl⟩
      obtain ⟨j, hj, hpair⟩ := exists_of_mem_mapM hcos (mem_belongingTo.1 hc)
      obtain ⟨r, hr, -, rfl⟩ := mem_coExecutorsOf.1 hj
      obtain ⟨c', hc', hpair⟩ := bind_eq_ok.1 hpair
      obtain ⟨howner, rfl⟩ := Prod.mk.inj (Except.ok.inj hpair)
      obtain ⟨u, hu, rfl⟩ := CoExecutorJoin.toCoExecutor_eq_ok.1 hc'
      obtain ⟨v, hv⟩ := hs.isCanonical_of_hasUser (hs.coExecutors r hr).2
      refine ⟨r, hr, howner, ?_⟩
      rw [show (CoExecutorJoin.mk r (s.userName? r.userId)).row.userId = r.userId from rfl, ← hv,
        Identifier.parse?_text, Option.some.injEq] at hu
      rw [← hv, hu]
    · rintro ⟨r, hr, howner, huser⟩
      have hj : ⟨r, s.userName? r.userId⟩ ∈ s.coExecutorsOf [row.id] :=
        mem_coExecutorsOf.2 ⟨r, hr, List.mem_singleton.2 howner, rfl⟩
      obtain ⟨p, hp, hpair⟩ := exists_mem_of_mapM hcos hj
      obtain ⟨c, hc, hpair⟩ := bind_eq_ok.1 hpair
      obtain ⟨u, hu, rfl⟩ := CoExecutorJoin.toCoExecutor_eq_ok.1 hc
      rw [← Except.ok.inj hpair, howner] at hp
      rw [huser, Identifier.parse?_text, Option.some.injEq] at hu
      exact ⟨_, mem_belongingTo.2 hp, hu.symm⟩
  rw [Bool.eq_iff_iff]
  simp only [Assignment.involves, involves, Bool.or_eq_true, List.any_eq_true, Bool.and_eq_true,
    decide_eq_true_eq, hexecutor, hothers]

end Yields

/-- An assignment that is found is yielded by a row. -/
theorem exists_row_yields (ha : s.assignment? id = .ok (some a)) : ∃ row, s.Yields row a := by
  obtain ⟨row, hrow, hid, -⟩ := exists_row_of_assignment? ha
  have hown := id_of_assignment? ha
  exact ⟨row, hrow, by rw [hown, hid], by rw [hown, ha]⟩

/-- **Reading many rows is looking each of them up.** -/
theorem Orderly.exists_loadAssignments (h : s.Orderly) {rows : List AssignmentRow}
    (hrows : ∀ row ∈ rows, row ∈ s.assignments) (once : rows.Nodup) :
    ∃ as, s.loadAssignments rows = .ok as ∧ List.Forall₂ s.Yields rows as := by
  obtain ⟨cos, hcos⟩ : ∃ cos,
      readCoExecutors (s.coExecutorsOf (rows.map AssignmentRow.id)) = .ok cos :=
    exists_readCoExecutors_iff.2 fun _ hc _ => h.isReadable_coExecutor hc
  obtain ⟨as, has⟩ : ∃ as,
      rows.mapM (fun row => (s.joinAssignment row).toAssignment (belongingTo row.id cos)) =
        .ok as := by
    refine exists_mapM_eq_ok fun row hrow => ?_
    have hstored := hrows row hrow
    exact AssignmentJoin.exists_toAssignment _ (h.assignmentTexts row hstored).isReadable
      (h.isCanonical_of_isRegistered (h.assignmentDocuments row hstored)).isReadable
      (h.isCanonical_of_hasUser (h.executors row hstored)).isReadable (h.words row hstored)
  rw [mapM_eq_ok] at has
  refine ⟨as, (loadAssignments_eq_ok (h.nodup_assignmentIds hrows once)).2 ⟨cos, hcos, has⟩, ?_⟩
  have listed := (List.forall₂_and_left (p := (· ∈ rows)) rows as).2 ⟨fun _ h => h, has⟩
  refine listed.imp ?_
  rintro row a ⟨hrow, ha⟩
  have hstored := hrows row hrow
  obtain ⟨own, hown, heq⟩ := belongingTo_eq hcos (List.mem_map_of_mem hrow)
  have hload : s.loadAssignments [row] = .ok [a] :=
    loadAssignments_singleton_eq_ok.2 ⟨own, hown, a, heq ▸ ha, rfl⟩
  have hid : row.id = a.id.text := by
    obtain ⟨k, hk⟩ := h.assignmentTexts row hstored
    have hread := (AssignmentJoin.reads_of_toAssignment ha).id
    rw [show (s.joinAssignment row).row.id = row.id from rfl, ← hk, Identifier.parse?_text,
      Option.some.injEq] at hread
    rw [← hk, hread]
  exact ⟨hstored, hid, by rw [h.assignment?_eq hstored hid, hload]; rfl⟩

end Store

end Chancery
