import Chancery.Proofs.Store.Directory
import Chancery.Proofs.Text.Bytes

/-!
# The names that an assignment shows

An assignment is read together with names: that of its executor, those of its co-executors, and the
number and subject of its document. They are looked up when the assignment is read, and a look-up
that finds nothing leaves a name out. In a store that only the office has written to nothing is
left out: the people are users by constraint, and the document was looked up before it was referred
to.

Co-executors come sorted by their names. The sort compares texts, which is to compare their bytes.

## Main definitions

* `Store.Resolves` — all names are there, and are those of the directory

## Main results

* `Store.Yields.resolves`
* `Store.Yields.mem_coExecutors_iff`
-/

namespace Chancery

/-- What both registers have of one thing, and what the register of a kind has of it. -/
theorem ofRegister_apply {α : Type} (f : DocumentKind → α) (kind : DocumentKind) :
    ofRegister kind (f .incoming) (f .outgoing) = f kind := by
  cases kind <;> rfl

theorem AssignmentJoin.names_of_toAssignment {j : AssignmentJoin} {coExecutors : List CoExecutor}
    {a : Assignment} (h : j.toAssignment coExecutors = .ok a) :
    a.executorName = j.executorName ∧
      a.documentNumber = ofRegister a.document.kind j.incomingNumber j.outgoingNumber ∧
      a.documentSubject = ofRegister a.document.kind j.incomingSubject j.outgoingSubject := by
  simp only [AssignmentJoin.toAssignment, bind_eq_ok, pure, Except.pure, Except.ok.injEq] at h
  obtain ⟨_, -, _, -, _, -, _, -, _, -, rfl⟩ := h
  exact ⟨rfl, rfl, rfl⟩

namespace Store

variable {s : Store} {row : AssignmentRow} {a : Assignment}

/-- Whether an assignment shows all its names, and as the directory has them. -/
structure Resolves (s : Store) (a : Assignment) : Prop where
  executor : ∃ u, s.user? a.executorId = .ok (some u) ∧ a.executorName = some u.fullName
  coExecutors : ∀ c ∈ a.coExecutors,
    ∃ u, s.user? c.userId = .ok (some u) ∧ c.fullName = some u.fullName
  document : ∃ d, s.document? a.document = .ok (some d) ∧
    a.documentNumber = some d.number ∧ a.documentSubject = some d.subject
  /-- The co-executors stand in the order of the bytes of their names. -/
  sorted : a.coExecutors.Pairwise fun c c' => ∀ name name', c.fullName = some name →
    c'.fullName = some name' → ¬ Text.bytes name' < Text.bytes name

/-- Two co-executor rows of one assignment and one user are one row. -/
theorem CoExecutorRow.eq_of_owner {r r' : CoExecutorRow} {owner : String}
    (hr : r.assignmentId = owner) (hr' : r'.assignmentId = owner) (huser : r.userId = r'.userId) :
    r = r' := by
  cases r
  cases r'
  simp only [CoExecutorRow.mk.injEq]
  exact ⟨hr.trans hr'.symm, huser⟩

namespace Yields

/-- The co-executors of an assignment are read from its co-executor rows, in their order. -/
theorem forall₂_coExecutors (h : s.Yields row a) (hs : s.Constrained) :
    List.Forall₂ (fun j c => j ∈ s.coExecutorsOf [row.id] ∧ j.toCoExecutor = .ok c)
      (s.coExecutorsOf [row.id]) a.coExecutors := by
  obtain ⟨cos, hcos, ha⟩ := h.exists_toAssignment hs
  have hown := forall₂_belongingTo row.id hcos
  rw [filter_coExecutorsOf (List.mem_singleton.2 rfl)] at hown
  rw [AssignmentJoin.coExecutors_of_toAssignment ha]
  exact (List.forall₂_and_left _ _).2 ⟨fun _ hj => hj, hown⟩

/-- A co-executor is what a co-executor row says: its user, under the name that the directory has
for it. -/
theorem exists_row_of_mem_coExecutors (h : s.Yields row a) (hs : s.Orderly) {c : CoExecutor}
    (hc : c ∈ a.coExecutors) :
    (⟨row.id, c.userId.text⟩ : CoExecutorRow) ∈ s.coExecutors ∧
      c.fullName = s.userName? c.userId.text := by
  obtain ⟨j, -, hj, hread⟩ := exists_left_of_mem (h.forall₂_coExecutors hs.toConstrained) hc
  obtain ⟨r, hr, hown, rfl⟩ := mem_coExecutorsOf.1 hj
  obtain ⟨user, huser, rfl⟩ := CoExecutorJoin.toCoExecutor_eq_ok.1 hread
  have htext := (hs.isCanonical_of_hasUser (hs.coExecutors r hr).2).eq_text huser
  rw [← List.mem_singleton.1 hown, ← htext]
  exact ⟨hr, rfl⟩

/-- **The co-executors of an assignment are the users of its co-executor rows.** -/
theorem mem_coExecutors_iff (h : s.Yields row a) (hs : s.Orderly) (user : Identifier) :
    user ∈ a.coExecutors.map CoExecutor.userId ↔
      (⟨row.id, user.text⟩ : CoExecutorRow) ∈ s.coExecutors := by
  rw [List.mem_map]
  constructor
  · rintro ⟨c, hc, rfl⟩
    exact (h.exists_row_of_mem_coExecutors hs hc).1
  · intro hr
    have hj : ⟨⟨row.id, user.text⟩, s.userName? user.text⟩ ∈ s.coExecutorsOf [row.id] :=
      mem_coExecutorsOf.2 ⟨_, hr, List.mem_singleton.2 rfl, rfl⟩
    obtain ⟨c, hc, -, hread⟩ := exists_right_of_mem (h.forall₂_coExecutors hs.toConstrained) hj
    obtain ⟨user', huser', rfl⟩ := CoExecutorJoin.toCoExecutor_eq_ok.1 hread
    rw [show (CoExecutorJoin.mk ⟨row.id, user.text⟩ (s.userName? user.text)).row.userId =
      user.text from rfl, Identifier.parse?_text, Option.some.injEq] at huser'
    exact ⟨_, hc, huser'.symm⟩

/-- Nobody is listed twice. -/
theorem nodup_coExecutors (h : s.Yields row a) (hs : s.Orderly) :
    (a.coExecutors.map CoExecutor.userId).Nodup := by
  have hrows : (s.coExecutorsOf [row.id]).Nodup := by
    refine (sortByKey_perm _ _).nodup_iff.2 (List.Nodup.map ?_ (hs.coExecutors_nodup.filter _))
    exact fun r r' heq => congrArg CoExecutorJoin.row heq
  refine List.pairwise_map.2 (pairwise_of_forall₂ (h.forall₂_coExecutors hs.toConstrained) hrows ?_)
  rintro j k c c' ⟨hj, hc⟩ ⟨hk, hc'⟩ hne huser
  obtain ⟨r, hr, hown, rfl⟩ := mem_coExecutorsOf.1 hj
  obtain ⟨r', hr', hown', rfl⟩ := mem_coExecutorsOf.1 hk
  obtain ⟨_, hid, rfl⟩ := CoExecutorJoin.toCoExecutor_eq_ok.1 hc
  obtain ⟨_, hid', rfl⟩ := CoExecutorJoin.toCoExecutor_eq_ok.1 hc'
  have htext := (hs.isCanonical_of_hasUser (hs.coExecutors r hr).2).eq_text hid
  have htext' := (hs.isCanonical_of_hasUser (hs.coExecutors r' hr').2).eq_text hid'
  have hsame : r = r' := by
    refine CoExecutorRow.eq_of_owner (List.mem_singleton.1 hown) (List.mem_singleton.1 hown') ?_
    rw [htext, htext']
    exact congrArg Identifier.text huser
  exact hne (by rw [hsame])

/-- **An assignment on file shows all its names.** -/
theorem resolves (h : s.Yields row a) (hs : s.Orderly) : s.Resolves a := by
  obtain ⟨cos, -, ha⟩ := h.exists_toAssignment hs.toConstrained
  obtain ⟨hexecutor, hnumber, hsubject⟩ := AssignmentJoin.names_of_toAssignment ha
  have hreads := h.reads hs.toConstrained
  refine ⟨?_, fun c hc => ?_, ?_, ?_⟩
  · have htext :=
      (hs.isCanonical_of_hasUser (hs.executors row h.stored)).eq_text hreads.executorId
    obtain ⟨u, hu, hname⟩ := hs.exists_user?_of_hasUser (htext ▸ hs.executors row h.stored)
    exact ⟨u, hu, by rw [hexecutor, ← hname, ← htext]; rfl⟩
  · obtain ⟨hrow, hname⟩ := h.exists_row_of_mem_coExecutors hs hc
    obtain ⟨u, hu, hname'⟩ := hs.exists_user?_of_hasUser (hs.coExecutors _ hrow).2
    exact ⟨u, hu, hname.trans hname'⟩
  · have hregistered := hs.assignmentDocuments row h.stored
    have htext := (hs.isCanonical_of_isRegistered hregistered).eq_text hreads.documentId
    rw [hreads.documentKind, htext] at hregistered
    obtain ⟨d, drow, hd, hfound, hdnumber, hdsubject⟩ :=
      hs.exists_document?_of_isRegistered hregistered
    rw [← hreads.documentKind, ← htext] at hfound
    have shown (column : DocumentRow → String) :
        ofRegister a.document.kind
          ((s.registered? .incoming row.documentKind row.documentId).map column)
          ((s.registered? .outgoing row.documentKind row.documentId).map column) =
            some (column drow) := by
      rw [ofRegister_apply fun kind =>
        (s.registered? kind row.documentKind row.documentId).map column, hfound]
      rfl
    exact ⟨d, hd, by rw [hnumber, ← hdnumber]; exact shown _,
      by rw [hsubject, ← hdsubject]; exact shown _⟩
  · refine pairwise_of_forall₂ (h.forall₂_coExecutors hs.toConstrained)
      (pairwise_sortByKey CoExecutorJoin.key _) ?_
    rintro j k c c' ⟨hj, hc⟩ ⟨hk, hc'⟩ hkey name name' hname hname'
    obtain ⟨r, -, hown, rfl⟩ := mem_coExecutorsOf.1 hj
    obtain ⟨r', -, hown', rfl⟩ := mem_coExecutorsOf.1 hk
    obtain ⟨_, -, rfl⟩ := CoExecutorJoin.toCoExecutor_eq_ok.1 hc
    obtain ⟨_, -, rfl⟩ := CoExecutorJoin.toCoExecutor_eq_ok.1 hc'
    have hname : s.userName? r.userId = some name := hname
    have hname' : s.userName? r'.userId = some name' := hname'
    simp only [CoExecutorJoin.key, hname, hname', nameKey, List.mem_singleton.1 hown,
      List.mem_singleton.1 hown', List.cons_append, List.nil_append] at hkey
    rw [Text.bytes_lt_bytes_iff]
    refine fun hlt => hkey ?_
    simp only [List.cons_lt_cons_iff, true_and]
    exact .inr (.inr (.inl hlt))

end Yields

end Store

end Chancery
