import Chancery.Proofs.Assignments.Times
import Chancery.Proofs.Calendar.TextOrder
import Chancery.Proofs.Journal.Pages
import Chancery.Proofs.Store.Loading

/-!
# The journal as one list

Every page of the journal is cut out of one and the same list: the rows that match the query,
sorted, and read. That list is fixed by the filters of a request alone, whatever page is asked for.

In the store the list is sorted by texts, the time of creation first and the identifier second. The
times on file are readings of the clock, so as long as these have years of four digits the texts
are ordered like the times, and identifiers always are. No two rows have one identifier, and so the
order is strict.

## Main definitions

* `Store.meets`, `Store.journalRows` — the rows behind all pages
* `Assignment.IsNewer` — the order of the journal

## Main results

* `Store.matchingAssignments_eq_ok` — when a query can be answered at all
* `Store.Orderly.listAssignments_eq` — one page, in terms of the list
* `Store.Orderly.pairwise_isNewer` — the order of the list
* `Store.Orderly.mem_journal_iff` — what is in it
-/

namespace Chancery

/-! ### Requests -/

namespace Intake

variable {settings : WorkflowSettings} {r : Request.ListAssignments} {q : JournalQuery}

theorem query_eq_ok : query settings r = .ok q ↔
    ∃ documentId, optionally (identifier "document") r.documentId = .ok documentId ∧
      ∃ executorId, optionally (identifier "executor") r.executorId = .ok executorId ∧
        ∃ st, optionally status r.status = .ok st ∧
          ∃ start, date "deadlineFrom" r.deadlineFrom = .ok start ∧
            ∃ finish, date "deadlineTo" r.deadlineTo = .ok finish ∧
              ⟨Text.nonBlank? r.search, documentId, executorId, st, start, finish, r.overdueOnly,
                r.showFinished, (settings.normalizePaging r.page r.pageSize).1,
                (settings.normalizePaging r.page r.pageSize).2⟩ = q := by
  simp only [query, bind_eq_ok, pure, Except.pure, Except.ok.injEq]

/-- Another page of a request is the same query. -/
theorem query_paging (h : query settings r = .ok q) (page pageSize : Option Int) :
    query settings { r with page, pageSize } = .ok { q with
      page := (settings.normalizePaging page pageSize).1
      pageSize := (settings.normalizePaging page pageSize).2 } := by
  obtain ⟨d, hd, e, he, st, hst, start, hstart, finish, hfinish, rfl⟩ := query_eq_ok.1 h
  exact query_eq_ok.2 ⟨d, hd, e, he, st, hst, start, hstart, finish, hfinish, rfl⟩

end Intake

/-! ### The rows behind all pages -/

namespace Store

variable {s : Store} {q : JournalQuery} {today : Date}

/-- Whether a row passes the search of a query. -/
def passesSearch (s : Store) (q : JournalQuery) (row : AssignmentRow) : Bool :=
  (queryPattern? q).all fun pattern => s.matchesSearch pattern row

/-- Whether a row meets a query. -/
def meets (s : Store) (q : JournalQuery) (today : Date) (row : AssignmentRow) : Bool :=
  s.passesFilters q today row && s.passesSearch q row

/-- The rows behind all pages of a query, newest first. -/
def journalRows (s : Store) (q : JournalQuery) (today : Date) : List AssignmentRow :=
  sortByKeyDesc journalKey (s.assignments.filter (s.meets q today))

/-- Matching fails only for a pattern that is too long, and only if there is a row to try it
on. -/
theorem matchingAssignments_eq_ok {rows : List AssignmentRow} :
    s.matchingAssignments q today = .ok rows ↔
      (∀ pattern, queryPattern? q = some pattern →
        (∃ row ∈ s.assignments, s.passesFilters q today row = true) →
          pattern.utf8ByteSize ≤ patternLimit) ∧
      rows = s.assignments.filter (s.meets q today) := by
  unfold matchingAssignments
  cases hp : queryPattern? q with
  | none =>
    have hmeets : s.meets q today = s.passesFilters q today := by
      funext row
      simp [meets, passesSearch, hp]
    simp only [hmeets, reduceCtorEq, false_implies, implies_true, true_and, Except.ok.injEq]
    exact eq_comm
  | some pattern =>
    have hmeets : (s.assignments.filter (s.passesFilters q today)).filter
        (s.matchesSearch pattern) = s.assignments.filter (s.meets q today) := by
      rw [List.filter_filter]
      refine List.filter_congr fun row _ => ?_
      simp [meets, passesSearch, hp, Bool.and_comm]
    have hsome : (!(s.assignments.filter (s.passesFilters q today)).isEmpty) = true ↔
        ∃ row ∈ s.assignments, s.passesFilters q today row = true := by
      simp
    simp only [hmeets, Option.some.injEq, forall_eq']
    split
    · rename_i h
      rw [Bool.and_eq_true, hsome, decide_eq_true_eq] at h
      simp only [reduceCtorEq, false_iff, not_and]
      intro hfits
      exact absurd (hfits h.1) (by omega)
    · rename_i h
      rw [Bool.and_eq_true, hsome, decide_eq_true_eq, not_and] at h
      rw [Except.ok.injEq, eq_comm, iff_and_self]
      intro _ hrow
      exact Nat.le_of_not_lt (h hrow)

theorem mem_journalRows {row : AssignmentRow} :
    row ∈ s.journalRows q today ↔ row ∈ s.assignments ∧ s.meets q today row = true := by
  rw [journalRows, (sortByKeyDesc_perm _ _).mem_iff, List.mem_filter]

/-- Which rows match has nothing to do with the page asked for. -/
theorem matchingAssignments_paging (s : Store) (q : JournalQuery) (today : Date)
    (page pageSize : Int) :
    s.matchingAssignments { q with page, pageSize } today = s.matchingAssignments q today := rfl

theorem journalRows_paging (s : Store) (q : JournalQuery) (today : Date) (page pageSize : Int) :
    s.journalRows { q with page, pageSize } today = s.journalRows q today := rfl

/-- A query that asks for hidden work only matches no row. -/
theorem passesFilters_of_isTriviallyEmpty (h : q.isTriviallyEmpty = true) (row : AssignmentRow) :
    s.passesFilters q today row = false := by
  rw [JournalQuery.isTriviallyEmpty, Bool.and_eq_true, Bool.not_eq_true', decide_eq_true_eq] at h
  rw [Bool.eq_false_iff]
  intro hpasses
  simp only [passesFilters, h, Option.all_some, Bool.and_eq_true, Bool.or_eq_true,
    decide_eq_true_eq] at hpasses
  grind

theorem journalRows_of_isTriviallyEmpty (h : q.isTriviallyEmpty = true) :
    s.journalRows q today = [] := by
  refine List.eq_nil_iff_forall_not_mem.2 fun row hrow => ?_
  obtain ⟨-, hmeets⟩ := mem_journalRows.1 hrow
  rw [meets, passesFilters_of_isTriviallyEmpty h, Bool.false_and] at hmeets
  exact Bool.noConfusion hmeets

theorem Constrained.row_eq_of_id_eq (h : s.Constrained) {a b : AssignmentRow}
    (ha : a ∈ s.assignments) (hb : b ∈ s.assignments) (hid : a.id = b.id) : a = b :=
  List.inj_on_of_nodup_map h.assignmentIds ha hb hid

/-- The sort key of the journal tells rows apart. -/
theorem Constrained.row_eq_of_journalKey_eq (h : s.Constrained) {a b : AssignmentRow}
    (ha : a ∈ s.assignments) (hb : b ∈ s.assignments) (hkey : journalKey a = journalKey b) :
    a = b := by
  refine h.row_eq_of_id_eq ha hb ?_
  simp only [journalKey, List.cons.injEq] at hkey
  exact hkey.2.1

/-- No row comes twice. -/
theorem Constrained.nodup_journalRows (h : s.Constrained) : (s.journalRows q today).Nodup :=
  (sortByKeyDesc_perm _ _).nodup_iff.2 ((List.Nodup.of_map _ h.assignmentIds).filter _)

/-- The rows of the journal read as one list of assignments. -/
theorem Orderly.exists_journal (h : s.Orderly) (q : JournalQuery) (today : Date) :
    ∃ L, List.Forall₂ s.Yields (s.journalRows q today) L := by
  have hstored : ∀ row ∈ s.journalRows q today, row ∈ s.assignments := fun row hrow =>
    (mem_journalRows.1 hrow).1
  obtain ⟨L, -, hL⟩ := h.exists_loadAssignments hstored h.nodup_journalRows
  exact ⟨L, hL⟩

theorem length_journal_le {L : List Assignment}
    (hL : List.Forall₂ s.Yields (s.journalRows q today) L) : L.length ≤ s.assignments.length := by
  rw [← hL.length_eq, journalRows, (sortByKeyDesc_perm _ _).length_eq]
  exact List.length_filter_le _ _

/-! ### One page -/

theorem slice_sublist {α : Type} (offset limit : Int) (l : List α) :
    (slice offset limit l).Sublist l := by
  unfold slice
  split
  · exact List.drop_sublist _ l
  · exact (List.take_sublist _ _).trans (List.drop_sublist _ l)

theorem forall₂_slice {α β : Type} {R : α → β → Prop} {l : List α} {l' : List β}
    (h : List.Forall₂ R l l') (offset limit : Int) :
    List.Forall₂ R (slice offset limit l) (slice offset limit l') := by
  unfold slice
  split
  · exact List.forall₂_drop _ h
  · exact List.forall₂_take _ (List.forall₂_drop _ h)

/-- Rows that yield assignments in order are read as these. -/
theorem Orderly.loadAssignments_eq (h : s.Orderly) {rows : List AssignmentRow}
    {as : List Assignment} (once : rows.Nodup) (hyields : List.Forall₂ s.Yields rows as) :
    s.loadAssignments rows = .ok as := by
  have hstored : ∀ row ∈ rows, row ∈ s.assignments := by
    clear h once
    induction hyields with
    | nil => simp
    | cons hrow _ ih =>
      rw [List.forall_mem_cons]
      exact ⟨hrow.stored, ih⟩
  obtain ⟨bs, hbs, hyields'⟩ := h.exists_loadAssignments hstored once
  have hsame : as = bs :=
    List.right_unique_forall₂' (fun _ _ _ ha hb => ha.unique hb) hyields hyields'
  rw [hsame, hbs]

/-- **A page is a slice of the one list that the matching rows read as.** -/
theorem Orderly.listAssignments_eq (h : s.Orderly) {rows : List AssignmentRow}
    (hmatch : s.matchingAssignments q today = .ok rows) {L : List Assignment}
    (hL : List.Forall₂ s.Yields (s.journalRows q today) L) :
    s.listAssignments q today = .ok
      { items := slice q.offset q.pageSize L, totalCount := L.length, page := q.page,
        pageSize := q.pageSize } := by
  unfold listAssignments
  split
  · rename_i hempty
    rw [journalRows_of_isTriviallyEmpty hempty, List.forall₂_nil_left_iff] at hL
    simp [hL, slice]
  · have hload := h.loadAssignments_eq
      ((slice_sublist _ _ _).nodup h.nodup_journalRows)
      (forall₂_slice hL q.offset q.pageSize)
    have hrows := (matchingAssignments_eq_ok.1 hmatch).2
    have hcount : rows.length = L.length := by
      rw [hrows, ← hL.length_eq, journalRows, (sortByKeyDesc_perm _ _).length_eq]
    rw [journalRows, ← hrows] at hload
    simp only [hmatch, bind, Except.bind, hload, hcount, pure, Except.pure]

/-- **A pattern that is too long refuses the query** if some row has passed the other filters. -/
theorem listAssignments_of_long_pattern {pattern : String}
    (hpattern : queryPattern? q = some pattern) (hlong : patternLimit < pattern.utf8ByteSize)
    (hrow : ∃ row ∈ s.assignments, s.passesFilters q today row = true) :
    s.listAssignments q today = .error (.database .unknown) := by
  obtain ⟨row, hmem, hpasses⟩ := hrow
  have hnonempty : ¬ q.isTriviallyEmpty = true := by
    intro hempty
    rw [passesFilters_of_isTriviallyEmpty hempty] at hpasses
    exact Bool.noConfusion hpasses
  have hsome : (s.assignments.filter (s.passesFilters q today)).isEmpty = false :=
    List.isEmpty_eq_false_iff_exists_mem.2 ⟨row, List.mem_filter.2 ⟨hmem, hpasses⟩⟩
  have hrefused : s.matchingAssignments q today = .error (.database .unknown) := by
    simp only [matchingAssignments, hpattern, hsome, Bool.not_false, Bool.true_and,
      decide_eq_true hlong, if_true]
  rw [listAssignments, if_neg hnonempty, hrefused]
  rfl

end Store

/-! ### The order of the journal -/

/-- Whether an assignment comes before another in the journal: it was created later, or at the same
moment under a larger identifier. -/
def Assignment.IsNewer (a b : Assignment) : Prop :=
  b.createdAt < a.createdAt ∨ b.createdAt = a.createdAt ∧ b.id.number < a.id.number

theorem Assignment.IsNewer.ne {a b : Assignment} (h : a.IsNewer b) : a ≠ b := by
  rintro rfl
  rcases h with h | ⟨-, h⟩
  · have h : Instant.lt a.createdAt a.createdAt := h
    unfold Instant.lt at h
    rw [Date.lt_def] at h
    omega
  · exact absurd h (Nat.lt_irrefl _)

namespace Store

variable {s : Store} {q : JournalQuery} {today : Date}

/-- No assignment is read twice where no row comes twice. -/
theorem Constrained.nodup_of_yields (h : s.Constrained) {rows : List AssignmentRow}
    {as : List Assignment} (hrows : rows.Nodup) (has : List.Forall₂ s.Yields rows as) :
    as.Nodup := by
  refine pairwise_of_forall₂ has hrows fun row row' a a' hrow hrow' hne heq => hne ?_
  exact h.row_eq_of_id_eq hrow.stored hrow'.stored (by rw [hrow.id, hrow'.id, heq])

/-- The key that comes first belongs to the later creation, or else to the larger identifier. -/
theorem isNewer_of_journalKey_lt {row row' : AssignmentRow} {a a' : Assignment}
    (hs : s.Constrained) (ha : s.Yields row a) (ha' : s.Yields row' a')
    (hyear : row.createdAt.date.HasFourDigitYear) (hyear' : row'.createdAt.date.HasFourDigitYear)
    (hkey : journalKey row' < journalKey row) : a.IsNewer a' := by
  rw [journalKey, journalKey, ha.id, ha'.id, texts_lt_texts_iff hyear' hyear] at hkey
  rw [Assignment.IsNewer, (ha.reads hs).createdAt, (ha'.reads hs).createdAt]
  exact hkey

/-- **The list is in strictly descending order** of creation and identifier. -/
theorem Orderly.pairwise_isNewer (h : s.Orderly)
    (hyears : ∀ row ∈ s.assignments, row.createdAt.date.HasFourDigitYear) {L : List Assignment}
    (hL : List.Forall₂ s.Yields (s.journalRows q today) L) : L.Pairwise Assignment.IsNewer := by
  have hsorted : (s.journalRows q today).Pairwise fun a b =>
      ¬ journalKey a < journalKey b ∧ a ≠ b :=
    (pairwise_sortByKeyDesc journalKey _).and h.nodup_journalRows
  refine pairwise_of_forall₂ hL hsorted ?_
  rintro row row' a a' ha ha' ⟨hkey, hne⟩
  refine isNewer_of_journalKey_lt h.toConstrained ha ha' (hyears row ha.stored)
    (hyears row' ha'.stored) ?_
  by_contra hle
  refine hne (h.row_eq_of_journalKey_eq ha.stored ha'.stored ?_)
  exact List.le_antisymm (List.not_lt.1 hle) (List.not_lt.1 hkey)

/-! ### What is in the journal -/

/-- What is read from the stored rows that pass a test. -/
theorem mem_read_iff {p : AssignmentRow → Bool} {rows : List AssignmentRow} {L : List Assignment}
    (hrows : ∀ row, row ∈ rows ↔ row ∈ s.assignments ∧ p row = true)
    (hL : List.Forall₂ s.Yields rows L) {a : Assignment} :
    a ∈ L ↔ ∃ row, s.Yields row a ∧ p row = true := by
  constructor
  · intro ha
    obtain ⟨row, hrow, hyields⟩ := exists_left_of_mem hL ha
    exact ⟨row, hyields, ((hrows row).1 hrow).2⟩
  · rintro ⟨row, hyields, hpasses⟩
    obtain ⟨b, hb, hyields'⟩ := exists_right_of_mem hL ((hrows row).2 ⟨hyields.stored, hpasses⟩)
    rwa [hyields.unique hyields']

theorem mem_journal_iff {L : List Assignment}
    (hL : List.Forall₂ s.Yields (s.journalRows q today) L) {a : Assignment} :
    a ∈ L ↔ ∃ row, s.Yields row a ∧ s.meets q today row = true :=
  mem_read_iff (fun _ => mem_journalRows) hL

theorem Yields.documentId_iff {row : AssignmentRow} {a : Assignment} (h : s.Yields row a)
    (hs : s.Orderly) (id : Identifier) : row.documentId = id.text ↔ a.document.id = id := by
  obtain ⟨d, hd⟩ := hs.isCanonical_of_isRegistered (hs.assignmentDocuments row h.stored)
  have hread := (h.reads hs.toConstrained).documentId
  rw [← hd, Identifier.parse?_text, Option.some.injEq] at hread
  rw [← hd, Identifier.text_inj, hread]

theorem Yields.status_iff {row : AssignmentRow} {a : Assignment} (h : s.Yields row a)
    (hs : s.Constrained) (status : Status) : row.status = status.name ↔ a.status = status := by
  rw [(h.reads hs).status, Status.name_injective.eq_iff]

/-- **Without search, deadlines and lateness a query reads like its words**: it asks for the
document, for whom the work involves, for the status, and for finished work only if told to. -/
theorem Orderly.mem_journal_iff_of_plain (h : s.Orderly) (hsearch : q.search = none)
    (hfrom : q.deadlineFrom = none) (hto : q.deadlineTo = none) (hoverdue : q.overdueOnly = false)
    {L : List Assignment} (hL : List.Forall₂ s.Yields (s.journalRows q today) L)
    (a : Assignment) :
    a ∈ L ↔ s.assignment? a.id = .ok (some a) ∧
      (∀ d, q.documentId = some d → a.document.id = d) ∧
      (∀ u, q.executorId = some u → a.involves u = true) ∧
      (∀ st, q.status = some st → a.status = st) ∧
      (a.status = .finished → q.showFinished = true) := by
  have hmeets : ∀ row, s.Yields row a → (s.meets q today row = true ↔
      (∀ d, q.documentId = some d → a.document.id = d) ∧
      (∀ u, q.executorId = some u → a.involves u = true) ∧
      (∀ st, q.status = some st → a.status = st) ∧
      (a.status = .finished → q.showFinished = true)) := by
    intro row hrow
    simp only [meets, passesFilters, passesSearch, queryPattern?, hsearch, hfrom, hto, hoverdue,
      Text.nonBlank?_none, Option.map_none, Option.all_none, Option.all_eq_true, Bool.and_true,
      Bool.and_eq_true, Bool.or_eq_true, Bool.not_false, decide_eq_true_eq,
      hrow.documentId_iff h, hrow.status_iff h.toConstrained, hrow.involves_eq h, ne_eq]
    tauto
  rw [mem_journal_iff hL]
  constructor
  · rintro ⟨row, hrow, hrowmeets⟩
    exact ⟨hrow.found, (hmeets row hrow).1 hrowmeets⟩
  · rintro ⟨hfound, hfilters⟩
    obtain ⟨row, hrow⟩ := exists_row_yields hfound
    exact ⟨row, hrow, (hmeets row hrow).2 hfilters⟩

end Store

end Chancery
