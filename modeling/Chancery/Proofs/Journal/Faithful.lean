import Chancery.Proofs.Journal.Listing
import Chancery.Proofs.Office.Checks

/-!
# Paging through the journal

Whoever asks the office for the journal is shown pages. This module says what they add up to. For
every request there is one list, and each page, whatever its number and size, is the part of that
list which the number and the size name, counted without any bound on integers. Turned over one
after the other, the pages are the list.

Two things limit this. A search pattern can be too long for the store, and then a request is
refused instead of answered as soon as there is a row to try the pattern on. And the number of
pages is computed by adding the page size to the number of matches first, while no settings are
refused for a page size that is too large for that. So what is said of the number of pages, and of
turning over all of them, supposes that this sum is a word; of the pages themselves nothing is
supposed (`Office.paging_limits` has an instance of each).

## Main definitions

* `Office.allPages` — what a caller collects who turns over all pages
* `Office.ShowsPagesOf` — the list that the pages of a request show

## Main results

* `Office.journal_shows_pages`
* `Office.listAssignments_of_long_pattern` — the refusal of a pattern that is too long
* `Office.paging_limits` — a request without a list and a page without a number of pages
-/

namespace Chancery

namespace Office

variable {office : Office} {o : Occasion} {actor : Option Actor} {r : Request.ListAssignments}
  {q : JournalQuery}

/-- What a caller collects who turns over all pages: the first one tells how many there are. -/
def allPages (o : Occasion) (actor : Option Actor) (r : Request.ListAssignments)
    (office : Office) : Except Failure (List Assignment) := do
  let first ← office.listAssignments o actor { r with page := some 1 }
  let pages ← (List.range first.totalPages.toNat).mapM fun i : Nat =>
    office.listAssignments o actor { r with page := some ((i : Int) + 1) }
  return pages.flatMap Page.items

theorem listAssignments_eq_ok {answer : Page Assignment} :
    office.listAssignments o actor r = .ok answer ↔
      actor.isSome = true ∧ ∃ q, Intake.query o.settings r = .ok q ∧
        office.store.listAssignments q o.today = .ok answer := by
  have hmay : ∀ a, Policy.permits a .viewAssignments = true := by
    intro a
    rfl
  unfold listAssignments
  simp only [bind_eq_ok, Policy.authorize_eq_ok, hmay, and_true, Store.during_eq_ok,
    Option.isSome_iff_exists]
  constructor
  · rintro ⟨a, rfl, q, hq, hanswer⟩
    exact ⟨⟨a, rfl⟩, q, hq, hanswer⟩
  · rintro ⟨⟨a, rfl⟩, q, hq, hanswer⟩
    exact ⟨a, rfl, q, hq, hanswer⟩

/-! ### One page -/

section Pages

variable {rows : List AssignmentRow} {L : List Assignment}

/-- Every page of a request that can be answered is a slice of one list. -/
theorem listAssignments_page (h : office.store.Orderly) (hactor : actor.isSome = true)
    (hq : Intake.query o.settings r = .ok q)
    (hrows : office.store.matchingAssignments q o.today = .ok rows)
    (hL : List.Forall₂ office.store.Yields (office.store.journalRows q o.today) L)
    (page pageSize : Option Int) :
    office.listAssignments o actor { r with page, pageSize } = .ok
      { items := Store.slice (JournalQuery.offsetOf (o.settings.normalizePaging page pageSize).1
          (o.settings.normalizePaging page pageSize).2)
          (o.settings.normalizePaging page pageSize).2 L
        totalCount := L.length
        page := (o.settings.normalizePaging page pageSize).1
        pageSize := (o.settings.normalizePaging page pageSize).2 } := by
  generalize hnorm : o.settings.normalizePaging page pageSize = norm
  have hq' := Intake.query_paging hq page pageSize
  rw [hnorm] at hq'
  rw [← Store.matchingAssignments_paging _ _ _ norm.1 norm.2] at hrows
  rw [← Store.journalRows_paging _ _ _ norm.1 norm.2] at hL
  exact listAssignments_eq_ok.2 ⟨hactor, _, hq', h.listAssignments_eq hrows hL⟩

/-- The pages by their numbers, at the size that was asked for. -/
theorem listAssignments_nth (h : office.store.Orderly) (hactor : actor.isSome = true)
    (hq : Intake.query o.settings r = .ok q)
    (hrows : office.store.matchingAssignments q o.today = .ok rows)
    (hL : List.Forall₂ office.store.Yields (office.store.journalRows q o.today) L)
    (hsize : 1 ≤ q.pageSize) (hcount : isWord L.length) (i : Nat) :
    office.listAssignments o actor { r with page := some ((i : Int) + 1) } = .ok
      { items := (L.drop (i * q.pageSize.toNat)).take q.pageSize.toNat
        totalCount := L.length
        page := i + 1
        pageSize := q.pageSize } := by
  have hfirst : (o.settings.normalizePaging (some ((i : Int) + 1)) r.pageSize).1 = i + 1 := by
    have hpos : decide (1 ≤ (i : Int) + 1) = true := decide_eq_true (by omega)
    simp only [WorkflowSettings.normalizePaging, Option.filter, hpos, if_true, Option.getD_some]
  have hsecond : (o.settings.normalizePaging (some ((i : Int) + 1)) r.pageSize).2 =
      q.pageSize := by
    obtain ⟨_, -, _, -, _, -, _, -, _, -, rfl⟩ := Intake.query_eq_ok.1 hq
    rfl
  have hpage := listAssignments_page h hactor hq hrows hL (some ((i : Int) + 1)) r.pageSize
  rw [hfirst, hsecond, Store.slice_offsetOf (by omega) (by omega) hcount, Int.add_sub_cancel,
    Int.toNat_mul (by omega) (by omega), Int.toNat_natCast] at hpage
  exact hpage

/-! ### All pages -/

/-- Without a size there are no pages. -/
theorem allPages_of_pageSize_nonpos (h : office.store.Orderly) (hactor : actor.isSome = true)
    (hq : Intake.query o.settings r = .ok q)
    (hrows : office.store.matchingAssignments q o.today = .ok rows)
    (hsize : q.pageSize ≤ 0) : office.allPages o actor r = .ok [] := by
  obtain ⟨L, hL⟩ := h.exists_journal q o.today
  obtain ⟨_, -, _, -, _, -, _, -, _, -, rfl⟩ := Intake.query_eq_ok.1 hq
  have hfirst := listAssignments_page h hactor hq hrows hL (some 1) r.pageSize
  have hsize : (o.settings.normalizePaging (some 1) r.pageSize).2 ≤ 0 := hsize
  simp only [allPages, hfirst, Page.totalPages, Page.countOf, if_pos hsize, bind, Except.bind]
  rfl

/-- **One page after the other is the whole list.** -/
theorem allPages_eq (h : office.store.Orderly) (hactor : actor.isSome = true)
    (hq : Intake.query o.settings r = .ok q)
    (hrows : office.store.matchingAssignments q o.today = .ok rows)
    (hL : List.Forall₂ office.store.Yields (office.store.journalRows q o.today) L)
    (hsize : 1 ≤ q.pageSize) (hword : isWord (L.length + q.pageSize - 1)) :
    office.allPages o actor r = .ok L := by
  have hcount : isWord L.length := by
    rw [isWord_iff] at hword ⊢
    omega
  have hnth := listAssignments_nth h hactor hq hrows hL hsize hcount
  have hceil := Page.countOf_eq_ceil (Int.natCast_nonneg L.length) hsize hword
  have hbound := Page.le_ceil_mul (L.length : Int) hsize
  rw [← hceil] at hbound
  generalize hn : (Page.countOf L.length q.pageSize).toNat = n
  have hall : L.length ≤ n * q.pageSize.toNat := by
    have hcast : (L.length : Int) ≤ (n * q.pageSize.toNat : Nat) := by
      rw [Int.natCast_mul, ← hn, Int.toNat_of_nonneg (by omega : 0 ≤ q.pageSize)]
      exact Int.le_trans hbound
        (Int.mul_le_mul_of_nonneg_right (Int.self_le_toNat _) (by omega))
    exact_mod_cast hcast
  have hpages : (List.range n).mapM
      (fun i : Nat => office.listAssignments o actor { r with page := some ((i : Int) + 1) }) =
        .ok ((List.range n).map fun i : Nat =>
          { items := (L.drop (i * q.pageSize.toNat)).take q.pageSize.toNat
            totalCount := L.length
            page := i + 1
            pageSize := q.pageSize }) := by
    rw [mapM_eq_ok, List.forall₂_map_right_iff, List.forall₂_same]
    exact fun i _ => hnth i
  have hfirst := hnth 0
  rw [Int.natCast_zero, Int.zero_add] at hfirst
  simp only [allPages, hfirst, bind, Except.bind, Page.totalPages, hn, hpages, pure, Except.pure,
    List.flatMap_map, flatMap_pages, List.take_of_length_le hall]

end Pages

/-! ### The journal of a run -/

/-- The list that the pages of a request show, whatever page and page size are asked for. -/
structure ShowsPagesOf (office : Office) (o : Occasion) (actor : Option Actor)
    (r : Request.ListAssignments) (L : List Assignment) : Prop where
  /-- A page is the part of the list that its number and size name. -/
  page : ∀ page pageSize, ∃ answer,
    office.listAssignments o actor { r with page, pageSize } = .ok answer ∧
      (answer.page, answer.pageSize) = o.settings.normalizePaging page pageSize ∧
      answer.items =
        (L.drop ((answer.page - 1) * answer.pageSize).toNat).take answer.pageSize.toNat ∧
      answer.totalCount = L.length ∧
      (isWord (L.length + answer.pageSize) →
        answer.totalPages? = some ⌈(L.length : ℚ) / answer.pageSize⌉ ∧
          answer.totalPages = ⌈(L.length : ℚ) / answer.pageSize⌉) ∧
      (⌈(L.length : ℚ) / answer.pageSize⌉ < answer.page → answer.items = [])
  /-- The pages together are the list. -/
  whole : ∀ pageSize, isWord (L.length + (o.settings.normalizePaging none pageSize).2) →
    office.allPages o actor { r with pageSize } = .ok L

/-- The pages of a request that can be answered show one list. -/
theorem showsPagesOf (h : office.store.Orderly) (hactor : actor.isSome = true)
    (hsettings : o.settings.problem? = none) (hq : Intake.query o.settings r = .ok q)
    {rows : List AssignmentRow} (hrows : office.store.matchingAssignments q o.today = .ok rows)
    {L : List Assignment}
    (hL : List.Forall₂ office.store.Yields (office.store.journalRows q o.today) L)
    (hcount : isWord L.length) : office.ShowsPagesOf o actor r L where
  page page pageSize := by
    have hpage := o.settings.one_le_page page pageSize
    have hsize := WorkflowSettings.one_le_pageSize hsettings page pageSize
    refine ⟨_, listAssignments_page h hactor hq hrows hL page pageSize, rfl, ?_, rfl, ?_, ?_⟩
    · exact Store.slice_offsetOf hpage (by omega) hcount
    · intro hword
      have hlast := isWord_sub_one (Int.add_pos_of_nonneg_of_pos (by simp) hsize) hword
      exact ⟨Page.countOf?_eq_ceil (Int.natCast_nonneg L.length) hsize hword,
        Page.countOf_eq_ceil (Int.natCast_nonneg L.length) hsize hlast⟩
    · intro hlate
      simp only at hlate ⊢
      rw [Store.slice_offsetOf hpage (by omega) hcount]
      generalize o.settings.normalizePaging page pageSize = norm at *
      have hbound := Page.le_ceil_mul (L.length : Int) hsize
      rw [Int.cast_natCast] at hbound
      have hbehind : (L.length : Int) ≤ (norm.1 - 1) * norm.2 :=
        Int.le_trans hbound (Int.mul_le_mul_of_nonneg_right (by omega) (by omega))
      rw [List.drop_eq_nil_of_le (by omega), List.take_nil]
  whole pageSize hword := by
    have hq' := Intake.query_paging hq r.page pageSize
    have hsize := WorkflowSettings.one_le_pageSize hsettings r.page pageSize
    rw [← Store.matchingAssignments_paging] at hrows
    rw [← Store.journalRows_paging] at hL
    exact allPages_eq h hactor hq' hrows hL hsize
      (isWord_sub_one (Int.add_pos_of_nonneg_of_pos (by simp) hsize) hword)

/-- A request that reads, and whose search pattern is not too long for the store, has one list
behind it. -/
theorem exists_showsPagesOf (h : office.store.Orderly) (viewer : Actor)
    (hsettings : o.settings.problem? = none) (hq : Intake.query o.settings r = .ok q)
    (hpattern : ∀ pattern, Store.queryPattern? q = some pattern →
      pattern.utf8ByteSize ≤ Store.patternLimit)
    (hcount : isWord office.store.assignments.length) :
    ∃ L, List.Forall₂ office.store.Yields (office.store.journalRows q o.today) L ∧
      office.ShowsPagesOf o (some viewer) r L := by
  obtain ⟨L, hL⟩ := h.exists_journal q o.today
  have hrows : office.store.matchingAssignments q o.today = .ok _ :=
    Store.matchingAssignments_eq_ok.2 ⟨fun pattern hp _ => hpattern pattern hp, rfl⟩
  have hlength := Store.length_journal_le hL
  refine ⟨L, hL, showsPagesOf h rfl hsettings hq hrows hL ?_⟩
  rw [isWord_iff] at hcount ⊢
  omega

/-- Work is entered at readings of the clock. -/
theorem hasFourDigitYear_createdAt {run : List (Occasion × Call)}
    (hclock : ∀ call ∈ run, call.1.today.HasFourDigitYear) {row : AssignmentRow}
    (hrow : row ∈ (opened.after run).store.assignments) :
    row.createdAt.date.HasFourDigitYear := by
  rw [← stage_length] at hrow
  obtain ⟨⟨call, hcall, hcreated⟩, -⟩ := times_of_mem hrow
  rw [hcreated]
  exact hclock call hcall

/-- **Listing is a faithful pagination.** Whatever the office has been asked to do, at readings of
the clock with years of four digits, under sound settings every request that reads, and whose
search pattern is not too long for the store, has one list behind it. The list is in strictly
descending order of creation and identifier, so nothing comes twice; it holds what the filters of
the request ask for; and every page is the part of it that its number and size name. -/
theorem journal_shows_pages {run : List (Occasion × Call)} (viewer : Actor)
    (hclock : ∀ call ∈ run, call.1.today.HasFourDigitYear)
    (hsettings : o.settings.problem? = none) (hq : Intake.query o.settings r = .ok q)
    (hpattern : ∀ pattern, Store.queryPattern? q = some pattern →
      pattern.utf8ByteSize ≤ Store.patternLimit)
    (hcount : isWord (opened.after run).store.assignments.length) :
    ∃ L : List Assignment,
      (opened.after run).ShowsPagesOf o (some viewer) r L ∧
      L.Pairwise Assignment.IsNewer ∧ L.Nodup ∧
      (∀ a, a ∈ L ↔ ∃ row, (opened.after run).store.Yields row a ∧
        (opened.after run).store.meets q o.today row = true) ∧
      (q.search = none → q.deadlineFrom = none → q.deadlineTo = none → q.overdueOnly = false →
        ∀ a, a ∈ L ↔ (opened.after run).store.assignment? a.id = .ok (some a) ∧
          (∀ d, q.documentId = some d → a.document.id = d) ∧
          (∀ u, q.executorId = some u → a.involves u = true) ∧
          (∀ st, q.status = some st → a.status = st) ∧
          (a.status = .finished → q.showFinished = true)) := by
  have horderly := orderly_after run
  have hyears := fun row => @hasFourDigitYear_createdAt run hclock row
  generalize opened.after run = office at *
  obtain ⟨L, hL, hpages⟩ := exists_showsPagesOf horderly viewer hsettings hq hpattern hcount
  have hsorted := horderly.pairwise_isNewer hyears hL
  exact ⟨L, hpages, hsorted, hsorted.imp Assignment.IsNewer.ne, fun _ => Store.mem_journal_iff hL,
    fun hsearch hfrom hto hoverdue =>
      horderly.mem_journal_iff_of_plain hsearch hfrom hto hoverdue hL⟩

/-- The request for everything that is not finished. -/
def plainListing : Request.ListAssignments :=
  ⟨none, none, none, none, none, none, false, false, none, none⟩

theorem journal_shows_pages_of_finishingRun :
    ((∀ call ∈ finishingRun.take 4, call.1.today.HasFourDigitYear) ∧
      (minute 9).settings.problem? = none ∧
      Intake.query (minute 9).settings plainListing =
        .ok ⟨none, none, none, none, none, none, false, false, 1, 20⟩ ∧
      isWord (stage finishingRun 4).store.assignments.length = true) ∧
    ∃ L : List Assignment,
      (stage finishingRun 4).ShowsPagesOf (minute 9) (some anna) plainListing L ∧
      L.Pairwise Assignment.IsNewer ∧ L.Nodup ∧ ∃ a ∈ L, a.id = .ofNat 3 := by
  have hclock : ∀ call ∈ finishingRun.take 4, call.1.today.HasFourDigitYear := by decide +kernel
  have hsettings : (minute 9).settings.problem? = none := by decide +kernel
  have hq : Intake.query (minute 9).settings plainListing =
      .ok ⟨none, none, none, none, none, none, false, false, 1, 20⟩ := rfl
  have hcount : isWord (stage finishingRun 4).store.assignments.length = true := by
    decide +kernel
  have hpattern : ∀ pattern,
      Store.queryPattern? ⟨none, none, none, none, none, none, false, false, 1, 20⟩ =
        some pattern → pattern.utf8ByteSize ≤ Store.patternLimit := by
    intro pattern hp
    cases hp
  obtain ⟨L, hpages, hsorted, hnodup, -, hplain⟩ :=
    journal_shows_pages anna hclock hsettings hq hpattern hcount
  refine ⟨⟨hclock, hsettings, hq, hcount⟩, L, hpages, hsorted, hnodup, ?_⟩
  obtain ⟨a, ha⟩ : ∃ a, IsOnFile finishingRun 4 (.ofNat 3) a :=
    exists_isOnFile (by decide +kernel)
  have hstatus : ((stage finishingRun 4).store.assignment? (.ofNat 3)).toOption.join.map
      Assignment.status = some .new := by decide +kernel
  rw [IsOnFile] at ha
  rw [ha] at hstatus
  have hnew : a.status = .new := Option.some.inj hstatus
  have hid := Store.id_of_assignment? ha
  refine ⟨a, (hplain rfl rfl rfl rfl a).2 ⟨hid ▸ ha, ?_, ?_, ?_, ?_⟩, hid⟩
  · intro d hd
    cases hd
  · intro u hu
    cases hu
  · intro st hst
    cases hst
  · rw [hnew]
    intro hfinished
    cases hfinished

/-! ### Patterns that are too long -/

/-- **A pattern that is too long refuses the request**, on every page, if some row has passed the
other filters. -/
theorem listAssignments_of_long_pattern (hactor : actor.isSome = true)
    (hq : Intake.query o.settings r = .ok q) {pattern : String}
    (hpattern : Store.queryPattern? q = some pattern)
    (hlong : Store.patternLimit < pattern.utf8ByteSize)
    (hrow : ∃ row ∈ office.store.assignments, office.store.passesFilters q o.today row = true)
    (page pageSize : Option Int) :
    office.listAssignments o actor { r with page, pageSize } =
      .error (.storage "assignment.list" (.database .unknown)) := by
  obtain ⟨viewer, rfl⟩ := Option.isSome_iff_exists.1 hactor
  have hmay : Policy.authorize (some viewer) .viewAssignments = .ok viewer :=
    Policy.authorize_eq_ok.2 ⟨rfl, rfl⟩
  have hrefused : office.store.listAssignments { q with
      page := (o.settings.normalizePaging page pageSize).1
      pageSize := (o.settings.normalizePaging page pageSize).2 } o.today =
        .error (.database .unknown) :=
    Store.listAssignments_of_long_pattern hpattern hlong hrow
  simp only [listAssignments, hmay, Intake.query_paging hq page pageSize, bind, Except.bind,
    hrefused]
  rfl

/-- A text of so many small letters. -/
def letters (n : Nat) : String := String.ofList (List.replicate n 'a')

theorem lowerFrom_replicate (n : Nat) (before : List Char) :
    Text.lowerFrom before (List.replicate n 'a') = List.replicate n 'a' := by
  have hletter : Text.lowerChar 'a' = 'a' := by decide +kernel
  have hsigma : 'a' ≠ 'Σ' := by decide
  have hdotted : 'a' ≠ 'İ' := by decide
  induction n generalizing before with
  | zero => rfl
  | succ n ih =>
    rw [List.replicate_succ, Text.lowerFrom, ih]
    simp only [if_neg hsigma, if_neg hdotted, hletter]
    rfl

theorem nonBlank?_letters {n : Nat} (hn : n ≠ 0) :
    Text.nonBlank? (some (letters n)) = some (letters n) := by
  have htrim : Text.trim (letters n) = letters n := by
    have hblank : ∀ c ∈ List.replicate n 'a', Text.isBlank c = false := by
      intro c hc
      rw [List.eq_of_mem_replicate hc]
      decide
    rw [Text.trim, letters, String.toList_ofList, Text.trimChars_of_forall hblank]
  have hne : letters n ≠ "" := by
    intro h
    have hlist := congrArg String.toList h
    rw [letters, String.toList_ofList] at hlist
    simp [hn] at hlist
  simp [Text.nonBlank?, htrim, hne]

theorem utf8ByteSize_letters (n : Nat) : (letters n).utf8ByteSize = n := by
  have hletter : (String.singleton 'a').utf8ByteSize = 1 := by decide
  induction n with
  | zero => rfl
  | succ n ih =>
    have hcons : letters (n + 1) = String.singleton 'a' ++ letters n := String.ofList_cons
    rw [hcons, String.utf8ByteSize_append, hletter, ih, Nat.add_comm]

/-- The pattern for a search has two bytes more than the text. -/
theorem utf8ByteSize_searchPattern_letters (n : Nat) :
    (Store.searchPattern (letters n)).utf8ByteSize = n + 2 := by
  have hlower : Text.lower (letters n) = letters n := by
    rw [Text.lower, Text.lowerChars, letters, String.toList_ofList, lowerFrom_replicate]
  have hmark : "%".utf8ByteSize = 1 := by decide
  rw [Store.searchPattern, hlower, String.utf8ByteSize_append, String.utf8ByteSize_append,
    utf8ByteSize_letters, hmark]
  omega

/-- The request for everything that is not finished and says so many letters. -/
def longListing : Request.ListAssignments := { plainListing with search := some (letters 50000) }

/-- There is no list behind a request whose search text has fifty thousand letters. -/
theorem not_showsPagesOf_longListing :
    (∃ q, Intake.query (minute 9).settings longListing = .ok q) ∧
      ¬ ∃ L, (opened.after (finishingRun.take 4)).ShowsPagesOf (minute 9) (some anna)
        longListing L := by
  have hsearch := nonBlank?_letters (show 50000 ≠ 0 by decide)
  have hq : Intake.query (minute 9).settings longListing =
      .ok ⟨some (letters 50000), none, none, none, none, none, false, false, 1, 20⟩ := by
    rw [← hsearch]
    rfl
  refine ⟨⟨_, hq⟩, ?_⟩
  rintro ⟨L, hpages⟩
  obtain ⟨answer, hanswer, -⟩ := hpages.page none none
  have hpattern : Store.queryPattern?
      ⟨some (letters 50000), none, none, none, none, none, false, false, 1, 20⟩ =
        some (Store.searchPattern (letters 50000)) := by
    rw [Store.queryPattern?, hsearch, Option.map_some]
  have hlong : Store.patternLimit < (Store.searchPattern (letters 50000)).utf8ByteSize := by
    rw [utf8ByteSize_searchPattern_letters]
    decide
  have hopen : ∃ row ∈ (opened.after (finishingRun.take 4)).store.assignments,
      row.status ≠ Status.finished.name := by
    decide +kernel
  have hrow : ∃ row ∈ (opened.after (finishingRun.take 4)).store.assignments,
      (opened.after (finishingRun.take 4)).store.passesFilters
        ⟨some (letters 50000), none, none, none, none, none, false, false, 1, 20⟩
        (minute 9).today row = true := by
    obtain ⟨row, hrow, hstatus⟩ := hopen
    exact ⟨row, hrow, by simp [Store.passesFilters, hstatus]⟩
  rw [listAssignments_of_long_pattern rfl hq hpattern hlong hrow] at hanswer
  cases hanswer

/-! ### Page sizes that are too large -/

/-- Two assignments are handed to an executor. -/
def pairRun : List (Occasion × Call) :=
  finishingRun.take 4 ++
    [(minute 4, .createAssignment (some anna)
       ⟨"00000000000000000000000000000002", "incoming", "00000000000000000000000000000001",
        "Have it painted", none, []⟩)]

/-- An occasion at which pages may be as large as a word says. -/
def wideMinute : Occasion :=
  { minute 9 with
    settings := { WorkflowSettings.initial with maxPageSize := 9223372036854775807 } }

/-- The request for everything that is not finished on one page of the largest size. -/
def wideListing : Request.ListAssignments :=
  { plainListing with pageSize := some 9223372036854775807 }

/-- Two assignments make two rows of the journal. -/
theorem length_of_wideListing {q : JournalQuery}
    (hq : Intake.query wideMinute.settings wideListing = .ok q) {L : List Assignment}
    (hL : List.Forall₂ (opened.after pairRun).store.Yields
      ((opened.after pairRun).store.journalRows q wideMinute.today) L) : L.length = 2 := by
  cases hq
  rw [← hL.length_eq, Store.journalRows, (sortByKeyDesc_perm _ _).length_eq]
  decide +kernel

/-- **What limits paging.** There is no list behind a request whose pattern is too long. And one
page of the largest size that settings allow shows two assignments, but the sum from which the
number of pages is computed is no word: it is not one page, as it ought to be, but none where sums
are checked and less than none where they are not. -/
theorem paging_limits :
    ((∀ call ∈ finishingRun.take 4, call.1.today.HasFourDigitYear) ∧
      (minute 9).settings.problem? = none ∧
      (∃ q, Intake.query (minute 9).settings longListing = .ok q) ∧
      ¬ ∃ L, (opened.after (finishingRun.take 4)).ShowsPagesOf (minute 9) (some anna)
        longListing L) ∧
    (∀ call ∈ pairRun, call.1.today.HasFourDigitYear) ∧
      wideMinute.settings.problem? = none ∧
      (∃ q, Intake.query wideMinute.settings wideListing = .ok q) ∧
      ∃ L answer, (opened.after pairRun).listAssignments wideMinute (some anna) wideListing =
          .ok answer ∧
        answer.items = L ∧ L.length = 2 ∧ answer.totalCount = L.length ∧
        ⌈(L.length : ℚ) / answer.pageSize⌉ = 1 ∧
        answer.totalPages? = none ∧ answer.totalPages = -1 := by
  have hsettings : wideMinute.settings.problem? = none := by decide +kernel
  have hq : ∃ q, Intake.query wideMinute.settings wideListing = .ok q := ⟨_, rfl⟩
  refine ⟨⟨by decide +kernel, by decide +kernel, not_showsPagesOf_longListing⟩,
    by decide +kernel, hsettings, hq, ?_⟩
  obtain ⟨q, hq⟩ := hq
  have hpattern : ∀ pattern, Store.queryPattern? q = some pattern →
      pattern.utf8ByteSize ≤ Store.patternLimit := by
    cases hq
    intro pattern hp
    cases hp
  obtain ⟨L, hL, hpages⟩ := exists_showsPagesOf (orderly_after pairRun) anna hsettings hq hpattern
    (by decide +kernel)
  have hlength := length_of_wideListing hq hL
  obtain ⟨answer, hanswer, hpaging, hitems, htotal, -⟩ :=
    hpages.page none (some 9223372036854775807)
  have hnorm : wideMinute.settings.normalizePaging none (some 9223372036854775807) =
      (1, 9223372036854775807) := by decide +kernel
  obtain ⟨hpage, hsize⟩ := Prod.mk.inj (hpaging.trans hnorm)
  have hitems : answer.items = L := by
    rw [hitems, hpage, hsize]
    exact List.take_of_length_le (by rw [List.length_drop]; omega)
  rw [hlength] at htotal
  refine ⟨L, answer, hanswer, hitems, hlength, by rw [htotal, hlength], ?_, ?_, ?_⟩
  · rw [hlength, hsize]
    norm_num
  · rw [Page.totalPages?, htotal, hsize]
    decide +kernel
  · rw [Page.totalPages, htotal, hsize]
    decide +kernel

end Office

end Chancery
