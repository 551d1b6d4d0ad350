import Chancery.Proofs.Journal.Faithful
import Chancery.Proofs.Store.Names
import Chancery.Proofs.Text.Blank
import Chancery.Proofs.Text.Lowercase
import Chancery.Proofs.Text.Pattern

/-!
# What a search finds

A search is meant to find the assignments that mention a text, in their content or in the number or
the subject of their document, whatever the case of the letters. What it does is to lower the text,
to put a `%` on both sides and to look for what the pattern fits. This module says how far the two
agree.

A search text is plain if all its characters stand for themselves. For a plain one every assignment
that is found mentions it. The converse needs the texts of the assignment to be such that lowering
them for ASCII only is to lower them: a capital letter beyond ASCII is left as it is, and then its
lower case, which is what a search looks for, is not there. The texts end at their first NUL, too.

With `%` or `_` in it a search text is a pattern of its own, since there is no way to write the two
as characters, and more is found than mentions it. Both ways to be misled are in
`Office.search_misled`.

## Main definitions

* `Assignment.Mentions` — what a search is meant to find
* `Assignment.IsFitted` — what it finds
* `Text.IsPlain` — the search texts that stand for themselves
* `Office.FindsBySearch`

## Main results

* `Text.matchesPattern_anywhere_iff` — a plain text is looked for as it stands
* `Office.search_finds`
-/

namespace Chancery

namespace Text

variable {c : Char} {p s t : List Char}

/-! ### The text that is looked for -/

/-- What a search looks for: the search text trimmed and lowered. -/
def searchTerm (s : String) : List Char := lowerChars (trimChars s.toList)

/-- The pattern that fits whatever a text stands in. -/
def anywhere (p : List Char) : List Char := '%' :: (p ++ ['%'])

theorem toList_searchPattern (s : String) :
    (Store.searchPattern (trim s)).toList = anywhere (searchTerm s) := by
  simp [Store.searchPattern, lower, anywhere, searchTerm]

/-! ### Plain texts -/

/-- Whether all characters of a text stand for themselves when the text is looked for. Beside the
wild characters and NUL, the two code points that are no characters do not, nor does the
replacement character, which they are taken for. -/
def IsPlain (p : List Char) : Prop :=
  ∀ c ∈ p, c ≠ '%' ∧ c ≠ '_' ∧ c ≠ '\x00' ∧ c ≠ '\uFFFD' ∧ c.toNat ≠ 0xFFFE ∧ c.toNat ≠ 0xFFFF

instance : DecidablePred IsPlain := fun p => List.decidableBAll _ p

theorem untilNul_of_forall (h : ∀ c ∈ s, c ≠ '\x00') : untilNul s = s :=
  List.takeWhile_eq_self_iff.2 fun c hc => decide_eq_true (h c hc)

theorem untilNul_map_toLower (s : List Char) :
    untilNul (s.map Char.toLower) = (untilNul s).map Char.toLower := by
  have hsame : ((fun c : Char => decide (c ≠ '\x00')) ∘ Char.toLower) =
      fun c : Char => decide (c ≠ '\x00') := by
    funext c
    simp [toLower_eq_iff (show Char.isAlpha '\x00' = false by decide)]
  rw [untilNul, List.takeWhile_map, hsame, untilNul]

/-- A part that a map leaves alone is found after the map where it was, and nowhere else, if the
map makes none of its members out of anything else. -/
theorem map_infix_map_iff {f : Char → Char} (hp : ∀ c ∈ p, f c = c)
    (ht : ∀ c ∈ t, f c ∈ p → f c = c) : p.map f <:+: t.map f ↔ p <:+: t := by
  refine ⟨?_, fun h => h.map f⟩
  have hid : p.map f = p := (List.map_congr_left hp).trans (List.map_id p)
  rw [hid]
  rintro ⟨before, after, heq⟩
  obtain ⟨front, rest, rfl, hfront, -⟩ := List.map_eq_append_iff.1 heq.symm
  obtain ⟨skipped, found, rfl, -, rfl⟩ := List.map_eq_append_iff.1 hfront
  have hfound : found.map f = found := by
    refine (List.map_congr_left fun c hc => ?_).trans (List.map_id found)
    exact ht c (by simp [hc]) (List.mem_map_of_mem hc)
  rw [hfound]
  exact List.infix_append ..

/-- **A plain text is looked for as it stands** in what comes before the first NUL of a text
lowered for ASCII. -/
theorem matchesPattern_anywhere_iff (hplain : IsPlain p) (hsmall : ∀ c ∈ p, IsSmall c) :
    matchesPattern (anywhere p) (t.map Char.toLower) = true ↔
      p <:+: (untilNul t).map Char.toLower := by
  have hnul : untilNul (anywhere p) = anywhere p := by
    refine untilNul_of_forall fun c hc => ?_
    rw [anywhere, List.mem_cons, List.mem_append, List.mem_singleton] at hc
    rcases hc with rfl | hc | rfl
    · decide
    · exact (hplain c hc).2.2.1
    · decide
  rw [matchesPattern_iff, hnul, untilNul_map_toLower, anywhere,
    fits_anywhere_iff fun c hc => ⟨(hplain c hc).1, (hplain c hc).2.1⟩]
  apply map_infix_map_iff
  · intro c hc
    obtain ⟨-, -, -, -, hfirst, hsecond⟩ := hplain c hc
    rw [foldPatternChar, if_neg (by simp [hfirst, hsecond]), (hsmall c hc).toLower_eq]
  · intro c hc hmem
    obtain ⟨d, -, rfl⟩ := List.mem_map.1 hc
    unfold foldPatternChar at hmem ⊢
    split at hmem
    · exact absurd rfl (hplain _ hmem).2.2.2.1
    · rename_i hother
      rw [if_neg hother]
      exact toLower_toLower d

end Text

/-! ### One assignment -/

namespace Assignment

/-- The texts of an assignment that a search looks through: its content, and number and subject of
its document. -/
def searchedTexts (a : Assignment) : List String :=
  a.content :: (a.documentNumber.toList ++ a.documentSubject.toList)

/-- Whether a search text stands in an assignment, whatever the case. -/
def Mentions (a : Assignment) (s : String) : Prop :=
  ∃ t ∈ a.searchedTexts, Text.searchTerm s <:+: Text.lowerChars t.toList

instance (a : Assignment) (s : String) : Decidable (a.Mentions s) :=
  inferInstanceAs (Decidable (∃ t ∈ a.searchedTexts,
    Text.searchTerm s <:+: Text.lowerChars t.toList))

/-- Whether the pattern of a search text fits an assignment: one of its texts, lowered for ASCII,
up to a NUL in either. -/
def IsFitted (a : Assignment) (s : String) : Prop :=
  ∃ t ∈ a.searchedTexts, Text.Fits (Text.untilNul (Text.anywhere (Text.searchTerm s)))
    (Text.untilNul (t.toList.map Char.toLower))

/-- Whether the texts of an assignment are lowered by the full rules as by those for ASCII, and
have no NUL. -/
def HasModestTexts (a : Assignment) : Prop :=
  ∀ t ∈ a.searchedTexts, ∀ c ∈ t.toList, Text.LowersAlike c ∧ c ≠ '\x00'

variable {a : Assignment} {s : String}

theorem HasModestTexts.of_ascii (h : ∀ t ∈ a.searchedTexts,
    t.toList.all (fun c => c.toNat < 128 && c ≠ '\x00') = true) : a.HasModestTexts := by
  intro t ht c hc
  have hascii := List.all_eq_true.1 (h t ht) c hc
  rw [Bool.and_eq_true, decide_eq_true_eq, decide_eq_true_eq] at hascii
  exact ⟨.of_ascii hascii.1, hascii.2⟩

theorem isFitted_iff : a.IsFitted s ↔ ∃ t ∈ a.searchedTexts,
    Text.matchesPattern (Text.anywhere (Text.searchTerm s)) (t.toList.map Char.toLower) = true := by
  simp only [IsFitted, Text.matchesPattern_iff]

/-- A plain text fits an assignment that has it in front of the first NUL of a text, lowered for
ASCII. -/
theorem isFitted_iff_of_isPlain (hplain : Text.IsPlain (Text.searchTerm s)) :
    a.IsFitted s ↔ ∃ t ∈ a.searchedTexts,
      Text.searchTerm s <:+: (Text.untilNul t.toList).map Char.toLower := by
  simp only [isFitted_iff,
    Text.matchesPattern_anywhere_iff hplain fun _ => Text.isSmall_of_mem_lowerChars]

/-- **What a plain search text fits mentions it.** -/
theorem IsFitted.mentions (hplain : Text.IsPlain (Text.searchTerm s)) (h : a.IsFitted s) :
    a.Mentions s := by
  obtain ⟨t, ht, hstands⟩ := (isFitted_iff_of_isPlain hplain).1 h
  have hfront : (Text.untilNul t.toList).map Char.toLower <:+: t.toList.map Char.toLower :=
    (List.IsPrefix.map Char.toLower <| List.takeWhile_prefix _).isInfix
  exact ⟨t, ht, Text.infix_lowerChars (fun _ => Text.isSmall_of_mem_lowerChars)
    (hstands.trans hfront)⟩

/-- **What mentions a plain search text is fitted by it** if nothing is lost in lowering for
ASCII. -/
theorem Mentions.isFitted (hplain : Text.IsPlain (Text.searchTerm s)) (htexts : a.HasModestTexts)
    (h : a.Mentions s) : a.IsFitted s := by
  obtain ⟨t, ht, hstands⟩ := h
  refine (isFitted_iff_of_isPlain hplain).2 ⟨t, ht, ?_⟩
  rw [Text.untilNul_of_forall fun c hc => (htexts t ht c hc).2,
    ← Text.lowerChars_eq_map fun c hc => (htexts t ht c hc).1]
  exact hstands

end Assignment

namespace Store

variable {s : Store} {row : AssignmentRow} {a : Assignment}

/-- The texts of a row that a search looks through are those of the assignment. -/
theorem Yields.searchedTexts_eq (h : s.Yields row a) (hs : s.Constrained) :
    s.searchedTexts row = a.searchedTexts := by
  obtain ⟨cos, -, ha⟩ := h.exists_toAssignment hs
  obtain ⟨-, hnumber, hsubject⟩ := AssignmentJoin.names_of_toAssignment ha
  have hreads := h.reads hs
  have hkind := hreads.documentKind
  simp only [searchedTexts, Assignment.searchedTexts, hnumber, hsubject, hreads.content]
  -- The register of the other kind has nothing for this row.
  cases hk : a.document.kind <;> rw [hk] at hkind <;>
    simp only [joinAssignment, registered?, ofRegister, hkind, DocumentKind.name, if_true,
      String.reduceEq, if_false]
  · cases (s.register .incoming).find? _ <;> rfl
  · cases (s.register .outgoing).find? _ <;> rfl

/-- A search compares a row as it compares the assignment. -/
theorem Yields.matchesSearch_iff (h : s.Yields row a) (hs : s.Constrained) (text : String) :
    s.matchesSearch (searchPattern (Text.trim text)) row = true ↔ a.IsFitted text := by
  rw [matchesSearch, h.searchedTexts_eq hs, List.any_eq_true, Assignment.isFitted_iff]
  simp only [Text.asciiLower, String.toList_ofList, Text.toList_searchPattern]

end Store

/-! ### What the office answers -/

namespace Office

variable {o : Occasion} {text : String}

/-- The request for everything that a search finds, finished work included. -/
def searchListing (text : String) : Request.ListAssignments :=
  ⟨some text, none, none, none, none, none, false, true, none, none⟩

/-- What a list of assignments is that a search has found. -/
structure FindsBySearch (office : Office) (text : String) (L : List Assignment) : Prop where
  once : L.Nodup
  onFile : ∀ a ∈ L, office.store.assignment? a.id = .ok (some a)
  /-- What is looked through is the content, and number and subject of the assignment's own
  document. -/
  ownTexts : ∀ a, office.store.assignment? a.id = .ok (some a) →
    ∃ d, office.store.document? a.document = .ok (some d) ∧
      a.searchedTexts = [a.content, d.number, d.subject]
  mem_iff : ∀ a, office.store.assignment? a.id = .ok (some a) → (a ∈ L ↔ a.IsFitted text)
  mentions : Text.IsPlain (Text.searchTerm text) → ∀ a ∈ L, a.Mentions text
  mem_iff_mentions : Text.IsPlain (Text.searchTerm text) →
    ∀ a, office.store.assignment? a.id = .ok (some a) → a.HasModestTexts →
      (a ∈ L ↔ a.Mentions text)

/-- The query that this request is read as. -/
def searchQuery (settings : WorkflowSettings) (text : String) : JournalQuery :=
  ⟨some (Text.trim text), none, none, none, none, none, false, true,
    (settings.normalizePaging none none).1, (settings.normalizePaging none none).2⟩

theorem query_searchListing (settings : WorkflowSettings) (htext : Text.trim text ≠ "") :
    Intake.query settings (searchListing text) = .ok (searchQuery settings text) := by
  rw [searchQuery, ← Text.nonBlank?_trim htext]
  exact Intake.query_eq_ok.2 ⟨none, rfl, none, rfl, none, rfl, none, rfl, none, rfl, rfl⟩

theorem queryPattern?_searchQuery (settings : WorkflowSettings) (htext : Text.trim text ≠ "") :
    Store.queryPattern? (searchQuery settings text) =
      some (Store.searchPattern (Text.trim text)) := by
  rw [Store.queryPattern?, searchQuery, Text.nonBlank?_trim (by rwa [Text.trim_trim]),
    Text.trim_trim]
  rfl

/-- A row meets the query if its assignment is fitted: no other filter is set. -/
theorem meets_searchQuery_iff {s : Store} (hs : s.Orderly) (settings : WorkflowSettings)
    (htext : Text.trim text ≠ "") (today : Date) {row : AssignmentRow} {a : Assignment}
    (hrow : s.Yields row a) :
    s.meets (searchQuery settings text) today row = true ↔ a.IsFitted text := by
  have hpasses : s.passesFilters (searchQuery settings text) today row = true := by
    simp [Store.passesFilters, searchQuery]
  rw [Store.meets, hpasses, Bool.true_and, Store.passesSearch,
    queryPattern?_searchQuery settings htext, Option.all_some,
    hrow.matchesSearch_iff hs.toConstrained]

/-- The list behind the pages of the query is what the search has found. -/
theorem findsBySearch {office : Office} (hs : office.store.Orderly) (settings : WorkflowSettings)
    (htext : Text.trim text ≠ "") {today : Date} {L : List Assignment}
    (hL : List.Forall₂ office.store.Yields
      (office.store.journalRows (searchQuery settings text) today) L) :
    office.FindsBySearch text L := by
  have hmeets := fun row a => @meets_searchQuery_iff text _ hs settings htext today row a
  have honFile : ∀ a ∈ L, office.store.assignment? a.id = .ok (some a) := by
    intro a ha
    obtain ⟨row, hrow, -⟩ := (Store.mem_journal_iff hL).1 ha
    exact hrow.found
  have hmem : ∀ a, office.store.assignment? a.id = .ok (some a) → (a ∈ L ↔ a.IsFitted text) := by
    intro a ha
    rw [Store.mem_journal_iff hL]
    constructor
    · rintro ⟨row, hrow, hmatch⟩
      exact (hmeets row a hrow).1 hmatch
    · intro hfitted
      obtain ⟨row, hrow⟩ := Store.exists_row_yields ha
      exact ⟨row, hrow, (hmeets row a hrow).2 hfitted⟩
  exact {
    once := hs.nodup_of_yields hs.nodup_journalRows hL
    onFile := honFile
    ownTexts := fun a ha => by
      obtain ⟨row, hrow⟩ := Store.exists_row_yields ha
      obtain ⟨d, hd, hnumber, hsubject⟩ := (hrow.resolves hs).document
      exact ⟨d, hd, by rw [Assignment.searchedTexts, hnumber, hsubject]; rfl⟩
    mem_iff := hmem
    mentions := fun hplain a ha => ((hmem a (honFile a ha)).1 ha).mentions hplain
    mem_iff_mentions := fun hplain a ha htexts =>
      (hmem a ha).trans ⟨fun h => h.mentions hplain, fun h => h.isFitted hplain htexts⟩ }

/-- **What a search finds.** Whatever the office has been asked to do, under sound settings the
request for a text that is not blank, and whose pattern is not too long for the store, has one list
behind its pages. It holds, each once, the assignments that the pattern of the text fits. If the
text is plain these mention it, and the ones that are missing have capital letters beyond ASCII or
a NUL in the texts that are looked through. -/
theorem search_finds (run : List (Occasion × Call)) (o : Occasion) (viewer : Actor) (text : String)
    (hsettings : o.settings.problem? = none)
    (hcount : isWord (opened.after run).store.assignments.length)
    (htext : Text.trim text ≠ "")
    (hpattern : (Store.searchPattern (Text.trim text)).utf8ByteSize ≤ Store.patternLimit) :
    ∃ L, (opened.after run).ShowsPagesOf o (some viewer) (searchListing text) L ∧
      (opened.after run).FindsBySearch text L := by
  have hs := orderly_after run
  have hq := query_searchListing o.settings htext
  have hshort : ∀ pattern, Store.queryPattern? (searchQuery o.settings text) = some pattern →
      pattern.utf8ByteSize ≤ Store.patternLimit := by
    intro pattern hp
    rw [queryPattern?_searchQuery o.settings htext, Option.some.injEq] at hp
    rwa [← hp]
  obtain ⟨L, hL, hpages⟩ := exists_showsPagesOf hs viewer hsettings hq hshort hcount
  exact ⟨L, hpages, findsBySearch hs o.settings htext hL⟩

/-- The assignment of `finishingRun` is found by a word of its content in any case. -/
theorem search_finds_of_finishingRun :
    (minute 9).settings.problem? = none ∧
      isWord (opened.after (finishingRun.take 4)).store.assignments.length = true ∧
      Text.trim " MENDED " ≠ "" ∧
      (Store.searchPattern (Text.trim " MENDED ")).utf8ByteSize ≤ Store.patternLimit ∧
      ∃ L, (opened.after (finishingRun.take 4)).ShowsPagesOf (minute 9) (some anna)
          (searchListing " MENDED ") L ∧
        (opened.after (finishingRun.take 4)).FindsBySearch " MENDED " L ∧
        ∃ a ∈ L, a.id = .ofNat 3 := by
  have hsettings : (minute 9).settings.problem? = none := by decide +kernel
  have hcount : isWord (opened.after (finishingRun.take 4)).store.assignments.length = true := by
    decide +kernel
  have htext : Text.trim " MENDED " ≠ "" := by decide +kernel
  have hpattern : (Store.searchPattern (Text.trim " MENDED ")).utf8ByteSize ≤
      Store.patternLimit := by decide +kernel
  obtain ⟨L, hpages, hfinds⟩ :=
    search_finds (finishingRun.take 4) (minute 9) anna " MENDED " hsettings hcount htext hpattern
  refine ⟨hsettings, hcount, htext, hpattern, L, hpages, hfinds, ?_⟩
  obtain ⟨a, ha⟩ : ∃ a, IsOnFile finishingRun 4 (.ofNat 3) a := exists_isOnFile (by decide +kernel)
  have htexts : ((stage finishingRun 4).store.assignment? (.ofNat 3)).toOption.join.map
      (fun a => (a.searchedTexts, decide (a.Mentions " MENDED "))) =
        some (["Have it mended", "17/b", "The roof"], true) := by decide +kernel
  rw [IsOnFile] at ha
  rw [ha] at htexts
  obtain ⟨htexts, hmentions⟩ := Prod.mk.inj (Option.some.inj htexts)
  have hid := Store.id_of_assignment? ha
  have hplain : Text.IsPlain (Text.searchTerm " MENDED ") := by decide +kernel
  refine ⟨a, (hfinds.mem_iff_mentions hplain a (hid ▸ ha) (.of_ascii ?_)).2
    (of_decide_eq_true hmentions), hid⟩
  rw [htexts]
  decide

/-- An assignment whose content has a capital letter beyond ASCII and a number that ends in
noughts. -/
def roofRun : List (Occasion × Call) :=
  finishingRun.take 3 ++
    [(minute 3, .createAssignment (some anna)
       ⟨"00000000000000000000000000000002", "incoming", "00000000000000000000000000000001",
        "ÜBER DAS DACH 1000", none, []⟩)]

/-- The assignment mentions the word it begins with, and a search for it finds nothing; it does not
mention a percentage, and a search for one finds it. -/
theorem search_misled :
    (((opened.after roofRun).store.assignment? (.ofNat 3)).toOption.join.map fun a =>
        (decide (a.Mentions "ÜBER"), decide (a.Mentions "100%"))) = some (true, false) ∧
    ((opened.after roofRun).allPages (minute 9) (some anna) (searchListing "ÜBER")).toOption.map
        (List.map Assignment.id) = some [] ∧
    ((opened.after roofRun).allPages (minute 9) (some anna) (searchListing "100%")).toOption.map
        (List.map Assignment.id) = some [.ofNat 3] := by
  decide +kernel

end Office

end Chancery
