import Chancery.Assignment
import Chancery.Word

/-!
# The journal of assignments

Listing assignments is a query with filters, answered one page at a time, newest first. Page
numbers start at one. Numbers of pages and rows are 64-bit words in messages and in the store, so
the number of rows to skip is clamped to that range instead of growing past it.

The number of pages is not clamped. It is computed by way of a sum that can be too large for a word,
and what happens then depends on how the program was built: a build that checks its arithmetic stops
there (`Page.countOf?`), and one that does not goes on with the word that the sum is congruent to
(`Page.countOf`).
-/

namespace Chancery

/-- A query of the journal. -/
structure JournalQuery where
  search : Option String
  documentId : Option Identifier
  executorId : Option Identifier
  status : Option Status
  deadlineFrom : Option Date
  deadlineTo : Option Date
  overdueOnly : Bool
  showFinished : Bool
  page : Int
  pageSize : Int

namespace JournalQuery

/-- How many rows come before a page. -/
def offsetOf (page pageSize : Int) : Int := clampWord ((page - 1) * pageSize)

/-- How many rows come before the page asked for. -/
def offset (q : JournalQuery) : Int := offsetOf q.page q.pageSize

/-- Finished work is hidden unless asked for, so asking for it alone matches nothing. -/
def isTriviallyEmpty (q : JournalQuery) : Bool := !q.showFinished && q.status = some .finished

end JournalQuery

/-- One page of results and the number of all matches. -/
structure Page (α : Type) where
  items : List α
  totalCount : Int
  page : Int
  pageSize : Int
  deriving DecidableEq

/-- How many pages a number of matches fills; none if the page size is not positive. Sums go round
at 64 bits. -/
def Page.countOf (totalCount pageSize : Int) : Int :=
  if pageSize ≤ 0 then 0
  else Int.tdiv (wrapWord (wrapWord (totalCount + pageSize) - 1)) pageSize

/-- How many pages a number of matches fills, where sums are checked: there is no number if one of
them is not a word. -/
def Page.countOf? (totalCount pageSize : Int) : Option Int :=
  if pageSize ≤ 0 then some 0
  else do
    let sum ← word? (totalCount + pageSize)
    let last ← word? (sum - 1)
    return last.tdiv pageSize

/-- How many pages the matches fill. -/
def Page.totalPages {α : Type} (p : Page α) : Int := countOf p.totalCount p.pageSize

/-- How many pages the matches fill, where sums are checked. -/
def Page.totalPages? {α : Type} (p : Page α) : Option Int := countOf? p.totalCount p.pageSize

end Chancery
