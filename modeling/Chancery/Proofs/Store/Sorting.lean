import Chancery.Store.Reading
import Mathlib.Data.List.Sort

/-!
# Sorted rows

Rows are sorted by a key of texts, and the sort keeps rows with equal keys in the order of the
table. Where no two rows have one key, that order plays no part: the sorted list is determined by
which rows are in it, and so it makes no difference whether rows are picked before or after sorting
(`filter_sortByKey`, `filter_sortByKeyDesc`).

## Main results

* `sortByKey_perm`, `sortByKeyDesc_perm` — the members stay the same
* `pairwise_sortByKey`, `pairwise_sortByKeyDesc` — their order
* `filter_sortByKey`, `filter_sortByKeyDesc`
-/

namespace Chancery

variable {α : Type} {key : α → List String} {l : List α} {a : α}

/-! ### Sorting by insertion -/

section SortBy

variable {le : α → α → Bool}

/-- The sort by insertion of the library, which takes a proposition for the order. -/
theorem sortBy_eq_insertionSort (le : α → α → Bool) (l : List α) :
    sortBy le l = l.insertionSort fun a b => le a b = true := by
  have insert : ∀ (a : α) (rest : List α),
      insertBy le a rest = rest.orderedInsert (fun a b => le a b = true) a := by
    intro a rest
    induction rest with
    | nil => rfl
    | cons b rest ih => rw [insertBy, List.orderedInsert, ih]
  induction l with
  | nil => rfl
  | cons a l ih =>
    rw [List.insertionSort_cons, ← ih, ← insert]
    rfl

theorem sortBy_perm (le : α → α → Bool) (l : List α) : (sortBy le l).Perm l := by
  rw [sortBy_eq_insertionSort]
  exact List.perm_insertionSort _ l

theorem pairwise_sortBy (trans : ∀ a b c, le a b = true → le b c = true → le a c = true)
    (total : ∀ a b, (le a b || le b a) = true) (l : List α) :
    (sortBy le l).Pairwise fun a b => le a b = true := by
  have : IsTrans α fun a b => le a b = true := ⟨trans⟩
  have : Std.Total fun a b => le a b = true := ⟨fun a b => by simpa using total a b⟩
  rw [sortBy_eq_insertionSort]
  exact List.pairwise_insertionSort _ l

/-- Picking commutes with a sort whose order tells all members apart. -/
theorem filter_sortBy (trans : ∀ a b c, le a b = true → le b c = true → le a c = true)
    (total : ∀ a b, (le a b || le b a) = true)
    (antisymm : ∀ a ∈ l, ∀ b ∈ l, le a b = true → le b a = true → a = b) (p : α → Bool) :
    (sortBy le l).filter p = sortBy le (l.filter p) := by
  have mem : ∀ a, a ∈ (sortBy le l).filter p → a ∈ l := fun a ha =>
    (sortBy_perm le l).mem_iff.1 (List.mem_of_mem_filter ha)
  have mem' : ∀ a, a ∈ sortBy le (l.filter p) → a ∈ l := fun a ha =>
    List.mem_of_mem_filter ((sortBy_perm le _).mem_iff.1 ha)
  have perm : ((sortBy le l).filter p).Perm (sortBy le (l.filter p)) :=
    ((sortBy_perm le l).filter p).trans (sortBy_perm le _).symm
  refine perm.eq_of_pairwise (fun a b ha hb => antisymm a (mem a ha) b (mem' b hb)) ?_ ?_
  · exact (pairwise_sortBy trans total l).filter _
  · exact pairwise_sortBy trans total _

end SortBy

/-! ### Keys -/

theorem not_lt_trans {a b c : List String} (h : (!decide (b < a)) = true)
    (h' : (!decide (c < b)) = true) : (!decide (c < a)) = true := by
  rw [Bool.not_eq_true', decide_eq_false_iff_not, List.not_lt] at *
  exact List.le_trans h h'

theorem not_lt_total (a b : List String) : (!decide (b < a) || !decide (a < b)) = true := by
  rw [Bool.or_eq_true, Bool.not_eq_true', Bool.not_eq_true', decide_eq_false_iff_not,
    decide_eq_false_iff_not, List.not_lt, List.not_lt]
  exact List.le_total a b

theorem eq_of_not_lt {a b : List String} (h : (!decide (b < a)) = true)
    (h' : (!decide (a < b)) = true) : a = b := by
  rw [Bool.not_eq_true', decide_eq_false_iff_not, List.not_lt] at *
  exact List.le_antisymm h h'

/-! ### Sorting by a key -/

theorem sortByKey_perm (key : α → List String) (l : List α) : (sortByKey key l).Perm l :=
  sortBy_perm _ l

theorem sortByKeyDesc_perm (key : α → List String) (l : List α) : (sortByKeyDesc key l).Perm l :=
  sortBy_perm _ l

theorem mem_sortByKey : a ∈ sortByKey key l ↔ a ∈ l := (sortByKey_perm key l).mem_iff

theorem mem_sortByKeyDesc : a ∈ sortByKeyDesc key l ↔ a ∈ l := (sortByKeyDesc_perm key l).mem_iff

theorem pairwise_sortByKeyDesc (key : α → List String) (l : List α) :
    (sortByKeyDesc key l).Pairwise fun a b => ¬ key a < key b := by
  have h := pairwise_sortBy (fun a b c (hab : (!decide (key a < key b)) = true) hbc =>
    not_lt_trans hbc hab) (fun a b => not_lt_total (key b) (key a)) l
  exact h.imp fun hab => by simpa using hab

theorem pairwise_sortByKey (key : α → List String) (l : List α) :
    (sortByKey key l).Pairwise fun a b => ¬ key b < key a := by
  have h := pairwise_sortBy (fun a b c (hab : (!decide (key b < key a)) = true) hbc =>
    not_lt_trans hab hbc) (fun a b => not_lt_total (key a) (key b)) l
  exact h.imp fun hab => by simpa using hab

theorem filter_sortByKey (hkey : ∀ a ∈ l, ∀ b ∈ l, key a = key b → a = b) (p : α → Bool) :
    (sortByKey key l).filter p = sortByKey key (l.filter p) := by
  unfold sortByKey
  apply filter_sortBy
  · exact fun a b c hab hbc => not_lt_trans hab hbc
  · exact fun a b => not_lt_total (key a) (key b)
  · exact fun a ha b hb hab hba => hkey a ha b hb (eq_of_not_lt hab hba)

theorem filter_sortByKeyDesc (hkey : ∀ a ∈ l, ∀ b ∈ l, key a = key b → a = b) (p : α → Bool) :
    (sortByKeyDesc key l).filter p = sortByKeyDesc key (l.filter p) := by
  unfold sortByKeyDesc
  apply filter_sortBy
  · exact fun a b c hab hbc => not_lt_trans hbc hab
  · exact fun a b => not_lt_total (key b) (key a)
  · exact fun a ha b hb hab hba => hkey a ha b hb (eq_of_not_lt hba hab)

end Chancery
