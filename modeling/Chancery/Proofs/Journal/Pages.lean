import Chancery.Settings.Validation
import Chancery.Store.Assignments
import Mathlib.Algebra.Order.Floor.Ring
import Mathlib.Data.Rat.Floor

/-!
# Pages

The arithmetic of pages, apart from what is on them. The number of rows before a page is clamped to
64 bits before the rows are cut out. As long as the rows themselves can be counted in 64 bits that
makes no difference, since an offset that was clamped lies behind the last row in any case
(`Store.slice_offsetOf`).

The number of pages is computed by adding to the number of rows before dividing. It is the ceiling
of the quotient as long as what is added up is a word; that so many pages hold all rows is a fact
about ceilings and needs no bound (`Page.le_ceil_mul`).

## Main results

* `WorkflowSettings.one_le_pageSize` — sound settings never yield an empty page size
* `Store.slice_offsetOf` — clamping the offset changes no page
* `Page.countOf_eq_ceil`, `Page.countOf?_eq_ceil` — the number of pages
* `flatMap_pages` — one page after the other is the list
-/

namespace Chancery

/-! ### The page asked for -/

theorem WorkflowSettings.one_le_page (w : WorkflowSettings) (page pageSize : Option Int) :
    1 ≤ (w.normalizePaging page pageSize).1 := by
  cases page with
  | none => exact Int.le_refl 1
  | some p =>
    simp only [normalizePaging, Option.filter]
    split
    · rename_i h
      exact of_decide_eq_true h
    · exact Int.le_refl 1

/-- Settings without a problem turn every request for a size into a positive one. -/
theorem WorkflowSettings.one_le_pageSize {w : WorkflowSettings} (h : w.problem? = none)
    (page pageSize : Option Int) : 1 ≤ (w.normalizePaging page pageSize).2 := by
  have bounds : 1 ≤ w.maxPageSize ∧ 1 ≤ w.defaultPageSize := by
    unfold problem? at h
    split at h
    · cases h
    · split at h
      · cases h
      · omega
  have asked : 1 ≤ (pageSize.filter (1 ≤ ·)).getD w.defaultPageSize := by
    cases pageSize with
    | none => exact bounds.2
    | some p =>
      simp only [Option.filter]
      split
      · rename_i h
        exact of_decide_eq_true h
      · exact bounds.2
  exact Int.le_min.2 ⟨asked, bounds.1⟩

/-! ### Cutting out a page -/

section Slices

variable {α : Type} {l : List α} {page size : Int}

/-- **Clamping the offset changes no page** of a list that 64 bits can count. -/
theorem Store.slice_offsetOf (hpage : 1 ≤ page) (hsize : 0 ≤ size) (hl : isWord l.length) :
    Store.slice (JournalQuery.offsetOf page size) size l =
      (l.drop ((page - 1) * size).toNat).take size.toNat := by
  have hoffset : 0 ≤ (page - 1) * size := Int.mul_nonneg (by omega) hsize
  have hdrop : l.drop (JournalQuery.offsetOf page size).toNat =
      l.drop ((page - 1) * size).toNat := by
    unfold JournalQuery.offsetOf clampWord
    rw [isWord_iff] at hl
    rcases Int.le_total ((page - 1) * size) 9223372036854775807 with h | h
    · rw [Int.min_eq_left h, Int.max_eq_right (by omega)]
    · rw [Int.min_eq_right h]
      rw [List.drop_eq_nil_of_le (by omega), List.drop_eq_nil_of_le (by omega)]
  rw [Store.slice, if_neg (by omega), hdrop]

/-- One page after the other is the list up to the end of the last of them. -/
theorem flatMap_pages (l : List α) (size n : Nat) :
    (List.range n).flatMap (fun i => (l.drop (i * size)).take size) = l.take (n * size) := by
  induction n with
  | zero => simp
  | succ n ih =>
    rw [List.range_succ, List.flatMap_append, ih, List.flatMap_singleton, Nat.succ_mul,
      List.take_add]

end Slices

/-! ### The number of pages -/

namespace Page

variable {total size : Int}

/-- So many pages as the ceiling of the quotient says hold everything. -/
theorem le_ceil_mul (total : Int) (hsize : 1 ≤ size) : total ≤ ⌈(total : ℚ) / size⌉ * size := by
  have hpos : (0 : ℚ) < size := by exact_mod_cast hsize
  have hceil := Int.le_ceil ((total : ℚ) / size)
  rw [div_le_iff₀ hpos] at hceil
  exact_mod_cast hceil

/-- Adding before dividing rounds up. -/
theorem tdiv_eq_ceil (htotal : 0 ≤ total) (hsize : 1 ≤ size) :
    Int.tdiv (total + size - 1) size = ⌈(total : ℚ) / size⌉ := by
  have hpos : (0 : ℚ) < size := by exact_mod_cast hsize
  rw [Int.tdiv_eq_ediv_of_nonneg (by omega)]
  have hdiv := Int.mul_ediv_add_emod (total + size - 1) size
  have hlo := Int.emod_nonneg (total + size - 1) (show size ≠ 0 by omega)
  have hhi := Int.emod_lt_of_pos (total + size - 1) (show 0 < size by omega)
  rw [Int.mul_comm] at hdiv
  generalize (total + size - 1) / size = count at *
  symm
  rw [Int.ceil_eq_iff]
  constructor
  · rw [lt_div_iff₀ hpos]
    have hlt : (count - 1) * size < total := by
      rw [Int.sub_mul]
      omega
    exact_mod_cast hlt
  · rw [div_le_iff₀ hpos]
    have hle : total ≤ count * size := by omega
    exact_mod_cast hle

/-- **The number of pages is the ceiling of the quotient**, if what is divided is a word. The sum on
the way to it need not be one. -/
theorem countOf_eq_ceil (htotal : 0 ≤ total) (hsize : 1 ≤ size) (h : isWord (total + size - 1)) :
    countOf total size = ⌈(total : ℚ) / size⌉ := by
  rw [countOf, if_neg (by omega), wrapWord_wrapWord_sub, wrapWord_of_isWord h]
  exact tdiv_eq_ceil htotal hsize

/-- **Where sums are checked**, all of them have to be words. -/
theorem countOf?_eq_ceil (htotal : 0 ≤ total) (hsize : 1 ≤ size) (h : isWord (total + size)) :
    countOf? total size = some ⌈(total : ℚ) / size⌉ := by
  have hlast : isWord (total + size - 1) := isWord_sub_one (by omega) h
  rw [countOf?, if_neg (by omega), word?, if_pos h, Option.bind_eq_bind, Option.bind_some, word?,
    if_pos hlast, ← tdiv_eq_ceil htotal hsize]
  rfl

end Page

end Chancery
