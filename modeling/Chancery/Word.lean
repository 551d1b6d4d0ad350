/-!
# Words

Numbers in messages, settings and the store are signed words of 64 bits. The bounds are written
out, so that arithmetic on them is arithmetic on numerals.

## Main definitions

* `isWord` — whether an integer is a word
* `clampWord` — the nearest word
* `word?`, `wrapWord` — a result where results are checked, and where they go round instead
-/

namespace Chancery

/-- Whether an integer is a signed 64-bit word. -/
def isWord (n : Int) : Bool := -9223372036854775808 ≤ n && n ≤ 9223372036854775807

/-- The nearest 64-bit word to an integer. -/
def clampWord (n : Int) : Int := max (-9223372036854775808) (min n 9223372036854775807)

/-- An integer, if it is a 64-bit word. -/
def word? (n : Int) : Option Int := if isWord n then some n else none

/-- The 64-bit word that an integer is congruent to. -/
def wrapWord (n : Int) : Int := n.bmod 18446744073709551616

theorem isWord_iff {n : Int} :
    isWord n ↔ -9223372036854775808 ≤ n ∧ n ≤ 9223372036854775807 := by
  simp [isWord]

theorem isWord_sub_one {n : Int} (hpos : 0 < n) (h : isWord n) : isWord (n - 1) := by
  rw [isWord_iff] at h ⊢
  omega

theorem wrapWord_of_isWord {n : Int} (h : isWord n) : wrapWord n = n := by
  rw [isWord_iff] at h
  exact Int.bmod_eq_of_le (by omega) (by omega)

/-- Going round twice is going round once. -/
theorem wrapWord_wrapWord_sub (n k : Int) : wrapWord (wrapWord n - k) = wrapWord (n - k) :=
  Int.bmod_sub_bmod

end Chancery
