import Chancery.Proofs.Identifier
import Mathlib.Algebra.Order.Group.Nat
import Mathlib.Data.List.TakeWhile

/-!
# Numbers scanned from texts

Numbers are written in two ways, with a fixed number of digits and with as few as there can be, and
are read in one: the longest run of digits at the front is the number. What the readers need of
either way is the same, that it consists of digits, that there is at least one, and that they
denote the number. A text with these properties is taken off the front as a whole, provided that
what follows it does not begin with a digit.

## Main definitions

* `Text.Spells` — a text is a decimal of a number
* `Text.Ends` — a text does not begin with a digit

## Main results

* `Text.spells_fixedDigits`, `Text.spells_toDigits`, `Text.spells_paddedDecimal`
* `Text.Spells.scanNumber?_append` — a decimal is scanned as a whole
* `Text.exists_of_scanNumber?` — what is scanned is a decimal
-/

namespace Chancery.Text

/-- A text is a decimal of a number: digits, and at least one, that denote it. -/
structure Spells (s : List Char) (n : Nat) : Prop where
  ne_nil : s ≠ []
  isDigit : ∀ c ∈ s, isDigit c = true
  value : decimalValue s = n

/-- A text does not begin with a digit, so that a number in front of it ends there. -/
def Ends (s : List Char) : Prop := ∀ c ∈ s.head?, isDigit c = false

theorem ends_nil : Ends [] := by simp [Ends]

theorem ends_cons {c : Char} {s : List Char} (h : isDigit c = false) : Ends (c :: s) := by
  simpa [Ends] using h

/-! ### The two ways of writing -/

theorem decimalValue_append (s : List Char) (c : Char) :
    decimalValue (s ++ [c]) = decimalValue s * 10 + (digitValue? 10 c).getD 0 := by
  rw [decimalValue, List.map_append, List.map_singleton, digitsValue_append]
  rfl

theorem decimalValue_lt (s : List Char) : decimalValue s < 10 ^ s.length := by
  have hvalues : ∀ d ∈ s.map fun c => (digitValue? 10 c).getD 0, d < 10 := by
    intro d hd
    obtain ⟨c, -, rfl⟩ := List.mem_map.1 hd
    cases hc : digitValue? 10 c with
    | none => exact (by decide : 0 < 10)
    | some n => exact digitValue?_lt hc
  have hlt := digitsValue_lt hvalues
  rwa [List.length_map, ← decimalValue] at hlt

theorem isDigit_digitChar {n : Nat} (h : n < 10) : isDigit (digitChar n) = true := by
  have all : ∀ n < 10, isDigit (digitChar n) = true := by decide
  exact all n h

theorem isDigit_of_mem_fixedDigits {width n : Nat} {c : Char} (h : c ∈ fixedDigits 10 width n) :
    isDigit c = true := by
  induction width generalizing n with
  | zero => simp [fixedDigits] at h
  | succ width ih =>
    rcases List.mem_append.1 h with h | h
    · exact ih h
    · rw [List.mem_singleton.1 h]
      exact isDigit_digitChar (Nat.mod_lt n (by decide))

theorem decimalValue_fixedDigits (width n : Nat) :
    decimalValue (fixedDigits 10 width n) = n % 10 ^ width := by
  induction width generalizing n with
  | zero => exact (Nat.mod_one n).symm
  | succ width ih =>
    rw [fixedDigits, decimalValue_append, ih,
      digitValue?_digitChar (by decide) (Nat.mod_lt n (by decide)), Option.getD_some,
      Nat.pow_succ', Nat.mod_mul, Nat.mul_comm, Nat.add_comm]

theorem spells_fixedDigits {width n : Nat} (hw : 0 < width) (hn : n < 10 ^ width) :
    Spells (fixedDigits 10 width n) n where
  ne_nil := by
    rw [← List.length_pos_iff, length_fixedDigits]
    exact hw
  isDigit _ := isDigit_of_mem_fixedDigits
  value := by rw [decimalValue_fixedDigits, Nat.mod_eq_of_lt hn]

theorem digitValue?_natDigitChar {n : Nat} (h : n < 10) :
    digitValue? 10 n.digitChar = some n := by
  have all : ∀ n < 10, digitValue? 10 n.digitChar = some n := by decide
  exact all n h

theorem isDigit_natDigitChar {n : Nat} (h : n < 10) : isDigit n.digitChar = true := by
  have all : ∀ n < 10, isDigit n.digitChar = true := by decide
  exact all n h

/-- The shortest decimal, by the recursion of its digits: all but the last are the decimal of the
number without its last digit. -/
theorem spells_toDigits (n : Nat) : Spells (Nat.toDigits 10 n) n := by
  induction n using Nat.strongRecOn with
  | ind n ih =>
    by_cases hn : n < 10
    · rw [Nat.toDigits_of_lt_base hn]
      refine ⟨List.cons_ne_nil _ _, ?_, ?_⟩
      · intro c hc
        rw [List.mem_singleton.1 hc]
        exact isDigit_natDigitChar hn
      · rw [← List.nil_append [_], decimalValue_append, digitValue?_natDigitChar hn]
        exact Nat.zero_add n
    · have hlast := Nat.mod_lt n (show 0 < 10 by decide)
      obtain ⟨-, hdigits, hvalue⟩ := ih (n / 10) (by omega)
      rw [Nat.toDigits_of_base_le (by decide) (by omega)]
      refine ⟨by simp, ?_, ?_⟩
      · intro c hc
        rcases List.mem_append.1 hc with hc | hc
        · exact hdigits c hc
        · rw [List.mem_singleton.1 hc]
          exact isDigit_natDigitChar hlast
      · rw [decimalValue_append, hvalue, digitValue?_natDigitChar hlast, Option.getD_some]
        omega

theorem spells_paddedDecimal {width : Nat} (hw : 0 < width) (n : Nat) :
    Spells (paddedDecimal width n) n := by
  unfold paddedDecimal
  split
  · exact spells_fixedDigits hw ‹_›
  · exact spells_toDigits n

/-- The shortest decimal of a number other than zero does not begin with zero. -/
theorem head?_toDigits_ne_zero {n : Nat} (hn : n ≠ 0) : (Nat.toDigits 10 n).head? ≠ some '0' := by
  induction n using Nat.strongRecOn with
  | ind n ih =>
    by_cases h : n < 10
    · have all : ∀ n < 10, n ≠ 0 → n.digitChar ≠ '0' := by decide
      rw [Nat.toDigits_of_lt_base h, List.head?_cons, ne_eq, Option.some.injEq]
      exact all n h hn
    · rw [Nat.toDigits_of_base_le (by decide) (by omega),
        List.head?_append_of_ne_nil _ (spells_toDigits _).ne_nil]
      exact ih (n / 10) (by omega) (by omega)

/-! ### Reading -/

theorem isBlank_of_isDigit {c : Char} (h : isDigit c = true) : isBlank c = false := by
  have hlow : (48 : Nat) ≤ c.toNat ∧ c.toNat ≤ 57 := by
    simpa [isDigit, Char.le_def, UInt32.le_iff_toNat_le] using h
  simp only [isBlank, Bool.or_eq_false_iff, Bool.and_eq_false_iff, decide_eq_false_iff_not,
    beq_eq_false_iff_ne]
  omega

namespace Spells

variable {s rest : List Char} {n : Nat}

theorem exists_cons (h : Spells s n) : ∃ c s', s = c :: s' ∧ Text.isDigit c = true := by
  obtain ⟨c, s', rfl⟩ := List.exists_cons_of_ne_nil h.ne_nil
  exact ⟨c, s', rfl, h.isDigit c List.mem_cons_self⟩

theorem takeWhile_append (h : Spells s n) (hrest : Ends rest) :
    (s ++ rest).takeWhile Text.isDigit = s := by
  have hstop : rest.takeWhile Text.isDigit = [] := by
    cases rest with
    | nil => rfl
    | cons c rest => exact List.takeWhile_cons_of_neg (by simp [hrest c rfl])
  rw [List.takeWhile_append_of_pos h.isDigit, hstop, List.append_nil]

/-- **A decimal is scanned as a whole**, when a limit on the digits admits it. -/
theorem scanNumber?_append (h : Spells s n) (max : Option Nat) (hmax : ∀ m ∈ max, s.length ≤ m)
    (hn : n ≤ 9223372036854775807) (hrest : Ends rest) :
    scanNumber? max (s ++ rest) = some (n, rest) := by
  have hne : s.isEmpty = false := by simp [h.ne_nil]
  cases max with
  | none => simp [scanNumber?, h.takeWhile_append hrest, hne, h.value, hn]
  | some m =>
    simp [scanNumber?, h.takeWhile_append hrest, List.take_of_length_le (hmax m rfl), hne, h.value,
      hn]

theorem lt_pow (h : Spells s n) : n < 10 ^ s.length := by
  rw [← h.value]
  exact decimalValue_lt s

/-- There are no blanks in front of a decimal. -/
theorem trimLeft_append (h : Spells s n) : trimLeft (s ++ rest) = s ++ rest := by
  obtain ⟨c, s', rfl, hc⟩ := h.exists_cons
  exact List.dropWhile_cons_of_neg (by simp [isBlank_of_isDigit hc])

end Spells

/-- **What is scanned off the front is a decimal**, within the limit on its digits. -/
theorem exists_of_scanNumber? {max : Option Nat} {s rest : List Char} {n : Nat}
    (h : scanNumber? max s = some (n, rest)) :
    ∃ digits, s = digits ++ rest ∧ Spells digits n ∧ ∀ m ∈ max, digits.length ≤ m := by
  obtain ⟨digits, hdigits, hlimit, hscan⟩ : ∃ digits, digits <+: s.takeWhile isDigit ∧
      (∀ m ∈ max, digits.length ≤ m) ∧
      (if digits.isEmpty then none
        else if decimalValue digits ≤ 9223372036854775807 then
          some (decimalValue digits, s.drop digits.length)
        else none) = some (n, rest) := by
    cases max with
    | none => exact ⟨_, List.prefix_rfl, by simp, h⟩
    | some m => exact ⟨_, List.take_prefix m _, by simp [List.length_take], h⟩
  split at hscan
  · cases hscan
  split at hscan
  · rename_i hne _
    obtain ⟨rfl, rfl⟩ := Prod.mk.inj (Option.some.inj hscan)
    obtain ⟨rest, hrest⟩ := hdigits.trans (List.takeWhile_prefix isDigit)
    refine ⟨digits, ?_, ⟨?_, ?_, rfl⟩, hlimit⟩
    · rw [← hrest, List.drop_left]
    · simpa using hne
    · intro c hc
      exact List.mem_takeWhile_imp (hdigits.subset hc)
  · cases hscan

end Chancery.Text
