import Chancery.Identifier
import Mathlib.Algebra.GroupWithZero.Nat
import Mathlib.Data.List.Basic
import Mathlib.Data.List.Induction
import Mathlib.Logic.Function.Basic

/-!
# The canonical text of an identifier

What is stored of an identifier is its canonical text, so every statement about stored rows comes
down to two facts: the text reads back, and two identifiers have the same text only if they are
the same. The second follows from the first.

Reading the text undoes four things one after the other: nothing is trimmed, the length picks the
hyphenated shape, the hyphens come out where they were put, and thirty-two digits denote their
number.

## Main results

* `Text.mapM_digitValue?_fixedDigits` — digits of any base up to sixteen read back
* `Identifier.unhyphenate?_hyphenate`
* `Identifier.parse?_text`, `Identifier.text_injective`
-/

namespace Chancery

namespace Text

/-! ### Digits -/

theorem digitValue?_digitChar {base n : Nat} (hb : base ≤ 16) (hn : n < base) :
    digitValue? base (digitChar n) = some n := by
  have all : ∀ base ≤ 16, ∀ n < base, digitValue? base (digitChar n) = some n := by decide
  exact all base hb n hn

theorem digitsValue_append (base : Nat) (ds : List Nat) (d : Nat) :
    digitsValue base (ds ++ [d]) = digitsValue base ds * base + d := by
  simp [digitsValue]

theorem digitValue?_lt {base n : Nat} {c : Char} (h : digitValue? base c = some n) : n < base := by
  simp only [digitValue?, Option.ite_none_right_eq_some, Option.some.injEq] at h
  exact h.2 ▸ h.1

theorem digitsValue_lt {base : Nat} {ds : List Nat} (h : ∀ d ∈ ds, d < base) :
    digitsValue base ds < base ^ ds.length := by
  induction ds using List.reverseRecOn with
  | nil => simp [digitsValue]
  | append_singleton ds d ih =>
    have hd : d < base := h d (by simp)
    have hds := ih fun d hd => h d (List.mem_append_left _ hd)
    rw [digitsValue_append, List.length_append, List.length_singleton, Nat.pow_succ]
    calc digitsValue base ds * base + d
        < (digitsValue base ds + 1) * base := by rw [Nat.succ_mul]; omega
      _ ≤ base ^ ds.length * base := Nat.mul_le_mul_right base hds

/-- Digits of a fixed width read back, and denote the number up to what the width cuts off. -/
theorem mapM_digitValue?_fixedDigits {base : Nat} (h0 : 0 < base) (hb : base ≤ 16) (width : Nat) :
    ∀ n, ∃ ds, (fixedDigits base width n).mapM (digitValue? base) = some ds ∧
      digitsValue base ds = n % Nat.pow base width := by
  induction width with
  | zero => exact fun n => ⟨[], rfl, (Nat.mod_one n).symm⟩
  | succ width ih =>
    intro n
    obtain ⟨ds, hds, hv⟩ := ih (n / base)
    refine ⟨ds ++ [n % base], ?_, ?_⟩
    · simp [fixedDigits, hds, digitValue?_digitChar hb (Nat.mod_lt n h0)]
    · have hpow : Nat.pow base (width + 1) = base * Nat.pow base width := Nat.pow_succ'
      rw [digitsValue_append, hv, hpow, Nat.mod_mul, Nat.mul_comm, Nat.add_comm]

/-! ### Blanks -/

theorem dropWhile_isBlank_of_forall {s : List Char} (h : ∀ c ∈ s, isBlank c = false) :
    s.dropWhile isBlank = s := by
  cases s with
  | nil => rfl
  | cons c s => simp [h c List.mem_cons_self]

/-- A text without blanks has nothing to trim. -/
theorem trimChars_of_forall {s : List Char} (h : ∀ c ∈ s, isBlank c = false) :
    trimChars s = s := by
  have hr : ∀ c ∈ s.reverse, isBlank c = false := fun c hc => h c (List.mem_reverse.1 hc)
  rw [trimChars, trimLeft, dropWhile_isBlank_of_forall h, trimRight,
    dropWhile_isBlank_of_forall hr, List.reverse_reverse]

theorem isBlank_digitChar (n : Nat) : isBlank (digitChar n) = false := by
  by_cases h : n < 16
  · have all : ∀ n < 16, isBlank (digitChar n) = false := by decide
    exact all n h
  · rw [digitChar, if_neg (by omega), if_neg h]
    decide

theorem isBlank_of_mem_fixedDigits {base width n : Nat} {c : Char}
    (h : c ∈ fixedDigits base width n) : isBlank c = false := by
  induction width generalizing n with
  | zero => simp [fixedDigits] at h
  | succ width ih =>
    rcases List.mem_append.1 h with h | h
    · exact ih h
    · rw [List.mem_singleton.1 h]
      exact isBlank_digitChar _

end Text

namespace Identifier

/-! ### Hyphens -/

/-- The hyphens come out where they were put. -/
theorem unhyphenate?_hyphenate {ns : List Nat} {s : List Char} (hns : ns ≠ [])
    (hs : s.length = ns.sum) : unhyphenate? ns (hyphenate ns s) = some s := by
  induction ns generalizing s with
  | nil => exact absurd rfl hns
  | cons n ns ih =>
    cases ns with
    | nil => simp_all [hyphenate, unhyphenate?]
    | cons m ns =>
      have hn : (s.take n).length = n := by
        rw [List.length_take, hs, List.sum_cons]
        omega
      have hrest : (s.drop n).length = (m :: ns).sum := by
        rw [List.length_drop, hs, List.sum_cons, Nat.add_sub_cancel_left]
      have hdrop : (s.take n ++ '-' :: hyphenate (m :: ns) (s.drop n)).drop n =
          '-' :: hyphenate (m :: ns) (s.drop n) := List.drop_left' hn
      have htake : (s.take n ++ '-' :: hyphenate (m :: ns) (s.drop n)).take n = s.take n :=
        List.take_left' hn
      simp only [hyphenate, unhyphenate?, hdrop, htake, ih (by simp) hrest, Option.map_some,
        List.take_append_drop]

theorem length_hyphenate {ns : List Nat} {s : List Char} (hns : ns ≠ [])
    (hs : s.length = ns.sum) : (hyphenate ns s).length = s.length + (ns.length - 1) := by
  induction ns generalizing s with
  | nil => exact absurd rfl hns
  | cons n ns ih =>
    cases ns with
    | nil => rfl
    | cons m ns =>
      have hrest : (s.drop n).length = (m :: ns).sum := by
        rw [List.length_drop, hs, List.sum_cons, Nat.add_sub_cancel_left]
      simp only [hyphenate, List.length_append, List.length_cons, List.length_take,
        ih (by simp) hrest, hrest, hs, List.sum_cons]
      omega

theorem mem_of_mem_hyphenate {ns : List Nat} {s : List Char} {c : Char}
    (h : c ∈ hyphenate ns s) : c = '-' ∨ c ∈ s := by
  induction ns generalizing s with
  | nil => simp [hyphenate] at h
  | cons n ns ih =>
    cases ns with
    | nil => exact .inr h
    | cons m ns =>
      simp only [hyphenate, List.mem_append, List.mem_cons] at h
      rcases h with h | h | h
      · exact .inr (List.mem_of_mem_take h)
      · exact .inl h
      · exact (ih h).imp_right List.mem_of_mem_drop

/-! ### Reading the text back -/

theorem length_chars (a : Identifier) : a.chars.length = 36 := by
  rw [chars, length_hyphenate (by decide) (by simp [groups])]
  simp [groups]

theorem ofDigits?_fixedDigits (a : Identifier) :
    ofDigits? (Text.fixedDigits 16 32 a.number) = some a := by
  obtain ⟨ds, hds, hv⟩ :=
    Text.mapM_digitValue?_fixedDigits (by decide : 0 < 16) (by decide) 32 a.number
  rw [ofDigits?, if_pos (Text.length_fixedDigits 16 32 a.number), hds, Option.map_some, hv,
    Nat.mod_eq_of_lt a.number_lt, ofNat_number]

theorem ofHyphenated?_chars (a : Identifier) : ofHyphenated? a.chars = some a := by
  rw [ofHyphenated?, chars, unhyphenate?_hyphenate (by decide) (by simp [groups]),
    Option.bind_some, a.ofDigits?_fixedDigits]

theorem readChars?_chars (a : Identifier) : readChars? a.chars = some a := by
  have hlen := a.length_chars
  unfold readChars?
  rw [if_neg (by omega), if_pos hlen, a.ofHyphenated?_chars]

@[simp] theorem read?_text (a : Identifier) : read? a.text = some a := by
  rw [read?, toList_text, readChars?_chars]

theorem isBlank_of_mem_chars {a : Identifier} {c : Char} (h : c ∈ a.chars) :
    Text.isBlank c = false := by
  rcases mem_of_mem_hyphenate h with rfl | h
  · decide
  · exact Text.isBlank_of_mem_fixedDigits h

theorem trimChars_chars (a : Identifier) : Text.trimChars a.chars = a.chars :=
  Text.trimChars_of_forall fun _ => isBlank_of_mem_chars

/-- **The canonical text reads back.** -/
@[simp] theorem parse?_text (a : Identifier) : parse? a.text = some a := by
  rw [parse?, toList_text, trimChars_chars, readChars?_chars]

theorem text_injective : Function.Injective text := by
  intro a b h
  have hread := congrArg parse? h
  rwa [parse?_text, parse?_text, Option.some.injEq] at hread

@[simp] theorem text_inj {a b : Identifier} : a.text = b.text ↔ a = b := text_injective.eq_iff

end Identifier

end Chancery
