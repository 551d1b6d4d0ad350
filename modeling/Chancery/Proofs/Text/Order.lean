import Chancery.Proofs.Identifier

/-!
# The order of texts

The store knows the order of texts only, and sorts and compares numbers by their digits. Texts are
ordered by their first difference, so a text made of parts of fixed width is ordered by its parts
from left to right (`append_lt_append_iff`), and a number written with a fixed width is ordered
like the number (`fixedDigits_lt_iff`).

Fractions are written without the zeros at their end, and so have no fixed width. There the order
survives because no digit comes before zero: cutting zeros off two numbers of one width does not
change which of the two comes first.

## Main results

* `Text.append_lt_append_iff` — texts with first parts of one length
* `Text.fixedDigits_lt_iff`, `Text.fixedDigits_inj` — numbers of a fixed width
* `Text.lt_of_append_zeros_lt` — zeros at the end may go
* `Identifier.text_lt_text_iff` — identifiers are ordered by their numbers
-/

namespace Chancery.Text

/-! ### Parts -/

/-- Texts whose first parts have one length are ordered by these, and by the rest where these
agree. -/
theorem append_lt_append_iff {a b x y : List Char} (hlen : a.length = b.length) :
    a ++ x < b ++ y ↔ a < b ∨ a = b ∧ x < y := by
  induction a generalizing b with
  | nil =>
    obtain rfl := List.length_eq_zero_iff.1 hlen.symm
    simp
  | cons c a ih =>
    cases b with
    | nil => cases hlen
    | cons d b =>
      rw [List.cons_append, List.cons_append, List.cons_lt_cons_iff, List.cons_lt_cons_iff,
        ih (Nat.succ.inj hlen), List.cons.injEq]
      tauto

theorem cons_lt_cons_self_iff {c : Char} {x y : List Char} : c :: x < c :: y ↔ x < y := by
  rw [List.cons_lt_cons_iff]
  simp

/-! ### Numbers of a fixed width -/

theorem digitChar_lt_iff {m n : Nat} (hm : m < 16) (hn : n < 16) :
    digitChar m < digitChar n ↔ m < n := by
  have all : ∀ m < 16, ∀ n < 16, (digitChar m < digitChar n ↔ m < n) := by decide
  exact all m hm n hn

/-- A width that is enough for two numbers tells them apart. -/
theorem fixedDigits_inj {base width m n : Nat} (h0 : 0 < base) (hb : base ≤ 16)
    (hm : m < base ^ width) (hn : n < base ^ width) :
    fixedDigits base width m = fixedDigits base width n ↔ m = n := by
  refine ⟨fun h => ?_, fun h => h ▸ rfl⟩
  obtain ⟨ds, hds, hv⟩ := mapM_digitValue?_fixedDigits h0 hb width m
  obtain ⟨ds', hds', hv'⟩ := mapM_digitValue?_fixedDigits h0 hb width n
  rw [h, hds', Option.some.injEq] at hds
  rw [hds, hv] at hv'
  rwa [Nat.pow_eq, Nat.mod_eq_of_lt hm, Nat.mod_eq_of_lt hn] at hv'

/-- **Numbers of one width are ordered like their digits.** -/
theorem fixedDigits_lt_iff {base width m n : Nat} (h0 : 0 < base) (hb : base ≤ 16)
    (hm : m < base ^ width) (hn : n < base ^ width) :
    fixedDigits base width m < fixedDigits base width n ↔ m < n := by
  induction width generalizing m n with
  | zero =>
    rw [Nat.pow_zero, Nat.lt_one_iff] at hm hn
    simp [fixedDigits, hm, hn]
  | succ width ih =>
    have hm' : m / base < base ^ width := Nat.div_lt_of_lt_mul (by rwa [← Nat.pow_succ'])
    have hn' : n / base < base ^ width := Nat.div_lt_of_lt_mul (by rwa [← Nat.pow_succ'])
    have hmr := Nat.mod_lt m h0
    have hnr := Nat.mod_lt n h0
    have last : [digitChar (m % base)] < [digitChar (n % base)] ↔ m % base < n % base := by
      rw [List.cons_lt_cons_iff, digitChar_lt_iff (by omega) (by omega)]
      simp
    rw [fixedDigits, fixedDigits, append_lt_append_iff (by simp), ih hm' hn',
      fixedDigits_inj h0 hb hm' hn', last]
    conv_rhs => rw [← Nat.div_add_mod m base, ← Nat.div_add_mod n base]
    generalize m / base = q at *
    generalize n / base = q' at *
    constructor
    · rintro (h | ⟨rfl, h⟩)
      · have := Nat.mul_le_mul_left base (Nat.succ_le_of_lt h)
        rw [Nat.mul_succ] at this
        omega
      · omega
    · intro h
      rcases Nat.lt_trichotomy q q' with hq | rfl | hq
      · exact .inl hq
      · exact .inr ⟨rfl, by omega⟩
      · have := Nat.mul_le_mul_left base (Nat.succ_le_of_lt hq)
        rw [Nat.mul_succ] at this
        omega

/-! ### Zeros at the end -/

theorem zero_le_digitChar (n : Nat) : '0' ≤ digitChar n := by
  by_cases h : n < 16
  · have all : ∀ n < 16, '0' ≤ digitChar n := by decide
    exact all n h
  · have hzero : digitChar n = '0' := by rw [digitChar, if_neg (by omega), if_neg h]
    exact hzero ▸ Char.le_refl _

theorem zero_le_of_mem_fixedDigits {base width n : Nat} {c : Char}
    (h : c ∈ fixedDigits base width n) : '0' ≤ c := by
  induction width generalizing n with
  | zero => simp [fixedDigits] at h
  | succ width ih =>
    rcases List.mem_append.1 h with h | h
    · exact ih h
    · rw [List.mem_singleton.1 h]
      exact zero_le_digitChar _

/-- A number that ends in zeros shows them at its end. -/
theorem fixedDigits_mul_pow {base : Nat} (h0 : 0 < base) (width k n : Nat) :
    fixedDigits base (width + k) (n * base ^ k) =
      fixedDigits base width n ++ List.replicate k '0' := by
  induction k with
  | zero => simp
  | succ k ih =>
    have hdiv : n * base ^ (k + 1) / base = n * base ^ k := by
      rw [Nat.pow_succ, ← Nat.mul_assoc, Nat.mul_div_cancel _ h0]
    have hmod : n * base ^ (k + 1) % base = 0 := by
      rw [Nat.pow_succ, ← Nat.mul_assoc, Nat.mul_mod_left]
    have hzero : digitChar 0 = '0' := by decide
    rw [← Nat.add_assoc, fixedDigits, hdiv, hmod, ih, hzero, List.replicate_succ',
      List.append_assoc]

/-- Of two digit texts filled up with zeros to one length, the one that comes first does so
without the zeros. -/
theorem lt_of_append_zeros_lt {a b : List Char} {i j : Nat} (ha : ∀ c ∈ a, '0' ≤ c)
    (hlen : a.length + i = b.length + j)
    (h : a ++ List.replicate i '0' < b ++ List.replicate j '0') : a < b := by
  induction a generalizing b j with
  | nil =>
    cases b with
    | nil =>
      obtain rfl : i = j := by simpa using hlen
      exact absurd h (List.lt_irrefl _)
    | cons d b => exact List.nil_lt_cons d b
  | cons c a ih =>
    have ha' : ∀ c ∈ a, '0' ≤ c := fun x hx => ha x (List.mem_cons_of_mem _ hx)
    cases b with
    | nil =>
      -- Nothing comes before a row of zeros of its own length.
      have hj : j = a.length + i + 1 := by simp at hlen; omega
      subst hj
      rw [List.cons_append, List.nil_append, List.replicate_succ, List.cons_lt_cons_iff] at h
      rcases h with h | ⟨-, h⟩
      · exact absurd h (Char.not_lt.2 (ha c List.mem_cons_self))
      · have hlen' : a.length + i = ([] : List Char).length + (a.length + i) := by simp
        exact absurd (ih ha' hlen' h) (List.not_lt_nil a)
    | cons d b =>
      rw [List.cons_append, List.cons_append, List.cons_lt_cons_iff] at h
      rw [List.cons_lt_cons_iff]
      have hlen' : a.length + i = b.length + j := by simp at hlen ⊢; omega
      exact h.imp_right fun h => ⟨h.1, ih ha' hlen' h.2⟩

end Chancery.Text

namespace Chancery.Identifier

/-- Hyphens at the same places do not change which of two texts comes first. -/
theorem hyphenate_lt_hyphenate_iff {ns : List Nat} {s t : List Char} (hns : ns ≠ [])
    (hs : s.length = ns.sum) (ht : t.length = ns.sum) :
    hyphenate ns s < hyphenate ns t ↔ s < t := by
  induction ns generalizing s t with
  | nil => exact absurd rfl hns
  | cons n ns ih =>
    cases ns with
    | nil => rfl
    | cons m ns =>
      rw [List.sum_cons] at hs ht
      have htake : (s.take n).length = (t.take n).length := by
        rw [List.length_take, List.length_take, hs, ht]
      have hs' : (s.drop n).length = (m :: ns).sum := by rw [List.length_drop]; omega
      have ht' : (t.drop n).length = (m :: ns).sum := by rw [List.length_drop]; omega
      have split : s < t ↔ s.take n ++ s.drop n < t.take n ++ t.drop n := by
        rw [List.take_append_drop, List.take_append_drop]
      show s.take n ++ '-' :: hyphenate (m :: ns) (s.drop n) <
        t.take n ++ '-' :: hyphenate (m :: ns) (t.drop n) ↔ s < t
      rw [split, Text.append_lt_append_iff htake, Text.append_lt_append_iff htake,
        Text.cons_lt_cons_self_iff, ih (by simp) hs' ht']

/-- **Identifiers are stored in the order of their numbers.** -/
theorem text_lt_text_iff {a b : Identifier} : a.text < b.text ↔ a.number < b.number := by
  show a.text.toList < b.text.toList ↔ _
  rw [toList_text, toList_text, chars, chars,
    hyphenate_lt_hyphenate_iff (by decide) (by simp [groups]) (by simp [groups])]
  exact Text.fixedDigits_lt_iff (by decide) (by decide) a.number_lt b.number_lt

end Chancery.Identifier
