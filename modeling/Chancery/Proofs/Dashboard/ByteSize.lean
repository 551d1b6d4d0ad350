import Chancery.Dashboard
import Chancery.Proofs.Text.Scanning
import Chancery.Word
import Mathlib.Tactic.Ring

/-!
# How a number of bytes is shown

A size is shown in the first unit in which its number is small, and the number is meant to be the
exact quotient, rounded once with halves rounded up. The number is found otherwise: it is rounded at
every unit on the way and the next unit starts from there. What each rounding adds is half of its
unit, so a number in the `k`-th unit comes out as if the halves of all units up to the `k`-th had
been added before a single division (`stepped_eq`). The halves of the smaller ones are what is too
much.

They make a difference exactly when what is left over of the size falls short of half a unit by no
more than that (`IsCarried`); the number is then one too large. It is never so in bytes and
kilobytes. Where it is so in the unit that a size should be shown in, what is shown is the next
number, or even the next unit, and in no other case is anything else shown than what is meant
(`isShown_pretty_iff`).

## Main definitions

* `ByteSize.rounded`, `ByteSize.stepped` — the number in a unit, rounded once or at every unit
* `ByteSize.IsShown` — the text of a size whose numbers are given
* `ByteSize.IsCarried` — a number that comes out one too large

## Main results

* `ByteSize.stepped_eq_rounded_add`
* `ByteSize.isShown_pretty`, `ByteSize.isShown_pretty_iff`
* `ByteSize.pretty_showsSteps`
-/

namespace Chancery.ByteSize

variable {b k l m n : Nat} {number : Nat → Nat} {text text' : String}

/-! ### Numbers in a unit -/

/-- The exact number of `k`-th units, rounded once, halves being rounded up. -/
def rounded (k b : Nat) : Nat := (b + 1024 ^ k / 2) / 1024 ^ k

/-- The number of `k`-th units that comes of rounding at every unit. -/
def stepped : Nat → Nat → Nat
  | 0, b => b
  | k + 1, b => (stepped k b + 512) / 1024

/-- Half of each unit up to the `k`-th. -/
def halves : Nat → Nat
  | 0 => 0
  | k + 1 => halves k + 1024 ^ (k + 1) / 2

theorem half_pow_succ (k : Nat) : 1024 ^ (k + 1) / 2 = 512 * 1024 ^ k := by
  rw [pow_succ]
  omega

/-- What rounding once means: the number is off by half a unit at most, and by half a unit only
upwards. -/
theorem rounded_nearest (k b : Nat) : 1024 ^ k * (2 * rounded k b) ≤ 2 * b + 1024 ^ k ∧
    2 * b + 1024 ^ k < 1024 ^ k * (2 * rounded k b + 2) := by
  have hpos : 0 < 1024 ^ k := Nat.pow_pos (by decide)
  have hquotient := Nat.div_add_mod (b + 1024 ^ k / 2) (1024 ^ k)
  have hrest := Nat.mod_lt (b + 1024 ^ k / 2) hpos
  have hhalf : 2 * (1024 ^ k / 2) = 1024 ^ k ∨ 1024 ^ k = 1 := by
    cases k with
    | zero => exact .inr rfl
    | succ k => exact .inl (by rw [half_pow_succ, pow_succ]; omega)
  rw [← rounded] at hquotient
  have htwice : 1024 ^ k * (2 * rounded k b) = 2 * (1024 ^ k * rounded k b) := by ring
  have hnext : 1024 ^ k * (2 * rounded k b + 2) = 2 * (1024 ^ k * rounded k b) + 2 * 1024 ^ k := by
    ring
  rw [htwice, hnext]
  omega

theorem halves_lt (k : Nat) : halves k < 1024 ^ k := by
  induction k with
  | zero => decide
  | succ k ih =>
    rw [halves, half_pow_succ, pow_succ]
    omega

/-- **Rounding at every unit is one division** of the size with half of each unit on top. -/
theorem stepped_eq (k b : Nat) : stepped k b = (b + halves k) / 1024 ^ k := by
  induction k with
  | zero => simp [stepped, halves]
  | succ k ih =>
    have hpos : 0 < 1024 ^ k := Nat.pow_pos (by decide)
    rw [stepped, ih, halves, half_pow_succ, pow_succ, ← Nat.div_div_eq_div_mul, ← Nat.add_assoc,
      Nat.add_mul_div_right _ _ hpos]

/-- What is left over of a size in the `k`-th unit is less than half a unit, but not with half of
each smaller unit on top. -/
def IsCarried (k b : Nat) : Prop :=
  b % 1024 ^ k < 1024 ^ k / 2 ∧ 1024 ^ k / 2 ≤ b % 1024 ^ k + halves (k - 1)

instance (k b : Nat) : Decidable (IsCarried k b) := by
  unfold IsCarried
  infer_instance

/-- **Rounding at every unit makes the number one too large exactly when it is carried.** -/
theorem stepped_eq_rounded_add (k b : Nat) :
    stepped k b = rounded k b + if IsCarried k b then 1 else 0 := by
  cases k with
  | zero => simp [stepped, rounded, IsCarried]
  | succ k =>
    have hunit : 1024 ^ (k + 1) = 1024 * 1024 ^ k := pow_succ' _ _
    have hpos : 0 < 1024 ^ (k + 1) := Nat.pow_pos (by decide)
    have hbias : halves (k + 1) < 1024 ^ (k + 1) := halves_lt (k + 1)
    have hhalf : 1024 ^ (k + 1) / 2 < 1024 ^ (k + 1) := Nat.div_lt_self hpos (by decide)
    -- Both numbers are the whole quotient, or one more if what is added makes the rest full.
    rw [stepped_eq, rounded, Nat.add_div hpos, Nat.add_div hpos, Nat.div_eq_of_lt hbias,
      Nat.div_eq_of_lt hhalf, Nat.mod_eq_of_lt hbias, Nat.mod_eq_of_lt hhalf]
    simp only [IsCarried, halves, hunit, Nat.add_sub_cancel]
    have hsmall := halves_lt k
    split_ifs <;> omega

theorem rounded_le_stepped (k b : Nat) : rounded k b ≤ stepped k b := by
  rw [stepped_eq_rounded_add]
  omega

theorem stepped_eq_rounded_iff : stepped k b = rounded k b ↔ ¬ IsCarried k b := by
  rw [stepped_eq_rounded_add]
  split <;> simp_all

/-- Bytes and kilobytes are never carried: there is no smaller half. -/
theorem not_isCarried_of_le_one (h : k ≤ 1) : ¬ IsCarried k b := by
  rintro ⟨hless, hmore⟩
  have hnone : halves (k - 1) = 0 := by rw [Nat.sub_eq_zero_of_le h, halves]
  omega

/-! ### Units -/

/-- The names of the units, the byte first. -/
def names : List String := "bytes" :: units

/-- A number of `k`-th units as it is shown. -/
def label (n k : Nat) : String := toString n ++ " " ++ names.getD k ""

/-- The unit that a size is shown in: the first one in which its number is small, or the last. -/
structure IsUnitFor (number : Nat → Nat) (k : Nat) : Prop where
  large : ∀ j < k, limit ≤ number j
  small : number k < limit ∨ k = units.length
  le_length : k ≤ units.length

/-- The text of a size whose number in each unit is given. -/
def IsShown (number : Nat → Nat) (text : String) : Prop :=
  ∃ k, IsUnitFor number k ∧ text = label (number k) k

theorem IsUnitFor.unique (hk : IsUnitFor number k) (hl : IsUnitFor number l) : k = l := by
  have hle : ∀ {k l}, IsUnitFor number k → IsUnitFor number l → l ≤ k := by
    intro k l hk hl
    by_contra hlt
    rcases hk.small with hsmall | rfl
    · exact absurd hsmall (Nat.not_lt.2 (hl.large k (Nat.not_le.1 hlt)))
    · exact hlt hl.le_length
  exact Nat.le_antisymm (hle hl hk) (hle hk hl)

theorem IsShown.unique (h : IsShown number text) (h' : IsShown number text') : text = text' := by
  obtain ⟨k, hk, rfl⟩ := h
  obtain ⟨l, hl, rfl⟩ := h'
  rw [hk.unique hl]

theorem toList_label (n k : Nat) :
    (label n k).toList = Nat.toDigits 10 n ++ ' ' :: (names.getD k "").toList := by
  simp [label, Nat.repr]

/-- A text shows one number in one unit. -/
theorem label_inj (hk : k ≤ units.length) (hl : l ≤ units.length) (h : label n k = label m l) :
    n = m ∧ k = l := by
  have hlists := congrArg String.toList h
  rw [toList_label, toList_label] at hlists
  have hends : ∀ s, Text.Ends (' ' :: s) := fun s => Text.ends_cons (by decide)
  have hdigits : Nat.toDigits 10 n = Nat.toDigits 10 m := by
    rw [← (Text.spells_toDigits n).takeWhile_append (hends _), hlists,
      (Text.spells_toDigits m).takeWhile_append (hends _)]
  have hname : names.getD k "" = names.getD l "" := by
    rw [hdigits, List.append_cancel_left_eq, List.cons.injEq] at hlists
    exact String.toList_inj.1 hlists.2
  have hdistinct : ∀ k ≤ units.length, ∀ l ≤ units.length,
      names.getD k "" = names.getD l "" → k = l := by decide
  refine ⟨?_, hdistinct k hk l hl hname⟩
  rw [← (Text.spells_toDigits n).value, hdigits, (Text.spells_toDigits m).value]

/-! ### What is shown -/

theorem tdiv_stepped (k b : Nat) :
    Int.tdiv ((stepped k b : Nat) + 512) 1024 = (stepped (k + 1) b : Nat) := by
  rw [Int.tdiv_eq_ediv_of_nonneg (by omega), stepped]
  omega

/-- Scaling a size in the `k`-th unit, in which it is not small, ends in the unit it is shown in. -/
theorem isShown_scale {rest : List String} (hrest : units.drop k = rest) (hne : rest ≠ [])
    (hlarge : ∀ j ≤ k, limit ≤ stepped j b) :
    IsShown (stepped · b) (scale (stepped k b) rest) := by
  induction rest generalizing k with
  | nil => exact absurd rfl hne
  | cons unit rest ih =>
    have hlength : units.length - k = rest.length + 1 := by
      rw [← List.length_drop, hrest, List.length_cons]
    have hrest' : units.drop (k + 1) = rest := by
      rw [← List.tail_drop, hrest, List.tail_cons]
    have hname : names.getD (k + 1) "" = unit := by
      rw [names, List.getD_cons_succ, List.getD_eq_getElem?_getD, ← List.head?_drop, hrest]
      rfl
    have hlabel : toString ((stepped (k + 1) b : Nat) : Int) ++ " " ++ unit =
        label (stepped (k + 1) b) (k + 1) := by
      rw [label, hname]
      rfl
    have hlarge' : ∀ j < k + 1, limit ≤ stepped j b := fun j hj => hlarge j (by omega)
    cases rest with
    | nil =>
      have hlast : k + 1 = units.length := by
        rw [List.length_nil] at hlength
        omega
      rw [scale, tdiv_stepped, hlabel]
      exact ⟨k + 1, ⟨hlarge', .inr hlast, by omega⟩, rfl⟩
    | cons next rest =>
      rw [scale, tdiv_stepped, Int.natAbs_natCast, hlabel]
      split
      · rename_i hsmall
        exact ⟨k + 1, ⟨hlarge', .inl hsmall, by omega⟩, rfl⟩
      · refine ih hrest' (List.cons_ne_nil _ _) fun j hj => ?_
        rcases Nat.lt_or_eq_of_le hj with hj | rfl
        · exact hlarge' j hj
        · omega
      · simp

/-- **What is shown of a size** is what its numbers are when they are rounded at every unit. -/
theorem isShown_pretty (b : Nat) : IsShown (stepped · b) (pretty b) := by
  rw [pretty, Int.natAbs_natCast]
  split
  · rename_i hsmall
    have hlabel : toString (b : Int) ++ " bytes" = label b 0 := by
      rw [label, String.append_assoc]
      rfl
    exact ⟨0, ⟨by simp, .inl hsmall, Nat.zero_le _⟩, hlabel⟩
  · refine isShown_scale (k := 0) rfl (by decide) fun j hj => ?_
    obtain rfl := Nat.le_zero.1 hj
    exact Nat.not_lt.1 ‹_›

/-- **When what is shown is what is meant**: if the number is not carried in the unit that the size
should be shown in. -/
theorem isShown_pretty_iff (hk : IsUnitFor (rounded · b) k) :
    IsShown (rounded · b) (pretty b) ↔ ¬ IsCarried k b := by
  obtain ⟨l, hl, hpretty⟩ := isShown_pretty b
  rw [← stepped_eq_rounded_iff]
  constructor
  · rintro ⟨k', hk', hmeant⟩
    obtain rfl := hk'.unique hk
    obtain ⟨hnumber, rfl⟩ := label_inj hl.le_length hk.le_length (hpretty.symm.trans hmeant)
    exact hnumber
  · intro hsame
    have hk' : IsUnitFor (stepped · b) k := {
      large := fun j hj => (hk.large j hj).trans (rounded_le_stepped j b)
      small := hk.small.imp_left fun hsmall => hsame ▸ hsmall
      le_length := hk.le_length }
    obtain rfl := hl.unique hk'
    exact ⟨l, hk, hpretty.trans (congrArg (label · l) hsame)⟩

/-! ### Together -/

theorem stepped_le (k b : Nat) : stepped k b ≤ b := by
  induction k with
  | zero => exact Nat.le_refl b
  | succ k ih =>
    rw [stepped]
    omega

/-- What is shown of a size, and what is meant. -/
structure ShowsSteps (b : Nat) : Prop where
  /-- None of the sums that are divided on the way exceeds a word. -/
  fits : ∀ k, isWord (stepped k b + 512)
  shown : IsShown (stepped · b) (pretty b)
  /-- What is meant is off by half a unit at most, and by half a unit only upwards. -/
  nearest : ∀ k, 1024 ^ k * (2 * rounded k b) ≤ 2 * b + 1024 ^ k ∧
    2 * b + 1024 ^ k < 1024 ^ k * (2 * rounded k b + 2)
  /-- The number in a unit is what is meant, or the next one if it is carried. -/
  number : ∀ k, stepped k b = rounded k b + if IsCarried k b then 1 else 0
  small : ∀ k ≤ 1, ¬ IsCarried k b
  meant_iff : ∀ k, IsUnitFor (rounded · b) k → (IsShown (rounded · b) (pretty b) ↔ ¬ IsCarried k b)

/-- **A size is shown by numbers that are rounded at every unit**, and is shown as meant, by numbers
that are rounded once, unless the number is carried in the unit that it should be shown in. -/
theorem pretty_showsSteps (h : isWord (b + 512)) : ShowsSteps b where
  fits k := by
    rw [isWord_iff] at h ⊢
    have := stepped_le k b
    omega
  shown := isShown_pretty b
  nearest k := rounded_nearest k b
  number k := stepped_eq_rounded_add k b
  small _ := not_isCarried_of_le_one
  meant_iff _ := isShown_pretty_iff

/-- A byte less than ten thousand two hundred and thirty-nine and a half megabytes is carried, and
is shown in gigabytes. -/
theorem pretty_showsSteps_of_carried :
    isWord ((10736893951 : Nat) + 512) ∧ stepped 2 10736893951 = 10240 ∧
      rounded 2 10736893951 = 10239 ∧ IsShown (stepped · 10736893951) "10 GB" ∧
      ¬ IsShown (rounded · 10736893951) (pretty (10736893951 : Nat)) := by
  have hword : isWord ((10736893951 : Nat) + 512) := by decide
  have h := pretty_showsSteps hword
  have hpretty : pretty (10736893951 : Nat) = "10 GB" := by decide +kernel
  have hunit : IsUnitFor (rounded · 10736893951) 2 :=
    ⟨by decide +kernel, .inl (by decide +kernel), by decide⟩
  exact ⟨hword, by decide +kernel, by decide +kernel, hpretty ▸ h.shown,
    fun hmeant => (h.meant_iff 2 hunit).1 hmeant (by decide +kernel)⟩

/-- A byte less than ten megabytes and a half is shown as eleven, and ten are meant. -/
theorem pretty_misrounds :
    pretty 11010047 = "11 MB" ∧ IsShown (rounded · 11010047) "10 MB" ∧
      ¬ IsShown (rounded · 11010047) (pretty 11010047) := by
  have hpretty : pretty 11010047 = "11 MB" := by decide +kernel
  have hmeant : IsShown (rounded · 11010047) "10 MB" :=
    ⟨2, ⟨by decide +kernel, .inl (by decide +kernel), by decide⟩, by decide +kernel⟩
  refine ⟨hpretty, hmeant, fun h => ?_⟩
  exact absurd (hpretty.symm.trans (h.unique hmeant)) (by decide)

end Chancery.ByteSize
