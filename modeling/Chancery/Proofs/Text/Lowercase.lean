import Chancery.Text.Lowercase
import Mathlib.Data.List.Infix

/-!
# Two lower cases

A search text is lowered by the full rules, and what it is compared with by those for ASCII. The
two do the same with most characters (`Text.LowersAlike`): with all of ASCII, and with everything
beyond that has no lower case of its own. They part at capital letters beyond ASCII.

What the full rules have lowered is small: lowering it again changes nothing. This is a property of
the table, checked run by run: the lower case of no run has an entry in another (`apart_runs`).

So small letters that stand in a text lowered for ASCII only stand in the text lowered by the full
rules as well (`infix_lowerChars`). Around them anything may change, even a final sigma by what
follows it, but they themselves do not.

## Main definitions

* `Text.IsSmall`, `Text.LowersAlike`

## Main results

* `Text.isSmall_of_mem_lowerChars`
* `Text.lowerChars_eq_map` — where the two rules agree
* `Text.infix_lowerChars` — what the rules for ASCII let one find is there by the full rules
-/

namespace Chancery.Text

variable {c : Char} {s t p : List Char}

/-! ### The table -/

/-- Whether a run of the table has an entry for a code point. -/
def CaseRun.covers (r : CaseRun) (n : Nat) : Bool :=
  r.first ≤ n && n ≤ r.last && (n - r.first) % r.step == 0

/-- The lower case of a code point of a run. -/
def CaseRun.lowered (r : CaseRun) (n : Nat) : Nat := ((n : Int) + r.shift).toNat

/-- The table and, ahead of it, the one capital letter whose lower case is two characters. -/
def capitalRuns : List CaseRun := ⟨0x130, 0x130, 1, 0⟩ :: lowercaseRuns

/-- Whether a character is no capital letter: none that has a lower case of its own. -/
def IsSmall (c : Char) : Prop := ∀ r ∈ capitalRuns, r.covers c.toNat = false

instance : DecidablePred IsSmall := fun c =>
  inferInstanceAs (Decidable (∀ r ∈ capitalRuns, r.covers c.toNat = false))

theorem lowerChar_eq (c : Char) :
    lowerChar c = match lowercaseRuns.find? fun r => r.covers c.toNat with
      | some r => Char.ofNat (r.lowered c.toNat)
      | none => c := rfl

theorem IsSmall.lowerChar_eq (h : IsSmall c) : lowerChar c = c := by
  have hnone : (lowercaseRuns.find? fun r => r.covers c.toNat) = none :=
    List.find?_eq_none.2 fun r hr => by simp [h r (List.mem_cons_of_mem _ hr)]
  rw [Text.lowerChar_eq, hnone]

theorem IsSmall.ne_dotted (h : IsSmall c) : c ≠ 'İ' := by
  rintro rfl
  exact absurd (h _ List.mem_cons_self) (by decide)

/-- Whether the lower case of no letter of one run has an entry in another: it lies before or
behind, or between the entries. -/
def CaseRun.apart (r r' : CaseRun) : Bool :=
  Nat.blt r'.last (r.lowered r.first) || Nat.blt (r.lowered r.last) r'.first
    || ((Nat.beq r.step 2 || Nat.beq r.first r.last) && Nat.beq r'.step 2
        && Nat.beq ((r.lowered r.first + r'.first) % 2) 1)

theorem apart_runs : (lowercaseRuns.all fun r => capitalRuns.all r.apart) = true := by
  decide +kernel

theorem shift_runs :
    (lowercaseRuns.all fun r => decide (0 ≤ (r.first : Int) + r.shift)) = true := by
  decide +kernel

theorem CaseRun.not_covers_of_apart {r r' : CaseRun} (hshift : 0 ≤ (r.first : Int) + r.shift)
    (h : r.apart r' = true) {n : Nat} (hn : r.covers n = true) :
    r'.covers (r.lowered n) = false := by
  rw [Bool.eq_false_iff]
  intro hcovers
  simp only [covers, apart, Bool.and_eq_true, Bool.or_eq_true, decide_eq_true_eq,
    beq_iff_eq, Nat.blt_eq, Nat.beq_eq] at h hn hcovers
  simp only [lowered] at h hcovers
  obtain ⟨⟨hfirst, hlast⟩, hstep⟩ := hn
  obtain ⟨⟨hfirst', hlast'⟩, hstep'⟩ := hcovers
  rcases h with (h | h) | ⟨⟨hsteps, htwo'⟩, hodd⟩
  · omega
  · omega
  -- Both runs step by two, or the one is a single letter: what remains is a matter of parity.
  · rw [htwo'] at hstep'
    rcases hsteps with htwo | hsingle
    · rw [htwo] at hstep
      omega
    · omega

/-- **No lower case has a lower case of its own.** -/
theorem isSmall_lowerChar (hc : c ≠ 'İ') : IsSmall (lowerChar c) := by
  cases hfind : lowercaseRuns.find? fun r => r.covers c.toNat with
  | none =>
    rw [lowerChar_eq, hfind]
    refine List.forall_mem_cons.2 ⟨?_, fun r hr => ?_⟩
    · have hne : c.toNat ≠ 0x130 := fun h => hc (Char.toNat_inj.1 h)
      simp only [CaseRun.covers, Bool.and_eq_false_iff, decide_eq_false_iff_not]
      omega
    · exact Bool.eq_false_iff.2 (List.find?_eq_none.1 hfind r hr)
  | some r =>
    have hr := List.mem_of_find?_eq_some hfind
    have hcovers := List.find?_some (p := fun r : CaseRun => r.covers c.toNat) hfind
    have hshift := of_decide_eq_true (List.all_eq_true.1 shift_runs r hr)
    have hlower : lowerChar c = Char.ofNat (r.lowered c.toNat) := by rw [lowerChar_eq, hfind]
    rw [hlower]
    by_cases hvalid : (r.lowered c.toNat).isValidChar
    · intro r' hr'
      have hnat : (Char.ofNat (r.lowered c.toNat)).toNat = r.lowered c.toNat := by
        rw [Char.ofNat, dif_pos hvalid]
        rfl
      rw [hnat]
      exact r.not_covers_of_apart hshift
        (List.all_eq_true.1 (List.all_eq_true.1 apart_runs r hr) r' hr') hcovers
    · have hnul : Char.ofNat (r.lowered c.toNat) = '\x00' := by
        rw [Char.ofNat, dif_neg hvalid]
        rfl
      rw [hnul]
      decide +kernel

/-! ### The two rules, character by character -/

theorem toLower_of_beyond_ascii (hc : 128 ≤ c.toNat) : c.toLower = c := by
  refine dif_neg ?_
  rintro ⟨-, hlast⟩
  have hlast : c.toNat ≤ 0x5A := hlast
  omega

/-- Nothing is lowered to a character that is no letter but that character itself. -/
theorem toLower_eq_iff {d : Char} (hd : d.isAlpha = false) : c.toLower = d ↔ c = d := by
  rcases Nat.lt_or_ge c.toNat 128 with hc | hc
  · have hall : ∀ n < 128, (Char.ofNat n).toLower = Char.ofNat n ∨
        (Char.ofNat n).isAlpha = true ∧ (Char.ofNat n).toLower.isAlpha = true := by decide
    rcases hall c.toNat hc with hsame | ⟨hletter, hlowered⟩
    · rw [Char.ofNat_toNat] at hsame
      rw [hsame]
    · rw [Char.ofNat_toNat] at hletter hlowered
      constructor
      · rintro rfl
        rw [hlowered] at hd
        cases hd
      · rintro rfl
        rw [hletter] at hd
        cases hd
  · rw [toLower_of_beyond_ascii hc]

theorem lowerChar_of_ascii (hc : c.toNat < 128) : lowerChar c = c.toLower := by
  have hall : ∀ n < 128, lowerChar (Char.ofNat n) = (Char.ofNat n).toLower := by decide +kernel
  simpa using hall c.toNat hc

theorem IsSmall.toLower_eq (h : IsSmall c) : c.toLower = c := by
  rcases Nat.lt_or_ge c.toNat 128 with hc | hc
  · rw [← lowerChar_of_ascii hc, h.lowerChar_eq]
  · exact toLower_of_beyond_ascii hc

theorem toLower_toLower (c : Char) : c.toLower.toLower = c.toLower := by
  rcases Nat.lt_or_ge c.toNat 128 with hc | hc
  · have hdotted : c ≠ 'İ' := by
      rintro rfl
      exact absurd hc (by decide)
    rw [← lowerChar_of_ascii hc]
    exact (isSmall_lowerChar hdotted).toLower_eq
  · rw [toLower_of_beyond_ascii hc, toLower_of_beyond_ascii hc]

/-- Whether the full rules do with a character what those for ASCII do. -/
def LowersAlike (c : Char) : Prop := lowerChar c = c.toLower ∧ c ≠ 'İ'

instance : DecidablePred LowersAlike := fun c =>
  inferInstanceAs (Decidable (lowerChar c = c.toLower ∧ c ≠ 'İ'))

theorem LowersAlike.ne_sigma (h : LowersAlike c) : c ≠ 'Σ' := by
  rintro rfl
  exact absurd h.1 (by decide +kernel)

theorem IsSmall.lowersAlike (h : IsSmall c) : LowersAlike c :=
  ⟨by rw [h.lowerChar_eq, h.toLower_eq], h.ne_dotted⟩

theorem LowersAlike.of_ascii (hc : c.toNat < 128) : LowersAlike c := by
  refine ⟨lowerChar_of_ascii hc, ?_⟩
  rintro rfl
  exact absurd hc (by decide)

/-- What the rules for ASCII turn into a small letter, the full rules turn into the same. -/
theorem LowersAlike.of_toLower (h : IsSmall c.toLower) : LowersAlike c := by
  rcases Nat.lt_or_ge c.toNat 128 with hc | hc
  · exact .of_ascii hc
  · rw [toLower_of_beyond_ascii hc] at h
    exact h.lowersAlike

/-! ### Whole texts -/

theorem isSmall_of_mem_lowerFrom {before : List Char} (h : c ∈ lowerFrom before s) : IsSmall c := by
  induction s generalizing before with
  | nil => cases h
  | cons d s ih =>
    rw [lowerFrom, List.mem_append] at h
    refine h.elim (fun h => ?_) ih
    by_cases hsigma : d = 'Σ'
    · rw [if_pos hsigma, List.mem_singleton] at h
      rw [h]
      split <;> decide +kernel
    · rw [if_neg hsigma] at h
      by_cases hdotted : d = 'İ'
      · rw [if_pos hdotted, List.mem_pair] at h
        rcases h with rfl | rfl <;> decide +kernel
      · rw [if_neg hdotted, List.mem_singleton] at h
        exact h ▸ isSmall_lowerChar hdotted

/-- **A lowered text is small.** -/
theorem isSmall_of_mem_lowerChars (h : c ∈ lowerChars s) : IsSmall c :=
  isSmall_of_mem_lowerFrom h

/-- What is lowered last is lowered with all before it in view, whatever that became. -/
theorem lowerFrom_append (before s t : List Char) :
    ∃ s', lowerFrom before (s ++ t) = s' ++ lowerFrom (s.reverse ++ before) t := by
  induction s generalizing before with
  | nil => exact ⟨[], rfl⟩
  | cons c s ih =>
    obtain ⟨s', hs'⟩ := ih (c :: before)
    rw [List.cons_append, lowerFrom, hs', ← List.append_assoc, List.reverse_cons,
      List.append_assoc s.reverse]
    exact ⟨_, rfl⟩

theorem lowerFrom_of_lowersAlike (hs : ∀ c ∈ s, LowersAlike c) (before t : List Char) :
    lowerFrom before (s ++ t) = s.map Char.toLower ++ lowerFrom (s.reverse ++ before) t := by
  induction s generalizing before with
  | nil => rfl
  | cons c s ih =>
    obtain ⟨hc, hs⟩ := List.forall_mem_cons.1 hs
    rw [List.cons_append, lowerFrom, if_neg hc.ne_sigma, if_neg hc.2, hc.1, ih hs]
    simp

/-- Where the two rules agree on the characters, they agree on the text. -/
theorem lowerChars_eq_map (hs : ∀ c ∈ s, LowersAlike c) : lowerChars s = s.map Char.toLower := by
  have h := lowerFrom_of_lowersAlike hs [] []
  rwa [List.append_nil, lowerFrom, List.append_nil] at h

/-- **Small letters found by the rules for ASCII are found by the full rules.** -/
theorem infix_lowerChars (hp : ∀ c ∈ p, IsSmall c) (h : p <:+: t.map Char.toLower) :
    p <:+: lowerChars t := by
  obtain ⟨before, after, heq⟩ := h
  obtain ⟨front, rest, rfl, hfront, -⟩ := List.map_eq_append_iff.1 heq.symm
  obtain ⟨skipped, found, rfl, -, rfl⟩ := List.map_eq_append_iff.1 hfront
  have hfound : ∀ c ∈ found, LowersAlike c := fun c hc =>
    .of_toLower (hp _ (List.mem_map_of_mem hc))
  obtain ⟨front, hfront⟩ := lowerFrom_append [] skipped (found ++ rest)
  rw [lowerChars, List.append_assoc, hfront, lowerFrom_of_lowersAlike hfound]
  exact ⟨front, _, List.append_assoc ..⟩

end Chancery.Text
