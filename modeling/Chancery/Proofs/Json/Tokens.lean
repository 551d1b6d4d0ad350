import Chancery.Json.Reading
import Chancery.Proofs.Text.Scanning
import Mathlib.Data.List.DropRight

/-!
# The tokens of JSON read back

Blanks between tokens are skipped wherever a reader begins, so they may be there or not. A string
ends at its closing quote and reads back whatever follows it: every character that could be mistaken
for the end or for an escape is written as an escape. A number has no end of its own, and reads back
only when what follows does not prolong it.

## Main definitions

* `Json.IsGap` — nothing but blanks
* `Json.Follows` — what may stand behind a number

## Main results

* `Json.readString?_append` — strings
* `Json.readNumber?_append` — integers of any size
-/

namespace Chancery.Json

open Text

/-! ### Blanks -/

/-- Nothing but blanks. -/
def IsGap (s : List Char) : Prop := ∀ c ∈ s, isGap c = true

theorem isGap_nil : IsGap [] := by simp [IsGap]

theorem skipGap_append {g : List Char} (hg : IsGap g) (s : List Char) :
    skipGap (g ++ s) = skipGap s :=
  List.dropWhile_append_of_pos hg

theorem skipGap_cons {c : Char} (hc : isGap c = false) (s : List Char) :
    skipGap (c :: s) = c :: s :=
  List.dropWhile_cons_of_neg (by simp [hc])

theorem skipGap_skipGap (s : List Char) : skipGap (skipGap s) = skipGap s :=
  List.dropWhile_idempotent _ s

theorem readValue?_skipGap (fuel : Nat) (s : List Char) :
    readValue? fuel (skipGap s) = readValue? fuel s := by
  cases fuel with
  | zero => rfl
  | succ fuel => rw [readValue?, readValue?, skipGap_skipGap]

theorem readItems?_skipGap (fuel : Nat) (s : List Char) :
    readItems? fuel (skipGap s) = readItems? fuel s := by
  cases fuel with
  | zero => rfl
  | succ fuel => rw [readItems?, readItems?, readValue?_skipGap]

theorem readFields?_skipGap (fuel : Nat) (s : List Char) :
    readFields? fuel (skipGap s) = readFields? fuel s := by
  cases fuel with
  | zero => rfl
  | succ fuel => rw [readFields?, readFields?, skipGap_skipGap]

/-! ### Strings -/

/-- The four digits of a numbered escape read back. -/
theorem readUnit?_append {n : Nat} (hn : n < 65536) (rest : List Char) :
    readUnit? (fixedDigits 16 4 n ++ rest) = some (n, rest) := by
  have hlen : (fixedDigits 16 4 n).length = 4 := length_fixedDigits 16 4 n
  have hvalue : n % Nat.pow 16 4 = n := Nat.mod_eq_of_lt hn
  obtain ⟨ds, hds, hv⟩ := mapM_digitValue?_fixedDigits (by decide : 0 < 16) (by decide) 4 n
  rw [readUnit?, List.take_left' hlen, List.drop_left' hlen, if_pos hlen, hds, Option.map_some, hv,
    hvalue]

/-- One character of a string reads back, however it is escaped. -/
theorem readStringFrom?_escapeChar (fuel : Nat) (done : List Char) (c : Char) (rest : List Char) :
    readStringFrom? (fuel + 1) done (escapeChar c ++ rest) =
      readStringFrom? fuel (c :: done) rest := by
  unfold escapeChar
  -- The characters with an escape of two characters.
  iterate 7
    split
    · subst_vars
      rfl
  split
  · rename_i hlow
    have hhalf : isHighHalf c.toNat = false ∧ isLowHalf c.toNat = false := by
      simp only [isHighHalf, isLowHalf, Bool.and_eq_false_iff, decide_eq_false_iff_not]
      omega
    have hread : readEscape? ('u' :: (fixedDigits 16 4 c.toNat ++ rest)) = some (c, rest) := by
      simp only [readEscape?, readNumbered?, readUnit?_append (show c.toNat < 65536 by omega),
        hhalf, Bool.false_eq_true, if_false, Char.ofNat_toNat]
    simp only [List.cons_append, readStringFrom?, hread]
  · rename_i hquote hslash _ _ _ _ _ hlow
    rw [List.singleton_append, readStringFrom?.eq_def]
    split
    · contradiction
    · rename_i heq
      cases heq
      split
      · rename_i heq
        cases heq
      · rename_i heq
        exact absurd (List.cons.inj heq).1 hquote
      · rename_i heq
        exact absurd (List.cons.inj heq).1 hslash
      · rename_i heq
        obtain ⟨rfl, rfl⟩ := List.cons.inj heq
        rw [if_neg hlow]

/-- A string reads back up to its closing quote. -/
theorem readStringFrom?_append {fuel : Nat} {s : List Char} (hfuel : s.length < fuel)
    (done rest : List Char) :
    readStringFrom? fuel done (s.flatMap escapeChar ++ '"' :: rest) =
      some (String.ofList (done.reverse ++ s), rest) := by
  induction s generalizing fuel done with
  | nil =>
    obtain ⟨fuel, rfl⟩ := Nat.exists_eq_add_of_lt hfuel
    simp [readStringFrom?]
  | cons c s ih =>
    obtain ⟨fuel, rfl⟩ := Nat.exists_eq_add_of_lt hfuel
    rw [List.flatMap_cons, List.append_assoc, readStringFrom?_escapeChar, ih (by simp; omega)]
    simp

theorem length_le_length_flatMap_escapeChar (s : List Char) :
    s.length ≤ (s.flatMap escapeChar).length := by
  have hpos : ∀ c, 1 ≤ (escapeChar c).length := by
    intro c
    unfold escapeChar
    repeat' split
    all_goals simp
  induction s with
  | nil => exact Nat.le_refl 0
  | cons c s ih =>
    have := hpos c
    rw [List.flatMap_cons, List.length_append, List.length_cons]
    omega

/-- A string reads back. -/
theorem readString?_append (s : String) (rest : List Char) :
    readString? (s.toList.flatMap escapeChar ++ '"' :: rest) = some (s, rest) := by
  have hlen := length_le_length_flatMap_escapeChar s.toList
  rw [readString?, readStringFrom?_append (by rw [List.length_append]; omega)]
  simp

theorem toList_quote (s : String) :
    (quote s).toList = '"' :: (s.toList.flatMap escapeChar ++ ['"']) := by
  simp [quote]

/-! ### Numbers -/

/-- What may stand behind a number: nothing that prolongs it. -/
def Follows (s : List Char) : Prop :=
  ∀ c ∈ s.head?, isDigit c = false ∧ c ≠ '.' ∧ c ≠ 'e' ∧ c ≠ 'E'

theorem follows_nil : Follows [] := by simp [Follows]

theorem follows_cons {c : Char} {s : List Char}
    (h : isDigit c = false ∧ c ≠ '.' ∧ c ≠ 'e' ∧ c ≠ 'E') : Follows (c :: s) := by
  simpa [Follows] using h

/-- A mark that is not there takes nothing. -/
theorem readMarked?_of_not {isMark : Char → Bool} {signed : Bool} {s : List Char}
    (h : ∀ c ∈ s.head?, isMark c = false) : readMarked? isMark signed s = some ([], s) := by
  cases s with
  | nil => rfl
  | cons c s => simp [readMarked?, h c rfl]

theorem readMarked?_fraction {rest : List Char} (hrest : Follows rest) :
    readMarked? (· = '.') false rest = some ([], rest) :=
  readMarked?_of_not fun c hc => by simp [(hrest c hc).2.1]

theorem readMarked?_exponent {rest : List Char} (hrest : Follows rest) :
    readMarked? (fun c => c = 'e' || c = 'E') true rest = some ([], rest) :=
  readMarked?_of_not fun c hc => by simp [(hrest c hc).2.2]

/-- No zero is written in front of a number. -/
theorem no_leading_zero (n : Nat) :
    ¬ ((Nat.toDigits 10 n).head? = some '0' ∧ 1 < (Nat.toDigits 10 n).length) := by
  rintro ⟨hhead, hlen⟩
  by_cases hn : n = 0
  · subst hn
    simp at hlen
  · exact head?_toDigits_ne_zero hn hhead

theorem readNumber?_toDigits (n : Nat) {rest : List Char} (hrest : Follows rest) :
    readNumber? (Nat.toDigits 10 n ++ rest) = some (.int n, rest) := by
  have h := spells_toDigits n
  have hends : Ends rest := fun c hc => (hrest c hc).1
  have hminus : ¬ (Nat.toDigits 10 n).head? = some '-' := by
    obtain ⟨c, s, hs, hc⟩ := h.exists_cons
    rw [hs, List.head?_cons, Option.some.injEq]
    rintro rfl
    exact absurd hc (by decide)
  have hzero := no_leading_zero n
  simp [readNumber?, hminus, h.takeWhile_append hends, h.ne_nil, hzero, h.value,
    readMarked?_fraction hrest, readMarked?_exponent hrest]

theorem readNumber?_minus {n : Nat} (hn : n ≠ 0) {rest : List Char} (hrest : Follows rest) :
    readNumber? ('-' :: Nat.toDigits 10 n ++ rest) = some (.int (-n), rest) := by
  have h := spells_toDigits n
  have hends : Ends rest := fun c hc => (hrest c hc).1
  have hzero := no_leading_zero n
  simp [readNumber?, h.takeWhile_append hends, h.ne_nil, hzero, h.value, hn,
    readMarked?_fraction hrest, readMarked?_exponent hrest]

/-- The text of an integer, as characters. -/
theorem toList_toString_int (n : Int) :
    (toString n).toList =
      if 0 ≤ n then Nat.toDigits 10 n.natAbs else '-' :: Nat.toDigits 10 n.natAbs := by
  cases n with
  | ofNat m => simp [Int.toString_eq_repr, Int.repr, Nat.repr]
  | negSucc m => simp [Int.toString_eq_repr, Int.repr, Nat.repr]

/-- An integer reads back when what follows does not prolong it. -/
theorem readNumber?_append (n : Int) {rest : List Char} (hrest : Follows rest) :
    readNumber? ((toString n).toList ++ rest) = some (.int n, rest) := by
  rw [toList_toString_int]
  split
  · rw [readNumber?_toDigits _ hrest, Int.natAbs_of_nonneg ‹_›]
  · have habs : -((n.natAbs : Nat) : Int) = n := by omega
    rw [readNumber?_minus (by omega) hrest, habs]

end Chancery.Json
