import Chancery.Proofs.Identifier
import Chancery.Proofs.Text.Blank
import Chancery.Proofs.Text.Lowercase

/-!
# How an identifier may be spelled

An identifier may be written in four shapes, in letters of either case, with blanks around it. The
reader takes all of these texts, each as the identifier that it spells, and it takes no other
(`Identifier.parse?_eq_some_iff`).

The reader works from the text to the number: it picks the shape by the length, takes the wrapping
off, takes the hyphens out and reads the digits. Each of these steps undoes one step of writing,
and what it accepts is only what that step could have written, up to the case of letters. So the
equivalence is put together from one equivalence a step. Case is lost in the last step alone; that
the steps before it do not mind is due to their looking for characters that are no letters.

## Main definitions

* `Identifier.Shape`, `Identifier.inShape` — the four shapes
* `Identifier.IsSpelledBy` — a text spells an identifier

## Main results

* `Identifier.ofDigits?_eq_some_iff`, `Identifier.ofHyphenated?_eq_some_iff`,
  `Identifier.readChars?_eq_some_iff`
* `Identifier.parse?_eq_some_iff`
-/

namespace Chancery

/-! ### Digits -/

namespace Text

variable {c : Char} {v : Nat}

theorem digitValue?_of_beyond_ascii (hc : 128 ≤ c.toNat) : digitValue? 16 c = none := by
  have hbeyond : ∀ d : Char, d.toNat < 128 → ¬ c ≤ d := by
    intro d hd hle
    have hle : c.toNat ≤ d.toNat := hle
    omega
  simp [digitValue?, hbeyond]

/-- The case of a digit does not matter. -/
theorem digitValue?_toLower (c : Char) : digitValue? 16 c.toLower = digitValue? 16 c := by
  rcases Nat.lt_or_ge c.toNat 128 with hc | hc
  · have hall : ∀ n < 128, digitValue? 16 (Char.ofNat n).toLower =
        digitValue? 16 (Char.ofNat n) := by decide
    simpa using hall c.toNat hc
  · rw [toLower_of_beyond_ascii hc]

/-- In lower case, what reads as a digit is that digit. -/
theorem toLower_of_digitValue? (h : digitValue? 16 c = some v) : c.toLower = digitChar v := by
  rcases Nat.lt_or_ge c.toNat 128 with hc | hc
  · have hall : ∀ n < 128, ∀ v ∈ digitValue? 16 (Char.ofNat n),
        (Char.ofNat n).toLower = digitChar v := by decide
    simpa using hall c.toNat hc v (by simpa using h)
  · rw [digitValue?_of_beyond_ascii hc] at h
    cases h

theorem isBlank_toLower (c : Char) : isBlank c.toLower = isBlank c := by
  rcases Nat.lt_or_ge c.toNat 128 with hc | hc
  · have hall : ∀ n < 128, isBlank (Char.ofNat n).toLower = isBlank (Char.ofNat n) := by decide
    simpa using hall c.toNat hc
  · rw [toLower_of_beyond_ascii hc]

/-- What reads as digits is, in lower case, the digits that were read. -/
theorem of_mapM_digitValue? {s : List Char} {vs : List Nat}
    (h : s.mapM (digitValue? 16) = some vs) :
    s.map Char.toLower = vs.map digitChar ∧ ∀ v ∈ vs, v < 16 := by
  induction s generalizing vs with
  | nil =>
    obtain rfl : [] = vs := Option.some.inj h
    simp
  | cons c s ih =>
    simp only [List.mapM_cons, Option.bind_eq_bind, Option.bind_eq_some_iff] at h
    obtain ⟨v, hv, vs', hvs, heq⟩ := h
    obtain rfl : v :: vs' = vs := Option.some.inj heq
    obtain ⟨hchars, hlt⟩ := ih hvs
    exact ⟨by rw [List.map_cons, List.map_cons, toLower_of_digitValue? hv, hchars],
      List.forall_mem_cons.2 ⟨digitValue?_lt hv, hlt⟩⟩

/-- Digits are those of the number that they denote. -/
theorem fixedDigits_digitsValue {base : Nat} {vs : List Nat} (hvs : ∀ v ∈ vs, v < base) :
    fixedDigits base vs.length (digitsValue base vs) = vs.map digitChar := by
  induction vs using List.reverseRecOn with
  | nil => rfl
  | append_singleton vs v ih =>
    have hv : v < base := hvs v (by simp)
    have hfront := ih fun v hv => hvs v (List.mem_append_left _ hv)
    have hdiv : (digitsValue base vs * base + v) / base = digitsValue base vs := by
      rw [Nat.mul_comm, Nat.mul_add_div (by omega), Nat.div_eq_of_lt hv, Nat.add_zero]
    have hmod : (digitsValue base vs * base + v) % base = v := by
      rw [Nat.mul_comm, Nat.mul_add_mod, Nat.mod_eq_of_lt hv]
    rw [digitsValue_append, List.length_append, List.length_singleton, fixedDigits, hdiv, hmod,
      hfront, List.map_append, List.map_singleton]

end Text

namespace Identifier

open Text

variable {a : Identifier} {s t : List Char} {ns : List Nat}

theorem ofDigits?_map_toLower (s : List Char) : ofDigits? (s.map Char.toLower) = ofDigits? s := by
  have hvalues : (s.map Char.toLower).mapM (digitValue? 16) = s.mapM (digitValue? 16) := by
    induction s with
    | nil => rfl
    | cons c s ih => rw [List.map_cons, List.mapM_cons, List.mapM_cons, digitValue?_toLower, ih]
  rw [ofDigits?, ofDigits?, List.length_map, hvalues]

/-- **Thirty-two digits spell an identifier if and only if they are its own**, up to their
case. -/
theorem ofDigits?_eq_some_iff :
    ofDigits? s = some a ↔ s.map Char.toLower = fixedDigits 16 32 a.number := by
  constructor
  · intro h
    unfold ofDigits? at h
    split at h
    · rename_i hlength
      obtain ⟨vs, hvs, rfl⟩ := Option.map_eq_some_iff.1 h
      obtain ⟨hchars, hlt⟩ := of_mapM_digitValue? hvs
      have hwidth : vs.length = 32 := by
        rw [← hlength, ← List.length_map, ← hchars, List.length_map]
      have hnumber : (ofNat (digitsValue 16 vs)).number = digitsValue 16 vs := by
        have hbound := digitsValue_lt hlt
        rw [hwidth] at hbound
        exact Nat.mod_eq_of_lt hbound
      rw [hchars, hnumber, ← hwidth, fixedDigits_digitsValue hlt]
    · cases h
  · intro h
    rw [← ofDigits?_map_toLower, h, ofDigits?_fixedDigits]

/-! ### Hyphens -/

theorem hyphenate_cons_cons (n m : Nat) (ns : List Nat) (s : List Char) :
    hyphenate (n :: m :: ns) s = s.take n ++ '-' :: hyphenate (m :: ns) (s.drop n) := rfl

/-- What the hyphens were taken out of is what they were put into. -/
theorem of_unhyphenate? (h : unhyphenate? ns s = some t) : s = hyphenate ns t := by
  induction ns generalizing s t with
  | nil =>
    rw [unhyphenate?, Option.ite_none_right_eq_some, List.isEmpty_iff] at h
    exact h.1
  | cons n ns ih =>
    cases ns with
    | nil =>
      rw [unhyphenate?, Option.ite_none_right_eq_some] at h
      exact Option.some.inj h.2
    | cons m ns =>
      unfold unhyphenate? at h
      split at h
      · rename_i rest hrest
        obtain ⟨t', ht', rfl⟩ := Option.map_eq_some_iff.1 h
        have hlength : (s.take n).length = n := by
          have := congrArg List.length hrest
          rw [List.length_drop, List.length_cons] at this
          rw [List.length_take]
          omega
        rw [hyphenate_cons_cons, List.take_left' hlength, List.drop_left' hlength, ← ih ht',
          ← hrest, List.take_append_drop]
      · cases h

theorem map_hyphenate {f : Char → Char} (hf : f '-' = '-') (ns : List Nat) (s : List Char) :
    (hyphenate ns s).map f = hyphenate ns (s.map f) := by
  induction ns generalizing s with
  | nil => rfl
  | cons n ns ih =>
    cases ns with
    | nil => rfl
    | cons m ns =>
      rw [hyphenate_cons_cons, hyphenate_cons_cons, List.map_append, List.map_cons, ih, hf,
        List.map_take, List.map_drop]

/-- The hyphens come out of a text whatever its case. -/
theorem unhyphenate?_map_toLower (ns : List Nat) (s : List Char) :
    unhyphenate? ns (s.map Char.toLower) =
      (unhyphenate? ns s).map (List.map Char.toLower) := by
  induction ns generalizing s with
  | nil => cases s <;> rfl
  | cons n ns ih =>
    cases ns with
    | nil =>
      simp only [unhyphenate?, List.length_map]
      split <;> rfl
    | cons m ns =>
      simp only [unhyphenate?, ← List.map_drop, ← List.map_take]
      cases hdrop : s.drop n with
      | nil => rfl
      | cons c rest =>
        have hhyphen : c.toLower = '-' ↔ c = '-' := toLower_eq_iff (by decide)
        by_cases hc : c = '-'
        · subst hc
          simp [ih, Function.comp_def]
        · simp [hc, hhyphen]

theorem ofHyphenated?_map_toLower (s : List Char) :
    ofHyphenated? (s.map Char.toLower) = ofHyphenated? s := by
  rw [ofHyphenated?, unhyphenate?_map_toLower, ofHyphenated?]
  cases unhyphenate? groups s with
  | none => rfl
  | some t => exact ofDigits?_map_toLower t

/-- **A hyphenated text spells an identifier if and only if it is its own**, up to case. -/
theorem ofHyphenated?_eq_some_iff :
    ofHyphenated? s = some a ↔ s.map Char.toLower = a.chars := by
  constructor
  · intro h
    obtain ⟨t, ht, ha⟩ := Option.bind_eq_some_iff.1 h
    rw [of_unhyphenate? ht, map_hyphenate (by decide), ofDigits?_eq_some_iff.1 ha, chars]
  · intro h
    rw [← ofHyphenated?_map_toLower, h, ofHyphenated?_chars]

/-! ### The four shapes -/

/-- The shapes in which an identifier may be written. -/
inductive Shape where
  | digits
  | hyphenated
  | braced
  | resource

/-- An identifier in a shape, in lower case. -/
def inShape (a : Identifier) : Shape → List Char
  | .digits => fixedDigits 16 32 a.number
  | .hyphenated => a.chars
  | .braced => '{' :: (a.chars ++ ['}'])
  | .resource => urnMark ++ a.chars

/-- How long texts of a shape are. -/
def Shape.length : Shape → Nat
  | .digits => 32
  | .hyphenated => 36
  | .braced => 38
  | .resource => 45

theorem length_inShape (a : Identifier) (shape : Shape) :
    (a.inShape shape).length = shape.length := by
  have hmark : urnMark.length = 9 := by decide
  cases shape <;> simp [inShape, Shape.length, length_chars, hmark]

/-- Whether a text spells an identifier: what stands in it between blanks is the identifier in one
of the shapes, up to the case of letters. -/
def IsSpelledBy (a : Identifier) (text : String) : Prop :=
  ∃ before body after shape, text.toList = before ++ body ++ after ∧ AllBlank before ∧
    AllBlank after ∧ body.map Char.toLower = a.inShape shape

/-! ### Reading a shape -/

theorem of_braced (h : s.map Char.toLower = '{' :: (a.chars ++ ['}'])) :
    ∃ t, s = '{' :: (t ++ ['}']) ∧ t.map Char.toLower = a.chars := by
  obtain ⟨c, s', rfl, hc, hs'⟩ := List.map_eq_cons_iff.1 h
  obtain ⟨t, last, rfl, ht, hlast⟩ := List.map_eq_append_iff.1 hs'
  obtain ⟨d, last', rfl, hd, hnil⟩ := List.map_eq_cons_iff.1 hlast
  obtain rfl := (toLower_eq_iff (by decide)).1 hc
  obtain rfl := (toLower_eq_iff (by decide)).1 hd
  rw [List.map_eq_nil_iff.1 hnil]
  exact ⟨t, rfl, ht⟩

/-- What is read is in one of the shapes, the one that its length tells. -/
theorem exists_shape_of_readChars? (h : readChars? s = some a) :
    ∃ shape, s.map Char.toLower = a.inShape shape := by
  unfold readChars? at h
  split at h
  · exact ⟨.digits, ofDigits?_eq_some_iff.1 h⟩
  split at h
  · exact ⟨.hyphenated, ofHyphenated?_eq_some_iff.1 h⟩
  split at h
  · refine ⟨.braced, ?_⟩
    split at h
    · rename_i rest
      rw [Option.ite_none_right_eq_some] at h
      obtain ⟨hlast, h⟩ := h
      obtain ⟨t, rfl⟩ := List.getLast?_eq_some_iff.1 hlast
      rw [List.dropLast_concat, ofHyphenated?_eq_some_iff] at h
      simp [inShape, h]
    · cases h
  · rw [Option.ite_none_right_eq_some] at h
    obtain ⟨⟨-, hmark⟩, h⟩ := h
    refine ⟨.resource, ?_⟩
    rw [inShape, ← hmark, ← ofHyphenated?_eq_some_iff.1 h, ← List.map_append,
      List.take_append_drop]

/-- What is in one of the shapes is read. -/
theorem readChars?_of_inShape {shape : Shape} (h : s.map Char.toLower = a.inShape shape) :
    readChars? s = some a := by
  have hlength : s.length = shape.length := by
    rw [← List.length_map, h, length_inShape]
  unfold readChars?
  cases shape with
  | digits =>
    replace hlength : s.length = 32 := hlength
    rw [if_pos hlength, ofDigits?_eq_some_iff.2 h]
  | hyphenated =>
    replace hlength : s.length = 36 := hlength
    rw [if_neg (by omega), if_pos hlength, ofHyphenated?_eq_some_iff.2 h]
  | braced =>
    replace hlength : s.length = 38 := hlength
    rw [if_neg (by omega), if_neg (by omega), if_pos hlength]
    obtain ⟨t, rfl, ht⟩ := of_braced h
    simp [ofHyphenated?_eq_some_iff.2 ht]
  | resource =>
    replace hlength : s.length = 45 := hlength
    have hmark : (s.take 9).map Char.toLower = urnMark := by
      rw [List.map_take, h, inShape]
      exact List.take_left' (by decide)
    have hchars : (s.drop 9).map Char.toLower = a.chars := by
      rw [List.map_drop, h, inShape]
      exact List.drop_left' (by decide)
    rw [if_neg (by omega), if_neg (by omega), if_neg (by omega), if_pos ⟨hlength, hmark⟩,
      ofHyphenated?_eq_some_iff.2 hchars]

/-- **The reader takes an identifier in any shape and case, and nothing else.** -/
theorem readChars?_eq_some_iff :
    readChars? s = some a ↔ ∃ shape, s.map Char.toLower = a.inShape shape :=
  ⟨exists_shape_of_readChars?, fun ⟨_, h⟩ => readChars?_of_inShape h⟩

/-! ### Blanks around it -/

theorem isBlank_of_mem_inShape {shape : Shape} {c : Char} (hc : c ∈ a.inShape shape) :
    isBlank c = false := by
  have hmark : urnMark.all (fun c => !isBlank c) = true := by decide
  cases shape with
  | digits => exact isBlank_of_mem_fixedDigits hc
  | hyphenated => exact isBlank_of_mem_chars hc
  | braced =>
    rcases List.mem_cons.1 hc with rfl | hc
    · decide
    · rcases List.mem_append.1 hc with hc | hc
      · exact isBlank_of_mem_chars hc
      · rw [List.mem_singleton.1 hc]
        decide
  | resource =>
    rcases List.mem_append.1 hc with hc | hc
    · simpa using List.all_eq_true.1 hmark c hc
    · exact isBlank_of_mem_chars hc

/-- A text in one of the shapes has no blanks in it, whatever its case. -/
theorem trimChars_of_inShape {shape : Shape} (h : s.map Char.toLower = a.inShape shape) :
    trimChars s = s := by
  refine trimChars_of_forall fun c hc => ?_
  have hlower : isBlank c.toLower = false := by
    apply isBlank_of_mem_inShape
    rw [← h]
    exact List.mem_map_of_mem hc
  rwa [isBlank_toLower] at hlower

/-- **A text is read as an identifier if and only if it spells it.** -/
theorem parse?_eq_some_iff {text : String} : parse? text = some a ↔ a.IsSpelledBy text := by
  rw [parse?, readChars?_eq_some_iff]
  constructor
  · rintro ⟨shape, h⟩
    obtain ⟨before, after, hbefore, hafter, htext⟩ := exists_gaps text.toList
    exact ⟨before, _, after, shape, htext, hbefore, hafter, h⟩
  · rintro ⟨before, body, after, shape, htext, hbefore, hafter, h⟩
    refine ⟨shape, ?_⟩
    rw [htext, trimChars_gaps hbefore hafter, trimChars_of_inShape h, h]

end Identifier

end Chancery
