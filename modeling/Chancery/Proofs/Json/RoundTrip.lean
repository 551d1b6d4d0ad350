import Chancery.Proofs.Json.Tokens
import Mathlib.Data.List.Forall2

/-!
# The text of a JSON value reads back

Values are printed in two layouts, on one line and on many, which differ only in the blanks between
tokens. Reading skips blanks between tokens, so that one argument serves both: a layout is what
stands at a line break and behind a colon, and both have to be blank.

The readers stop when their count of calls runs out, so the count has to be shown sufficient. The
length of the text is: every call takes at least one character of the value's own text.

Real numbers are left out. Their texts are kept as they were written, and nothing that the office
prints has one.

## Main definitions

* `Json.Plain` — no real number occurs in a value
* `Json.Reads` — a text is read as a value, whatever follows it
* `Json.Layout`, `Json.Layout.text` — a way of printing, and the text it gives

## Main results

* `Json.reads_arr`, `Json.reads_obj` — lists and records read if their parts do
* `Json.Layout.reads_text` — every layout
* `Json.parse?_compact`, `Json.parse?_pretty`
-/

namespace Chancery.Json

open Text

/-- No real number occurs in a value. -/
inductive Plain : Json → Prop where
  | null : Plain .null
  | bool (b : Bool) : Plain (.bool b)
  | int (n : Int) : Plain (.int n)
  | str (s : String) : Plain (.str s)
  | arr {items : List Json} (h : ∀ v ∈ items, Plain v) : Plain (.arr items)
  | obj {fields : List (String × Json)} (h : ∀ f ∈ fields, Plain f.2) : Plain (.obj fields)

/-! ### Values -/

/-- A text is read as a value: as many calls as it has characters are enough, and what follows it
is handed back unless it prolongs a number. -/
def Reads (v : Json) (s : List Char) : Prop :=
  ∀ fuel rest, s.length ≤ fuel → Follows rest → readValue? fuel (s ++ rest) = some (v, rest)

theorem reads_null : Reads .null (compact .null).toList := by
  intro fuel rest hfuel hrest
  cases fuel with
  | zero => cases hfuel
  | succ fuel => rfl

theorem reads_bool (b : Bool) : Reads (.bool b) (compact (.bool b)).toList := by
  intro fuel rest hfuel hrest
  cases fuel with
  | zero => cases b <;> cases hfuel
  | succ fuel => cases b <;> rfl

theorem reads_str (s : String) : Reads (.str s) (compact (.str s)).toList := by
  intro fuel rest hfuel hrest
  rw [compact, toList_quote] at hfuel ⊢
  cases fuel with
  | zero => cases hfuel
  | succ fuel =>
    simp only [List.cons_append, List.append_assoc, List.nil_append, readValue?,
      skipGap_cons (show isGap '"' = false by rfl), readString?_append, Option.map_some]

/-- A text that begins with a digit or a minus sign is read as a number. -/
theorem readValue?_number (fuel : Nat) {c : Char} (hc : isDigit c = true ∨ c = '-')
    (s : List Char) : readValue? (fuel + 1) (c :: s) = readNumber? (c :: s) := by
  have hne : ∀ d, isDigit d = false → d ≠ '-' → c ≠ d := by
    rintro d hd hminus rfl
    rcases hc with hc | hc
    · exact absurd (hc.symm.trans hd) (by decide)
    · exact hminus hc
  have hgap : isGap c = false := by
    simp only [isGap, Bool.or_eq_false_iff, decide_eq_false_iff_not]
    refine ⟨⟨⟨?_, ?_⟩, ?_⟩, ?_⟩ <;> exact hne _ (by decide) (by decide)
  rw [readValue?, skipGap_cons hgap]
  split
  case h_7 => rfl
  all_goals
    rename_i heq
    exact absurd (List.cons.inj heq).1 (hne _ (by decide) (by decide))

theorem reads_int (n : Int) : Reads (.int n) (compact (.int n)).toList := by
  intro fuel rest hfuel hrest
  have hfirst : ∃ c s, (toString n).toList = c :: s ∧ (isDigit c = true ∨ c = '-') := by
    rw [toList_toString_int]
    split
    · obtain ⟨c, s, hs, hc⟩ := (spells_toDigits n.natAbs).exists_cons
      exact ⟨c, s, hs, .inl hc⟩
    · exact ⟨_, _, rfl, .inr rfl⟩
  have hread := readNumber?_append n hrest
  obtain ⟨c, s, hs, hc⟩ := hfirst
  rw [compact] at hfuel ⊢
  rw [hs] at hfuel hread ⊢
  cases fuel with
  | zero => cases hfuel
  | succ fuel => rw [List.cons_append, readValue?_number fuel hc, ← List.cons_append, hread]

theorem follows_gap {g : List Char} (hg : IsGap g) {c : Char} (s : List Char)
    (hc : isDigit c = false ∧ c ≠ '.' ∧ c ≠ 'e' ∧ c ≠ 'E') : Follows (g ++ c :: s) := by
  cases g with
  | nil => exact follows_cons hc
  | cons d g =>
    have hd : ((d = ' ' ∨ d = '\n') ∨ d = '\t') ∨ d = '\r' := by
      simpa [isGap] using hg d List.mem_cons_self
    apply follows_cons
    rcases hd with ((rfl | rfl) | rfl) | rfl <;> decide

/-- Items with commas between them read back, up to the bracket. -/
theorem readItems?_intercalate {gap close : List Char} (hgap : IsGap gap) (hclose : IsGap close)
    {items : List Json} {texts : List (List Char)} (h : List.Forall₂ Reads items texts)
    (hne : items ≠ []) {fuel : Nat}
    (hfuel : (List.intercalate (',' :: gap) texts).length < fuel) (rest : List Char) :
    readItems? fuel (List.intercalate (',' :: gap) texts ++ (close ++ ']' :: rest)) =
      some (items, rest) := by
  -- Whether a bracket or a comma follows an item is decided by whether another item does.
  induction h generalizing fuel with
  | nil => exact absurd rfl hne
  | @cons v s items texts hv htail ih =>
    obtain ⟨fuel, rfl⟩ := Nat.exists_eq_succ_of_ne_zero (Nat.ne_of_gt (Nat.zero_lt_of_lt hfuel))
    cases htail with
    | nil =>
      rw [List.intercalate_singleton] at hfuel ⊢
      have hread := hv fuel (close ++ ']' :: rest) (by omega) (follows_gap hclose _ (by decide))
      simp only [readItems?, hread, skipGap_append hclose,
        skipGap_cons (show isGap ']' = false by rfl)]
    | @cons w t items texts hw htail =>
      rw [List.intercalate_cons_cons, List.length_append, List.length_append, List.length_cons]
        at hfuel
      have hread := hv fuel (',' :: (gap ++ (List.intercalate (',' :: gap) (t :: texts) ++
        (close ++ ']' :: rest)))) (by omega) (follows_cons (by decide))
      have hitems : readItems? fuel (gap ++ (List.intercalate (',' :: gap) (t :: texts) ++
          (close ++ ']' :: rest))) = some (w :: items, rest) := by
        rw [← readItems?_skipGap, skipGap_append hgap, readItems?_skipGap]
        exact ih (List.cons_ne_nil _ _) (by omega)
      simp only [List.intercalate_cons_cons, List.append_assoc, List.cons_append]
      simp only [readItems?, hread, skipGap_cons (show isGap ',' = false by rfl), hitems,
        Option.map_some]

/-- A text is read as a field: a name in quotes, a colon and the text of the value. -/
def ReadsField (gap : List Char) (f : String × Json) (s : List Char) : Prop :=
  ∃ value, s = (quote f.1).toList ++ ':' :: (gap ++ value) ∧ Reads f.2 value

/-- The name of a field reads back up to its colon, and the value up to what stands behind the
field. -/
theorem ReadsField.exists_name_value {gap : List Char} (hgap : IsGap gap) {f : String × Json}
    {s : List Char} (h : ReadsField gap f s) {fuel : Nat} (hfuel : s.length ≤ fuel)
    {rest : List Char} (hrest : Follows rest) :
    ∃ name value, s ++ rest = '"' :: name ∧ readString? name = some (f.1, ':' :: value) ∧
      readValue? fuel value = some (f.2, rest) := by
  obtain ⟨value, rfl, hv⟩ := h
  have hlen : value.length ≤ fuel := by
    rw [List.length_append, List.length_cons, List.length_append] at hfuel
    omega
  refine ⟨f.1.toList.flatMap escapeChar ++ '"' :: ':' :: (gap ++ (value ++ rest)),
    gap ++ (value ++ rest), by simp [toList_quote], readString?_append _ _, ?_⟩
  rw [← readValue?_skipGap, skipGap_append hgap, readValue?_skipGap]
  exact hv fuel rest hlen hrest

/-- Fields with commas between them read back, up to the brace. -/
theorem readFields?_intercalate {gap space close : List Char} (hgap : IsGap gap)
    (hspace : IsGap space) (hclose : IsGap close) {fields : List (String × Json)}
    {texts : List (List Char)} (h : List.Forall₂ (ReadsField space) fields texts)
    (hne : fields ≠ []) {fuel : Nat}
    (hfuel : (List.intercalate (',' :: gap) texts).length < fuel) (rest : List Char) :
    readFields? fuel (List.intercalate (',' :: gap) texts ++ (close ++ '}' :: rest)) =
      some (fields, rest) := by
  have hquote : isGap '"' = false := rfl
  have hcolon : isGap ':' = false := rfl
  induction h generalizing fuel with
  | nil => exact absurd rfl hne
  | @cons f s fields texts hf htail ih =>
    obtain ⟨fuel, rfl⟩ := Nat.exists_eq_succ_of_ne_zero (Nat.ne_of_gt (Nat.zero_lt_of_lt hfuel))
    cases htail with
    | nil =>
      rw [List.intercalate_singleton] at hfuel ⊢
      have hfollows : Follows (close ++ '}' :: rest) := follows_gap hclose _ (by decide)
      obtain ⟨name, value, heq, hname, hvalue⟩ :=
        hf.exists_name_value hspace (show s.length ≤ fuel by omega) hfollows
      rw [heq]
      simp only [readFields?, skipGap_cons hquote, hname, skipGap_cons hcolon, hvalue,
        skipGap_append hclose, skipGap_cons (show isGap '}' = false by rfl)]
    | @cons f' t fields texts hf' htail =>
      rw [List.intercalate_cons_cons, List.length_append, List.length_append, List.length_cons]
        at hfuel
      have hfields : readFields? fuel (gap ++ (List.intercalate (',' :: gap) (t :: texts) ++
          (close ++ '}' :: rest))) = some (f' :: fields, rest) := by
        rw [← readFields?_skipGap, skipGap_append hgap, readFields?_skipGap]
        exact ih (List.cons_ne_nil _ _) (by omega)
      have hfollows : Follows (',' :: (gap ++ (List.intercalate (',' :: gap) (t :: texts) ++
          (close ++ '}' :: rest)))) := follows_cons (by decide)
      obtain ⟨name, value, heq, hname, hvalue⟩ :=
        hf.exists_name_value hspace (show s.length ≤ fuel by omega) hfollows
      simp only [List.intercalate_cons_cons, List.append_assoc, List.cons_append]
      rw [heq]
      simp only [readFields?, skipGap_cons hquote, hname, skipGap_cons hcolon, hvalue,
        skipGap_cons (show isGap ',' = false by rfl), hfields, Option.map_some]

theorem readItems?_bracket (fuel : Nat) (rest : List Char) :
    readItems? fuel (']' :: rest) = none := by
  match fuel with
  | 0 | 1 | fuel + 2 => rfl

theorem readFields?_brace (fuel : Nat) (rest : List Char) :
    readFields? fuel ('\x7d' :: rest) = none := by
  cases fuel <;> rfl

theorem reads_arr_nil : Reads (.arr []) ['[', ']'] := by
  intro fuel rest hfuel hrest
  cases fuel with
  | zero => cases hfuel
  | succ fuel => rfl

theorem reads_obj_nil : Reads (.obj []) ['\x7b', '\x7d'] := by
  intro fuel rest hfuel hrest
  cases fuel with
  | zero => cases hfuel
  | succ fuel => rfl

/-- A list is read if its items are. -/
theorem reads_arr {gap close : List Char} (hgap : IsGap gap) (hclose : IsGap close)
    {items : List Json} {texts : List (List Char)} (h : List.Forall₂ Reads items texts)
    (hne : items ≠ []) :
    Reads (.arr items)
      ('[' :: (gap ++ (List.intercalate (',' :: gap) texts ++ (close ++ [']'])))) := by
  intro fuel rest hfuel hrest
  simp only [List.length_cons, List.length_append, List.length_nil] at hfuel
  obtain ⟨fuel, rfl⟩ := Nat.exists_eq_succ_of_ne_zero (show fuel ≠ 0 by omega)
  have hitems := readItems?_intercalate hgap hclose h hne (show _ < fuel by omega) rest
  -- The reader looks for the closing bracket first, and items that begin with one do not read.
  have hfirst : ∀ r, skipGap (List.intercalate (',' :: gap) texts ++ (close ++ ']' :: rest)) ≠
      ']' :: r := by
    intro r heq
    rw [← readItems?_skipGap, heq, readItems?_bracket] at hitems
    cases hitems
  simp only [List.cons_append, List.append_assoc, List.nil_append, readValue?,
    skipGap_cons (show isGap '[' = false by rfl), skipGap_append hgap]
  rw [readItems?_skipGap, hitems, Option.map_some]

/-- A record is read if its fields are. -/
theorem reads_obj {gap space close : List Char} (hgap : IsGap gap) (hspace : IsGap space)
    (hclose : IsGap close) {fields : List (String × Json)} {texts : List (List Char)}
    (h : List.Forall₂ (ReadsField space) fields texts) (hne : fields ≠ []) :
    Reads (.obj fields)
      ('\x7b' :: (gap ++ (List.intercalate (',' :: gap) texts ++ (close ++ ['\x7d'])))) := by
  intro fuel rest hfuel hrest
  simp only [List.length_cons, List.length_append, List.length_nil] at hfuel
  obtain ⟨fuel, rfl⟩ := Nat.exists_eq_succ_of_ne_zero (show fuel ≠ 0 by omega)
  have hfields := readFields?_intercalate hgap hspace hclose h hne (show _ < fuel by omega) rest
  have hfirst : ∀ r, skipGap (List.intercalate (',' :: gap) texts ++ (close ++ '\x7d' :: rest)) ≠
      '\x7d' :: r := by
    intro r heq
    rw [← readFields?_skipGap, heq, readFields?_brace] at hfields
    cases hfields
  simp only [List.cons_append, List.append_assoc, List.nil_append, readValue?,
    skipGap_cons (show isGap '\x7b' = false by rfl), skipGap_append hgap]
  rw [readFields?_skipGap, hfields, Option.map_some]

/-! ### Layouts -/

/-- A way of printing: what stands at a line break of a depth, and behind a colon. -/
structure Layout where
  lineBreak : Nat → String
  space : String
  isGap_lineBreak : ∀ depth, IsGap (lineBreak depth).toList
  isGap_space : IsGap space.toList

namespace Layout

/-- Everything on one line, without blanks. -/
def oneLine : Layout := ⟨fun _ => "", "", fun _ => isGap_nil, isGap_nil⟩

theorem isGap_lineBreak_indented (depth : Nat) : IsGap (Json.lineBreak depth).toList := by
  intro c hc
  simp only [Json.lineBreak, String.toList_append, String.toList_ofList, List.mem_append,
    List.mem_replicate] at hc
  rcases hc with hc | ⟨-, rfl⟩
  · obtain rfl : c = '\n' := by simpa using hc
    rfl
  · rfl

/-- A line for each field and item. -/
def indented : Layout where
  lineBreak := Json.lineBreak
  space := " "
  isGap_lineBreak := isGap_lineBreak_indented
  isGap_space := by simp [IsGap, isGap]

/-- Texts between two brackets; nothing at all between them when there are none. -/
def block (l : Layout) (left right : String) (depth : Nat) (texts : List String) : String :=
  if texts.isEmpty then left ++ right
  else
    left ++ l.lineBreak (depth + 1) ++ ("," ++ l.lineBreak (depth + 1)).intercalate texts
      ++ l.lineBreak depth ++ right

mutual

/-- The text of a value at a depth. -/
def text (l : Layout) (depth : Nat) : Json → String
  | .arr items => l.block "[" "]" depth (l.itemTexts (depth + 1) items)
  | .obj fields => l.block "\x7b" "\x7d" depth (l.fieldTexts (depth + 1) fields)
  | v => compact v

/-- The texts of items. -/
def itemTexts (l : Layout) (depth : Nat) : List Json → List String
  | [] => []
  | v :: rest => l.text depth v :: l.itemTexts depth rest

/-- The texts of fields. -/
def fieldTexts (l : Layout) (depth : Nat) : List (String × Json) → List String
  | [] => []
  | (name, v) :: rest =>
    (quote name ++ (":" ++ l.space) ++ l.text depth v) :: l.fieldTexts depth rest

end

theorem block_oneLine (left right : String) (depth : Nat) (texts : List String) :
    oneLine.block left right depth texts = left ++ ",".intercalate texts ++ right := by
  unfold block
  split
  · rename_i h
    rw [List.isEmpty_iff.1 h]
    simp
  · simp [oneLine]

mutual

theorem text_oneLine (depth : Nat) : ∀ v, oneLine.text depth v = compact v
  | .arr items => by
    rw [text, block_oneLine, itemTexts_oneLine, compact]
  | .obj fields => by
    rw [text, block_oneLine, fieldTexts_oneLine, compact]
  | .null | .bool _ | .int _ | .real _ | .str _ => by simp [text]

theorem itemTexts_oneLine (depth : Nat) :
    ∀ items, oneLine.itemTexts depth items = compactItems items
  | [] => rfl
  | v :: rest => by
    rw [itemTexts, compactItems, text_oneLine, itemTexts_oneLine]

theorem fieldTexts_oneLine (depth : Nat) :
    ∀ fields, oneLine.fieldTexts depth fields = compactFields fields
  | [] => rfl
  | (name, v) :: rest => by
    rw [fieldTexts, compactFields, text_oneLine, fieldTexts_oneLine]
    rfl

end

mutual

theorem text_indented (depth : Nat) : ∀ v, indented.text depth v = prettyAt depth v
  | .arr items => by
    rw [text, itemTexts_indented, prettyAt]
    rfl
  | .obj fields => by
    rw [text, fieldTexts_indented, prettyAt]
    rfl
  | .null | .bool _ | .int _ | .real _ | .str _ => by simp [text, prettyAt]

theorem itemTexts_indented (depth : Nat) :
    ∀ items, indented.itemTexts depth items = prettyItems depth items
  | [] => rfl
  | v :: rest => by
    rw [itemTexts, prettyItems, text_indented, itemTexts_indented]

theorem fieldTexts_indented (depth : Nat) :
    ∀ fields, indented.fieldTexts depth fields = prettyFields depth fields
  | [] => rfl
  | (name, v) :: rest => by
    rw [fieldTexts, prettyFields, text_indented, fieldTexts_indented]
    rfl

end

/-! ### Reading a layout -/

theorem itemTexts_eq_map (l : Layout) (depth : Nat) (items : List Json) :
    l.itemTexts depth items = items.map (l.text depth) := by
  induction items with
  | nil => rfl
  | cons v items ih => rw [itemTexts, ih, List.map_cons]

theorem fieldTexts_eq_map (l : Layout) (depth : Nat) (fields : List (String × Json)) :
    l.fieldTexts depth fields =
      fields.map fun f => quote f.1 ++ (":" ++ l.space) ++ l.text depth f.2 := by
  induction fields with
  | nil => rfl
  | cons f fields ih => rw [fieldTexts, ih, List.map_cons]

theorem block_nil (l : Layout) (left right : String) (depth : Nat) :
    l.block left right depth [] = left ++ right := rfl

theorem toList_block (l : Layout) (left right : String) (depth : Nat) {texts : List String}
    (hne : texts ≠ []) :
    (l.block left right depth texts).toList = left.toList ++ ((l.lineBreak (depth + 1)).toList ++
      (List.intercalate (',' :: (l.lineBreak (depth + 1)).toList) (texts.map String.toList) ++
        ((l.lineBreak depth).toList ++ right.toList))) := by
  rw [block, if_neg (by simpa using hne)]
  simp [String.toList_intercalate]

/-- The text of a value in any layout reads back. -/
theorem reads_text (l : Layout) {v : Json} (hv : v.Plain) (depth : Nat) :
    Reads v (l.text depth v).toList := by
  induction hv generalizing depth with
  | null => exact reads_null
  | bool b => exact reads_bool b
  | int n => exact reads_int n
  | str s => exact reads_str s
  | @arr items _ ih =>
    rw [text, itemTexts_eq_map]
    by_cases hne : items = []
    · subst hne
      rw [List.map_nil, block_nil]
      exact reads_arr_nil
    · rw [toList_block _ _ _ _ (by simpa using hne)]
      refine reads_arr (l.isGap_lineBreak _) (l.isGap_lineBreak _) ?_ hne
      rw [List.map_map, List.forall₂_map_right_iff, List.forall₂_same]
      exact fun v hv => ih v hv _
  | @obj fields _ ih =>
    rw [text, fieldTexts_eq_map]
    by_cases hne : fields = []
    · subst hne
      rw [List.map_nil, block_nil]
      exact reads_obj_nil
    · rw [toList_block _ _ _ _ (by simpa using hne)]
      refine reads_obj (l.isGap_lineBreak _) l.isGap_space (l.isGap_lineBreak _) ?_ hne
      rw [List.map_map, List.forall₂_map_right_iff, List.forall₂_same]
      exact fun f hf => ⟨(l.text (depth + 1) f.2).toList, by simp, ih f hf _⟩

end Layout

/-- A text that is read as a value spells it. -/
theorem parse?_eq_of_reads {v : Json} {s : String} (h : Reads v s.toList) : parse? s = some v := by
  have hread := h (2 * s.toList.length + 2) [] (by omega) follows_nil
  rw [List.append_nil] at hread
  simp [parse?, hread, skipGap]

/-- **A value printed on one line reads back.** -/
theorem parse?_compact {v : Json} (hv : v.Plain) : parse? v.compact = some v := by
  have h := Layout.oneLine.reads_text hv 0
  rw [Layout.text_oneLine] at h
  exact parse?_eq_of_reads h

/-- **A value printed on many lines reads back.** -/
theorem parse?_pretty {v : Json} (hv : v.Plain) : parse? v.pretty = some v := by
  have h := Layout.indented.reads_text hv 0
  rw [Layout.text_indented] at h
  exact parse?_eq_of_reads h

end Chancery.Json
