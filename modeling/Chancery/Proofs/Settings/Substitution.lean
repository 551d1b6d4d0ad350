import Chancery.Settings.Substitution
import Mathlib.Data.List.Infix

/-!
# What the forms of a variable come to

A variable is written alone, with a default, or with a message, and the text behind the name is
anything without a closing brace. A variable that is written alone or with a default is worth what
it should be, whatever stands in the default: what is looked for is the first `:-`, a name has no
colon, and so the first one is the one behind the name.

A message is different. Its form is only looked at when there is no `:-` in what stands between the
braces, and a message may have one. Then the name, the `:?` and the message up to there are taken
for the name of a variable, and the rest for its default. Nobody sets such a variable, so that what
comes out is the rest of the message, even where the variable is set. This is the only exception
(`formsMean_iff`).

## Main definitions

* `Substitution.IsName` — the names that can stand in each of the forms
* `Substitution.FormsMean` — what the forms are meant to be worth
* `Substitution.FormsYield` — what they are worth

## Main results

* `Substitution.splitAtMark?_append` — a text is split at the first mark
* `Substitution.expand_reference` — a reference is worth what stands between its braces
* `Substitution.forms_yield`, `Substitution.formsMean_iff`
-/

namespace Chancery.Substitution

variable {env : String → Option String} {mark : Char} {s inner before after : List Char}

/-! ### Splitting -/

/-- A text is split if the mark stands in it behind a colon, and only then. -/
theorem splitAtMark?_eq_none_iff : splitAtMark? mark s = none ↔ ¬ [':', mark] <:+: s := by
  induction s with
  | nil => simp [splitAtMark?]
  | cons c s ih =>
    have hhere : [':', mark] <+: c :: s ↔ c = ':' ∧ s.head? = some mark := by
      cases s <;> simp [eq_comm]
    rw [splitAtMark?, List.infix_cons_iff, hhere, not_or, ← ih]
    split
    · rename_i hhere
      simp [hhere]
    · rename_i hhere
      rw [Option.map_eq_none_iff]
      exact ⟨fun h => ⟨hhere, h⟩, And.right⟩

/-- **A text is split at the first mark**: in front of it there is none. -/
theorem splitAtMark?_append (hmark : mark ≠ ':') (hbefore : ¬ [':', mark] <:+: before) :
    splitAtMark? mark (before ++ ':' :: mark :: after) = some (before, after) := by
  induction before with
  | nil => simp [splitAtMark?]
  | cons c before ih =>
    -- The colon of the mark is not the mark itself, so none begins where the two parts meet.
    have hhere : ¬ (c = ':' ∧ (before ++ ':' :: mark :: after).head? = some mark) := by
      rintro ⟨rfl, hhead⟩
      cases before with
      | nil => exact hmark (Option.some.inj hhead).symm
      | cons d before =>
        rw [List.cons_append, List.head?_cons, Option.some.injEq] at hhead
        exact hbefore ⟨[], before, by rw [hhead]; rfl⟩
    have hrest : ¬ [':', mark] <:+: before := fun h => hbefore (List.infix_cons h)
    rw [List.cons_append, splitAtMark?, if_neg hhere, ih hrest, Option.map_some]

/-- A text without a colon has no mark in it. -/
theorem not_infix_of_notMem (h : ':' ∉ s) : ¬ [':', mark] <:+: s := fun hfound =>
  h (List.IsInfix.subset hfound List.mem_cons_self)

/-- The mark of a default is not found around the mark of a message, but behind it. -/
theorem infix_message_iff {name message : List Char} (hname : ':' ∉ name) :
    [':', '-'] <:+: name ++ ':' :: '?' :: message ↔ [':', '-'] <:+: message := by
  induction name with
  | nil => simp [List.infix_cons_iff]
  | cons c name ih =>
    have hc : ':' ≠ c := fun h => hname (h ▸ List.mem_cons_self)
    rw [List.cons_append, List.infix_cons_iff, ih fun h => hname (List.mem_cons_of_mem c h)]
    simp [hc]

/-! ### References -/

/-- A reference as it stands in a text. -/
def reference (inner : String) : String := "$\x7b" ++ inner ++ "\x7d"

theorem takeReference?_append (hne : inner ≠ []) (hinner : '}' ∉ inner) :
    takeReference? (inner ++ '}' :: after) = some (inner, after) := by
  have htake : (inner ++ '}' :: after).takeWhile (· ≠ '}') = inner := by
    rw [List.takeWhile_append_of_pos]
    · simp
    · intro c hc
      exact decide_eq_true fun h => hinner (h ▸ hc)
  simp only [takeReference?, htake, List.drop_left, List.isEmpty_iff, hne, if_false]

/-- **A reference that is the whole text is worth what stands between its braces.** -/
theorem expand_reference {inner : String} (hne : inner ≠ "") (hinner : '}' ∉ inner.toList) :
    expand env (reference inner) = (valueOf env inner.toList).map String.ofList := by
  have hlist : inner.toList ≠ [] := by simpa using hne
  have htext : (reference inner).toList = '$' :: '{' :: (inner.toList ++ '}' :: []) := by
    simp [reference]
  have htake : takeReference? (inner.toList ++ '}' :: []) = some (inner.toList, []) :=
    takeReference?_append hlist hinner
  rw [expand, htext, expandChars]
  split
  · rename_i inner' after' htake'
    rw [htake] at htake'
    obtain ⟨rfl, rfl⟩ := Prod.mk.inj (Option.some.inj htake')
    rw [expandChars]
    cases valueOf env inner.toList with
    | error => rfl
    | ok value => exact congrArg (fun s => Except.ok (String.ofList s)) (List.append_nil value)
  · rename_i htake'
    rw [htake] at htake'
    cases htake'

/-! ### The value of a form -/

/-- The value of a variable that has to be set. -/
def required (env : String → Option String) (name : String) (message : Option String) :
    Except Unset String :=
  match env name with
  | some value => .ok value
  | none => .error ⟨name, message⟩

/-- A name that can stand in each of the forms: there is something to it, and it ends neither
itself nor the reference. -/
def IsName (name : String) : Prop := name ≠ "" ∧ ':' ∉ name.toList ∧ '}' ∉ name.toList

instance : DecidablePred IsName := fun name =>
  inferInstanceAs (Decidable (name ≠ "" ∧ ':' ∉ name.toList ∧ '}' ∉ name.toList))

/-- What the forms of a variable are meant to be worth with a text in them. -/
structure FormsMean (env : String → Option String) (name text : String) : Prop where
  plain : expand env (reference name) = required env name none
  default : expand env (reference (name ++ ":-" ++ text)) = .ok ((env name).getD text)
  message : expand env (reference (name ++ ":?" ++ text)) = required env name (some text)

/-- What the forms of a variable are worth with a text in them. -/
structure FormsYield (env : String → Option String) (name text : String) : Prop where
  plain : expand env (reference name) = required env name none
  default : expand env (reference (name ++ ":-" ++ text)) = .ok ((env name).getD text)
  message : ¬ [':', '-'] <:+: text.toList →
    expand env (reference (name ++ ":?" ++ text)) = required env name (some text)
  /-- A message with the mark of a default in it is cut at the first one. -/
  cut : ∀ front rest, text = front ++ ":-" ++ rest → ¬ [':', '-'] <:+: front.toList →
    expand env (reference (name ++ ":?" ++ text)) =
      .ok ((env (name ++ ":?" ++ front)).getD rest)

variable {name text : String}

/-- What stands in front of the first mark of a default is looked up, whatever it is. -/
theorem expand_default (hname : ¬ [':', '-'] <:+: name.toList) (hbrace : '}' ∉ name.toList)
    (htext : '}' ∉ text.toList) :
    expand env (reference (name ++ ":-" ++ text)) = .ok ((env name).getD text) := by
  have hlist : (name ++ ":-" ++ text).toList = name.toList ++ ':' :: '-' :: text.toList := by
    simp
  have hne : name ++ ":-" ++ text ≠ "" := by
    intro h
    rw [h] at hlist
    simp at hlist
  have hinner : '}' ∉ (name ++ ":-" ++ text).toList := by simp [hbrace, htext]
  rw [expand_reference hne hinner, hlist, valueOf, splitAtMark?_append (by decide) hname]
  cases h : env name <;> simp [h, Except.map]

theorem expand_plain (hname : IsName name) :
    expand env (reference name) = required env name none := by
  obtain ⟨hne, hcolon, hbrace⟩ := hname
  have hnone : ∀ mark, splitAtMark? mark name.toList = none := fun mark =>
    splitAtMark?_eq_none_iff.2 (not_infix_of_notMem hcolon)
  rw [expand_reference hne hbrace, valueOf, hnone, hnone, required]
  cases h : env name <;> simp [h, Except.map]

theorem toList_message (name text : String) :
    (name ++ ":?" ++ text).toList = name.toList ++ ':' :: '?' :: text.toList := by
  simp

theorem expand_message (hname : IsName name) (htext : '}' ∉ text.toList)
    (hmark : ¬ [':', '-'] <:+: text.toList) :
    expand env (reference (name ++ ":?" ++ text)) = required env name (some text) := by
  obtain ⟨-, hcolon, hbrace⟩ := hname
  have hlist := toList_message name text
  have hne : name ++ ":?" ++ text ≠ "" := by
    intro h
    rw [h] at hlist
    simp at hlist
  have hinner : '}' ∉ (name ++ ":?" ++ text).toList := by simp [hbrace, htext]
  have hnone : splitAtMark? '-' (name.toList ++ ':' :: '?' :: text.toList) = none :=
    splitAtMark?_eq_none_iff.2 fun h => hmark ((infix_message_iff hcolon).1 h)
  rw [expand_reference hne hinner, hlist, valueOf, hnone,
    splitAtMark?_append (by decide) (not_infix_of_notMem hcolon), required]
  cases h : env name <;> simp [h, Except.map]

/-- A message is cut at its first `:-`, and what is looked up is the name with its front. -/
theorem expand_cut {front rest : String} (hname : IsName name)
    (htext : '}' ∉ (front ++ ":-" ++ rest).toList) (hfront : ¬ [':', '-'] <:+: front.toList) :
    expand env (reference (name ++ ":?" ++ (front ++ ":-" ++ rest))) =
      .ok ((env (name ++ ":?" ++ front)).getD rest) := by
  have hbraces : '}' ∉ front.toList ∧ '}' ∉ rest.toList := by simpa using htext
  have hlooked : ¬ [':', '-'] <:+: (name ++ ":?" ++ front).toList := by
    rwa [toList_message, infix_message_iff hname.2.1]
  have hbrace : '}' ∉ (name ++ ":?" ++ front).toList := by simp [hname.2.2, hbraces.1]
  have hassoc : name ++ ":?" ++ (front ++ ":-" ++ rest) =
      name ++ ":?" ++ front ++ ":-" ++ rest := by
    simp only [String.append_assoc]
  rw [hassoc]
  exact expand_default hlooked hbrace hbraces.2

/-- **What the forms of a variable are worth.** The name alone and the name with a default are
worth what they are meant to be, whatever stands in the default, and so is the name with a message
that has no `:-` in it. With one, the message is cut there, and what is looked up is the name with
the front of the message. -/
theorem forms_yield (env : String → Option String) (hname : IsName name)
    (htext : '}' ∉ text.toList) : FormsYield env name text where
  plain := expand_plain hname
  default := expand_default (not_infix_of_notMem hname.2.1) hname.2.2 htext
  message := expand_message hname htext
  cut := by
    rintro front rest rfl hfront
    exact expand_cut hname htext hfront

/-- An environment with one variable in it. -/
def only (name value : String) : String → Option String :=
  fun n => if n = name then some value else none

/-- A default keeps whatever it has of marks, and a message that asks a question keeps it. -/
theorem forms_yield_of_marks :
    IsName "DATABASE_URL" ∧ '}' ∉ "which? see 1:?2".toList ∧
      expand (only "HOME" "/root") (reference "DATABASE_URL:-which? see 1:?2") =
        .ok "which? see 1:?2" ∧
      expand (only "HOME" "/root") (reference "DATABASE_URL:?which? see 1:?2") =
        .error ⟨"DATABASE_URL", some "which? see 1:?2"⟩ := by
  have hname : IsName "DATABASE_URL" := by decide
  have htext : '}' ∉ "which? see 1:?2".toList := by decide
  have h := forms_yield (only "HOME" "/root") hname htext
  exact ⟨hname, htext, h.default, h.message (by decide)⟩

/-- A variable that is set is worth the rest of the message if its message has a `:-` in it. -/
theorem forms_mistaken :
    IsName "PORT" ∧ '}' ∉ "a range 1:-9".toList ∧
      expand (only "PORT" "80") (reference "PORT:?a range 1:-9") = .ok "9" ∧
      required (only "PORT" "80") "PORT" (some "a range 1:-9") = .ok "80" ∧
      ¬ FormsMean (only "PORT" "80") "PORT" "a range 1:-9" := by
  have hyields : expand (only "PORT" "80") (reference "PORT:?a range 1:-9") = .ok "9" := by
    decide +kernel
  have hmeant : required (only "PORT" "80") "PORT" (some "a range 1:-9") = .ok "80" := by decide
  refine ⟨by decide, by decide, hyields, hmeant, fun h => ?_⟩
  have hmessage := h.message
  rw [hmeant] at hmessage
  exact absurd (hyields.symm.trans hmessage) (by decide)

/-! ### When the forms mean what they say -/

/-- Where a mark stands in a text, there is a first one. -/
theorem exists_first_mark (h : [':', mark] <:+: s) :
    ∃ before after, s = before ++ ':' :: mark :: after ∧ ¬ [':', mark] <:+: before := by
  induction s with
  | nil => simp at h
  | cons c s ih =>
    by_cases hhere : [':', mark] <+: c :: s
    · obtain ⟨after, hafter⟩ := hhere
      exact ⟨[], after, hafter.symm, by simp⟩
    · obtain ⟨before, after, rfl, hbefore⟩ := ih ((List.infix_cons_iff.1 h).resolve_left hhere)
      refine ⟨c :: before, after, rfl, fun hfound => ?_⟩
      rcases List.infix_cons_iff.1 hfound with hstarts | hlater
      · exact hhere (hstarts.trans ⟨_, rfl⟩)
      · exact hbefore hlater

/-- **The forms mean what they say, in every environment, if and only if the text has no `:-` in
it.** -/
theorem formsMean_iff (hname : IsName name) (htext : '}' ∉ text.toList) :
    (∀ env, FormsMean env name text) ↔ ¬ [':', '-'] <:+: text.toList := by
  constructor
  · intro hmean hfound
    obtain ⟨before, after, hlist, hbefore⟩ := exists_first_mark hfound
    obtain ⟨front, rfl⟩ : ∃ front : String, front.toList = before := ⟨.ofList before, by simp⟩
    obtain ⟨rest, rfl⟩ : ∃ rest : String, rest.toList = after := ⟨.ofList after, by simp⟩
    obtain rfl : text = front ++ ":-" ++ rest := String.toList_inj.1 (by simp [hlist])
    -- The variable is set to what the rest of the message is not.
    have hmeant := (hmean (only name (rest ++ "."))).message
    have hother : name ++ ":?" ++ front ≠ name := by
      intro h
      exact hname.2.1 (h ▸ by simp)
    rw [expand_cut hname htext hbefore] at hmeant
    have hlonger : rest = rest ++ "." := by simpa [required, only, hother] using hmeant
    simpa using congrArg String.length hlonger
  · intro hmark env
    exact {
      plain := expand_plain hname
      default := expand_default (not_infix_of_notMem hname.2.1) hname.2.2 htext
      message := expand_message hname htext hmark }

/-! ### The wording -/

theorem infix_toList_append (a b c : String) : b.toList <:+: (a ++ b ++ c).toList :=
  ⟨a.toList, c.toList, by simp⟩

/-- The wording of a variable that is not set names it and has its message in it. -/
theorem Unset.infix_text (u : Unset) : u.name.toList <:+: u.text.toList ∧
    ∀ message ∈ u.message, message.toList <:+: u.text.toList := by
  unfold Unset.text
  -- What is worded around the two does not matter, and is long.
  generalize "Required environment variable '" = opening
  generalize "' is not set" = middle
  constructor
  · rw [String.append_assoc]
    exact infix_toList_append _ _ _
  · intro message hmessage
    have hstands := infix_toList_append (opening ++ u.name ++ middle ++ ": ") message ""
    rw [String.append_empty, String.append_assoc] at hstands
    rw [Option.mem_def.1 hmessage]
    exact hstands

end Chancery.Substitution
