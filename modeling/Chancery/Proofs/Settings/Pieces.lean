import Chancery.Proofs.Settings.Substitution
import Mathlib.Data.List.TakeWhile

/-!
# A text is expanded in one pass

Where the references of a text are does not depend on what they are worth. A text falls into pieces:
references, each the first one behind the last, and what is left between them. Which pieces these
are is said here without the expansion, by what begins where, and a text has one such division.
Expanding it copies what is left between the references and puts in what the references are worth,
and that is all: nothing that was put in is looked at again, since the pieces are those of the text.

The expansion is therefore local. A text can be cut wherever no reference is open, and its two parts
expanded apart.

## Main definitions

* `Substitution.Leads` — a reference stands at the front of a text
* `Substitution.Piece`, `Substitution.Splits` — the pieces of a text
* `Substitution.IsClosed` — a text at whose end no reference is open
* `Substitution.IsLocalPass` — what a local pass from left to right does

## Main results

* `Substitution.existsUnique_splits` — a text falls into pieces in one way
* `Substitution.expandChars_of_splits` — expanding is taking the pieces for what they are worth
* `Substitution.expandChars_append` — expanding is local
* `Substitution.expand_isLocalPass`
-/

namespace Chancery.Substitution

variable {env : String → Option String} {s a b inner front rest after : List Char}

/-! ### References at the front -/

/-- What can stand between the braces of a reference. -/
def IsInner (inner : List Char) : Prop := inner ≠ [] ∧ '}' ∉ inner

instance : DecidablePred IsInner := fun inner =>
  inferInstanceAs (Decidable (inner ≠ [] ∧ '}' ∉ inner))

/-- A reference with its braces. -/
def braced (inner : List Char) : List Char := '$' :: '{' :: (inner ++ ['}'])

/-- A reference stands at the front of a text. -/
def Leads (s : List Char) : Prop := ∃ inner after, IsInner inner ∧ s = braced inner ++ after

theorem braced_append (inner after : List Char) :
    braced inner ++ after = '$' :: '{' :: (inner ++ '}' :: after) := by
  simp [braced]

theorem not_leads_nil : ¬ Leads [] := by
  rintro ⟨inner, after, -, h⟩
  simp [braced] at h

theorem takeReference?_of_isInner (h : IsInner inner) :
    takeReference? (inner ++ '}' :: after) = some (inner, after) :=
  takeReference?_append h.1 h.2

/-- A reference is taken only where one stands. -/
theorem eq_of_takeReference? (h : takeReference? s = some (inner, after)) :
    IsInner inner ∧ s = inner ++ '}' :: after := by
  have hsplit : s.takeWhile (· ≠ '}') ++ s.dropWhile (· ≠ '}') = s :=
    List.takeWhile_append_dropWhile
  have hdrop : s.drop (s.takeWhile (· ≠ '}')).length = s.dropWhile (· ≠ '}') := by
    have hrest : (s.takeWhile (· ≠ '}') ++ s.dropWhile (· ≠ '}')).drop
        (s.takeWhile (· ≠ '}')).length = s.dropWhile (· ≠ '}') := List.drop_left
    rwa [hsplit] at hrest
  have hbefore : '}' ∉ s.takeWhile (· ≠ '}') := fun hmem => by
    simpa using List.mem_takeWhile_imp hmem
  simp only [takeReference?, hdrop] at h
  split at h
  · cases h
  · rename_i c after' hrest
    have hhead := List.head?_dropWhile_not (· ≠ '}') s
    rw [hrest] at hhead
    obtain rfl : c = '}' := by simpa using hhead
    split at h
    · cases h
    · rename_i hne
      obtain ⟨rfl, rfl⟩ := Prod.mk.inj (Option.some.inj h)
      exact ⟨⟨by simpa using hne, hbefore⟩, by rw [← hrest, hsplit]⟩

/-- The reference at the front of a text is one only. -/
theorem braced_append_inj {inner' after' : List Char} (h : IsInner inner) (h' : IsInner inner')
    (heq : braced inner ++ after = braced inner' ++ after') : inner = inner' ∧ after = after' := by
  simp only [braced_append, List.cons.injEq, true_and] at heq
  have htake : takeReference? (inner ++ '}' :: after) = some (inner', after') :=
    heq ▸ takeReference?_of_isInner h'
  rw [takeReference?_of_isInner h] at htake
  exact Prod.mk.inj (Option.some.inj htake)

/-! ### One step -/

/-- A reference at the front is put in for what it is worth. -/
theorem expandChars_braced (h : IsInner inner) :
    expandChars env (braced inner ++ after) =
      (do return (← valueOf env inner) ++ (← expandChars env after)) := by
  have htake : takeReference? (inner ++ '}' :: after) = some (inner, after) :=
    takeReference?_of_isInner h
  rw [braced_append, expandChars]
  split
  · rename_i inner' after' htake'
    rw [htake] at htake'
    obtain ⟨rfl, rfl⟩ := Prod.mk.inj (Option.some.inj htake')
    rfl
  · rename_i htake'
    rw [htake] at htake'
    cases htake'

/-- A character that begins no reference is copied. -/
theorem expandChars_cons {c : Char} (h : ¬ Leads (c :: rest)) :
    expandChars env (c :: rest) = (do return c :: (← expandChars env rest)) := by
  by_cases hopen : c = '$' ∧ ∃ behind, rest = '{' :: behind
  · obtain ⟨rfl, behind, rfl⟩ := hopen
    rw [expandChars]
    split
    · rename_i inner after htake
      obtain ⟨hinner, rfl⟩ := eq_of_takeReference? htake
      exact absurd ⟨inner, after, hinner, (braced_append inner after).symm⟩ h
    · rfl
  · rw [expandChars]
    rintro behind rfl rfl
    exact hopen ⟨rfl, behind, rfl⟩

/-- A text is read reference by reference, and between them character by character. -/
@[elab_as_elim]
theorem passInduction {motive : List Char → Prop} (nil : motive [])
    (reference : ∀ inner after, IsInner inner → motive after → motive (braced inner ++ after))
    (copy : ∀ c rest, ¬ Leads (c :: rest) → motive rest → motive (c :: rest)) (s : List Char) :
    motive s := by
  match s with
  | [] => exact nil
  | c :: rest =>
    by_cases hlead : Leads (c :: rest)
    · obtain ⟨inner, after, hinner, heq⟩ := hlead
      have hshorter : after.length < (c :: rest).length := by
        rw [heq, braced_append]
        simp only [List.length_cons, List.length_append]
        omega
      rw [heq]
      exact reference inner after hinner (passInduction nil reference copy after)
    · exact copy c rest hlead (passInduction nil reference copy rest)
termination_by s.length
decreasing_by
  · exact hshorter
  · exact Nat.lt_succ_self rest.length

/-! ### Pieces -/

/-- A piece of a text: one that is copied, or a reference. -/
inductive Piece where
  | literal (text : List Char)
  | reference (inner : List Char)

/-- A piece as it stands in the text. -/
def Piece.source : Piece → List Char
  | .literal text => text
  | .reference inner => braced inner

/-- What a piece is worth. -/
def Piece.worth (env : String → Option String) : Piece → Except Unset (List Char)
  | .literal text => .ok text
  | .reference inner => valueOf env inner

/-- No reference begins in a text that something follows. -/
def Untouched (front rest : List Char) : Prop :=
  ∀ back, back <:+ front → back ≠ [] → ¬ Leads (back ++ rest)

/-- The pieces of a text: what is in front of the first reference, that reference, and the pieces of
what follows it. -/
inductive Splits : List Char → List Piece → Prop
  | rest {s : List Char} : Untouched s [] → Splits s [.literal s]
  | next {front inner after : List Char} {pieces : List Piece} :
    Untouched front (braced inner ++ after) → IsInner inner → Splits after pieces →
      Splits (front ++ (braced inner ++ after)) (.literal front :: .reference inner :: pieces)

theorem untouched_nil : Untouched [] rest := fun _ hback hne =>
  absurd (List.suffix_nil.1 hback) hne

theorem Untouched.cons {c : Char} (h : Untouched front rest)
    (hlead : ¬ Leads (c :: front ++ rest)) : Untouched (c :: front) rest := by
  intro back hback hne
  rcases List.suffix_cons_iff.1 hback with rfl | hback
  · exact hlead
  · exact h back hback hne

/-- The pieces of a text make it up. -/
theorem Splits.flatMap_source {pieces : List Piece} (h : Splits s pieces) :
    pieces.flatMap Piece.source = s := by
  induction h with
  | rest => simp [Piece.source]
  | next _ _ _ ih => simp [Piece.source, ih]

theorem exists_splits (s : List Char) : ∃ pieces, Splits s pieces := by
  induction s using passInduction with
  | nil => exact ⟨_, .rest untouched_nil⟩
  | reference inner after hinner ih =>
    obtain ⟨pieces, h⟩ := ih
    exact ⟨_, .next untouched_nil hinner h⟩
  | copy c rest hlead ih =>
    obtain ⟨pieces, h⟩ := ih
    cases h with
    | rest hfront => exact ⟨_, .rest (hfront.cons (by simpa using hlead))⟩
    | @next front inner after pieces hfront hinner hafter =>
      have hsplits : Splits (c :: front ++ (braced inner ++ after))
          (.literal (c :: front) :: .reference inner :: pieces) :=
        .next (hfront.cons hlead) hinner hafter
      exact ⟨_, hsplits⟩

/-- A front in which no reference begins does not reach beyond where one stands. -/
theorem Untouched.length_le {front' rest' : List Char} (h : Untouched front' rest')
    (hlead : Leads rest) (heq : front ++ rest = front' ++ rest') :
    front'.length ≤ front.length := by
  rcases List.append_eq_append_iff.1 heq with ⟨between, rfl, hrest⟩ | ⟨between, rfl, -⟩
  · have hnone : between = [] := by
      by_contra hne
      exact h between (List.suffix_append front between) hne (hrest ▸ hlead)
    simp [hnone]
  · simp

theorem leads_braced_append (h : IsInner inner) (after : List Char) :
    Leads (braced inner ++ after) :=
  ⟨inner, after, h, rfl⟩

/-- Where a reference stands, some do begin. -/
theorem not_untouched_of_leads (h : Leads rest) : ¬ Untouched (front ++ rest) [] := fun hnone =>
  hnone rest (List.suffix_append front rest) (fun hnil => not_leads_nil (hnil ▸ h))
    (by rwa [List.append_nil])

theorem Splits.unique {pieces pieces' : List Piece} (h : Splits s pieces) (h' : Splits s pieces') :
    pieces = pieces' := by
  induction h generalizing pieces' with
  | rest hs =>
    cases h' with
    | rest => rfl
    | next _ hinner _ => exact absurd hs (not_untouched_of_leads (leads_braced_append hinner _))
  | @next front inner after pieces hfront hinner _ ih =>
    generalize hs : front ++ (braced inner ++ after) = s at h'
    cases h' with
    | rest hnone =>
      exact absurd (hs ▸ hnone) (not_untouched_of_leads (leads_braced_append hinner after))
    | @next front' inner' after' pieces' hfront' hinner' hafter' =>
      have hlength : front.length = front'.length := le_antisymm
        (hfront.length_le (leads_braced_append hinner' after') hs.symm)
        (hfront'.length_le (leads_braced_append hinner after) hs)
      obtain ⟨rfl, hrest⟩ := List.append_inj hs hlength
      obtain ⟨rfl, rfl⟩ := braced_append_inj hinner hinner' hrest
      rw [ih hafter']

/-- **A text falls into pieces in one way.** -/
theorem existsUnique_splits (s : List Char) : ∃! pieces, Splits s pieces := by
  obtain ⟨pieces, h⟩ := exists_splits s
  exact ⟨pieces, h, fun _ h' => h'.unique h⟩

/-- What no reference begins in is copied. -/
theorem expandChars_of_untouched (h : Untouched front rest) :
    expandChars env (front ++ rest) = (do return front ++ (← expandChars env rest)) := by
  induction front with
  | nil => simp
  | cons c front ih =>
    have hlead : ¬ Leads (c :: (front ++ rest)) := h _ (List.suffix_refl _) (by simp)
    have hfront : Untouched front rest := fun back hback hne =>
      h back (hback.trans (List.suffix_cons c front)) hne
    rw [List.cons_append, expandChars_cons hlead, ih hfront]
    simp

theorem expandChars_nil : expandChars env [] = .ok [] := by
  rw [expandChars]

theorem expandChars_of_untouched_nil (h : Untouched s []) : expandChars env s = .ok s := by
  calc expandChars env s = expandChars env (s ++ []) := by rw [List.append_nil]
    _ = .ok (s ++ []) := by
      rw [expandChars_of_untouched h, expandChars_nil]
      rfl
    _ = .ok s := by rw [List.append_nil]

/-- What the pieces of a text come to, the first that fails being the failure of the whole. -/
def worthOf (env : String → Option String) (pieces : List Piece) : Except Unset (List Char) := do
  return (← pieces.mapM (Piece.worth env)).flatten

/-- **Expanding a text is taking its pieces for what they are worth.** -/
theorem expandChars_of_splits {pieces : List Piece} (h : Splits s pieces) :
    expandChars env s = worthOf env pieces := by
  induction h with
  | rest hs =>
    rw [expandChars_of_untouched_nil hs]
    exact congrArg Except.ok (List.append_nil _).symm
  | next hfront hinner _ ih =>
    rw [expandChars_of_untouched hfront, expandChars_braced hinner, ih]
    simp only [worthOf, List.mapM_cons, Piece.worth, bind_assoc, pure_bind, List.flatten_cons]
    rfl

/-! ### Locality -/

/-- No reference is open at the end of a text: it does not end in a dollar sign, and wherever a
brace is opened behind one, a brace is closed later. -/
structure IsClosed (s : List Char) : Prop where
  last : s.getLast? ≠ some '$'
  closes : ∀ back, back <:+ s → ['$', '{'] <+: back → '}' ∈ back

theorem isClosed_iff : IsClosed s ↔
    s.getLast? ≠ some '$' ∧ ∀ back ∈ s.tails, ['$', '{'] <+: back → '}' ∈ back := by
  simp only [List.mem_tails]
  exact ⟨fun h => ⟨h.last, h.closes⟩, fun h => ⟨h.1, h.2⟩⟩

instance : DecidablePred IsClosed := fun _ => decidable_of_iff' _ isClosed_iff

/-- A text that ends in a closing brace is closed. -/
theorem isClosed_concat (s : List Char) : IsClosed (s ++ ['}']) where
  last := by simp
  closes back hback hstart := by
    rcases List.suffix_concat_iff.1 hback with rfl | ⟨front, rfl, -⟩
    · simp at hstart
    · simp

theorem IsClosed.of_append (h : IsClosed (a ++ b)) : IsClosed b where
  last := by
    intro hlast
    refine h.last ?_
    rw [List.getLast?_append, hlast]
    rfl
  closes back hback := h.closes back (hback.trans (List.suffix_append a b))

/-- What is appended to a closed text makes no reference at its front. -/
theorem IsClosed.leads_of_append (h : IsClosed a) (hne : a ≠ []) (hlead : Leads (a ++ b)) :
    Leads a := by
  obtain ⟨inner, after, hinner, heq⟩ := hlead
  rw [braced_append] at heq
  match a, hne with
  | [c], _ =>
    obtain ⟨rfl, -⟩ := List.cons.inj heq
    exact absurd rfl h.last
  | c :: d :: rest, _ =>
    simp only [List.cons_append, List.cons.injEq] at heq
    obtain ⟨rfl, rfl, heq⟩ := heq
    have hbrace : '}' ∈ rest := by
      simpa using h.closes _ (List.suffix_refl _) ⟨rest, rfl⟩
    -- The closing brace that is in the text already is the one that ends the reference.
    rcases List.append_eq_append_iff.1 heq with ⟨between, rfl, -⟩ | ⟨between, rfl, hafter⟩
    · exact absurd (List.mem_append_left between hbrace) hinner.2
    · cases between with
      | nil => exact absurd (by simpa using hbrace) hinner.2
      | cons e between =>
        obtain ⟨rfl, -⟩ := List.cons.inj hafter
        exact ⟨inner, between, hinner, (braced_append inner between).symm⟩

/-- **Expanding is local**: a text that is cut where no reference is open is expanded part by
part. -/
theorem expandChars_append (h : IsClosed a) :
    expandChars env (a ++ b) = (do return (← expandChars env a) ++ (← expandChars env b)) := by
  induction a using passInduction with
  | nil =>
    rw [expandChars_nil]
    exact (bind_pure (expandChars env b)).symm
  | reference inner after hinner ih =>
    rw [List.append_assoc, expandChars_braced hinner, expandChars_braced hinner, ih h.of_append]
    simp only [bind_assoc, pure_bind, List.append_assoc]
  | copy c rest hlead ih =>
    have hlead' : ¬ Leads (c :: (rest ++ b)) := fun hl =>
      hlead (h.leads_of_append (List.cons_ne_nil c rest) hl)
    have hrest : IsClosed rest := IsClosed.of_append (a := [c]) h
    rw [List.cons_append, expandChars_cons hlead', expandChars_cons hlead, ih hrest]
    simp

/-- Where no brace is opened behind a dollar sign, no reference begins. -/
theorem untouched_of_unmarked (h : ¬ ['$', '{'] <:+: s) : Untouched s [] := by
  rintro back hback - ⟨inner, after, -, heq⟩
  rw [List.append_nil, braced_append] at heq
  have hstart : ['$', '{'] <+: back := ⟨inner ++ '}' :: after, by rw [heq]; rfl⟩
  exact h (hstart.isInfix.trans hback.isInfix)

/-! ### Texts -/

/-- What a reference in a text is worth. -/
def valueText (env : String → Option String) (inner : String) : Except Unset String :=
  (valueOf env inner.toList).map String.ofList

/-- What a local pass from left to right does with texts. -/
structure IsLocalPass (env : String → Option String) : Prop where
  /-- A text that is cut where no reference is open comes to what its parts come to. If both of them
  fail, it fails as the first one does. -/
  append : ∀ a b : String, IsClosed a.toList →
    expand env (a ++ b) = (do return (← expand env a) ++ (← expand env b))
  /-- Without a dollar sign in front of an opening brace there is nothing to expand. -/
  plain : ∀ text : String, ¬ ['$', '{'] <:+: text.toList → expand env text = .ok text
  /-- Braces around nothing are kept. -/
  empty : ∀ a b : String, IsClosed a.toList → expand env (a ++ reference "" ++ b) =
    (do return (← expand env a) ++ reference "" ++ (← expand env b))
  /-- What a reference is worth is put in as it is, whatever it looks like. -/
  inserted : ∀ a inner b : String, IsClosed a.toList → IsInner inner.toList →
    expand env (a ++ reference inner ++ b) =
      (do return (← expand env a) ++ (← valueText env inner) ++ (← expand env b))
  /-- The pieces of a text do not depend on the environment, and they make it up. -/
  pieces : ∀ text : String, ∃! pieces, Splits text.toList pieces
  source : ∀ (text : String) pieces, Splits text.toList pieces →
    pieces.flatMap Piece.source = text.toList
  worth : ∀ (text : String) pieces, Splits text.toList pieces →
    expand env text = (worthOf env pieces).map String.ofList

theorem expand_append {a b : String} (h : IsClosed a.toList) :
    expand env (a ++ b) = (do return (← expand env a) ++ (← expand env b)) := by
  rw [expand, String.toList_append, expandChars_append h, expand, expand]
  cases expandChars env a.toList with
  | error => rfl
  | ok x =>
    cases expandChars env b.toList with
    | error => rfl
    | ok y => exact congrArg Except.ok String.ofList_append

theorem expand_plain_text {text : String} (h : ¬ ['$', '{'] <:+: text.toList) :
    expand env text = .ok text := by
  rw [expand, expandChars_of_untouched_nil (untouched_of_unmarked h)]
  exact congrArg Except.ok String.ofList_toList

/-- A text in braces comes to what it comes to alone, behind a closed text and in front of any. -/
theorem expand_between {a b : String} (ha : IsClosed a.toList) (inner : String) :
    expand env (a ++ reference inner ++ b) =
      (do return (← expand env a) ++ (← expand env (reference inner)) ++ (← expand env b)) := by
  have hclosed : IsClosed (reference inner).toList := by
    have hlist : (reference inner).toList = ('$' :: '{' :: inner.toList) ++ ['}'] := by
      simp [reference]
    rw [hlist]
    exact isClosed_concat _
  rw [String.append_assoc, expand_append ha, expand_append hclosed]
  simp only [bind_assoc, pure_bind, String.append_assoc]

/-- Braces around nothing stand for themselves: no reference begins at any of the three
characters. -/
theorem untouched_empty : Untouched ['$', '{', '}'] [] := by
  have hempty : ¬ Leads ['$', '{', '}'] := by
    rintro ⟨inner, after, ⟨hne, hinner⟩, h⟩
    cases inner with
    | nil => exact hne rfl
    | cons c inner =>
      rw [braced_append] at h
      simp only [List.cons_append, List.cons.injEq, true_and] at h
      exact hinner (h.1 ▸ List.mem_cons_self)
  have hrest : Untouched ['{', '}'] [] := untouched_of_unmarked (by decide)
  exact hrest.cons hempty

/-- **The expansion of a text is a local pass from left to right.** -/
theorem expand_isLocalPass (env : String → Option String) : IsLocalPass env where
  append _ _ := expand_append
  plain _ := expand_plain_text
  empty a b ha := by
    have hkept : expand env (reference "") = .ok (reference "") :=
      congrArg (Except.map String.ofList) (expandChars_of_untouched_nil untouched_empty)
    rw [expand_between ha, hkept]
    rfl
  inserted a inner b ha hinner := by
    have hne : inner ≠ "" := by simpa using hinner.1
    have hvalue : expand env (reference inner) = valueText env inner :=
      expand_reference hne hinner.2
    rw [expand_between ha, hvalue]
  pieces text := existsUnique_splits text.toList
  source _ _ := Splits.flatMap_source
  worth text pieces h := by rw [expand, expandChars_of_splits h]

/-- An environment in which a variable is worth a text with a reference in it. -/
def nesting : String → Option String := only "HOME" "$\x7bPATH:-/\x7d"

/-- The reference that a variable is worth is put in as it is, and so is what stands around the
references of the text. -/
theorem expand_isLocalPass_of_nesting :
    IsClosed "é = $\x7bHOME\x7d;".toList ∧
      expand nesting "é = $\x7bHOME\x7d;" = .ok "é = $\x7bPATH:-/\x7d;" ∧
      expand nesting "$\x7b\x7d$$\x7bPATH:-ü\x7d$\x7b" = .ok "$\x7b\x7d$ü$\x7b" ∧
      expand nesting ("é = $\x7bHOME\x7d;" ++ "$\x7b\x7d$$\x7bPATH:-ü\x7d$\x7b") =
        .ok "é = $\x7bPATH:-/\x7d;$\x7b\x7d$ü$\x7b" := by
  have hclosed : IsClosed "é = $\x7bHOME\x7d;".toList := by decide
  have hfront : expand nesting "é = $\x7bHOME\x7d;" = .ok "é = $\x7bPATH:-/\x7d;" := by
    decide +kernel
  have hrest : expand nesting "$\x7b\x7d$$\x7bPATH:-ü\x7d$\x7b" = .ok "$\x7b\x7d$ü$\x7b" := by
    decide +kernel
  have happend :=
    (expand_isLocalPass nesting).append _ "$\x7b\x7d$$\x7bPATH:-ü\x7d$\x7b" hclosed
  rw [hfront, hrest] at happend
  exact ⟨hclosed, hfront, hrest, happend⟩

end Chancery.Substitution
