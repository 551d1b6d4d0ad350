/-!
# Variables in settings files

A settings file may refer to variables of its environment in three forms: the name alone, which
must be set; the name, `:-` and a default; the name, `:?` and a message for the case that it is
not set. Each stands between a dollar sign with an opening brace and the next closing brace, and
nothing else closes it. A variable that is set to the empty text is set.

Expansion is one pass from left to right. What was put in is never looked at again, and a dollar
sign with an opening brace that is never closed, or closed at once, stands for itself.

The mark of the default is looked for first. A message that contains `:-` is therefore cut there.

## Main definitions

* `Substitution.takeReference?` — what stands between the braces
* `Substitution.valueOf` — the value of a reference
* `Substitution.expand` — a whole text
-/

namespace Chancery.Substitution

/-- A variable that has to be set and is not, with the message given for that case. -/
structure Unset where
  name : String
  message : Option String
  deriving DecidableEq, Repr

/-- The wording of a variable that is not set. -/
def Unset.text (u : Unset) : String :=
  "Required environment variable '" ++ u.name ++ "' is not set"
    ++ match u.message with
      | some m => ": " ++ m
      | none => ""

/-- Splits a text at the first colon that a mark follows. -/
def splitAtMark? (mark : Char) : List Char → Option (List Char × List Char)
  | [] => none
  | c :: rest =>
    if c = ':' ∧ rest.head? = some mark then some ([], rest.tail)
    else (splitAtMark? mark rest).map fun (before, after) => (c :: before, after)

/-- The value of what stands between the braces. -/
def valueOf (env : String → Option String) (reference : List Char) : Except Unset (List Char) :=
  let look := fun (name : List Char) => (env (String.ofList name)).map String.toList
  match splitAtMark? '-' reference with
  | some (name, default) => .ok ((look name).getD default)
  | none =>
    match splitAtMark? '?' reference with
    | some (name, message) =>
      match look name with
      | some value => .ok value
      | none => .error ⟨String.ofList name, some (String.ofList message)⟩
    | none =>
      match look reference with
      | some value => .ok value
      | none => .error ⟨String.ofList reference, none⟩

/-- Takes a reference from the front, where dollar sign and opening brace have been taken. -/
def takeReference? (s : List Char) : Option (List Char × List Char) :=
  let reference := s.takeWhile (· ≠ '}')
  match s.drop reference.length with
  | [] => none
  | _ :: after => if reference.isEmpty then none else some (reference, after)

theorem length_of_takeReference? {s reference after : List Char}
    (h : takeReference? s = some (reference, after)) : after.length < s.length := by
  unfold takeReference? at h
  dsimp only at h
  split at h
  · simp at h
  · rename_i c rest hdrop
    split at h
    · simp at h
    · have hlen := congrArg List.length hdrop
      simp only [List.length_drop, List.length_cons] at hlen
      simp only [Option.some.injEq, Prod.mk.injEq] at h
      rw [← h.2]
      omega

/-- Expands the references in a text. -/
def expandChars (env : String → Option String) (s : List Char) : Except Unset (List Char) :=
  match s with
  | '$' :: '{' :: rest =>
    match _h : takeReference? rest with
    | some (reference, after) => do
      let value ← valueOf env reference
      return value ++ (← expandChars env after)
    | none => return '$' :: (← expandChars env ('{' :: rest))
  | c :: rest => return c :: (← expandChars env rest)
  | [] => .ok []
termination_by s.length
decreasing_by
  all_goals simp_wf
  · have := length_of_takeReference? _h
    omega

@[inherit_doc expandChars]
def expand (env : String → Option String) (text : String) : Except Unset String :=
  (expandChars env text.toList).map String.ofList

end Chancery.Substitution
