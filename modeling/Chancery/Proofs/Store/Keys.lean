import Mathlib.Data.List.Nodup

/-!
# Rows under a key

A table is a list of rows, and one of their columns is a text by which they are found. The lemmas
here say what finding by that text does after the changes that the store makes to a table: a row
added at the end, the rows under a text changed in place, the rows under a text taken out. They
speak of any list with a key, since the store has five such tables.
-/

namespace Chancery.Store

variable {α : Type} {key : α → String} {l : List α} {a : α} {text : String}

/-- A key stays unique when a row with a new one is added at the end. -/
theorem nodup_map_concat {β : Type} {f : α → β} (h : (l.map f).Nodup)
    (hnew : ∀ x ∈ l, f x ≠ f a) : ((l ++ [a]).map f).Nodup := by
  rw [List.map_append, List.nodup_append]
  refine ⟨h, by simp, fun y hy z hz => ?_⟩
  obtain ⟨x, hx, rfl⟩ := List.mem_map.1 hy
  rw [List.map_singleton, List.mem_singleton] at hz
  exact hz ▸ hnew x hx

/-- Among rows with unique keys, one key selects one row. -/
theorem filter_key_eq (h : (l.map key).Nodup) (ha : a ∈ l) :
    l.filter (fun x => key x = key a) = [a] := by
  induction l with
  | nil => simp at ha
  | cons b l ih =>
    rw [List.map_cons, List.nodup_cons] at h
    rcases List.mem_cons.1 ha with rfl | ha
    · rw [List.filter_cons_of_pos (by simp)]
      have rest : l.filter (fun x => key x = key a) = [] := by
        refine List.filter_eq_nil_iff.2 fun x hx hkey => h.1 ?_
        rw [← of_decide_eq_true hkey]
        exact List.mem_map_of_mem hx
      rw [rest]
    · rw [List.filter_cons_of_neg, ih h.2 ha]
      intro hkey
      apply h.1
      rw [of_decide_eq_true hkey]
      exact List.mem_map_of_mem ha

theorem find?_key_eq (h : (l.map key).Nodup) (ha : a ∈ l) :
    l.find? (fun x => key x = key a) = some a := by
  rw [← List.head?_filter, filter_key_eq h ha, List.head?_cons]

theorem of_find?_key (h : l.find? (fun x => key x = text) = some a) : a ∈ l ∧ key a = text := by
  have hkey := List.find?_some h
  exact ⟨List.mem_of_find?_eq_some h, of_decide_eq_true hkey⟩

/-- A row added under another key is not found, and one under this key is. -/
theorem find?_key_concat (key : α → String) (hnew : ∀ x ∈ l, key x ≠ key a) (text : String) :
    (l ++ [a]).find? (fun x => key x = text) =
      if key a = text then some a else l.find? fun x => key x = text := by
  rw [List.find?_append]
  split
  · rename_i hkey
    have absent : l.find? (fun x => key x = text) = none := by
      refine List.find?_eq_none.2 fun x hx hx' => hnew x hx ?_
      rw [hkey]
      exact of_decide_eq_true hx'
    simp [absent, hkey]
  · rename_i hkey
    simp [hkey]

/-- A change in place that keeps the keys changes what is found under the one key. -/
theorem find?_key_map {f : α → α} (hf : ∀ x, key (f x) = key x) (l : List α)
    (text text' : String) :
    (l.map fun x => if key x = text then f x else x).find? (fun x => key x = text') =
      (l.find? fun x => key x = text').map fun x => if text' = text then f x else x := by
  induction l with
  | nil => rfl
  | cons b l ih =>
    have hb : key (if key b = text then f b else b) = key b := by
      split
      · exact hf b
      · rfl
    simp only [List.map_cons, List.find?_cons, hb]
    by_cases hkey : key b = text'
    · simp only [hkey, decide_true, Option.map_some]
    · simp only [hkey, decide_false, ih]

/-- A change in place of rows of which no two qualify changes one row, and leaves the rest where it
is. -/
theorem exists_split_map {p : α → Prop} [DecidablePred p] (f : α → α)
    (hone : l.Pairwise fun x y => ¬ (p x ∧ p y)) (ha : a ∈ l) (hp : p a) :
    ∃ before after, l = before ++ a :: after ∧
      (l.map fun x => if p x then f x else x) = before ++ f a :: after := by
  obtain ⟨before, after, rfl⟩ := List.append_of_mem ha
  obtain ⟨-, hafter, hbefore⟩ := List.pairwise_append.1 hone
  refine ⟨before, after, rfl, ?_⟩
  have untouched : ∀ xs : List α, (∀ x ∈ xs, ¬ p x) →
      (xs.map fun x => if p x then f x else x) = xs := by
    intro xs hxs
    refine (List.map_congr_left fun x hx => ?_).trans (List.map_id xs)
    rw [if_neg (hxs x hx), id]
  rw [List.map_append, List.map_cons, if_pos hp,
    untouched before fun x hx hpx => hbefore x hx a List.mem_cons_self ⟨hpx, hp⟩,
    untouched after fun x hx hpx => (List.pairwise_cons.1 hafter).1 x hx ⟨hp, hpx⟩]

/-- Taking out the rows under one key leaves nothing under it and the rest as it was. -/
theorem find?_key_filter_ne (key : α → String) (l : List α) (text text' : String) :
    (l.filter fun x => key x ≠ text).find? (fun x => key x = text') =
      if text' = text then none else l.find? fun x => key x = text' := by
  rw [List.find?_filter]
  split
  · rename_i h
    subst h
    exact List.find?_eq_none.2 fun x _ => by simp
  · rename_i h
    refine congrArg (fun p => l.find? p) (funext fun x => ?_)
    by_cases hx : key x = text' <;> simp [hx, h]

end Chancery.Store
