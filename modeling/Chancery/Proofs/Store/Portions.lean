import Chancery.Proofs.Store.Writing
import Chancery.Store.Reading

/-!
# Taking portions

Rows are read one after the other, and each takes out of what is left the values that belong to it.
What was put in under a text stands in the portion of this text, in the order in which it was put
in, and taking a portion leaves every other portion as it was. So rows with different texts take
what they would take if each were the first (`readTaking_ofPairs`). Of rows with one text, only the
first is sure of its values (`exists_of_head?_readTaking`).

## Main definitions

* `belongingTo` — the values that belong to a record

## Main results

* `Portions.take_ofPairs`, `Portions.take_take_of_ne`
* `readTaking_ofPairs`, `exists_of_head?_readTaking`
-/

namespace Chancery

/-- What is paired with a text, in order. -/
def belongingTo {α : Type} (owner : String) (pairs : List (String × α)) : List α :=
  (pairs.filter fun p => p.1 = owner).map Prod.snd

theorem mem_belongingTo {α : Type} {owner : String} {pairs : List (String × α)} {a : α} :
    a ∈ belongingTo owner pairs ↔ (owner, a) ∈ pairs := by
  simp only [belongingTo, List.mem_map, List.mem_filter, decide_eq_true_eq, Prod.exists]
  constructor
  · rintro ⟨o, b, ⟨hmem, rfl⟩, rfl⟩
    exact hmem
  · exact fun h => ⟨owner, a, ⟨h, rfl⟩, rfl⟩

namespace Portions

variable {α : Type} {owner other : String} {as : List α}

theorem add_cons_self (a : α) (rest : Portions α) :
    add owner a ((owner, as) :: rest) = (owner, as ++ [a]) :: rest := if_pos rfl

theorem add_cons_of_ne (h : other ≠ owner) (a : α) (rest : Portions α) :
    add owner a ((other, as) :: rest) = (other, as) :: add owner a rest := if_neg h

theorem take_cons_self (rest : Portions α) : take owner ((owner, as) :: rest) = (as, rest) :=
  if_pos rfl

theorem take_cons_of_ne (h : other ≠ owner) (rest : Portions α) :
    take owner ((other, as) :: rest) =
      ((take owner rest).1, (other, as) :: (take owner rest).2) := if_neg h

/-- What is put in comes last in its own portion, and is in no other. -/
theorem take_add (a : α) (portions : Portions α) :
    (take other (add owner a portions)).1 =
      (take other portions).1 ++ if owner = other then [a] else [] := by
  induction portions with
  | nil => by_cases h : owner = other <;> simp [add, take, h]
  | cons first rest ih =>
    obtain ⟨o, as⟩ := first
    by_cases ho : o = owner
    · subst ho
      rw [add_cons_self]
      by_cases h : o = other
      · subst h
        rw [take_cons_self, take_cons_self, if_pos rfl]
      · rw [take_cons_of_ne h, take_cons_of_ne h, if_neg h, List.append_nil]
    · rw [add_cons_of_ne ho]
      by_cases h : o = other
      · subst h
        rw [take_cons_self, take_cons_self, if_neg (Ne.symm ho), List.append_nil]
      · rw [take_cons_of_ne h, take_cons_of_ne h, ih]

/-- **A portion holds what belongs to its record**, in the order in which it was put in. -/
theorem take_ofPairs (pairs : List (String × α)) :
    (take owner (ofPairs pairs)).1 = belongingTo owner pairs := by
  suffices h : ∀ portions : Portions α,
      (take owner (pairs.foldl (fun portions p => add p.1 p.2 portions) portions)).1 =
        (take owner portions).1 ++ belongingTo owner pairs from h []
  induction pairs with
  | nil =>
    intro portions
    exact (List.append_nil _).symm
  | cons p pairs ih =>
    intro portions
    rw [List.foldl_cons, ih, take_add, List.append_assoc]
    by_cases h : p.1 = owner <;> simp [belongingTo, h]

/-- **Taking a portion leaves the others.** -/
theorem take_take_of_ne (h : owner ≠ other) (portions : Portions α) :
    (take other (take owner portions).2).1 = (take other portions).1 := by
  induction portions with
  | nil => rfl
  | cons first rest ih =>
    obtain ⟨o, as⟩ := first
    by_cases ho : o = owner
    · subst ho
      rw [take_cons_self, take_cons_of_ne h]
    · rw [take_cons_of_ne ho]
      by_cases h' : o = other
      · subst h'
        rw [take_cons_self, take_cons_self]
      · rw [take_cons_of_ne h', take_cons_of_ne h', ih]

end Portions

section ReadTaking

variable {ρ α β : Type} {key : ρ → String} {read : List α → ρ → Except StoreFault β}
  {rows : List ρ} {portions : Portions α}

theorem readTaking_cons (row : ρ) : readTaking key read (row :: rows) portions = (do
    let b ← read (portions.take (key row)).1 row
    let bs ← readTaking key read rows (portions.take (key row)).2
    return b :: bs) := rfl

/-- Rows with different texts take what stands under their texts. The invariant of the pass is that
the rows still to be read have their portions. -/
theorem readTaking_eq_mapM (own : String → List α) (hkeys : (rows.map key).Nodup)
    (hown : ∀ row ∈ rows, (portions.take (key row)).1 = own (key row)) :
    readTaking key read rows portions = rows.mapM fun row => read (own (key row)) row := by
  induction rows generalizing portions with
  | nil => rfl
  | cons row rows ih =>
    rw [List.map_cons, List.nodup_cons] at hkeys
    rw [List.forall_mem_cons] at hown
    have hrest : ∀ row' ∈ rows,
        ((portions.take (key row)).2.take (key row')).1 = own (key row') := by
      intro row' hrow'
      have hne : key row ≠ key row' := fun h => hkeys.1 (h ▸ List.mem_map_of_mem hrow')
      rw [Portions.take_take_of_ne hne, hown.2 row' hrow']
    rw [readTaking_cons, List.mapM_cons, hown.1, ih hkeys.2 hrest]

/-- **Rows with different texts take what belongs to them.** -/
theorem readTaking_ofPairs {pairs : List (String × α)} (hkeys : (rows.map key).Nodup) :
    readTaking key read rows (.ofPairs pairs) =
      rows.mapM fun row => read (belongingTo (key row) pairs) row :=
  readTaking_eq_mapM (fun owner => belongingTo owner pairs) hkeys fun _ _ =>
    Portions.take_ofPairs pairs

/-- The first value is what the first row reads as with all that belongs to it, whatever rows come
after it. -/
theorem exists_of_head?_readTaking {σ : Type} {f : σ → ρ} {sources : List σ}
    {pairs : List (String × α)} {bs : List β} {b : β}
    (h : readTaking key read (sources.map f) (.ofPairs pairs) = .ok bs) (hb : bs.head? = some b) :
    ∃ x ∈ sources, read (belongingTo (key (f x)) pairs) (f x) = .ok b := by
  cases sources with
  | nil =>
    obtain rfl := Except.ok.inj h
    cases hb
  | cons x sources =>
    obtain ⟨b', hread, h⟩ := bind_eq_ok.1 h
    obtain ⟨bs', -, h⟩ := bind_eq_ok.1 h
    obtain rfl := Except.ok.inj h
    obtain rfl := Option.some.inj hb
    exact ⟨x, List.mem_cons_self, Portions.take_ofPairs pairs ▸ hread⟩

/-- Every row has its value. -/
theorem length_of_readTaking {bs : List β} (h : readTaking key read rows portions = .ok bs) :
    bs.length = rows.length := by
  induction rows generalizing portions bs with
  | nil =>
    obtain rfl := Except.ok.inj h
    rfl
  | cons row rows ih =>
    obtain ⟨b, -, h⟩ := bind_eq_ok.1 h
    obtain ⟨bs', hbs, h⟩ := bind_eq_ok.1 h
    obtain rfl := Except.ok.inj h
    rw [List.length_cons, List.length_cons, ih hbs]

end ReadTaking

end Chancery
