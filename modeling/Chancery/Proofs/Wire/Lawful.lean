import Chancery.Proofs.Calendar.Reading
import Chancery.Proofs.Json.RoundTrip
import Chancery.Wire

/-!
# Lawful forms

A form is lawful if reading undoes writing. Dates and numbers set a limit to that: they are
unbounded here, while a form carries the years that texts may name and numbers of 64 bits. So the
law is about values *in range*, and it comes with a converse, that nothing out of range is ever
read. Together the two say that what was read and is written again reads as the same value, however
loosely the first form was spelled.

The law is put together as forms are. Lists and optional values have it if their items do; an
optional value needs in addition that no item is written as `null`, which stands for its absence. A
record has it by a walk over its fields: on the object that was written every field finds its own
value (`Finds`), and on any form at all every field that is read is in range (`Ensures`).

## Main definitions

* `Wire.Ranged`, `Wire.Fits` — the values that a form can carry
* `Wire.Lawful` — reading undoes writing
* `Wire.Finds`, `Wire.Ensures` — what a walk over fields finds and what it guarantees
-/

namespace Chancery.Wire

/-- A type of which a form may carry a part only. Of dates and instants that is the part with a
year in the calendar's range, of numbers the 64-bit words; what is made of others fits if its
parts do. -/
class Ranged (α : Type) where
  /-- Whether a form can carry the value. -/
  Fits : α → Prop

export Ranged (Fits)

/-- A type whose forms read back. -/
class Lawful (α : Type) [Wire α] [Ranged α] : Prop where
  decode_encode : ∀ {a : α}, Fits a → decode? (encode a) = some a
  fits_of_decode : ∀ {v : Json} {a : α}, decode? v = some a → Fits a
  plain_encode : ∀ a : α, (encode a).Plain

export Lawful (decode_encode fits_of_decode plain_encode)

/-- A type none of whose values is written as `null`. -/
class Present (α : Type) [Wire α] : Prop where
  encode_ne_null : ∀ a : α, encode a ≠ .null

export Present (encode_ne_null)

/-! ### Values -/

theorem decodeName?_str {α : Type} (ofName? : String → Option α) (s : String) :
    decodeName? ofName? (.str s) = ofName? s := rfl

theorem decodeText?_str {α : Type} (read? : String → Option α) (s : String) :
    decodeText? read? (.str s) = read? s := rfl

theorem exists_of_decodeText? {α : Type} {read? : String → Option α} {v : Json} {a : α}
    (h : decodeText? read? v = some a) : ∃ s, read? s = some a := by
  cases v with
  | str s => exact ⟨s, h⟩
  | _ => cases h

instance : Ranged String := ⟨fun _ => True⟩

instance : Lawful String where
  decode_encode _ := rfl
  fits_of_decode _ := trivial
  plain_encode := .str

instance : Present String := ⟨fun _ => nofun⟩

instance : Ranged Bool := ⟨fun _ => True⟩

instance : Lawful Bool where
  decode_encode _ := rfl
  fits_of_decode _ := trivial
  plain_encode := .bool

instance : Ranged Int := ⟨fun n => isWord n = true⟩

instance : Lawful Int where
  decode_encode h := if_pos h
  fits_of_decode {v n} h := by
    cases v with
    | int m =>
      obtain ⟨hm, heq⟩ := Option.ite_none_right_eq_some.1 h
      exact Option.some.inj heq ▸ hm
    | _ => cases h
  plain_encode := .int

instance : Present Int := ⟨fun _ => nofun⟩

instance : Ranged Identifier := ⟨fun _ => True⟩

instance : Lawful Identifier where
  decode_encode {a} _ := (decodeText?_str _ a.text).trans a.read?_text
  fits_of_decode _ := trivial
  plain_encode a := .str a.text

instance : Ranged Date := ⟨fun d => Date.inRange d.year = true⟩

instance : Lawful Date where
  decode_encode {d} h := (decodeText?_str _ d.text).trans (Date.read?_text h)
  fits_of_decode h := by
    obtain ⟨s, hs⟩ := exists_of_decodeText? h
    exact Date.inRange_of_read? hs
  plain_encode d := .str d.text

instance : Present Date := ⟨fun _ => nofun⟩

instance : Ranged Instant := ⟨fun t => Date.inRange t.date.year = true⟩

instance : Lawful Instant where
  decode_encode {t} h := (decodeText?_str _ t.wire).trans (Instant.read?_wire h)
  fits_of_decode h := by
    obtain ⟨s, hs⟩ := exists_of_decodeText? h
    exact Instant.inRange_of_read? hs
  plain_encode t := .str t.wire

instance : Present Instant := ⟨fun _ => nofun⟩

instance : Ranged Role := ⟨fun _ => True⟩

instance : Lawful Role where
  decode_encode {r} _ := (decodeName?_str _ r.name).trans r.ofExactName?_name
  fits_of_decode _ := trivial
  plain_encode r := .str r.name

instance : Ranged DocumentKind := ⟨fun _ => True⟩

instance : Lawful DocumentKind where
  decode_encode {k} _ := (decodeName?_str _ k.name).trans k.ofName?_name
  fits_of_decode _ := trivial
  plain_encode k := .str k.name

instance : Ranged Status := ⟨fun _ => True⟩

instance : Lawful Status where
  decode_encode {s} _ := (decodeName?_str _ s.name).trans s.ofName?_name
  fits_of_decode _ := trivial
  plain_encode s := .str s.name

/-! ### Optional values and lists -/

section Containers

variable {α : Type} [Ranged α]

instance : Ranged (Option α) := ⟨fun o => ∀ a ∈ o, Fits a⟩

instance : Ranged (List α) := ⟨fun l => ∀ a ∈ l, Fits a⟩

theorem fits_none : Fits (none : Option α) := nofun

theorem fits_nil : Fits ([] : List α) := nofun

variable [Wire α]

omit [Ranged α] in
/-- A form other than `null` is read as a value that is there. -/
theorem decode?_option {v : Json} (hv : v ≠ .null) :
    (decode? v : Option (Option α)) = (decode? v).map some := by
  cases v with
  | null => exact absurd rfl hv
  | _ => rfl

instance [Lawful α] [Present α] : Lawful (Option α) where
  decode_encode {o} h := by
    cases o with
    | none => rfl
    | some a =>
      show decode? (encode a) = some (some a)
      rw [decode?_option (encode_ne_null a), decode_encode (h a rfl), Option.map_some]
  fits_of_decode {v o} h := by
    by_cases hv : v = .null
    · subst hv
      obtain rfl : none = o := Option.some.inj h
      exact fits_none
    · rw [decode?_option hv, Option.map_eq_some_iff] at h
      obtain ⟨a, ha, rfl⟩ := h
      intro b hb
      obtain rfl : a = b := Option.some.inj hb
      exact fits_of_decode ha
  plain_encode o := by
    cases o with
    | none => exact .null
    | some a => exact plain_encode a

theorem mapM_decode_encode [Lawful α] {l : List α} (h : Fits l) :
    (l.map encode).mapM decode? = some l := by
  induction l with
  | nil => rfl
  | cons a l ih =>
    rw [List.map_cons, List.mapM_cons, decode_encode (h a List.mem_cons_self),
      ih fun b hb => h b (List.mem_cons_of_mem a hb)]
    rfl

theorem fits_of_mapM_decode [Lawful α] {items : List Json} {l : List α}
    (h : items.mapM decode? = some l) : Fits l := by
  induction items generalizing l with
  | nil =>
    obtain rfl : [] = l := Option.some.inj h
    exact fits_nil
  | cons v items ih =>
    simp only [List.mapM_cons, Option.bind_eq_bind, Option.bind_eq_some_iff] at h
    obtain ⟨a, ha, rest, hrest, heq⟩ := h
    obtain rfl : a :: rest = l := Option.some.inj heq
    intro b hb
    rcases List.mem_cons.1 hb with rfl | hb
    · exact fits_of_decode ha
    · exact ih hrest b hb

instance [Lawful α] : Lawful (List α) where
  decode_encode h := mapM_decode_encode h
  fits_of_decode {v l} h := by
    cases v with
    | arr items => exact fits_of_mapM_decode h
    | _ => cases h
  plain_encode l := .arr fun v hv => by
    obtain ⟨a, -, rfl⟩ := List.mem_map.1 hv
    exact plain_encode a

end Containers

instance : Ranged RoleSet := ⟨fun _ => True⟩

instance : Lawful RoleSet where
  decode_encode {s} _ := by
    have hlist : decode? (encode s.toList) = some s.toList := decode_encode fun _ _ => trivial
    show (decode? (encode s.toList)).map RoleSet.ofList = some s
    rw [hlist, Option.map_some, RoleSet.ofList_toList]
  fits_of_decode _ := trivial
  plain_encode s := plain_encode s.toList

/-! ### Walks over fields -/

section Walks

variable {α β : Type} {fs : List (String × Json)}

/-- On the fields of an object, a walk finds a value. -/
def Finds (walk : Fields α) (fs : List (String × Json)) (a : α) : Prop :=
  walk (.named fs) = some (a, .named fs)

namespace Finds

theorem pure {a : α} : Finds (Pure.pure a) fs a := rfl

theorem bind {walk : Fields α} {next : α → Fields β} {a : α} {b : β} (h : Finds walk fs a)
    (hnext : Finds (next a) fs b) : Finds (walk >>= next) fs b := by
  show (walk (.named fs)).bind (fun p => next p.1 p.2) = _
  rw [h]
  exact hnext

/-- A field that is there finds what its form reads as. -/
theorem field {read : Json → Option α} {name : String} {unnamed unlisted : Option α} {v : Json}
    {a : α} (hv : Json.lookupLast name fs = some v) (ha : read v = some a) :
    Finds (fieldBy read name unnamed unlisted) fs a := by
  simp [Finds, fieldBy, next?, hv, ha]

/-- A field that is left out finds its default. -/
theorem absent {read : Json → Option α} {name : String} {unlisted : Option α} {a : α}
    (hv : Json.lookupLast name fs = none) : Finds (fieldBy read name (some a) unlisted) fs a := by
  simp [Finds, fieldBy, next?, hv]

/-- A field finds the value that was written for it. -/
theorem written [Wire α] [Ranged α] [Lawful α] {name : String} {unnamed unlisted : Option α}
    (a : α) (ha : Fits a) (hv : Json.lookupLast name fs = some (encode a)) :
    Finds (fieldBy decode? name unnamed unlisted) fs a :=
  field hv (decode_encode ha)

theorem record?_eq {walk : Fields α} {a : α} (h : Finds walk fs a) :
    record? walk (.obj fs) = some a := by
  have hrun : (some (Record.named fs)).bind walk.run = some (a, .named fs) := h
  unfold record? recordWith?
  dsimp only
  rw [hrun]
  rfl

end Finds

/-- Whatever a walk reads, from any form, has a property. -/
def Ensures (walk : Fields α) (P : α → Prop) : Prop :=
  ∀ ⦃r r' : Record⦄ ⦃a : α⦄, walk r = some (a, r') → P a

namespace Ensures

variable {P : α → Prop} {Q : β → Prop}

theorem pure {a : α} (h : P a) : Ensures (Pure.pure a) P := by
  intro r r' b hb
  obtain ⟨rfl, -⟩ := Prod.mk.inj (Option.some.inj hb)
  exact h

theorem bind {walk : Fields α} {next : α → Fields β} (h : Ensures walk P)
    (hnext : ∀ a, P a → Ensures (next a) Q) : Ensures (walk >>= next) Q := by
  intro r r' b hb
  obtain ⟨⟨a, s⟩, ha, hb⟩ := Option.bind_eq_some_iff.1 hb
  exact hnext a (h ha) hb

/-- A field ensures what reading ensures, if what stands in for it has the property too. -/
theorem field {read : Json → Option α} {name : String} {unnamed unlisted : Option α}
    (hread : ∀ {v a}, read v = some a → P a) (hunnamed : ∀ a ∈ unnamed, P a)
    (hunlisted : ∀ a ∈ unlisted, P a) : Ensures (fieldBy read name unnamed unlisted) P := by
  intro r r' a ha
  unfold fieldBy at ha
  split at ha
  · obtain ⟨b, hb, heq⟩ := Option.map_eq_some_iff.1 ha
    exact (Prod.mk.inj heq).1 ▸ hread hb
  · obtain ⟨b, hb, heq⟩ := Option.map_eq_some_iff.1 ha
    exact (Prod.mk.inj heq).1 ▸ hunnamed b hb
  · obtain ⟨b, hb, heq⟩ := Option.map_eq_some_iff.1 ha
    exact (Prod.mk.inj heq).1 ▸ hunlisted b hb

theorem of_record? {walk : Fields α} (h : Ensures walk P) {v : Json} {a : α}
    (ha : record? walk v = some a) : P a := by
  unfold record? recordWith? at ha
  dsimp only at ha
  split at ha
  · rename_i b rest hb
    obtain ⟨r, -, hr⟩ := Option.bind_eq_some_iff.1 hb
    split at ha
    · exact Option.some.inj ha ▸ h hr
    · cases ha
  · cases ha

variable [Wire α] [Ranged α]

theorem required [Lawful α] {name : String} : Ensures (required name : Fields α) Fits :=
  field fits_of_decode nofun nofun

theorem optional [Lawful α] [Present α] {name : String} :
    Ensures (optional name : Fields (Option α)) Fits :=
  field fits_of_decode (fun _ h => Option.some.inj h ▸ fits_none) nofun

theorem defaulted [Lawful α] {name : String} {default : α} (h : Fits default) :
    Ensures (defaulted name default) Fits :=
  field fits_of_decode (fun _ ha => Option.some.inj ha ▸ h) fun _ ha => Option.some.inj ha ▸ h

end Ensures

end Walks

end Chancery.Wire
