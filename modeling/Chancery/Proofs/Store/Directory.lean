import Chancery.Proofs.Store.Loading

/-!
# What is in the directory

A table whose rows read as records with identifiers is a directory: a record is looked up under the
text of its identifier, and the records that can be looked up are those of the rows, one for one.
Users and the two registers of documents are such tables, so all that is said here of looking up is
said once, of `lookUp`.

## Main definitions

* `Store.lookUp` — looking up a record in a table
* `Store.Holds` — a list of all records that can be looked up, each once

## Main results

* `Store.Orderly.exists_users`, `Store.Orderly.exists_registers`
* `Store.Orderly.exists_user?_of_hasUser`, `Store.Orderly.exists_document?`
-/

namespace Chancery

/-- The reference to a document. -/
def Document.ref (d : Document) : DocumentRef := ⟨d.id, d.kind⟩

theorem UserRow.toUser_eq_ok {row : UserRow} {u : User} :
    row.toUser = .ok u ↔ ∃ id, Identifier.parse? row.id = some id ∧
      ⟨id, row.login, row.fullName, .parse row.roles, row.createdAt⟩ = u := by
  simp only [UserRow.toUser, bind_eq_ok, readIdentifier_eq_ok, pure, Except.pure, Except.ok.injEq]

theorem DocumentRow.toDocument_eq_ok {kind : DocumentKind} {row : DocumentRow} {d : Document} :
    row.toDocument kind = .ok d ↔ ∃ id, Identifier.parse? row.id = some id ∧
      ⟨id, kind, row.number, row.subject, row.createdAt⟩ = d := by
  simp only [DocumentRow.toDocument, bind_eq_ok, readIdentifier_eq_ok, pure, Except.pure,
    Except.ok.injEq]

namespace Store

/-! ### Looking up -/

section LookUp

variable {α β κ : Type} {rows : List α} {key : α → String} {read : α → Except StoreFault β}
  {id : Identifier} {b : β}

/-- What is looked up under an identifier in a table with a column of keys. -/
def lookUp (rows : List α) (key : α → String) (read : α → Except StoreFault β)
    (id : Identifier) : Except StoreFault (Option β) :=
  match rows.find? fun row => key row = id.text with
  | none => .ok none
  | some row => (read row).map some

theorem lookUp_eq_some (hkeys : (rows.map key).Nodup) :
    lookUp rows key read id = .ok (some b) ↔
      ∃ row ∈ rows, key row = id.text ∧ read row = .ok b := by
  unfold lookUp
  cases hfind : rows.find? fun row => key row = id.text with
  | none =>
    simp only [Except.ok.injEq, reduceCtorEq, false_iff]
    rintro ⟨row, hrow, hkey, -⟩
    exact List.find?_eq_none.1 hfind row hrow (decide_eq_true hkey)
  | some row =>
    obtain ⟨hrow, hkey⟩ := of_find?_key hfind
    have hmap : (read row).map some = .ok (some b) ↔ read row = .ok b := by
      cases read row <;> simp [Except.map]
    rw [hmap]
    constructor
    · exact fun hread => ⟨row, hrow, hkey, hread⟩
    · rintro ⟨row', hrow', hkey', hread⟩
      rwa [List.inj_on_of_nodup_map hkeys hrow hrow' (hkey.trans hkey'.symm)]

theorem lookUp_eq_none (h : ∀ row ∈ rows, key row ≠ id.text) :
    lookUp rows key read id = .ok none := by
  have hfind : rows.find? (fun row => key row = id.text) = none :=
    List.find?_eq_none.2 fun row hrow hkey => h row hrow (of_decide_eq_true hkey)
  rw [lookUp, hfind]

/-- Looking up succeeds where every row can be read. -/
theorem exists_lookUp (hread : ∀ row ∈ rows, ∃ b, read row = .ok b) (id : Identifier) :
    ∃ found, lookUp rows key read id = .ok found := by
  unfold lookUp
  cases hfind : rows.find? fun row => key row = id.text with
  | none => exact ⟨none, rfl⟩
  | some row =>
    obtain ⟨b, hb⟩ := hread row (List.mem_of_find?_eq_some hfind)
    exact ⟨some b, by simp only [hb]; rfl⟩

/-- Whether a list holds all records that can be looked up, each once. -/
structure Holds (find : κ → Except StoreFault (Option β)) (keyOf : β → κ) (bs : List β) :
    Prop where
  once : (bs.map keyOf).Nodup
  mem_iff : ∀ b, b ∈ bs ↔ find (keyOf b) = .ok (some b)

/-- **The records of a table** are those that its rows read as. -/
theorem exists_holds (hkeys : (rows.map key).Nodup) {idOf : β → Identifier}
    (hread : ∀ row ∈ rows, ∃ b, read row = .ok b)
    (hid : ∀ row ∈ rows, ∀ b, read row = .ok b → key row = (idOf b).text) :
    ∃ bs, List.Forall₂ (fun row b => read row = .ok b) rows bs ∧
      Holds (lookUp rows key read) idOf bs := by
  obtain ⟨bs, hbs⟩ := exists_mapM_eq_ok hread
  have hpairs := mapM_eq_ok.1 hbs
  refine ⟨bs, hpairs, ?_, fun b => ?_⟩
  · have htexts : bs.map (Identifier.text ∘ idOf) = rows.map key := by
      rw [← List.forall₂_eq_eq_eq, List.forall₂_map_left_iff, List.forall₂_map_right_iff]
      have listed := (List.forall₂_and_left (p := (· ∈ rows)) rows bs).2 ⟨fun _ h => h, hpairs⟩
      exact listed.flip.imp fun b row h => (hid row h.1 b h.2).symm
    rw [← htexts, ← List.map_map] at hkeys
    exact List.Nodup.of_map _ hkeys
  · rw [lookUp_eq_some hkeys]
    constructor
    · intro hb
      obtain ⟨row, hrow, hreads⟩ := exists_of_mem_mapM hbs hb
      exact ⟨row, hrow, hid row hrow b hreads, hreads⟩
    · rintro ⟨row, hrow, -, hreads⟩
      obtain ⟨b', hb', hreads'⟩ := exists_mem_of_mapM hbs hrow
      rwa [Except.ok.inj (hreads.symm.trans hreads')]

end LookUp

/-! ### Users and documents -/

variable {s : Store} {id : Identifier} {ref : DocumentRef}

theorem user?_eq_lookUp (s : Store) : s.user? = lookUp s.users UserRow.id UserRow.toUser := by
  funext id
  unfold user? lookUp
  cases s.users.find? fun u => u.id = id.text <;> rfl

theorem document?_eq_lookUp (s : Store) (ref : DocumentRef) :
    s.document? ref =
      lookUp (s.register ref.kind) DocumentRow.id (DocumentRow.toDocument ref.kind) ref.id := by
  unfold document? lookUp
  cases (s.register ref.kind).find? fun d => d.id = ref.id.text <;> rfl

namespace Orderly

theorem exists_toUser (h : s.Orderly) {row : UserRow} (hrow : row ∈ s.users) :
    ∃ u, row.toUser = .ok u := by
  obtain ⟨id, hid⟩ := (h.userTexts row hrow).isReadable
  exact ⟨_, UserRow.toUser_eq_ok.2 ⟨id, hid, rfl⟩⟩

theorem exists_toDocument (h : s.Orderly) {kind : DocumentKind} {row : DocumentRow}
    (hrow : row ∈ s.register kind) : ∃ d, row.toDocument kind = .ok d := by
  obtain ⟨id, hid⟩ := (h.documentTexts kind row hrow).isReadable
  exact ⟨_, DocumentRow.toDocument_eq_ok.2 ⟨id, hid, rfl⟩⟩

theorem id_of_toUser (h : s.Orderly) {row : UserRow} (hrow : row ∈ s.users) {u : User}
    (hu : row.toUser = .ok u) : row.id = u.id.text := by
  obtain ⟨id, hid⟩ := h.userTexts row hrow
  obtain ⟨id', hid', rfl⟩ := UserRow.toUser_eq_ok.1 hu
  rw [← hid, Identifier.parse?_text] at hid'
  rw [← hid, Option.some.inj hid']

theorem id_of_toDocument (h : s.Orderly) {kind : DocumentKind} {row : DocumentRow}
    (hrow : row ∈ s.register kind) {d : Document} (hd : row.toDocument kind = .ok d) :
    row.id = d.id.text := by
  obtain ⟨id, hid⟩ := h.documentTexts kind row hrow
  obtain ⟨id', hid', rfl⟩ := DocumentRow.toDocument_eq_ok.1 hd
  rw [← hid, Identifier.parse?_text] at hid'
  rw [← hid, Option.some.inj hid']

theorem exists_document? (h : s.Orderly) (ref : DocumentRef) :
    ∃ found, s.document? ref = .ok found := by
  rw [document?_eq_lookUp]
  exact exists_lookUp (fun _ => h.exists_toDocument) ref.id

/-- Who is a user can be looked up, and has the name that is shown for the identifier. -/
theorem exists_user?_of_hasUser (h : s.Orderly) (hid : s.hasUser id.text = true) :
    ∃ u, s.user? id = .ok (some u) ∧ s.userName? id.text = some u.fullName := by
  obtain ⟨row, hrow, hkey⟩ := hasUser_iff.1 hid
  obtain ⟨u, hu⟩ := h.exists_toUser hrow
  refine ⟨u, ?_, ?_⟩
  · rw [user?_eq_lookUp, lookUp_eq_some h.userIds]
    exact ⟨row, hrow, hkey, hu⟩
  · obtain ⟨_, -, rfl⟩ := UserRow.toUser_eq_ok.1 hu
    rw [userName?, ← hkey, find?_key_eq h.userIds hrow, Option.map_some]

/-- Whoever is no user is not found, and nobody else. -/
theorem user?_eq_none_iff (h : s.Orderly) :
    s.user? id = .ok none ↔ s.hasUser id.text = false := by
  constructor
  · intro hnone
    by_contra hhas
    obtain ⟨u, hu, -⟩ := h.exists_user?_of_hasUser (Bool.not_eq_false _ ▸ hhas)
    rw [hnone] at hu
    cases hu
  · intro hhas
    rw [user?_eq_lookUp]
    refine lookUp_eq_none fun row hrow hkey => ?_
    rw [hasUser_iff.2 ⟨row, hrow, hkey⟩] at hhas
    cases hhas

/-- A document that is referred to can be looked up, and has the number and the subject that are
shown for the reference. -/
theorem exists_document?_of_isRegistered (h : s.Orderly)
    (hd : s.IsRegistered ref.kind.name ref.id.text) :
    ∃ d row, s.document? ref = .ok (some d) ∧
      s.registered? ref.kind ref.kind.name ref.id.text = some row ∧
      row.number = d.number ∧ row.subject = d.subject := by
  obtain ⟨kind, hkind, row, hrow, hkey⟩ := hd
  obtain rfl : kind = ref.kind := by
    have := DocumentKind.ofName?_eq_some.2 hkind.symm
    rwa [DocumentKind.ofName?_name, Option.some.injEq, eq_comm] at this
  obtain ⟨d, hread⟩ := h.exists_toDocument hrow
  refine ⟨d, row, ?_, ?_, ?_⟩
  · rw [document?_eq_lookUp, lookUp_eq_some (h.documentIds ref.kind)]
    exact ⟨row, hrow, hkey, hread⟩
  · rw [registered?, if_pos rfl, ← hkey, find?_key_eq (h.documentIds ref.kind) hrow]
  · obtain ⟨_, -, rfl⟩ := DocumentRow.toDocument_eq_ok.1 hread
    exact ⟨rfl, rfl⟩

/-- The users on file are as many as the table has rows. -/
theorem exists_users (h : s.Orderly) :
    ∃ us : List User, us.length = s.userCount ∧ Holds s.user? User.id us := by
  rw [user?_eq_lookUp]
  obtain ⟨us, hread, hholds⟩ : ∃ us, List.Forall₂ (fun row u => row.toUser = .ok u) s.users us ∧
      Holds (lookUp s.users UserRow.id UserRow.toUser) User.id us :=
    exists_holds h.userIds (fun _ => h.exists_toUser) fun _ hrow _ => h.id_of_toUser hrow
  exact ⟨us, hread.length_eq.symm, hholds⟩

/-- The documents on file are those of the two registers, read row by row. -/
theorem exists_registers (h : s.Orderly) :
    ∃ ins outs : List Document,
      List.Forall₂ (fun row d => row.toDocument .incoming = .ok d) s.incoming ins ∧
      List.Forall₂ (fun row d => row.toDocument .outgoing = .ok d) s.outgoing outs ∧
      Holds s.document? Document.ref (ins ++ outs) := by
  have registered : ∀ kind, ∃ ds : List Document,
      List.Forall₂ (fun row d => row.toDocument kind = .ok d) (s.register kind) ds ∧
      (∀ d ∈ ds, d.kind = kind) ∧ (ds.map Document.id).Nodup ∧
      ∀ d, d.kind = kind → (d ∈ ds ↔ s.document? d.ref = .ok (some d)) := by
    intro kind
    obtain ⟨ds, hread, hholds⟩ : ∃ ds, List.Forall₂ (fun row d => row.toDocument kind = .ok d)
          (s.register kind) ds ∧
        Holds (lookUp (s.register kind) DocumentRow.id (DocumentRow.toDocument kind))
          Document.id ds :=
      exists_holds (h.documentIds kind) (fun _ => h.exists_toDocument)
        fun _ hrow _ => h.id_of_toDocument hrow
    refine ⟨ds, hread, fun d hd => ?_, hholds.once, ?_⟩
    · obtain ⟨row, -, -, hread⟩ := (lookUp_eq_some (h.documentIds kind)).1 ((hholds.mem_iff d).1 hd)
      obtain ⟨_, -, rfl⟩ := DocumentRow.toDocument_eq_ok.1 hread
      rfl
    · rintro d rfl
      rw [document?_eq_lookUp]
      exact hholds.mem_iff d
  obtain ⟨ins, hinsread, hins, hinsonce, hinsmem⟩ := registered .incoming
  obtain ⟨outs, houtsread, houts, houtsonce, houtsmem⟩ := registered .outgoing
  refine ⟨ins, outs, hinsread, houtsread, ?_, fun d => ?_⟩
  · have once : ∀ ds : List Document, (ds.map Document.id).Nodup → (ds.map Document.ref).Nodup :=
      fun ds hds => List.Nodup.of_map DocumentRef.id (by rwa [List.map_map])
    rw [List.map_append]
    refine (once ins hinsonce).append (once outs houtsonce) ?_
    intro ref hin hout
    obtain ⟨d, hd, rfl⟩ := List.mem_map.1 hin
    obtain ⟨d', hd', heq⟩ := List.mem_map.1 hout
    have hkind : d'.kind = d.kind := congrArg DocumentRef.kind heq
    rw [hins d hd, houts d' hd'] at hkind
    cases hkind
  · rw [List.mem_append]
    cases hkind : d.kind with
    | incoming =>
      rw [← hinsmem d hkind, or_iff_left]
      intro hd
      rw [houts d hd] at hkind
      cases hkind
    | outgoing =>
      rw [← houtsmem d hkind, or_iff_right]
      intro hd
      rw [hins d hd] at hkind
      cases hkind

/-- The documents on file are as many as both registers have rows. -/
theorem exists_documents (h : s.Orderly) :
    ∃ ds : List Document, ds.length = s.documentCount ∧ Holds s.document? Document.ref ds := by
  obtain ⟨ins, outs, hins, houts, hholds⟩ := h.exists_registers
  refine ⟨ins ++ outs, ?_, hholds⟩
  rw [List.length_append, ← hins.length_eq, ← houts.length_eq]
  rfl

end Orderly

end Store

end Chancery
