import Chancery.Proofs.Store.Directory
import Chancery.Proofs.Trail.Growth

/-!
# The directory over a run

Users and documents are entered and never changed or taken out. So the tables of the directory are
the answers to the calls that entered something, in the order of the calls: row by row, what a
table says is what was answered when the row was entered (`forall₂_entered`). Everything that is
asked of the directory can be read off these lists. A user is found by identifier and by login, a
document in the register of its kind, and counting rows is counting the calls that succeeded.

That a document is found in no other register is a matter of its identifier, which must not have
been drawn for another document as well.

## Main definitions

* `Office.entered` — what the first calls of a run have entered
* `Office.usersEntered`, `Office.documentsEntered`

## Main results

* `Office.forall₂_usersEntered`, `Office.forall₂_documentsEntered`
* `Office.knows_of_mem_usersEntered`, `Office.document?_of_mem_documentsEntered`
* `Office.directory_appends`
-/

namespace Chancery

/-- The text of a set of roles reads as the set. -/
@[simp] theorem RoleSet.parse_text (s : RoleSet) : parse s.text = s := by
  obtain ⟨admin, clerk, executor⟩ := s
  cases admin <;> cases clerk <;> cases executor <;> decide +kernel

/-! ### Entries -/

namespace Call

/-- The user that a call enters, by the answer to it. -/
def userOf? : Call → Answer → Option User
  | addUser _, .user u => some u
  | _, _ => none

/-- The document that a call enters, by the answer to it. -/
def documentOf? : Call → Answer → Option Document
  | addDocument _, .document d => some d
  | _, _ => none

/-- The document that a call enters into the register of a kind. -/
def documentOfKind? (kind : DocumentKind) (c : Call) (a : Answer) : Option Document :=
  (c.documentOf? a).filter fun d => d.kind = kind

theorem userOf?_eq_some {c : Call} {a : Answer} {u : User} :
    c.userOf? a = some u ↔ ∃ new, c = addUser new ∧ a = .user u := by
  cases c <;> cases a <;> simp [userOf?]

theorem documentOf?_eq_some {c : Call} {a : Answer} {d : Document} :
    c.documentOf? a = some d ↔ ∃ new, c = addDocument new ∧ a = .document d := by
  cases c <;> cases a <;> simp [documentOf?]

/-- Whether a table gains, by one call, the row of what the call enters and nothing else. -/
def Gains {α β : Type} (table : Store → List α) (read : α → Except StoreFault β) (s s' : Store)
    (entry : Option β) : Prop :=
  (∃ row b, entry = some b ∧ read row = .ok b ∧ table s' = table s ++ [row]) ∨
    entry = none ∧ table s' = table s

/-- What a call enters, by the answer to it; nothing if it is refused. -/
def entryOf {β : Type} (pick : Call → Answer → Option β) (c : Call) :
    Except Refusal Answer → Option β
  | .ok a => pick c a
  | .error _ => none

/-- A call that is refused or no entry enters nothing. -/
theorem entryOf_eq_none {β : Type} {pick : Call → Answer → Option β} {c : Call}
    {answer : Except Refusal Answer} (hpick : ∀ c a, c.isEntry = false → pick c a = none)
    (h : (∃ e, answer = .error e) ∨ c.isEntry = false) : entryOf pick c answer = none := by
  rcases h with ⟨e, rfl⟩ | hc
  · rfl
  · cases answer with
    | error e => rfl
    | ok a => exact hpick c a hc

namespace Outcome

variable {o : Occasion} {office office' : Office} {c : Call} {answer : Except Refusal Answer}

/-- What an entered user has: the next identifier, what is given for it, and the moment. -/
theorem of_userEntered {new : NewUser} {u : User}
    (hout : Outcome o office (.addUser new) (.ok (.user u)) office') :
    u = ⟨office.nextId o, new.login, new.fullName, new.roles, o.now⟩ := by
  cases hout with
  | looked reads => cases reads
  | userEntered added =>
    obtain ⟨id, hid, rfl⟩ := UserRow.toUser_eq_ok.1 (Store.addUser_eq_ok.1 added).2
    simp only [Store.userRow, Identifier.parse?_text, Option.some.injEq] at hid
    simp only [Store.userRow, RoleSet.parse_text, hid]

/-- What an entered document has. -/
theorem of_documentEntered {new : NewDocument} {d : Document}
    (hout : Outcome o office (.addDocument new) (.ok (.document d)) office') :
    d = ⟨office.nextId o, new.kind, new.number, new.subject, new.createdAt.getD o.now⟩ ∧
      office'.drawn = office.drawn + 1 := by
  cases hout with
  | looked reads => cases reads
  | documentEntered added =>
    obtain ⟨id, hid, rfl⟩ := DocumentRow.toDocument_eq_ok.1 (Store.addDocument_eq_ok.1 added).2
    simp only [Store.documentRow, Identifier.parse?_text, Option.some.injEq] at hid
    exact ⟨by simp only [Store.documentRow, hid], rfl⟩

/-- **The table of users gains who is entered.** -/
theorem gains_users (hout : Outcome o office c answer office') :
    Gains Store.users UserRow.toUser office.store office'.store (entryOf userOf? c answer) := by
  rcases hout.directory_cases with ⟨new, u, rfl, rfl, added⟩ | ⟨new, d, rfl, rfl, added⟩ |
    ⟨hquiet, same⟩
  · obtain ⟨inserted, read⟩ := Store.addUser_eq_ok.1 added
    obtain ⟨-, hstore⟩ := Store.insertUser_eq_ok.1 inserted
    exact .inl ⟨_, u, rfl, read, by rw [← hstore]⟩
  · obtain ⟨-, hstore⟩ := Store.insertDocument_eq_ok.1 (Store.addDocument_eq_ok.1 added).1
    exact .inr ⟨rfl, by rw [← hstore, Store.users_enroll]⟩
  · refine .inr ⟨entryOf_eq_none (fun c a hc => ?_) hquiet, same.users⟩
    cases c <;> first | rfl | cases hc

/-- **A register gains what is entered into it.** -/
theorem gains_register (hout : Outcome o office c answer office') (kind : DocumentKind) :
    Gains (fun s => s.register kind) (DocumentRow.toDocument kind) office.store office'.store
      (entryOf (documentOfKind? kind) c answer) := by
  rcases hout.directory_cases with ⟨new, u, rfl, rfl, added⟩ | ⟨new, d, rfl, rfl, added⟩ |
    ⟨hquiet, same⟩
  · obtain ⟨-, hstore⟩ := Store.insertUser_eq_ok.1 (Store.addUser_eq_ok.1 added).1
    exact .inr ⟨rfl, by rw [← hstore]; cases kind <;> rfl⟩
  · obtain ⟨inserted, read⟩ := Store.addDocument_eq_ok.1 added
    obtain ⟨-, hstore⟩ := Store.insertDocument_eq_ok.1 inserted
    have hd : d.kind = new.kind := by rw [hout.of_documentEntered.1]
    have hentry : entryOf (documentOfKind? kind) (.addDocument new) (.ok (.document d)) =
        if new.kind = kind then some d else none := by
      simp [entryOf, documentOfKind?, documentOf?, Option.filter_some, hd]
    rw [hentry, ← hstore]
    by_cases hkind : new.kind = kind
    · subst hkind
      exact .inl ⟨_, d, if_pos rfl, read, Store.register_enroll_self _ _⟩
    · exact .inr ⟨if_neg hkind, Store.register_enroll_of_ne _ hkind⟩
  · refine .inr ⟨entryOf_eq_none (fun c a hc => ?_) hquiet, ?_⟩
    · cases c <;> first | rfl | cases hc
    · cases kind
      · exact same.incoming
      · exact same.outgoing

end Outcome

end Call

/-! ### Looking up what a row says -/

namespace Store

variable {s : Store} {row : UserRow} {u : User}

/-- Whether a user is found by its identifier and by its login. -/
structure Knows (s : Store) (u : User) : Prop where
  byId : s.user? u.id = .ok (some u)
  byLogin : s.userByLogin? u.login = .ok (some u)

/-- The user of a row is found both ways. -/
theorem Orderly.knows (h : s.Orderly) (hrow : row ∈ s.users) (hread : row.toUser = .ok u) :
    s.Knows u where
  byId := by
    rw [user?_eq_lookUp, lookUp_eq_some h.userIds]
    exact ⟨row, hrow, h.id_of_toUser hrow hread, hread⟩
  byLogin := by
    have hlogin : u.login = row.login := by
      obtain ⟨_, -, rfl⟩ := UserRow.toUser_eq_ok.1 hread
      rfl
    simp only [userByLogin?, hlogin, find?_key_eq h.logins hrow, hread]
    rfl

/-- A login that is taken is refused. -/
theorem insertUser_of_taken (new : UserRow) (hrow : row ∈ s.users)
    (hlogin : row.login = new.login) : s.insertUser new = .error (.database .uniqueViolation) := by
  refine if_pos (List.any_eq_true.2 ⟨row, hrow, ?_⟩)
  rw [decide_eq_true hlogin, Bool.or_true]

end Store

/-! ### Runs -/

namespace Office

variable {run : List (Occasion × Call)} {n m : Nat}

section Entered

variable {α β : Type} {pick : Call → Answer → Option β}

/-- What the call of a run with a number enters. -/
def enteredAt (pick : Call → Answer → Option β) (run : List (Occasion × Call)) (n : Nat) :
    Option β :=
  run[n]?.bind fun call => Call.entryOf pick call.2 (call.2.perform call.1 (stage run n)).1

/-- What the first calls of a run have entered, in the order of the calls. -/
def entered (pick : Call → Answer → Option β) (run : List (Occasion × Call)) (n : Nat) : List β :=
  (List.range n).filterMap (enteredAt pick run)

theorem entered_succ :
    entered pick run (n + 1) = entered pick run n ++ (enteredAt pick run n).toList := by
  rw [entered, List.range_succ, List.filterMap_append]
  cases h : enteredAt pick run n <;> simp [h, entered]

theorem enteredAt_eq_some {b : β} : enteredAt pick run n = some b ↔
    ∃ o c a, run[n]? = some (o, c) ∧ (c.perform o (stage run n)).1 = .ok a ∧
      pick c a = some b := by
  rw [enteredAt, Option.bind_eq_some_iff]
  constructor
  · rintro ⟨⟨o, c⟩, hc, hb⟩
    cases ha : (c.perform o (stage run n)).1 with
    | error e =>
      rw [ha] at hb
      cases hb
    | ok a =>
      rw [ha] at hb
      exact ⟨o, c, a, hc, ha, hb⟩
  · rintro ⟨o, c, a, hc, ha, hb⟩
    exact ⟨(o, c), hc, by rw [ha]; exact hb⟩

theorem mem_entered {b : β} :
    b ∈ entered pick run n ↔ ∃ k < n, enteredAt pick run k = some b := by
  simp only [entered, List.mem_filterMap, List.mem_range]

/-- **A table is the list of what has been entered into it**, row by row, if every call adds to it
the row of what it enters and nothing else. -/
theorem forall₂_entered {table : Store → List α} {read : α → Except StoreFault β}
    (opens : table opened.store = [])
    (gains : ∀ {o office c answer office'}, Call.Outcome o office c answer office' →
      Call.Gains table read office.store office'.store (Call.entryOf pick c answer))
    (run : List (Occasion × Call)) (n : Nat) :
    List.Forall₂ (fun row b => read row = .ok b) (table (stage run n).store)
      (entered pick run n) := by
  induction n with
  | zero =>
    rw [stage_zero, opens]
    exact .nil
  | succ n ih =>
    -- A call appends to both sides or to neither, and no call touches the rows that are there.
    rw [entered_succ]
    rcases stage_step run n with ⟨o, c, answer, hc, ha, hout⟩ | ⟨hc, same⟩
    · have hat : enteredAt pick run n = Call.entryOf pick c answer := by
        rw [enteredAt, hc, Option.bind_some, ha]
      rw [hat]
      rcases gains hout with ⟨row, b, hentry, hread, htable⟩ | ⟨hentry, htable⟩
      · rw [hentry, htable]
        exact List.rel_append ih (.cons hread .nil)
      · rw [hentry, htable, Option.toList_none, List.append_nil]
        exact ih
    · rw [enteredAt, hc, same, Option.bind_none, Option.toList_none, List.append_nil]
      exact ih

end Entered

/-- The users that the first calls of a run have entered. -/
def usersEntered (run : List (Occasion × Call)) (n : Nat) : List User :=
  entered Call.userOf? run n

/-- The documents that the first calls of a run have entered, of either kind. -/
def documentsEntered (run : List (Occasion × Call)) (n : Nat) : List Document :=
  entered Call.documentOf? run n

/-- The table of users is the list of the users who have been entered. -/
theorem forall₂_usersEntered (run : List (Occasion × Call)) (n : Nat) :
    List.Forall₂ (fun row u => row.toUser = .ok u) (stage run n).store.users
      (usersEntered run n) :=
  forall₂_entered rfl Call.Outcome.gains_users run n

/-- A register is the list of the documents of its kind that have been entered. -/
theorem forall₂_documentsEntered (run : List (Occasion × Call)) (n : Nat) (kind : DocumentKind) :
    List.Forall₂ (fun row d => row.toDocument kind = .ok d) ((stage run n).store.register kind)
      ((documentsEntered run n).filter fun d => d.kind = kind) := by
  have hentered : (documentsEntered run n).filter (fun d => d.kind = kind) =
      entered (Call.documentOfKind? kind) run n := by
    rw [documentsEntered, entered, List.filter_filterMap]
    refine List.filterMap_congr fun k _ => ?_
    unfold enteredAt
    cases run[k]? with
    | none => rfl
    | some call =>
      rw [Option.bind_some, Option.bind_some]
      cases (call.2.perform call.1 (stage run k)).1 <;> rfl
  rw [hentered]
  refine forall₂_entered ?_ (fun hout => hout.gains_register kind) run n
  cases kind <;> rfl

/-! ### What is asked of the directory -/

variable {u : User} {d : Document}

/-- Whoever has been entered is found by identifier and by login. -/
theorem knows_of_mem_usersEntered (hu : u ∈ usersEntered run n) : (stage run n).store.Knows u := by
  obtain ⟨row, hrow, hread⟩ := exists_left_of_mem (forall₂_usersEntered run n) hu
  exact (orderly_stage run n).knows hrow hread

/-- The users on file are those who have been entered. -/
theorem hasUser_eq_any (run : List (Occasion × Call)) (n : Nat) (id : Identifier) :
    (stage run n).store.hasUser id.text = (usersEntered run n).any fun u => u.id = id := by
  have h := orderly_stage run n
  rw [Bool.eq_iff_iff, Store.hasUser_iff, List.any_eq_true]
  constructor
  · rintro ⟨row, hrow, hid⟩
    obtain ⟨u, hu, hread⟩ := exists_right_of_mem (forall₂_usersEntered run n) hrow
    rw [h.id_of_toUser hrow hread] at hid
    exact ⟨u, hu, decide_eq_true (Identifier.text_inj.1 hid)⟩
  · rintro ⟨u, hu, hid⟩
    obtain ⟨row, hrow, hread⟩ := exists_left_of_mem (forall₂_usersEntered run n) hu
    exact ⟨row, hrow, by rw [h.id_of_toUser hrow hread, of_decide_eq_true hid]⟩

/-- A login that has been entered is refused, and nothing is written. -/
theorem perform_addUser_of_taken {new : NewUser} (o : Occasion)
    (htaken : ∃ u ∈ usersEntered run n, u.login = new.login) :
    (Call.addUser new).perform o (stage run n) =
      (.error (.store (.database .uniqueViolation)), (stage run n).afterDrawing 1) := by
  obtain ⟨u, hu, hlogin⟩ := htaken
  obtain ⟨row, hrow, hread⟩ := exists_left_of_mem (forall₂_usersEntered run n) hu
  obtain ⟨_, -, rfl⟩ := UserRow.toUser_eq_ok.1 hread
  have hinsert := Store.insertUser_of_taken
    (Store.userRow ((stage run n).nextId o) o.now new) hrow hlogin
  simp only [Call.perform, Call.entered, enterUser, Store.addUser, hinsert]
  rfl

/-- A document that has been entered is found in the register of its kind. -/
theorem document?_of_mem_documentsEntered (hd : d ∈ documentsEntered run n) :
    (stage run n).store.document? d.ref = .ok (some d) := by
  have h := orderly_stage run n
  have hkind : d ∈ (documentsEntered run n).filter fun e => e.kind = d.kind :=
    List.mem_filter.2 ⟨hd, decide_eq_true rfl⟩
  obtain ⟨row, hrow, hread⟩ := exists_left_of_mem (forall₂_documentsEntered run n d.kind) hkind
  rw [Store.document?_eq_lookUp, Store.lookUp_eq_some (h.documentIds _)]
  exact ⟨row, hrow, h.id_of_toDocument hrow hread, hread⟩

/-- What names an entered document is drawn by the call that enters it. -/
theorem mem_drawnAt_of_enteredAt (hd : enteredAt Call.documentOf? run n = some d) :
    d.id ∈ drawnAt run n := by
  obtain ⟨o, c, a, hc, ha, hpick⟩ := enteredAt_eq_some.1 hd
  obtain ⟨new, rfl, rfl⟩ := Call.documentOf?_eq_some.1 hpick
  have hout := Call.perform_outcome o (stage run n) (.addDocument new)
  rw [ha, ← stage_succ hc] at hout
  obtain ⟨rfl, hdrawn⟩ := hout.of_documentEntered
  rw [drawnAt_eq hc]
  exact nextId_mem_drawnBetween (by omega)

/-- **A document is in no other register**, if no identifier is drawn twice. -/
theorem document?_eq_none_of_ne (apart : DrawsApart run)
    (hd : enteredAt Call.documentOf? run n = some d) {kind : DocumentKind} (hkind : kind ≠ d.kind)
    (m : Nat) : (stage run m).store.document? ⟨d.id, kind⟩ = .ok none := by
  rw [Store.document?_eq_lookUp]
  refine Store.lookUp_eq_none fun row hrow hid => ?_
  obtain ⟨d', hd', hread⟩ := exists_right_of_mem (forall₂_documentsEntered run m kind) hrow
  obtain ⟨hd', hkind'⟩ := List.mem_filter.1 hd'
  obtain ⟨k, -, hk⟩ := mem_entered.1 hd'
  rw [(orderly_stage run m).id_of_toDocument hrow hread] at hid
  have hdrawn := mem_drawnAt_of_enteredAt hk
  rw [Identifier.text_inj.1 hid] at hdrawn
  obtain rfl := apart.eq_of_mem_drawnAt (mem_drawnAt_of_enteredAt hd) hdrawn
  rw [hd, Option.some.injEq] at hk
  rw [hk] at hkind
  exact hkind (of_decide_eq_true hkind').symm

/-- The documents of both registers are counted. -/
theorem documentCount_eq_length (run : List (Occasion × Call)) (n : Nat) :
    (stage run n).store.documentCount = (documentsEntered run n).length := by
  have hincoming := (forall₂_documentsEntered run n .incoming).length_eq
  have houtgoing := (forall₂_documentsEntered run n .outgoing).length_eq
  have hsplit := List.length_eq_length_filter_add (l := documentsEntered run n)
    fun d => d.kind = .incoming
  have hother : ∀ d : Document, (!decide (d.kind = .incoming)) = decide (d.kind = .outgoing) := by
    intro d
    cases d.kind <;> rfl
  simp only [hother] at hsplit
  rw [hsplit, ← hincoming, ← houtgoing]
  rfl

/-- What a call has entered has been entered after it. -/
theorem mem_entered_of_perform {β : Type} {pick : Call → Answer → Option β} {b : β} {o : Occasion}
    {c : Call} {a : Answer} (hcall : run[n]? = some (o, c))
    (ha : (c.perform o (stage run n)).1 = .ok a) (hb : pick c a = some b) (h : n < m) :
    enteredAt pick run n = some b ∧ b ∈ entered pick run m := by
  have hat : enteredAt pick run n = some b := enteredAt_eq_some.2 ⟨o, c, a, hcall, ha, hb⟩
  exact ⟨hat, mem_entered.2 ⟨n, h, hat⟩⟩

/-- **The directory only grows, and what is asked of it agrees.** At every stage of a run:

* a user who is entered then has what was given and is found, by identifier and by login, ever
  after;
* no two users share a login, and a user with a login that is taken is refused, which leaves the
  store and the trail as they were;
* a document that is entered then has what was given and is found in the register of its kind ever
  after. It is never found in the other register, if no identifier is drawn twice;
* of a list of identifiers, those of users who have been entered exist, in order;
* users and documents are counted by the calls that have entered them. -/
theorem directory_appends (run : List (Occasion × Call)) (n : Nat) :
    (∀ o new u, run[n]? = some (o, .addUser new) →
      ((Call.addUser new).perform o (stage run n)).1 = .ok (.user u) →
      u = ⟨(stage run n).nextId o, new.login, new.fullName, new.roles, o.now⟩ ∧
        ∀ m, n < m → (stage run m).store.user? u.id = .ok (some u) ∧
          (stage run m).store.userByLogin? u.login = .ok (some u)) ∧
    ((stage run n).store.users.map UserRow.login).Nodup ∧
    (∀ o new, (∃ u ∈ usersEntered run n, u.login = new.login) →
      ((Call.addUser new).perform o (stage run n)).1 =
          .error (.store (.database .uniqueViolation)) ∧
        ((Call.addUser new).perform o (stage run n)).2.store = (stage run n).store ∧
        ((Call.addUser new).perform o (stage run n)).2.trail = (stage run n).trail) ∧
    (∀ o new d, run[n]? = some (o, .addDocument new) →
      ((Call.addDocument new).perform o (stage run n)).1 = .ok (.document d) →
      d = ⟨(stage run n).nextId o, new.kind, new.number, new.subject,
          new.createdAt.getD o.now⟩ ∧
        (∀ m, n < m → (stage run m).store.document? ⟨d.id, d.kind⟩ = .ok (some d)) ∧
        (DrawsApart run → ∀ kind, kind ≠ d.kind →
          ∀ m, (stage run m).store.document? ⟨d.id, kind⟩ = .ok none)) ∧
    (∀ ids, (stage run n).store.existingUsers ids =
      ids.filter fun id => (usersEntered run n).any fun u => u.id = id) ∧
    (stage run n).store.userCount = (usersEntered run n).length ∧
    (stage run n).store.documentCount = (documentsEntered run n).length := by
  refine ⟨fun o new u hcall ha => ?user, (orderly_stage run n).logins, fun o new htaken => ?taken,
    fun o new d hcall ha => ?document, fun ids => ?existing,
    (forall₂_usersEntered run n).length_eq, documentCount_eq_length run n⟩
  case user =>
    have hout := Call.perform_outcome o (stage run n) (.addUser new)
    rw [ha] at hout
    refine ⟨hout.of_userEntered, fun m hm => ?_⟩
    have hknows := knows_of_mem_usersEntered
      (mem_entered_of_perform hcall ha (Call.userOf?_eq_some.2 ⟨new, rfl, rfl⟩) hm).2
    exact ⟨hknows.byId, hknows.byLogin⟩
  case taken =>
    rw [perform_addUser_of_taken o htaken]
    exact ⟨rfl, rfl, rfl⟩
  case document =>
    have hout := Call.perform_outcome o (stage run n) (.addDocument new)
    rw [ha] at hout
    have hentered {m : Nat} (hm : n < m) :=
      mem_entered_of_perform hcall ha (Call.documentOf?_eq_some.2 ⟨new, rfl, rfl⟩) hm
    exact ⟨hout.of_documentEntered.1,
      fun m hm => document?_of_mem_documentsEntered (hentered hm).2,
      fun apart kind hkind m => document?_eq_none_of_ne apart (hentered n.lt_succ_self).1 hkind m⟩
  case existing =>
    simp only [Store.existingUsers, hasUser_eq_any]

/-- Anna is entered, and somebody else under her login. Then a letter arrives and is answered. -/
def registeringRun : List (Occasion × Call) :=
  [(minute 0, .addUser ⟨"anna", "Anna", anna.roles⟩),
   (minute 1, .addUser ⟨"anna", "Hannah", boris.roles⟩),
   (minute 2, .addDocument ⟨.incoming, "17/b", "The roof", none⟩),
   (minute 3, .addDocument ⟨.outgoing, "9", "The roof", none⟩)]

/-- Anna is found at the end. Hannah is refused, since Anna has been entered. The letter that
arrived is not among those sent. -/
theorem directory_appends_of_registeringRun :
    (registeringRun[0]? = some (minute 0, .addUser ⟨"anna", "Anna", anna.roles⟩) ∧
      (∃ u ∈ usersEntered registeringRun 1, u.login = "anna") ∧
      registeringRun[2]? = some (minute 2, .addDocument ⟨.incoming, "17/b", "The roof", none⟩) ∧
      DrawsApart registeringRun) ∧
    (stage registeringRun 4).store.userByLogin? "anna" =
      .ok (some ⟨anna.id, "anna", "Anna", anna.roles, (minute 0).now⟩) ∧
    ((Call.addUser ⟨"anna", "Hannah", boris.roles⟩).perform (minute 1)
      (stage registeringRun 1)).1 = .error (.store (.database .uniqueViolation)) ∧
    (stage registeringRun 4).store.document? ⟨.ofNat 2, .incoming⟩ =
      .ok (some ⟨.ofNat 2, .incoming, "17/b", "The roof", (minute 2).now⟩) ∧
    (stage registeringRun 4).store.document? ⟨.ofNat 2, .outgoing⟩ = .ok none ∧
    (stage registeringRun 4).store.userCount = 1 ∧
    (stage registeringRun 4).store.documentCount = 2 := by
  have taken : ∃ u ∈ usersEntered registeringRun 1, u.login = "anna" := by decide +kernel
  have apart : DrawsApart registeringRun := by decide +kernel
  have users : (usersEntered registeringRun 4).length = 1 := by decide +kernel
  have documents : (documentsEntered registeringRun 4).length = 2 := by decide +kernel
  obtain ⟨-, hfound⟩ := (directory_appends registeringRun 0).1 (minute 0)
    ⟨"anna", "Anna", anna.roles⟩ ⟨anna.id, "anna", "Anna", anna.roles, (minute 0).now⟩ rfl
    (by decide +kernel)
  obtain ⟨-, hletter, hother⟩ := (directory_appends registeringRun 2).2.2.2.1 (minute 2)
    ⟨.incoming, "17/b", "The roof", none⟩
    ⟨.ofNat 2, .incoming, "17/b", "The roof", (minute 2).now⟩ rfl (by decide +kernel)
  obtain ⟨-, -, -, -, -, husers, hdocuments⟩ := directory_appends registeringRun 4
  exact ⟨⟨rfl, taken, rfl, apart⟩, (hfound 4 (by decide)).2,
    ((directory_appends registeringRun 1).2.2.1 (minute 1) ⟨"anna", "Hannah", boris.roles⟩ taken).1,
    hletter 4 (by decide), hother apart .outgoing (by decide) 4, husers.trans users,
    hdocuments.trans documents⟩

end Office

end Chancery
