import Chancery.Proofs.Wire.Lawful
import Chancery.Wire.Records
import Chancery.Wire.Requests

/-!
# What is sent reads back

Every record and every request that goes over the wire has a lawful form: it reads back from what
was written, and what is read from any form, written again, settles there.

Each record is two walks over its fields, one for each direction of the law. In the first every
field finds the value that was written for it, and in the second the fields with a range are picked
out. Most records write all their fields and have their own names at their places. The dashboard
summary leaves fields out, and there a field finds its value or its default because no two fields
share a name (`lookupLast_presentFields`).

## Main definitions

* `Wire.read?`, `Wire.rewrite?` — a value from a text, and a form written again
* `Wire.RoundTrips` — what a lawful form promises to those who send and receive

## Main results

* `Wire.roundTrips` — a lawful form keeps the promise
* `Wire.forms_read_back` — all records and requests keep it
-/

namespace Chancery

open Wire

/-! ### Records -/

section Records

instance : Ranged DocumentRef := ⟨fun _ => True⟩

instance : Lawful DocumentRef where
  decode_encode {r} _ := Finds.record?_eq <|
    .bind (.written r.id trivial rfl) <|
    .bind (.written r.kind trivial rfl) .pure
  fits_of_decode _ := trivial
  plain_encode r := .obj (by simp [plain_encode])

instance : Ranged User := ⟨fun u => Fits u.createdAt⟩

instance : Lawful User where
  decode_encode {u} h := Finds.record?_eq <|
    .bind (.written u.id trivial rfl) <|
    .bind (.written u.login trivial rfl) <|
    .bind (.written u.fullName trivial rfl) <|
    .bind (.written u.roles trivial rfl) <|
    .bind (.written u.createdAt h rfl) .pure
  fits_of_decode h := Ensures.of_record?
    (.bind .required fun _ _ => .bind .required fun _ _ => .bind .required fun _ _ =>
      .bind .required fun _ _ => .bind .required fun _ hcreated => .pure hcreated) h
  plain_encode u := .obj (by simp [plain_encode])

instance : Ranged Document := ⟨fun d => Fits d.createdAt⟩

instance : Lawful Document where
  decode_encode {d} h := Finds.record?_eq <|
    .bind (.written d.id trivial rfl) <|
    .bind (.written d.kind trivial rfl) <|
    .bind (.written d.number trivial rfl) <|
    .bind (.written d.subject trivial rfl) <|
    .bind (.written d.createdAt h rfl) .pure
  fits_of_decode h := Ensures.of_record?
    (.bind .required fun _ _ => .bind .required fun _ _ => .bind .required fun _ _ =>
      .bind .required fun _ _ => .bind .required fun _ hcreated => .pure hcreated) h
  plain_encode d := .obj (by simp [plain_encode])

instance : Ranged CoExecutor := ⟨fun _ => True⟩

instance : Lawful CoExecutor where
  decode_encode {c} _ := Finds.record?_eq <|
    .bind (.written c.userId trivial rfl) <|
    .bind (.written c.fullName (fun _ _ => trivial) rfl) .pure
  fits_of_decode _ := trivial
  plain_encode c := .obj (by simp [plain_encode])

instance : Ranged Assignment where
  Fits a := Fits a.deadline ∧ Fits a.completedAt ∧ Fits a.createdAt ∧ Fits a.updatedAt

instance : Lawful Assignment where
  decode_encode {a} h := Finds.record?_eq <|
    .bind (.written a.id trivial rfl) <|
    .bind (.written a.document trivial rfl) <|
    .bind (.written a.documentNumber (fun _ _ => trivial) rfl) <|
    .bind (.written a.documentSubject (fun _ _ => trivial) rfl) <|
    .bind (.written a.executorId trivial rfl) <|
    .bind (.written a.executorName (fun _ _ => trivial) rfl) <|
    .bind (.written a.coExecutors (fun _ _ => trivial) rfl) <|
    .bind (.written a.content trivial rfl) <|
    .bind (.written a.deadline h.1 rfl) <|
    .bind (.written a.status trivial rfl) <|
    .bind (.written a.report (fun _ _ => trivial) rfl) <|
    .bind (.written a.completedAt h.2.1 rfl) <|
    .bind (.written a.createdAt h.2.2.1 rfl) <|
    .bind (.written a.updatedAt h.2.2.2 rfl) .pure
  fits_of_decode h := Ensures.of_record?
    (.bind .required fun _ _ => .bind .required fun _ _ => .bind .optional fun _ _ =>
      .bind .optional fun _ _ => .bind .required fun _ _ => .bind .optional fun _ _ =>
      .bind .required fun _ _ => .bind .required fun _ _ => .bind .optional fun _ hdeadline =>
      .bind .required fun _ _ => .bind .optional fun _ _ => .bind .optional fun _ hcompleted =>
      .bind .required fun _ hcreated => .bind .required fun _ hupdated =>
      .pure ⟨hdeadline, hcompleted, hcreated, hupdated⟩) h
  plain_encode a := .obj (by simp [plain_encode])

instance : Ranged Recipient where
  Fits r := Fits r.viewedAt ∧ Fits r.confirmedAt ∧ Fits r.createdAt

instance : Lawful Recipient where
  decode_encode {r} h := Finds.record?_eq <|
    .bind (.written r.id trivial rfl) <|
    .bind (.written r.acknowledgmentId trivial rfl) <|
    .bind (.written r.userId trivial rfl) <|
    .bind (.written r.userName (fun _ _ => trivial) rfl) <|
    .bind (.written r.viewedAt h.1 rfl) <|
    .bind (.written r.confirmedAt h.2.1 rfl) <|
    .bind (.written r.createdAt h.2.2 rfl) .pure
  fits_of_decode h := Ensures.of_record?
    (.bind .required fun _ _ => .bind .required fun _ _ => .bind .required fun _ _ =>
      .bind .optional fun _ _ => .bind .optional fun _ hviewed =>
      .bind .optional fun _ hconfirmed => .bind .required fun _ hcreated =>
      .pure ⟨hviewed, hconfirmed, hcreated⟩) h
  plain_encode r := .obj (by simp [plain_encode])

instance : Ranged AcknowledgmentTask where
  Fits t := Fits t.createdAt ∧ Fits t.completedAt ∧ Fits t.recipients

instance : Lawful AcknowledgmentTask where
  decode_encode {t} h := Finds.record?_eq <|
    .bind (.written t.id trivial rfl) <|
    .bind (.written t.document trivial rfl) <|
    .bind (.written t.documentNumber (fun _ _ => trivial) rfl) <|
    .bind (.written t.content trivial rfl) <|
    .bind (.written t.creatorId trivial rfl) <|
    .bind (.written t.creatorName (fun _ _ => trivial) rfl) <|
    .bind (.written t.createdAt h.1 rfl) <|
    .bind (.written t.completedAt h.2.1 rfl) <|
    .bind (.written t.recipients h.2.2 rfl) .pure
  fits_of_decode h := Ensures.of_record?
    (.bind .required fun _ _ => .bind .required fun _ _ => .bind .optional fun _ _ =>
      .bind .required fun _ _ => .bind .required fun _ _ => .bind .optional fun _ _ =>
      .bind .required fun _ hcreated => .bind .optional fun _ hcompleted =>
      .bind .required fun _ hrecipients => .pure ⟨hcreated, hcompleted, hrecipients⟩) h
  plain_encode t := .obj (by simp [plain_encode])

variable {α : Type} [Wire α] [Ranged α]

instance : Ranged (Page α) where
  Fits p := Fits p.items ∧ Fits p.totalCount ∧ Fits p.page ∧ Fits p.pageSize

instance [Lawful α] : Lawful (Page α) where
  decode_encode {p} h := Finds.record?_eq <|
    .bind (.written p.items h.1 rfl) <|
    .bind (.written p.totalCount h.2.1 rfl) <|
    .bind (.written p.page h.2.2.1 rfl) <|
    .bind (.written p.pageSize h.2.2.2 rfl) .pure
  fits_of_decode h := Ensures.of_record?
    (.bind .required fun _ hitems => .bind .required fun _ htotal =>
      .bind .required fun _ hpage => .bind .required fun _ hsize =>
      .pure ⟨hitems, htotal, hpage, hsize⟩) h
  plain_encode p := .obj (by simp [plain_encode])

end Records

/-! ### Requests -/

section Requests

open Request

instance : Ranged CreateAssignment := ⟨fun _ => True⟩

instance : Lawful CreateAssignment where
  decode_encode {r} _ := Finds.record?_eq <|
    .bind (.written r.documentId trivial rfl) <|
    .bind (.written r.documentKind trivial rfl) <|
    .bind (.written r.executorId trivial rfl) <|
    .bind (.written r.content trivial rfl) <|
    .bind (.written r.deadline (fun _ _ => trivial) rfl) <|
    .bind (.written r.coExecutorIds (fun _ _ => trivial) rfl) .pure
  fits_of_decode _ := trivial
  plain_encode r := .obj (by simp [plain_encode])

instance : Ranged UpdateAssignment := ⟨fun _ => True⟩

instance : Lawful UpdateAssignment where
  decode_encode {r} _ := Finds.record?_eq <|
    .bind (.written r.id trivial rfl) <|
    .bind (.written r.executorId trivial rfl) <|
    .bind (.written r.content trivial rfl) <|
    .bind (.written r.deadline (fun _ _ => trivial) rfl) <|
    .bind (.written r.coExecutorIds (fun _ _ => trivial) rfl) .pure
  fits_of_decode _ := trivial
  plain_encode r := .obj (by simp [plain_encode])

instance : Ranged MoveAssignment := ⟨fun _ => True⟩

instance : Lawful MoveAssignment where
  decode_encode {r} _ := Finds.record?_eq <|
    .bind (.written r.id trivial rfl) <|
    .bind (.written r.status trivial rfl) <|
    .bind (.written r.report (fun _ _ => trivial) rfl) .pure
  fits_of_decode _ := trivial
  plain_encode r := .obj (by simp [plain_encode])

instance : Ranged ListAssignments := ⟨fun r => Fits r.page ∧ Fits r.pageSize⟩

instance : Lawful ListAssignments where
  decode_encode {r} h := Finds.record?_eq <|
    .bind (.written r.search (fun _ _ => trivial) rfl) <|
    .bind (.written r.documentId (fun _ _ => trivial) rfl) <|
    .bind (.written r.executorId (fun _ _ => trivial) rfl) <|
    .bind (.written r.status (fun _ _ => trivial) rfl) <|
    .bind (.written r.deadlineFrom (fun _ _ => trivial) rfl) <|
    .bind (.written r.deadlineTo (fun _ _ => trivial) rfl) <|
    .bind (.written r.overdueOnly trivial rfl) <|
    .bind (.written r.showFinished trivial rfl) <|
    .bind (.written r.page h.1 rfl) <|
    .bind (.written r.pageSize h.2 rfl) .pure
  fits_of_decode h := Ensures.of_record?
    (.bind (.defaulted fits_none) fun _ _ => .bind (.defaulted fits_none) fun _ _ =>
      .bind (.defaulted fits_none) fun _ _ => .bind (.defaulted fits_none) fun _ _ =>
      .bind (.defaulted fits_none) fun _ _ => .bind (.defaulted fits_none) fun _ _ =>
      .bind (.defaulted trivial) fun _ _ => .bind (.defaulted trivial) fun _ _ =>
      .bind (.defaulted fits_none) fun _ hpage => .bind (.defaulted fits_none) fun _ hsize =>
      .pure ⟨hpage, hsize⟩) h
  plain_encode r := .obj (by simp [plain_encode])

instance : Ranged CreateAcknowledgment := ⟨fun _ => True⟩

instance : Lawful CreateAcknowledgment where
  decode_encode {r} _ := Finds.record?_eq <|
    .bind (.written r.documentId trivial rfl) <|
    .bind (.written r.documentKind trivial rfl) <|
    .bind (.written r.content trivial rfl) <|
    .bind (.written r.recipientIds (fun _ _ => trivial) rfl) .pure
  fits_of_decode _ := trivial
  plain_encode r := .obj (by simp [plain_encode])

instance : Ranged Summary := ⟨fun _ => True⟩

instance : Lawful Summary where
  decode_encode {r} _ := Finds.record?_eq <|
    .bind (.written r.role (fun _ _ => trivial) rfl) <|
    .bind (.written r.startDate (fun _ _ => trivial) rfl) <|
    .bind (.written r.endDate (fun _ _ => trivial) rfl) <|
    .bind (.written r.period (fun _ _ => trivial) rfl) .pure
  fits_of_decode _ := trivial
  plain_encode r := .obj (by simp [plain_encode])

end Requests

/-! ### The dashboard summary -/

namespace Wire

/-- The fields of an object of which some are left out. -/
def presentFields (fields : List (String × Option Json)) : List (String × Json) :=
  fields.filterMap fun f => f.2.map (f.1, ·)

theorem presentFields_cons {α : Type} [Wire α] (name : String) (o : Option α)
    (rest : List (String × Option Json)) :
    presentFields ((name, o.map encode) :: rest) = presentField name o ++ presentFields rest := by
  cases o <;> simp [presentFields, presentField]

theorem lookupLast_cons (name : String) (f : String × Json) (fs : List (String × Json)) :
    Json.lookupLast name (f :: fs) =
      (Json.lookupLast name fs).or (if name = f.1 then some f.2 else none) := by
  have hone : List.lookup name [f] = if name = f.1 then some f.2 else none := by
    rw [List.lookup_cons, List.lookup_nil]
    by_cases h : name = f.1
    · rw [if_pos h, beq_iff_eq.2 h]
    · rw [if_neg h, beq_eq_false_iff_ne.2 h]
  rw [Json.lookupLast, Json.lookupLast, List.reverse_cons, List.lookup_append, hone]

theorem lookupLast_eq_none {name : String} {fs : List (String × Json)}
    (h : name ∉ fs.map Prod.fst) : Json.lookupLast name fs = none := by
  induction fs with
  | nil => rfl
  | cons f fs ih =>
    rw [List.map_cons, List.mem_cons, not_or] at h
    rw [lookupLast_cons, ih h.2, if_neg h.1, Option.none_or]

/-- Leaving fields out brings no names in. -/
theorem mem_names_of_presentFields {name : String} {fields : List (String × Option Json)}
    (h : name ∈ (presentFields fields).map Prod.fst) : name ∈ fields.map Prod.fst := by
  obtain ⟨g, hg, rfl⟩ := List.mem_map.1 h
  obtain ⟨f, hf, hfg⟩ := List.mem_filterMap.1 hg
  obtain ⟨v, -, rfl⟩ := Option.map_eq_some_iff.1 hfg
  exact List.mem_map_of_mem hf

/-- No two fields share a name, so each is found where it is present, and nothing is found for one
that is left out. -/
theorem lookupLast_presentFields {name : String} {o : Option Json}
    {fields : List (String × Option Json)} (hnodup : (fields.map Prod.fst).Nodup)
    (hmem : (name, o) ∈ fields) : Json.lookupLast name (presentFields fields) = o := by
  induction fields with
  | nil => cases hmem
  | cons f fields ih =>
    obtain ⟨name', o'⟩ := f
    obtain ⟨hnew, hnodup⟩ := List.nodup_cons.1 hnodup
    have hcons : Json.lookupLast name (presentFields ((name', o') :: fields)) =
        (Json.lookupLast name (presentFields fields)).or (if name = name' then o' else none) := by
      cases o' with
      | none => simp [presentFields]
      | some v => exact lookupLast_cons name (name', v) (presentFields fields)
    rw [hcons]
    rcases List.mem_cons.1 hmem with heq | hmem
    · obtain ⟨rfl, rfl⟩ := Prod.mk.inj heq
      rw [lookupLast_eq_none (mt mem_names_of_presentFields hnew), if_pos rfl, Option.none_or]
    · have hname : name ∈ fields.map Prod.fst := List.mem_map_of_mem (f := Prod.fst) hmem
      have hne : ¬ name = name' := fun heq => hnew (heq ▸ hname)
      rw [ih hnodup hmem, if_neg hne, Option.or_none]

variable {α : Type} [Wire α] [Ranged α] [Lawful α] {fs : List (String × Json)}

/-- An optional field finds its value whether it is there or left out. -/
theorem Finds.optional [Present α] {name : String} {o : Option α} (ho : Fits o)
    (h : Json.lookupLast name fs = o.map encode) : Finds (optional name) fs o := by
  cases o with
  | none => exact .absent h
  | some a => exact .written (some a) ho h

/-- A list that is left out when it is empty is found, too. -/
theorem Finds.list {name : String} {l : List α} (hl : Fits l)
    (h : Json.lookupLast name fs = if l.isEmpty then none else some (encode l)) :
    Finds (defaulted name []) fs l := by
  cases l with
  | nil => exact .absent h
  | cons a l => exact .written (a :: l) hl h

end Wire

namespace DashboardStats

/-- The counts of a summary, by name. -/
def counts (s : DashboardStats) : List (String × Option Int) := [
  ("myAssignmentsNew", s.myAssignmentsNew),
  ("myAssignmentsInProgress", s.myAssignmentsInProgress),
  ("myAssignmentsOverdue", s.myAssignmentsOverdue),
  ("myAssignmentsFinished", s.myAssignmentsFinished),
  ("myAssignmentsFinishedLate", s.myAssignmentsFinishedLate),
  ("incomingCount", s.incomingCount),
  ("outgoingCount", s.outgoingCount),
  ("allAssignmentsOverdue", s.allAssignmentsOverdue),
  ("allAssignmentsFinished", s.allAssignmentsFinished),
  ("allAssignmentsFinishedLate", s.allAssignmentsFinishedLate),
  ("userCount", s.userCount),
  ("totalDocuments", s.totalDocuments)]

/-- The fields of a summary, with those that are left out. -/
def fields (s : DashboardStats) : List (String × Option Json) :=
  ("role", some (encode s.role)) :: s.counts.map (fun f => (f.1, f.2.map encode)) ++ [
    ("dbSize", s.dbSize.map encode),
    ("expiringAssignments",
      if s.expiringAssignments.isEmpty then none else some (encode s.expiringAssignments))]

theorem nodup_fields (s : DashboardStats) : (s.fields.map Prod.fst).Nodup := by
  simp [fields, counts]

theorem encode_eq (s : DashboardStats) : encode s = .obj (presentFields s.fields) := by
  have hrole : some (encode s.role) = (some s.role).map encode := rfl
  have hlast : presentFields [("expiringAssignments",
      if s.expiringAssignments.isEmpty then none else some (encode s.expiringAssignments))] =
      if s.expiringAssignments.isEmpty then []
      else [("expiringAssignments", encode s.expiringAssignments)] := by
    split <;> rfl
  rw [fields, hrole]
  simp only [counts, List.map_cons, List.map_nil, List.cons_append, List.nil_append,
    presentFields_cons, hlast]
  simp only [← List.append_assoc]
  rfl

end DashboardStats

instance : Ranged DashboardStats where
  Fits s := (∀ f ∈ s.counts, Fits f.2) ∧ Fits s.expiringAssignments

instance : Lawful DashboardStats where
  decode_encode {s} h := by
    have hfield : ∀ {name o}, (name, o) ∈ s.fields →
        Json.lookupLast name (presentFields s.fields) = o :=
      fun hmem => lookupLast_presentFields s.nodup_fields hmem
    have hcount : ∀ {name : String} (n : Option Int), (name, n) ∈ s.counts →
        Finds (optional name) (presentFields s.fields) n := by
      intro name n hmem
      refine .optional (h.1 _ hmem) (hfield ?_)
      exact List.mem_append_left _ (List.mem_cons_of_mem _ (List.mem_map_of_mem hmem))
    -- From here on the places of the fields no longer matter, only their names.
    rw [s.encode_eq]
    exact Finds.record?_eq <|
      .bind (.written s.role trivial (hfield (by simp [DashboardStats.fields]))) <|
      .bind (hcount s.myAssignmentsNew (by simp [DashboardStats.counts])) <|
      .bind (hcount s.myAssignmentsInProgress (by simp [DashboardStats.counts])) <|
      .bind (hcount s.myAssignmentsOverdue (by simp [DashboardStats.counts])) <|
      .bind (hcount s.myAssignmentsFinished (by simp [DashboardStats.counts])) <|
      .bind (hcount s.myAssignmentsFinishedLate (by simp [DashboardStats.counts])) <|
      .bind (hcount s.incomingCount (by simp [DashboardStats.counts])) <|
      .bind (hcount s.outgoingCount (by simp [DashboardStats.counts])) <|
      .bind (hcount s.allAssignmentsOverdue (by simp [DashboardStats.counts])) <|
      .bind (hcount s.allAssignmentsFinished (by simp [DashboardStats.counts])) <|
      .bind (hcount s.allAssignmentsFinishedLate (by simp [DashboardStats.counts])) <|
      .bind (hcount s.userCount (by simp [DashboardStats.counts])) <|
      .bind (hcount s.totalDocuments (by simp [DashboardStats.counts])) <|
      .bind (.optional (fun _ _ => trivial) (hfield (by simp [DashboardStats.fields]))) <|
      .bind (.list h.2 (hfield (by simp [DashboardStats.fields]))) .pure
  fits_of_decode h := Ensures.of_record?
    (.bind .required fun _ _ => .bind .optional fun _ h₁ => .bind .optional fun _ h₂ =>
      .bind .optional fun _ h₃ => .bind .optional fun _ h₄ => .bind .optional fun _ h₅ =>
      .bind .optional fun _ h₆ => .bind .optional fun _ h₇ => .bind .optional fun _ h₈ =>
      .bind .optional fun _ h₉ => .bind .optional fun _ h₁₀ => .bind .optional fun _ h₁₁ =>
      .bind .optional fun _ h₁₂ => .bind .optional fun _ _ =>
      .bind (.defaulted fits_nil) fun _ hexpiring => .pure ⟨by
        simp only [DashboardStats.counts, List.forall_mem_cons]
        exact ⟨h₁, h₂, h₃, h₄, h₅, h₆, h₇, h₈, h₉, h₁₀, h₁₁, h₁₂, nofun⟩, hexpiring⟩) h
  plain_encode s := by
    rw [s.encode_eq]
    refine .obj fun f hf => ?_
    obtain ⟨g, hg, hfg⟩ := List.mem_filterMap.1 hf
    obtain ⟨v, hv, rfl⟩ := Option.map_eq_some_iff.1 hfg
    rcases List.mem_append.1 hg with hg | hg
    · rcases List.mem_cons.1 hg with rfl | hg
      · exact Option.some.inj hv ▸ plain_encode s.role
      · obtain ⟨c, -, rfl⟩ := List.mem_map.1 hg
        obtain ⟨n, -, rfl⟩ := Option.map_eq_some_iff.1 hv
        exact plain_encode n
    · simp only [List.mem_cons, List.not_mem_nil, or_false] at hg
      rcases hg with rfl | rfl
      · obtain ⟨text, -, rfl⟩ := Option.map_eq_some_iff.1 hv
        exact plain_encode text
      · obtain ⟨-, hv⟩ := Option.ite_none_left_eq_some.1 hv
        exact Option.some.inj hv ▸ plain_encode s.expiringAssignments

/-! ### What senders and receivers are promised -/

namespace Wire

/-- The value that a text spells. -/
def read? (α : Type) [Wire α] (text : String) : Option α := (Json.parse? text).bind decode?

/-- Reads a form and writes what was read. -/
def rewrite? (α : Type) [Wire α] (v : Json) : Option Json := (decode? v : Option α).map encode

/-- What the forms of a type promise to those who send and receive them. -/
structure RoundTrips (α : Type) [Wire α] [Ranged α] : Prop where
  /-- Reading undoes writing, for every value in range. -/
  decode_written : ∀ a : α, Fits a → decode? (encode a) = some a
  /-- So it does for the text, on one line or on many. -/
  read_text : ∀ a : α, Fits a →
    read? α (encode a).compact = some a ∧ read? α (encode a).pretty = some a
  /-- Nothing out of range is read, whatever the form. -/
  range : ∀ (v : Json) (a : α), decode? v = some a → Fits a
  /-- A form that was read and written again stays as it is. -/
  rewrite_settles : ∀ v w : Json, rewrite? α v = some w → rewrite? α w = some w

/-- A lawful form keeps the promise. -/
theorem roundTrips (α : Type) [Wire α] [Ranged α] [Lawful α] : RoundTrips α where
  decode_written _ h := decode_encode h
  read_text a h := by
    have hplain := plain_encode a
    rw [read?, read?, Json.parse?_compact hplain, Json.parse?_pretty hplain, Option.bind_some,
      decode_encode h]
    exact ⟨rfl, rfl⟩
  range _ _ h := fits_of_decode h
  rewrite_settles v w h := by
    obtain ⟨a, ha, rfl⟩ := Option.map_eq_some_iff.1 h
    rw [rewrite?, decode_encode (fits_of_decode ha), Option.map_some]

open Request in
/-- **Everything that is sent reads back as it was**, and every form that is read settles when it is
written again: the six requests, users, documents, assignments, acknowledgment tasks, summaries and
pages of the journal. Out of range are only years that texts may not name and numbers of more than
64 bits. -/
theorem forms_read_back :
    RoundTrips CreateAssignment ∧ RoundTrips UpdateAssignment ∧ RoundTrips MoveAssignment ∧
    RoundTrips ListAssignments ∧ RoundTrips CreateAcknowledgment ∧ RoundTrips Summary ∧
    RoundTrips DashboardStats ∧ RoundTrips User ∧ RoundTrips Document ∧ RoundTrips Assignment ∧
    RoundTrips AcknowledgmentTask ∧ RoundTrips (Page Assignment) :=
  ⟨roundTrips _, roundTrips _, roundTrips _, roundTrips _, roundTrips _, roundTrips _,
    roundTrips _, roundTrips _, roundTrips _, roundTrips _, roundTrips _, roundTrips _⟩

/-- An assignment at the edges: due on the last day of the range, completed in a leap second of the
first year, with a content that has to be escaped and every optional text absent but one. -/
def edgeAssignment : Assignment where
  id := .ofNat 1
  document := ⟨.ofNat 2, .incoming⟩
  documentNumber := some ""
  documentSubject := none
  executorId := .ofNat 3
  executorName := none
  coExecutors := [⟨.ofNat 4, none⟩, ⟨.ofNat 4, some "\\ \" \u0000 №"⟩]
  content := "line\nline"
  deadline := some ⟨262142, 12, 31, by decide, by decide⟩
  status := .completed
  report := none
  completedAt := some ⟨⟨-262143, 6, 30, by decide, by decide⟩, 43199, 1999999999, by decide,
    by decide⟩
  createdAt := .midnight ⟨2024, 2, 29, by decide, by decide⟩
  updatedAt := .endOfDay ⟨9999, 12, 31, by decide, by decide⟩

/-- A document spelled loosely: fields in another order and one of another name, the identifier in
braces, the kind as an object, a short date and a time at an offset. -/
def looseDocument : Json := .obj [
  ("createdAt", .str "2024-3-1 00:30:00.5+01:00"),
  ("subject", .str "On procedure"),
  ("page", .real "1e3"),
  ("kind", .obj [("incoming", .null)]),
  ("number", .str "12/b"),
  ("id", .str "\x7b00000000-0000-0000-0000-00000000000A\x7d")]

theorem forms_read_back_of_edgeAssignment :
    (Fits edgeAssignment ∧ decode? (encode edgeAssignment) = some edgeAssignment) ∧
    ∃ w, rewrite? Document looseDocument = some w ∧ rewrite? Document w = some w := by
  have hfits : Fits edgeAssignment := by
    refine ⟨?_, ?_, rfl, rfl⟩
    · rintro d ⟨⟩
      rfl
    · rintro t ⟨⟩
      rfl
  have hsome : (rewrite? Document looseDocument).isSome = true := by decide +kernel
  obtain ⟨-, -, -, -, -, -, -, -, hdocument, hassignment, -⟩ := forms_read_back
  obtain ⟨w, hw⟩ := Option.isSome_iff_exists.1 hsome
  exact ⟨⟨hfits, hassignment.decode_written _ hfits⟩, w, hw, hdocument.rewrite_settles _ _ hw⟩

end Wire

end Chancery
