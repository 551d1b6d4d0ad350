import Chancery.Proofs.Assignments.RoundTrip
import Chancery.Proofs.Identifier.Spelling

/-!
# Requests that spell identifiers differently

The store knows an identifier by one text, its canonical one, and requests may spell it in many
ways. Two requests that differ only in how they spell the identifiers they name are the same
request: they are answered alike, leave the same events in the trail, and leave the same store
behind. That holds of every office, whatever it has on file, because a text of a request is looked
at in one place only, where it is read, and a text that does not read is quoted there.

The lists matter most. Co-executors and recipients count once each, and what is compared to tell
them apart is what was read.

## Main definitions

* `Identifier.Respells` — two texts are the same or spell one identifier
* `Call.Respells` — two calls are the same but for how they spell identifiers

## Main results

* `Call.Respells.perform_eq`, `Office.after_respelled`
* `Office.spellings_mean_one_record`
-/

namespace Chancery

namespace Identifier

/-- Whether two texts are the same, or spell one identifier. -/
inductive Respells : String → String → Prop where
  | same (text : String) : Respells text text
  | respelled {a : Identifier} {text text' : String} (old : a.IsSpelledBy text)
    (new : a.IsSpelledBy text') : Respells text text'

theorem Respells.of_parse? {a : Identifier} {text text' : String} (h : parse? text = some a)
    (h' : parse? text' = some a) : Respells text text' :=
  .respelled (parse?_eq_some_iff.1 h) (parse?_eq_some_iff.1 h')

theorem Respells.parse?_eq {text text' : String} (h : Respells text text') :
    parse? text' = parse? text := by
  cases h with
  | same => rfl
  | respelled old new => rw [parse?_eq_some_iff.2 old, parse?_eq_some_iff.2 new]

theorem parse?_trim (text : String) : parse? (Text.trim text) = parse? text := by
  rw [parse?, Text.toList_trim, Text.trimChars_trimChars, parse?]

theorem IsSpelledBy.trim_ne_empty {a : Identifier} {text : String} (h : a.IsSpelledBy text) :
    Text.trim text ≠ "" := by
  intro hempty
  have hread := parse?_eq_some_iff.2 h
  rw [← parse?_trim, hempty] at hread
  cases hread

end Identifier

/-! ### Reading -/

namespace Intake

open Identifier

variable {what text text' : String} {texts texts' : List String}

theorem identifier_respelled (h : Respells text text') :
    identifier what text' = identifier what text := by
  cases h with
  | same => rfl
  | respelled old new =>
    rw [identifier_eq_ok.2 (parse?_eq_some_iff.2 old),
      identifier_eq_ok.2 (parse?_eq_some_iff.2 new)]

theorem document_respelled (h : Respells text text') (kind : String) :
    document text' kind = document text kind := by
  rw [document, identifier_respelled h, document]

theorem coExecutors_respelled (h : List.Forall₂ Respells texts texts') :
    coExecutors texts' = coExecutors texts := by
  have hread : texts'.mapM (identifier "co-executor") = texts.mapM (identifier "co-executor") := by
    induction h with
    | nil => rfl
    | cons htext _ ih => rw [List.mapM_cons, List.mapM_cons, identifier_respelled htext, ih]
  rw [coExecutors, hread, coExecutors]

theorem recipients_respelled (h : List.Forall₂ Respells texts texts') :
    recipients texts' = recipients texts := by
  have hread : texts'.filterMap parse? = texts.filterMap parse? := by
    induction h with
    | nil => rfl
    | cons htext _ ih => rw [List.filterMap_cons, List.filterMap_cons, htext.parse?_eq, ih]
  rw [recipients, hread, recipients]

/-- A spelling of an identifier is not blank, and what it is trimmed to spells the same. -/
theorem optionally_of_isSpelledBy {a : Identifier} (h : a.IsSpelledBy text) :
    optionally (identifier what) (some text) = .ok (some a) := by
  have hread : identifier what (Text.trim text) = .ok a := by
    rw [identifier_eq_ok, parse?_trim, parse?_eq_some_iff]
    exact h
  rw [optionally, Text.nonBlank?_trim h.trim_ne_empty]
  simp only [hread]
  rfl

theorem optionally_respelled {value value' : Option String} (h : Option.Rel Respells value value') :
    optionally (identifier what) value' = optionally (identifier what) value := by
  cases h with
  | none => rfl
  | some h =>
    cases h with
    | same => rfl
    | respelled old new => rw [optionally_of_isSpelledBy old, optionally_of_isSpelledBy new]

end Intake

/-! ### Calls -/

namespace Call

/-- Whether two calls are the same but for how they spell the identifiers that they name. -/
inductive Respells : Call → Call → Prop where
  | same (c : Call) : Respells c c
  | createAssignment {actor : Option Actor} {r : Request.CreateAssignment}
    {documentId executorId : String} {coExecutorIds : List String}
    (document : Identifier.Respells r.documentId documentId)
    (executor : Identifier.Respells r.executorId executorId)
    (coExecutors : List.Forall₂ Identifier.Respells r.coExecutorIds coExecutorIds) :
    Respells (.createAssignment actor r)
      (.createAssignment actor { r with documentId, executorId, coExecutorIds })
  | updateAssignment {actor : Option Actor} {r : Request.UpdateAssignment}
    {id executorId : String} {coExecutorIds : List String}
    (assignment : Identifier.Respells r.id id)
    (executor : Identifier.Respells r.executorId executorId)
    (coExecutors : List.Forall₂ Identifier.Respells r.coExecutorIds coExecutorIds) :
    Respells (.updateAssignment actor r)
      (.updateAssignment actor { r with id, executorId, coExecutorIds })
  | moveAssignment {actor : Option Actor} {r : Request.MoveAssignment} {id : String}
    (assignment : Identifier.Respells r.id id) :
    Respells (.moveAssignment actor r) (.moveAssignment actor { r with id })
  | deleteAssignment {actor : Option Actor} {id id' : String}
    (assignment : Identifier.Respells id id') :
    Respells (.deleteAssignment actor id) (.deleteAssignment actor id')
  | getAssignment {actor : Option Actor} {id id' : String}
    (assignment : Identifier.Respells id id') :
    Respells (.getAssignment actor id) (.getAssignment actor id')
  | listAssignments {actor : Option Actor} {r : Request.ListAssignments}
    {documentId executorId : Option String}
    (document : Option.Rel Identifier.Respells r.documentId documentId)
    (executor : Option.Rel Identifier.Respells r.executorId executorId) :
    Respells (.listAssignments actor r)
      (.listAssignments actor { r with documentId, executorId })
  | createAcknowledgment {actor : Option Actor} {r : Request.CreateAcknowledgment}
    {documentId : String} {recipientIds : List String}
    (document : Identifier.Respells r.documentId documentId)
    (recipients : List.Forall₂ Identifier.Respells r.recipientIds recipientIds) :
    Respells (.createAcknowledgment actor r)
      (.createAcknowledgment actor { r with documentId, recipientIds })
  | viewAcknowledgment {actor : Option Actor} {id id' : String}
    (task : Identifier.Respells id id') :
    Respells (.viewAcknowledgment actor id) (.viewAcknowledgment actor id')
  | confirmAcknowledgment {actor : Option Actor} {id id' : String}
    (task : Identifier.Respells id id') :
    Respells (.confirmAcknowledgment actor id) (.confirmAcknowledgment actor id')
  | deleteAcknowledgment {actor : Option Actor} {id id' : String}
    (task : Identifier.Respells id id') :
    Respells (.deleteAcknowledgment actor id) (.deleteAcknowledgment actor id')
  | getAcknowledgment {actor : Option Actor} {id id' : String}
    (task : Identifier.Respells id id') :
    Respells (.getAcknowledgment actor id) (.getAcknowledgment actor id')
  | acknowledgmentsOfDocument {actor : Option Actor} {id id' : String}
    (document : Identifier.Respells id id') :
    Respells (.acknowledgmentsOfDocument actor id) (.acknowledgmentsOfDocument actor id')
  | pendingAcknowledgments {actor : Option Actor} {id id' : Option String}
    (user : Option.Rel Identifier.Respells id id') :
    Respells (.pendingAcknowledgments actor id) (.pendingAcknowledgments actor id')

/-- **Calls that differ in spelling only are one call**: the answer is the same, and so is the
office that is left behind, with its trail and its store. -/
theorem Respells.perform_eq {c c' : Call} (h : Respells c c') (o : Occasion) (office : Office) :
    c'.perform o office = c.perform o office := by
  cases h with
  | same => rfl
  | createAssignment document executor coExecutors =>
    simp only [perform, Office.createAssignment, Office.checkCreate,
      Intake.document_respelled document, Intake.identifier_respelled executor,
      Intake.coExecutors_respelled coExecutors]
  | updateAssignment assignment executor coExecutors =>
    simp only [perform, Office.updateAssignment, Office.checkUpdate,
      Intake.identifier_respelled assignment, Intake.identifier_respelled executor,
      Intake.coExecutors_respelled coExecutors]
  | moveAssignment assignment =>
    simp only [perform, Office.moveAssignment, Office.readMove,
      Intake.identifier_respelled assignment]
  | deleteAssignment assignment =>
    simp only [perform, Office.deleteAssignment, Office.checkDelete,
      Intake.identifier_respelled assignment]
  | getAssignment assignment =>
    simp only [perform, Office.getAssignment, Intake.identifier_respelled assignment]
  | listAssignments document executor =>
    simp only [perform, Office.listAssignments, Intake.query,
      Intake.optionally_respelled document, Intake.optionally_respelled executor]
  | createAcknowledgment document recipients =>
    simp only [perform, Office.createAcknowledgment, Office.checkAcknowledgment,
      Intake.document_respelled document, Intake.recipients_respelled recipients]
  | viewAcknowledgment task =>
    simp only [perform, Office.viewAcknowledgment, Office.readTask,
      Intake.identifier_respelled task]
  | confirmAcknowledgment task =>
    simp only [perform, Office.confirmAcknowledgment, Office.readTask,
      Intake.identifier_respelled task]
  | deleteAcknowledgment task =>
    simp only [perform, Office.deleteAcknowledgment, Office.readTask,
      Intake.identifier_respelled task]
  | getAcknowledgment task =>
    simp only [perform, Office.getAcknowledgment, Office.readTask,
      Intake.identifier_respelled task]
  | acknowledgmentsOfDocument document =>
    simp only [perform, Office.acknowledgmentsOfDocument, Intake.identifier_respelled document]
  | pendingAcknowledgments user =>
    cases user with
    | none => rfl
    | some user =>
      simp only [perform, Office.pendingAcknowledgments, Intake.identifier_respelled user]

end Call

/-! ### Histories -/

namespace Office

/-- **Histories that differ in spelling only are one history.** -/
theorem after_respelled {run run' : List (Occasion × Call)}
    (h : List.Forall₂ (fun call call' => call'.1 = call.1 ∧ call.2.Respells call'.2) run run')
    (office : Office) : office.after run' = office.after run := by
  induction h generalizing office with
  | nil => rfl
  | @cons call call' _ _ hcall _ ih =>
    obtain ⟨o, c⟩ := call
    obtain ⟨o', c'⟩ := call'
    obtain ⟨rfl, hcall⟩ := hcall
    rw [after_cons, after_cons, hcall.perform_eq, ih]

/-- **Every accepted spelling of an identifier means the same record.** A text is read as an
identifier if and only if it spells it, in one of four shapes, in any case and with blanks around;
the canonical text is one of these; and a call that spells its identifiers differently is answered
alike and does the same, in every office. -/
theorem spellings_mean_one_record :
    (∀ (a : Identifier) (text : String),
      Identifier.parse? text = some a ↔ a.IsSpelledBy text) ∧
      (∀ a : Identifier, Identifier.parse? a.text = some a) ∧
      ∀ (o : Occasion) (office : Office) (c c' : Call), c.Respells c' →
        c'.perform o office = c.perform o office :=
  ⟨fun _ _ => Identifier.parse?_eq_some_iff, Identifier.parse?_text,
    fun o office _ _ h => h.perform_eq o office⟩

/-- The request of `sharing` spelled differently throughout. -/
def respelledSharing : Request.CreateAssignment :=
  { sharing with
    documentId := " URN:UUID:00000000-0000-0000-0000-000000000002"
    executorId := "\x7b00000000-0000-0000-0000-000000000001\x7d\n"
    coExecutorIds := ["\u00a000000000000000000000000000000001",
      "00000000-0000-0000-0000-000000000001", "00000000000000000000000000000001"] }

/-- It enters the same assignment. -/
theorem spellings_mean_one_record_of_sharing :
    Call.Respells (.createAssignment (some anna) sharing)
        (.createAssignment (some anna) respelledSharing) ∧
      (Call.perform (minute 3) (stage sharingRun 3)
        (.createAssignment (some anna) respelledSharing)).1 =
        .ok (.assignment sharedAssignment) := by
  have hdocument : Identifier.Respells sharing.documentId respelledSharing.documentId :=
    .of_parse? (a := .ofNat 2) (by decide +kernel) (by decide +kernel)
  have hexecutor : Identifier.Respells sharing.executorId respelledSharing.executorId :=
    .of_parse? (a := .ofNat 1) (by decide +kernel) (by decide +kernel)
  have hcoExecutors : List.Forall₂ Identifier.Respells sharing.coExecutorIds
      respelledSharing.coExecutorIds :=
    .cons (.of_parse? (a := .ofNat 1) (by decide +kernel) (by decide +kernel)) <|
      .cons (.of_parse? (a := .ofNat 1) (by decide +kernel) (by decide +kernel)) <|
        .cons (.of_parse? (a := .ofNat 1) (by decide +kernel) (by decide +kernel)) .nil
  have hrespells : Call.Respells (.createAssignment (some anna) sharing)
      (.createAssignment (some anna) respelledSharing) :=
    .createAssignment hdocument hexecutor hcoExecutors
  have hanswer : (Call.perform (minute 3) (stage sharingRun 3)
      (.createAssignment (some anna) sharing)).1 = .ok (.assignment sharedAssignment) := by
    decide +kernel
  refine ⟨hrespells, ?_⟩
  rw [spellings_mean_one_record.2.2 (minute 3) (stage sharingRun 3) _ _ hrespells, hanswer]

end Office

end Chancery
