import Chancery.Proofs.Assignments.RoundTrip
import Chancery.Proofs.Calendar.Spelling
import Chancery.Proofs.Journal.Faithful

/-!
# The dates of requests

Every date of a request is read by one reader, and it is the same to that reader whether no text is
given or a blank one. What it makes of any other text is a matter of the form dates are written in,
so the form is a parameter here: `Intake.ReadsDatesIn` says that the reader takes exactly the dates
written in a form, and `Office.ActsInForm` that the office does nothing about others. It enters and
edits assignments with the deadlines that are written in their requests, it lists between the
bounds that are written, and it counts in the window that is written.

The form that is documented is not the one. It is one of those in which dates may be written
(`Date.isDocumented_iff`), and a date in another of them is acted on as well.

## Main definitions

* `Intake.Denotes` — what an optional text stands for when dates are written in a form
* `Intake.ReadsDatesIn`, `Office.ActsInForm`

## Main results

* `Intake.date_eq_ok_iff`, `Intake.date_documented_iff`
* `Office.dates_of_requests`
-/

namespace Chancery

namespace Intake

/-- What an optional text stands for when dates are written in a form: no date if it is absent or
blank, and otherwise the date that is written, blanks around it apart. -/
inductive Denotes (form : List Char → Date → Prop) : Option String → Option Date → Prop where
  | absent : Denotes form none none
  | blank {s : String} (empty : Text.trim s = "") : Denotes form (some s) none
  | date {s : String} {d : Date} (written : form (Text.trim s).toList d) :
    Denotes form (some s) (some d)

/-- What a text stands for in one form it stands for in another, if what it has written in the one
form is written in the other as well. -/
theorem Denotes.imp {form form' : List Char → Date → Prop} {text : Option String}
    {found : Option Date} (h : Denotes form text found)
    (himp : ∀ s d, text = some s → form (Text.trim s).toList d → form' (Text.trim s).toList d) :
    Denotes form' text found := by
  cases h with
  | absent => exact .absent
  | blank empty => exact .blank empty
  | date written => exact .date (himp _ _ rfl written)

/-- Whether the dates that are read are exactly those written in a form, while every other text is
refused by name. -/
structure ReadsDatesIn (form : List Char → Date → Prop) : Prop where
  read : ∀ what text found, date what text = .ok found ↔ Denotes form text found
  refused : ∀ what text, (∀ found, ¬ Denotes form text found) → ∃ s, text = some s ∧
    date what text =
      .error (.validation (what ++ " '" ++ Text.trim s ++ "' is not a YYYY-MM-DD date"))

theorem not_isWritten_nil (d : Date) : ¬ Date.IsWritten [] d := by
  rintro ⟨-, year, month, day, h, -⟩
  simp at h

theorem parse?_trim_iff {s : String} {d : Date} :
    Date.parse? (Text.trim s) = some d ↔ Date.IsWritten (Text.trim s).toList d := by
  rw [Date.parse?_eq_some_iff, Text.toList_trim, Text.trimLeft_trimChars]

/-- What is read is written. -/
theorem denotes_of_date {what : String} {text : Option String} {found : Option Date}
    (h : date what text = .ok found) : Denotes Date.IsWritten text found := by
  cases text with
  | none =>
    cases h
    exact .absent
  | some s =>
    by_cases hs : Text.trim s = ""
    · rw [date, Text.nonBlank?_of_trim_eq_empty hs] at h
      cases h
      exact .blank hs
    · simp only [date, Text.nonBlank?_trim hs] at h
      split at h
      · rename_i d hd
        cases h
        exact .date (parse?_trim_iff.1 hd)
      · cases h

/-- What is written is read. -/
theorem date_of_denotes (what : String) {text : Option String} {found : Option Date}
    (h : Denotes Date.IsWritten text found) : date what text = .ok found := by
  cases h with
  | absent => rfl
  | blank empty => rw [date, Text.nonBlank?_of_trim_eq_empty empty]
  | @date s d written =>
    have hs : Text.trim s ≠ "" := by
      intro hs
      rw [hs] at written
      exact not_isWritten_nil d written
    simp only [date, Text.nonBlank?_trim hs, parse?_trim_iff.2 written]

/-- **A date is read if and only if it is written.** -/
theorem date_eq_ok_iff {what : String} {text : Option String} {found : Option Date} :
    date what text = .ok found ↔ Denotes Date.IsWritten text found :=
  ⟨denotes_of_date, date_of_denotes what⟩

/-- Every text that stands for nothing is refused by name. -/
theorem date_of_unwritten (what : String) {text : Option String}
    (h : ∀ found, ¬ Denotes Date.IsWritten text found) : ∃ s, text = some s ∧
      date what text =
        .error (.validation (what ++ " '" ++ Text.trim s ++ "' is not a YYYY-MM-DD date")) := by
  cases hdate : date what text with
  | ok found => exact absurd (date_eq_ok_iff.1 hdate) (h found)
  | error e =>
    unfold date at hdate
    split at hdate
    · cases hdate
    · rename_i s' hs
      obtain ⟨s, rfl, hs'⟩ := Text.exists_of_nonBlank? hs
      split at hdate
      · cases hdate
      · exact ⟨s, rfl, by rw [hs', ← hdate]⟩

/-- **A text is read as documented if and only if no date is written in it in another form.** -/
theorem date_documented_iff {what : String} {text : Option String} :
    (∀ found, date what text = .ok found ↔ Denotes Date.IsDocumented text found) ↔
      ∀ s d, text = some s → Date.IsWritten (Text.trim s).toList d →
        Date.IsPlain (Text.trim s).toList := by
  constructor
  · rintro h s d rfl written
    cases (h (some d)).1 (date_eq_ok_iff.2 (.date written)) with
    | date documented => exact (Date.isDocumented_iff.1 documented).2
  · intro h found
    rw [date_eq_ok_iff]
    constructor
    · intro hread
      exact hread.imp fun s d hs written => Date.isDocumented_iff.2 ⟨written, h s d hs written⟩
    · exact fun hread => hread.imp fun _ _ _ documented => documented.isWritten

theorem readsDatesIn_isWritten : ReadsDatesIn Date.IsWritten where
  read _ _ _ := date_eq_ok_iff
  refused what _ := date_of_unwritten what

/-- A window whose period is not named goes by the dates. -/
theorem of_window {r : Request.Summary} {today : Date} {w : Window}
    (h : window r today = .ok w) (hperiod : Text.nonBlank? r.period = none) :
    ∃ start finish, date "startDate" r.startDate = .ok start ∧
      date "endDate" r.endDate = .ok finish ∧ Window.resolve start finish today = .ok w := by
  simp only [window, hperiod, bind_eq_ok] at h
  obtain ⟨start, hstart, finish, hfinish, h⟩ := h
  split at h
  · rename_i w' hw
    cases h
    exact ⟨start, finish, hstart, hfinish, hw⟩
  · cases h

end Intake

namespace Office

variable {office : Office} {o : Occasion} {actor : Option Actor}

/-- Whether the office acts on dates that are written in a form, and on no others: assignments are
entered and edited with the deadlines of their requests, the journal is listed between the bounds
of the request, and a summary counts in its window. -/
structure ActsInForm (form : List Char → Date → Prop) (office : Office) (o : Occasion) : Prop where
  created : ∀ actor r a, (office.createAssignment o actor r).1 = .ok a →
    Intake.Denotes form r.deadline a.deadline
  uncreated : ∀ actor r, (∀ found, ¬ Intake.Denotes form r.deadline found) →
    ∃ e, office.createAssignment o actor r = (.error e, office)
  updated : ∀ actor r a, (office.updateAssignment o actor r).1 = .ok a →
    Intake.Denotes form r.deadline a.deadline
  unchanged : ∀ actor r, (∀ found, ¬ Intake.Denotes form r.deadline found) →
    ∃ e, office.updateAssignment o actor r = (.error e, office)
  listed : ∀ actor r page, office.listAssignments o actor r = .ok page →
    ∃ q, Intake.query o.settings r = .ok q ∧
      office.store.listAssignments q o.today = .ok page ∧
      Intake.Denotes form r.deadlineFrom q.deadlineFrom ∧
      Intake.Denotes form r.deadlineTo q.deadlineTo
  /-- A window whose period is named has nothing to do with the dates of its request. -/
  summarised : ∀ actor r stats, office.summary o (some actor) r = .ok stats →
    Text.nonBlank? r.period = none → ∃ start finish w,
      Intake.Denotes form r.startDate start ∧ Intake.Denotes form r.endDate finish ∧
      Window.resolve start finish o.today = .ok w ∧
      ∃ role, summaryFor o role actor.id w office.store = .ok stats

/-- An assignment is entered with the deadline that is written. -/
theorem deadline_of_createAssignment (h : office.store.Orderly) {r : Request.CreateAssignment}
    {a : Assignment} (hanswer : (office.createAssignment o actor r).1 = .ok a) :
    Intake.Denotes Date.IsWritten r.deadline a.deadline := by
  have hperform : (Call.perform o office (.createAssignment actor r)).1 = .ok (.assignment a) := by
    simp [Call.perform, Call.wrote, hanswer, Except.map, Except.mapError]
  have hout := Call.perform_outcome o office (.createAssignment actor r)
  exact Intake.date_eq_ok_iff.1 (hout.of_created hperform h).2.2.1.deadline

/-- An assignment is edited to have the deadline that is written. -/
theorem deadline_of_updateAssignment (h : office.store.Orderly) {r : Request.UpdateAssignment}
    {a : Assignment} (hanswer : (office.updateAssignment o actor r).1 = .ok a) :
    Intake.Denotes Date.IsWritten r.deadline a.deadline := by
  have hperform : (Call.perform o office (.updateAssignment actor r)).1 = .ok (.assignment a) := by
    simp [Call.perform, Call.wrote, hanswer, Except.map, Except.mapError]
  have hout := Call.perform_outcome o office (.updateAssignment actor r)
  exact Intake.date_eq_ok_iff.1 (hout.of_edited hperform h).2.2.2.1.deadline

/-- Nothing is entered with a deadline that is not written. -/
theorem createAssignment_of_unwritten {r : Request.CreateAssignment}
    (hdeadline : ∀ found, ¬ Intake.Denotes Date.IsWritten r.deadline found) :
    ∃ e, office.createAssignment o actor r = (.error e, office) := by
  unfold createAssignment
  split
  · exact ⟨_, rfl⟩
  · rename_i checked
    obtain ⟨-, -, -, hdate, -⟩ := requested_of_checkCreate checked
    exact absurd (Intake.date_eq_ok_iff.1 hdate) (hdeadline _)

/-- Nothing is edited to have a deadline that is not written. -/
theorem updateAssignment_of_unwritten {r : Request.UpdateAssignment}
    (hdeadline : ∀ found, ¬ Intake.Denotes Date.IsWritten r.deadline found) :
    ∃ e, office.updateAssignment o actor r = (.error e, office) := by
  unfold updateAssignment
  split
  · exact ⟨_, rfl⟩
  · rename_i checked
    obtain ⟨-, -, hdate, -⟩ := requested_of_checkUpdate checked
    exact absurd (Intake.date_eq_ok_iff.1 hdate) (hdeadline _)

/-- The journal is listed between the bounds that are written. -/
theorem bounds_of_listAssignments {r : Request.ListAssignments} {page : Page Assignment}
    (h : office.listAssignments o actor r = .ok page) :
    ∃ q, Intake.query o.settings r = .ok q ∧
      office.store.listAssignments q o.today = .ok page ∧
      Intake.Denotes Date.IsWritten r.deadlineFrom q.deadlineFrom ∧
      Intake.Denotes Date.IsWritten r.deadlineTo q.deadlineTo := by
  obtain ⟨-, q, hq, hpage⟩ := listAssignments_eq_ok.1 h
  refine ⟨q, hq, hpage, ?_⟩
  obtain ⟨_, -, _, -, _, -, start, hstart, finish, hfinish, rfl⟩ := Intake.query_eq_ok.1 hq
  exact ⟨Intake.date_eq_ok_iff.1 hstart, Intake.date_eq_ok_iff.1 hfinish⟩

/-- A summary counts in the window that is written. -/
theorem window_of_summary {actor : Actor} {r : Request.Summary} {stats : DashboardStats}
    (h : office.summary o (some actor) r = .ok stats) (hperiod : Text.nonBlank? r.period = none) :
    ∃ start finish w, Intake.Denotes Date.IsWritten r.startDate start ∧
      Intake.Denotes Date.IsWritten r.endDate finish ∧
      Window.resolve start finish o.today = .ok w ∧
      ∃ role, summaryFor o role actor.id w office.store = .ok stats := by
  simp only [summary, bind_eq_ok, Policy.authorize_eq_ok] at h
  obtain ⟨a, ⟨hactor, -⟩, w, hw, hstats⟩ := h
  obtain rfl := Option.some.inj hactor
  obtain ⟨start, finish, hstart, hfinish, hresolve⟩ := Intake.of_window hw hperiod
  exact ⟨start, finish, w, Intake.date_eq_ok_iff.1 hstart, Intake.date_eq_ok_iff.1 hfinish,
    hresolve, _, hstats⟩

/-- **The office acts on the dates that are written, and on no others.** -/
theorem actsInForm_isWritten (h : office.store.Orderly) (o : Occasion) :
    office.ActsInForm Date.IsWritten o where
  created _ _ _ hanswer := deadline_of_createAssignment h hanswer
  uncreated _ _ hdeadline := createAssignment_of_unwritten hdeadline
  updated _ _ _ hanswer := deadline_of_updateAssignment h hanswer
  unchanged _ _ hdeadline := updateAssignment_of_unwritten hdeadline
  listed _ _ _ hpage := bounds_of_listAssignments hpage
  summarised _ _ _ hstats hperiod := window_of_summary hstats hperiod

/-- **How the dates of requests are written.** The reader takes exactly the texts in which a date
may be written, and whatever the office has been asked to do, it acts on such dates and on no
others. What is read of a text is what is documented unless a date is written in it in another
form. -/
theorem dates_of_requests (run : List (Occasion × Call)) (o : Occasion) (what : String)
    (text : Option String) :
    Intake.ReadsDatesIn Date.IsWritten ∧ (opened.after run).ActsInForm Date.IsWritten o ∧
      ((∀ found, Intake.date what text = .ok found ↔
        Intake.Denotes Date.IsDocumented text found) ↔
          ∀ s d, text = some s → Date.IsWritten (Text.trim s).toList d →
            Date.IsPlain (Text.trim s).toList) :=
  ⟨Intake.readsDatesIn_isWritten, actsInForm_isWritten (orderly_after run) o,
    Intake.date_documented_iff⟩

/-- The request for an assignment with a deadline whose month and day have one digit. -/
def hasty : Request.CreateAssignment :=
  ⟨"00000000000000000000000000000002", "incoming", "00000000000000000000000000000001",
    "Have it mended", some "1970-2-1", []⟩

/-- Its deadline is not as documented, and the assignment is entered with it: neither is the
reader that of the documented form, nor does the office act in it. -/
theorem undocumented_date_read :
    (∀ d, ¬ Date.IsDocumented "1970-2-1".toList d) ∧
      Intake.date "deadline" (some "1970-2-1") = .ok (Date.of? 1970 2 1) ∧
      ((stage finishingRun 3).createAssignment (minute 3) (some anna) hasty).1.toOption.map
        Assignment.deadline = some (Date.of? 1970 2 1) ∧
      ¬ Intake.ReadsDatesIn Date.IsDocumented ∧
      ¬ (stage finishingRun 3).ActsInForm Date.IsDocumented (minute 3) := by
  have htrim : Text.trim "1970-2-1" = "1970-2-1" := by decide
  have hplain : ∀ d, ¬ Date.IsDocumented "1970-2-1".toList d := by
    intro d hd
    exact absurd (Date.isDocumented_iff.1 hd).2.1 (by decide)
  have hdenotes : ∀ found, ¬ Intake.Denotes Date.IsDocumented (some "1970-2-1") found := by
    intro found h
    cases h with
    | blank empty => exact absurd (htrim.symm.trans empty) (by decide)
    | date written =>
      rw [htrim] at written
      exact hplain _ written
  have hread : Intake.date "deadline" (some "1970-2-1") = .ok (Date.of? 1970 2 1) := by
    decide +kernel
  have hentered :
      ((stage finishingRun 3).createAssignment (minute 3) (some anna) hasty).1.toOption.map
        Assignment.deadline = some (Date.of? 1970 2 1) := by decide +kernel
  refine ⟨hplain, hread, hentered, fun h => hdenotes _ ((h.read _ _ _).1 hread), fun h => ?_⟩
  obtain ⟨e, he⟩ := h.uncreated (some anna) hasty hdenotes
  rw [he] at hentered
  cases hentered

end Office

end Chancery
